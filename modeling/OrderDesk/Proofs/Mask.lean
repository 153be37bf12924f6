import Mathlib.Data.List.Forall2
import OrderDesk.Proofs.Indicator
import OrderDesk.Proofs.Parallel

/-! Texts of progress change what an operator reads and nothing else. A control is masked when the
text next to its progress is left out of it; nothing that happens at a desk looks behind the mask,
and whoever hides the progress tells a text of its own first. -/
namespace OrderDesk

variable {s s' : Session} {t : Task} {id : Nat} {e : Event} {es fs : List Event} {d d' : Desk}
  {sel : Selection} {g : Stage} {seat at' : Seat} {u : Touch} {c c' : Control} {page : Nat}
  {w : List (Seat × Touch)}

namespace Control

/-- A control without its text. -/
def quiet (c : Control) : Control := { c with feedback := none }

/-- A control without the text next to its progress. -/
def masked (c : Control) : Control := if c.progress then c.quiet else c

theorem masked_of_progress (hp : c.progress = true) : c.masked = c.quiet := if_pos hp

theorem masked_of_not_progress (hp : c.progress = false) : c.masked = c := by
  simp [masked, hp]

@[simp] theorem masked_hold (c : Control) : c.masked.hold = c.hold := by
  unfold masked
  split <;> rfl

@[simp] theorem masked_seat (c : Control) : c.masked.seat = c.seat := by
  unfold masked
  split <;> rfl

@[simp] theorem masked_busy (c : Control) : c.masked.busy = c.busy := by
  unfold masked
  split <;> rfl

theorem masked_looks (c : Control) : c.masked.looks = c.looks := by
  unfold masked
  split <;> rfl

@[simp] theorem masked_masked (c : Control) : c.masked.masked = c.masked := by
  cases hp : c.progress with
  | false => simp [masked_of_not_progress hp]
  | true => simp [masked, quiet, hp]

/-- Controls that are alike behind the mask differ in their text at most, and in that only while
they show progress. -/
theorem eq_of_masked (h : c.masked = c'.masked) :
    { c' with feedback := c.feedback } = c ∧ (c.progress = false → c' = c) := by
  have hp : c'.progress = c.progress := by
    have hhold := congrArg hold h
    rw [masked_hold, masked_hold] at hhold
    exact (congrArg Hold.progress hhold).symm
  cases hshown : c.progress with
  | false =>
    rw [masked_of_not_progress hshown, masked_of_not_progress (hp.trans hshown)] at h
    exact ⟨by rw [h], fun _ => h.symm⟩
  | true =>
    rw [masked_of_progress hshown, masked_of_progress (hp.trans hshown)] at h
    have hback : { c'.quiet with feedback := c.feedback } = { c.quiet with feedback := c.feedback } :=
      by rw [h]
    exact ⟨hback, fun hnone => by simp at hnone⟩

/-- No operation looks at the text. -/
theorem quiet_touch (c : Control) (u : Touch) : (c.quiet.touch u).quiet = (c.touch u).quiet := by
  have hbound : c.quiet.isBound = c.isBound := rfl
  have hloaded : c.quiet.loaded = c.loaded := rfl
  have hwants : ∀ epoch, c.quiet.wantsProgress epoch = c.wantsProgress epoch := fun _ => rfl
  cases u with
  | populate g =>
    simp only [touch, hbound]
    cases c.isBound <;> rfl
  | freshen g =>
    simp only [touch, hbound, hloaded]
    cases c.isBound && !c.loaded <;> rfl
  | progress epoch text =>
    simp only [touch, hwants]
    cases c.wantsProgress epoch <;> rfl
  | _ => rfl

theorem progress_touch (hu : u ≠ .hideProgress) (hp : c.progress = true) :
    (c.touch u).progress = true := by
  have hhold : (c.touch u).hold.progress = (c.hold.touch u).progress :=
    congrArg Hold.progress (c.hold_touch u)
  refine hhold.trans ?_
  cases u <;> simp_all [Hold.touch, hold]

/-- Only to hide the progress shows what stands behind the mask. -/
theorem masked_touch (hu : u ≠ .hideProgress) (c : Control) :
    (c.masked.touch u).masked = (c.touch u).masked := by
  cases hp : c.progress with
  | false => rw [masked_of_not_progress hp]
  | true =>
    have hquiet : c.quiet.progress = true := hp
    rw [masked_of_progress hp, masked_of_progress (progress_touch hu hquiet),
      masked_of_progress (progress_touch hu hp), quiet_touch]

/-- A text of progress stays behind the mask. -/
theorem masked_progress (c : Control) (epoch : Nat) (text : String) :
    (c.touch (.progress epoch text)).masked = c.masked := by
  cases hp : c.progress with
  | false => simp [touch, wantsProgress, hp]
  | true =>
    simp only [touch]
    cases c.wantsProgress epoch with
    | false => rfl
    | true => rw [if_pos rfl, masked_of_progress hp, masked_of_progress (by exact hp)]; rfl

/-- Whoever tells a text before the progress is hidden shows that text. -/
theorem masked_hide (c : Control) (f : Feedback) :
    (c.masked.touch (.tell f)).touch .hideProgress = (c.touch (.tell f)).touch .hideProgress := by
  unfold masked
  split <;> rfl

end Control

namespace Desk

/-- A desk without the texts next to progress, those that are still to come, and the time. -/
def masked (d : Desk) : Desk :=
  { d with schedule := [], controls := d.controls.map Control.masked, timers := [], now := 0 }

theorem looks_masked (d : Desk) (seat : Seat) :
    (d.masked.control? seat).map Control.looks = (d.control? seat).map Control.looks := by
  have hfound : d.masked.control? seat = (d.control? seat).map Control.masked := by
    simp only [masked, control?, List.find?_map, Function.comp_def, Control.masked_seat]
  rw [hfound, Option.map_map]
  exact Option.map_congr fun c _ => c.masked_looks

theorem isBusy_masked (d : Desk) (seat : Seat) : d.masked.isBusy seat = d.isBusy seat := by
  rw [isBusy_eq_looks, looks_masked, ← isBusy_eq_looks]

theorem seatsOn_masked (d : Desk) (page : Nat) : d.masked.seatsOn page = d.seatsOn page := by
  simp [masked, seatsOn, controlsOn, List.filter_map, Function.comp_def]

theorem repopulation_masked (d : Desk) (page : Nat) :
    d.masked.repopulation page = d.repopulation page := by
  simp [masked, repopulation, controlsOn, List.filter_map, Function.comp_def]

theorem masked_congr (hs : d.store = d'.store) (hc : d.controls.map Control.masked =
    d'.controls.map Control.masked) (hq : d.questions = d'.questions) (hp : d.pages = d'.pages) :
    d.masked = d'.masked := by
  simp [masked, hs, hc, hq, hp]

@[simp] theorem masked_masked (d : Desk) : d.masked.masked = d.masked := by
  simp [masked, Function.comp_def]

theorem masked_fire (d : Desk) (timer : Timer) : (d.fire timer).masked = d.masked := by
  refine masked_congr rfl ?_ rfl rfl
  simp only [fire, touch, List.map_map]
  refine List.map_congr_left fun c _ => ?_
  by_cases hc : c.seat = timer.seat
  · simpa [hc] using c.masked_progress timer.epoch timer.text
  · simp [hc]

variable (h : d.masked = d'.masked)
include h

theorem store_of_masked : d.store = d'.store := by
  have hstore := congrArg Desk.store h
  exact hstore

theorem pages_of_masked : d.pages = d'.pages := by
  have hpages := congrArg Desk.pages h
  exact hpages

theorem questions_of_masked : d.questions = d'.questions := by
  have hquestions := congrArg Desk.questions h
  exact hquestions

theorem controls_of_masked :
    d.controls.map Control.masked = d'.controls.map Control.masked := by
  have hcontrols := congrArg Desk.controls h
  exact hcontrols

theorem masked_touch (hu : u ≠ .hideProgress) : (d.touch at' u).masked = (d'.touch at' u).masked := by
  have hmask : ∀ e : Desk, (e.masked.touch at' u).masked = (e.touch at' u).masked := by
    intro e
    refine masked_congr rfl ?_ rfl rfl
    simp only [masked, touch, List.map_map]
    refine List.map_congr_left fun c _ => ?_
    by_cases hc : c.seat = at'
    · simpa [hc] using c.masked_touch hu
    · simp [hc]
  rw [← hmask d, h, hmask]

theorem masked_perform (hw : ∀ p ∈ w, p.2 ≠ .hideProgress) :
    (d.perform w).masked = (d'.perform w).masked := by
  induction w generalizing d d' with
  | nil => exact h
  | cons p w ih =>
    exact ih (masked_touch h (hw p List.mem_cons_self))
      fun q hq => hw q (List.mem_cons_of_mem p hq)

/-- Whoever tells a text before the progress is hidden shows that text. -/
theorem masked_hide (f : Feedback) : ((d.touch at' (.tell f)).touch at' .hideProgress).masked =
    ((d'.touch at' (.tell f)).touch at' .hideProgress).masked := by
  have hmask : ∀ e : Desk, ((e.masked.touch at' (.tell f)).touch at' .hideProgress).masked =
      ((e.touch at' (.tell f)).touch at' .hideProgress).masked := by
    intro e
    refine masked_congr rfl ?_ rfl rfl
    simp only [masked, touch, List.map_map]
    refine List.map_congr_left fun c _ => ?_
    by_cases hc : c.seat = at'
    · simp [hc, c.masked_hide f]
    · simp [hc]
  rw [← hmask d, h, hmask]

/-- The last operations of a selection bring out the same, whatever stood behind the mask. -/
theorem masked_finish (hw : ∀ p ∈ w, p.2 ≠ .hideProgress) (f : Feedback) :
    (((d.perform (w ++ [(at', .tell f)])).touch at' .hideProgress).touch at' .release).masked =
      (((d'.perform (w ++ [(at', .tell f)])).touch at' .hideProgress).touch at'
        .release).masked := by
  rw [perform_append, perform_append]
  exact masked_touch (masked_hide (masked_perform h hw) f) (by simp)

/-- A deed that hides no progress comes to the same behind the mask. -/
theorem masked_run {deed : Deed} (hh : deed.hides = false) :
    (deed.run d).masked = (deed.run d').masked := by
  have hs := store_of_masked h
  have hc := controls_of_masked h
  have hq := questions_of_masked h
  have hp := pages_of_masked h
  cases deed with
  | nothing => exact h
  | touch seat u => exact masked_touch h (by rintro rfl; cases hh)
  | send seat epoch q => exact masked_congr hs hc (by simp [Deed.run, ask, startTimers, hq]) hp
  | stop seat epoch => exact masked_congr hs hc hq hp
  | refresh r =>
    have hstep : ∀ e : Desk, (r.step e).1.masked = { e.masked with
        store := (r.step e).1.store
        questions := (r.step e).1.questions } := fun e => by
      rw [r.step_rest e]
      rfl
    have hasks := (Deed.refresh r).asks_congr hs
    have hquestions : (r.step d).1.questions = (r.step d').1.questions := by
      rw [← Deed.run, ← Deed.run, Deed.questions_run, Deed.questions_run, hq, hasks]
    rw [Deed.run, Deed.run, hstep, hstep, h, (r.step_alike hs).1, hquestions]
  | finish seat => cases hh

end Desk

namespace Task

/-- A selection that is about to finish tells a text of its own last, and does nothing to the
progress before. -/
def Closes (t : Task) : Prop :=
  ∀ s todo o, t = selection s → s.stage = .perform todo o →
    ∃ w f, todo = w ++ [(s.seat, .tell f)] ∧ ∀ p ∈ w, p.2 ≠ .hideProgress

/-- A task looks at nothing behind the mask. -/
theorem alike_of_masked (h : d.masked = d'.masked) (t : Task) : t.Alike d d' := by
  have hstore := (Desk.store_of_masked h).symm
  cases t with
  | selection s =>
    refine ⟨hstore, ?_, fun _ seat _ _ => ?_⟩
    · rw [← Desk.looks_masked d', ← h, Desk.looks_masked]
    · rw [← Desk.isBusy_masked d', ← h, Desk.isBusy_masked]
  | pageRefresh page r =>
    refine ⟨hstore, fun _ => ?_⟩
    rw [← Desk.repopulation_masked d', ← h, Desk.repopulation_masked]
  | storeRefresh r => exact hstore

end Task

/-- A step up to the last operations of a selection leads to a last text. -/
theorem Selection.Step.closes (h : Selection.Step d sel d' g)
    (hgo : ∀ todo o, sel.stage ≠ .perform todo o) : (Task.selection (sel.moveTo g)).Closes := by
  rintro s todo o ⟨⟩ hs
  cases h with
  | perform h => exact absurd h (hgo _ _)
  | release h => exact absurd h (hgo _ _)
  | @survey response h =>
    obtain ⟨rfl, -⟩ : _ ∧ _ := by simpa [success] using hs
    refine ⟨reconciliation sel.seat.order response sel.seats d.store.graph ++
      [(sel.seat, .unselect)], Feedback.success Feedback.saved, by simp, ?_⟩
    intro p hp
    rcases List.mem_append.mp hp with hp | hp
    · intro hhide
      simpa [hhide, Touch.isShared] using reconciliation_shared hp
    · simp [List.mem_singleton.mp hp]
  | fail h | unfetched h | reread h =>
    obtain ⟨rfl, -⟩ : _ ∧ _ := by simpa [refusal, explanation] using hs
    exact ⟨[], _, rfl, by simp⟩
  | _ => simp at hs

namespace Task

theorem step_closes (d : Desk) (hgo : ∀ s todo o, t = selection s → s.stage ≠ .perform todo o) :
    (t.step d).2.Closes := by
  intro s todo o hs hstage
  obtain ⟨s', d', g, rfl, h, rfl, -⟩ := step_selection hs
  exact h.closes (fun todo o => hgo s' todo o rfl) _ todo o rfl hstage

/-- A task that goes on from two desks that are alike behind the mask comes to the same. -/
theorem settle_masked (h : d.masked = d'.masked) (ho : t.Orderly) (hc : t.Closes) :
    (t.settle d).2 = (t.settle d').2 ∧ (t.settle d).1.masked = (t.settle d').1.masked := by
  obtain ⟨e, e', t', hd, hd', hmask, -⟩ : ∃ e e' t', t.settle d = (e, t') ∧
      t.settle d' = (e', t') ∧ e.masked = e'.masked ∧ t'.Orderly ∧ t'.Closes := by
    refine settle_parallel (P := fun d d' t => d.masked = d'.masked ∧ t.Orderly ∧ t.Closes) ?_
      ⟨h, ho, hc⟩
    rintro d d' t ⟨h, ho, hc⟩ hr
    by_cases hlast : ∃ s todo o, t = selection s ∧ s.stage = .perform todo o
    · obtain ⟨s, todo, o, rfl, hs⟩ := hlast
      obtain ⟨w, f, rfl, hw⟩ := hc s todo o rfl hs
      refine Or.inr ⟨_, _, _, settle_perform hs, settle_perform hs, Desk.masked_finish h hw f, ?_⟩
      exact ⟨by simp [Orderly, todo], fun s todo o he hs => by cases he; simp at hs⟩
    · obtain ⟨deed, hd, hd', hlt, hhide⟩ := settle_deed (alike_of_masked h t) ho hr
      have hh : deed.hides = false := hhide.resolve_right hlast
      refine Or.inl ⟨_, _, _, hd, hd', hlt, Desk.masked_run h hh, step_orderly ho, ?_⟩
      exact step_closes d fun s todo o ht hs => hlast ⟨s, todo, o, ht, hs⟩
  rw [hd, hd']
  exact ⟨rfl, hmask⟩

theorem ofWish_masked (h : d.masked = d'.masked) (wish : Wish) :
    ofWish d wish = ofWish d' wish := by
  cases wish with
  | select seat action =>
    have hseats : d.seatsOn seat.page = d'.seatsOn seat.page := by
      rw [← Desk.seatsOn_masked d, h, Desk.seatsOn_masked]
    simp [ofWish, hseats]
  | refreshPage => simp [ofWish, Desk.page, Desk.pages_of_masked h]
  | _ => rfl

theorem ofWish_closes (d : Desk) (wish : Wish) : (ofWish d wish).Closes := by
  rintro s todo o ht hs
  cases wish <;> simp only [ofWish, selection.injEq, reduceCtorEq] at ht <;> subst ht <;> cases hs

theorem answered_closes (hr : t.rests = true) (d : Desk) (reply : Reply) :
    (t.answered d reply).2.Closes := by
  intro s todo o ht hs
  obtain ⟨s', rfl, rfl, -⟩ := answered_selection ht
  rcases s'.answered_cases d reply with h | ⟨_, _, _, -, -, h⟩ | ⟨_, _, _, -, -, h⟩
  · rw [h] at hs
    have hgo := rests_of_stage (show s'.stage = .perform todo o from hs)
    exact absurd (hr.symm.trans hgo) (by simp [rests, awaits, isFinished, Selection.awaits,
      Selection.outcome?])
  · simp [h] at hs
  · simp [h] at hs

/-- An answer to a task brings it on to the same from two desks that are alike behind the mask. -/
theorem settle_answered_masked (h : d.masked = d'.masked) (hr : t.rests = true) (reply : Reply) :
    ((t.answered d reply).2.settle (t.answered d reply).1).2 =
      ((t.answered d' reply).2.settle (t.answered d' reply).1).2 ∧
    ((t.answered d reply).2.settle (t.answered d reply).1).1.masked =
      ((t.answered d' reply).2.settle (t.answered d' reply).1).1.masked := by
  have ho := (t.answered_frame d reply default).2.2 (orderly_of_rests hr)
  have hc := answered_closes hr d reply
  obtain ⟨deed, hd, hd', hh⟩ := answered_deed d d' t reply
  rw [hd'] at *
  rw [hd]
  exact settle_masked (Desk.masked_run h hh) ho hc

theorem dropped_masked (h : d.masked = d'.masked) (t : Task) :
    (t.dropped d).masked = (t.dropped d').masked := by
  obtain ⟨first, last, hd, hd', hfirst, hlast⟩ := dropped_deeds d d' t
  rw [hd, hd']
  exact Desk.masked_run (Desk.masked_run h hfirst) hlast

end Task

/-- An event but that a text is told or time passes. -/
def Event.isOperation : Event → Bool
  | .fire _ | .pass _ => false
  | _ => true

namespace Session

/-- A session at a desk behind the mask. -/
def masked (s : Session) : Session := { s with desk := s.desk.masked }

theorem masked_congr (hd : s.desk.masked = s'.desk.masked) (ht : s.tasks = s'.tasks)
    (hh : s.held = s'.held) : s.masked = s'.masked := by
  simp [masked, hd, ht, hh]

theorem desk_of_masked (h : s.masked = s'.masked) : s.desk.masked = s'.desk.masked := by
  have hdesk := congrArg desk h
  exact hdesk

theorem tasks_of_masked (h : s.masked = s'.masked) : s.tasks = s'.tasks := by
  have htasks := congrArg tasks h
  exact htasks

theorem held_of_masked (h : s.masked = s'.masked) : s.held = s'.held := by
  have hheld := congrArg held h
  exact hheld

/-- An operation comes to the same in two sessions that are alike behind the mask. -/
theorem turn_masked (hs : s.Calm) (hs' : s'.Calm) (h : s.masked = s'.masked)
    (he : e.isOpen = true) (hop : e.isOperation = true) :
    (s.turn e).masked = (s'.turn e).masked := by
  have hdesk : s.desk.masked = s'.desk.masked := desk_of_masked h
  have htasks : s.tasks = s'.tasks := tasks_of_masked h
  have hheld : s.held = s'.held := held_of_masked h
  have htask : ∀ id, s'.task? id = s.task? id := fun id => by rw [task?, task?, htasks]
  cases hl : s.loses e with
  | true =>
    have hl' : s'.loses e = true := by
      rw [← hl]
      cases e <;> simp only [loses, htask]
    rwa [turn_of_loses hs hl, turn_of_loses hs' hl']
  | false =>
    cases e with
    | begin id wish =>
      have ht : s.task? id = none := by simpa [loses] using hl
      obtain ⟨hsame, hmask⟩ := Task.settle_masked hdesk (Task.ofWish_idle s.desk wish default).2
        (Task.ofWish_closes s.desk wish)
      rw [turn_begin ht, turn_begin ((htask id).trans ht), ← Task.ofWish_masked hdesk]
      exact masked_congr hmask (by simp [htasks, hsame]) hheld
    | answer id reply =>
      obtain ⟨t, ht⟩ := Option.isSome_iff_exists.mp (by simpa [loses] using hl)
      obtain ⟨hsame, hmask⟩ :=
        Task.settle_answered_masked hdesk (hs.rests _ (mem_of_task? ht)) reply
      rw [turn_answer ht, turn_answer ((htask id).trans ht)]
      exact masked_congr hmask (by simp [put, htasks, hsame]) hheld
    | drop id =>
      obtain ⟨t, ht⟩ := Option.isSome_iff_exists.mp (by simpa [loses] using hl)
      rw [turn_drop ht, turn_drop ((htask id).trans ht)]
      exact masked_congr (Task.dropped_masked hdesk t) (by simp [remove, htasks]) hheld
    | hold at' =>
      have hlooks : (s'.desk.control? at').map Control.looks =
          (s.desk.control? at').map Control.looks := by
        rw [← Desk.looks_masked s'.desk, ← hdesk, Desk.looks_masked]
      rw [turn_hold, turn_hold, Desk.claim?_eq_looks, Desk.claim?_eq_looks, hlooks]
      split
      · exact masked_congr (Desk.masked_touch hdesk (by simp)) htasks (by simp [hheld])
      · exact h
    | release at' =>
      rw [turn_release, turn_release, ← hheld]
      split
      · exact masked_congr (Desk.masked_touch hdesk (by simp)) htasks (by simp [hheld])
      · exact h
    | touch at' u =>
      have hu : u ≠ .hideProgress := by
        rintro rfl
        cases he
      exact masked_congr (Desk.masked_touch hdesk hu) htasks hheld
    | repopulate =>
      have hsame : s'.desk.repopulation s'.desk.page = s.desk.repopulation s.desk.page := by
        rw [← Desk.repopulation_masked, ← hdesk, Desk.repopulation_masked, Desk.page, Desk.page,
          Desk.pages_of_masked hdesk]
      have hshared : ∀ p ∈ s.desk.repopulation s.desk.page, p.2 ≠ .hideProgress := by
        intro p hp hhide
        simpa [hhide, Touch.isShared] using repopulation_shared hp
      have hperform := Desk.masked_perform hdesk hshared
      refine masked_congr (hperform.trans ?_) htasks hheld
      rw [← hsame]
      rfl
    | replace | persist | restore =>
      have hc := Desk.controls_of_masked hdesk
      have hq := Desk.questions_of_masked hdesk
      have hp := Desk.pages_of_masked hdesk
      refine masked_congr (Desk.masked_congr ?_ hc hq hp) htasks hheld
      simp [turn, Event.toRest, apply, Desk.store_of_masked hdesk]
    | step | settle => cases hl
    | fire | pass => cases hop

/-- A text that is told, and time that passes, leave what is behind the mask as it is. -/
theorem turn_unmasked (hop : e.isOperation = false) : (s.turn e).masked = s.masked := by
  cases e with
  | fire timer => exact masked_congr (Desk.masked_fire s.desk timer) rfl rfl
  | pass time => exact masked_congr (Desk.masked_congr rfl rfl rfl rfl) rfl rfl
  | _ => cases hop

theorem turns_congr (hs : s.Calm) (hs' : s'.Calm) (h : s.masked = s'.masked)
    (hes : ∀ e ∈ es, e.isOpen = true ∧ e.isOperation = true) :
    (s.turns es).masked = (s'.turns es).masked := by
  induction es generalizing s s' with
  | nil => exact h
  | cons e es ih =>
    obtain ⟨he, hop⟩ := hes e List.mem_cons_self
    refine ih (calm_turn hs e) (calm_turn hs' e) ?_ fun f hf => hes f (List.mem_cons_of_mem e hf)
    exact turn_masked hs hs' h he hop

/-- A run comes to the same behind the mask as its operations alone. -/
theorem turns_masked (hs : s.Calm) (hes : ∀ e ∈ es, e.isOpen = true) :
    (s.turns es).masked = (s.turns (es.filter Event.isOperation)).masked := by
  induction es generalizing s with
  | nil => rfl
  | cons e es ih =>
    have hes' : ∀ f ∈ es, f.isOpen = true := fun f hf => hes f (List.mem_cons_of_mem e hf)
    refine (ih (calm_turn hs e) hes').trans ?_
    cases hop : e.isOperation with
    | true => rw [List.filter_cons_of_pos hop, turns_cons]
    | false =>
      rw [List.filter_cons_of_neg (by simp [hop])]
      refine turns_congr (calm_turn hs e) hs (turn_unmasked hop) fun f hf => ?_
      exact ⟨hes' f (List.mem_of_mem_filter hf), List.of_mem_filter hf⟩

/-- Two runs of the same operations at one page come to the same behind the mask, whatever texts of
progress there are and whenever they are told. -/
theorem masked_turns (store : Store) (σ τ : Schedule) (ds : List Descriptor)
    (hes : ∀ e ∈ es, e.isOpen = true)
    (h : es.filter Event.isOperation = fs.filter Event.isOperation) :
    ((opened store σ ds).turns es).masked = ((opened store τ ds).turns fs).masked := by
  have hfs : ∀ e ∈ fs, e.isOpen = true := by
    intro e he
    cases hop : e.isOperation with
    | true => exact hes e (List.mem_of_mem_filter (h ▸ List.mem_filter.mpr ⟨he, hop⟩))
    | false => cases e <;> first | rfl | cases hop
  have hs := calm_opened store σ ds
  have hs' := calm_opened store τ ds
  rw [turns_masked hs hes, turns_masked hs' hfs, ← h]
  refine turns_congr hs hs' rfl fun e he => ?_
  exact ⟨hes e (List.mem_of_mem_filter he), List.of_mem_filter he⟩

/-- Texts of progress are for the eye alone. Two runs of the same operations at one page, under any
two schedules and with texts told at any times or never, have the same tasks with the same outcomes,
the same claims, questions to the backend and store, and controls that differ in their feedback at
most, and in that only while they are busy or left behind by a selection that was dropped. -/
theorem progress_cosmetic (store : Store) (σ τ : Schedule) (ds : List Descriptor)
    (hes : ∀ e ∈ es, e.isOpen = true)
    (h : es.filter Event.isOperation = fs.filter Event.isOperation) :
    ((opened store τ ds).turns fs).tasks = ((opened store σ ds).turns es).tasks ∧
    ((opened store τ ds).turns fs).held = ((opened store σ ds).turns es).held ∧
    ((opened store τ ds).turns fs).desk.questions =
      ((opened store σ ds).turns es).desk.questions ∧
    ((opened store τ ds).turns fs).desk.store = ((opened store σ ds).turns es).desk.store ∧
    List.Forall₂ (fun c c' : Control => { c' with feedback := c.feedback } = c ∧
        (c.busy = false → (opened store σ ds).abandons c.seat false es = false → c' = c))
      ((opened store σ ds).turns es).desk.controls
      ((opened store τ ds).turns fs).desk.controls := by
  have hmask := masked_turns store σ τ ds hes h
  have hdesk := congrArg Session.desk hmask
  refine ⟨(congrArg Session.tasks hmask).symm, (congrArg Session.held hmask).symm,
    (congrArg Desk.questions hdesk).symm, (congrArg Desk.store hdesk).symm, ?_⟩
  have halike : List.Forall₂ (fun c c' : Control => c.masked = c'.masked)
      ((opened store σ ds).turns es).desk.controls
      ((opened store τ ds).turns fs).desk.controls := by
    have hcontrols := congrArg Desk.controls hdesk
    rw [← List.forall₂_eq_eq_eq] at hcontrols
    exact List.forall₂_map_left_iff.mp (List.forall₂_map_right_iff.mp hcontrols)
  have hidle : ∀ c ∈ ((opened store σ ds).turns es).desk.controls, c.busy = false →
      (opened store σ ds).abandons c.seat false es = false → c.progress = false := by
    intro c hc hbusy hleft
    have hshown := indicated_turns (indicated_opened store σ ds) hes
    have hfound := control?_turns store σ ds hc
    have hnot : ((opened store σ ds).turns es).isInFlight c.seat ≠ true := fun hin => by
      have hheld := ((isInFlight_iff_busy hshown.calm hshown.balanced).mp hin).1
      simp [Desk.isBusy, hfound, hbusy] at hheld
    rw [← Desk.progressAt_eq hfound, hshown.progress, hleft, Bool.or_false]
    exact Bool.eq_false_iff.mpr hnot
  refine ((List.forall₂_and_left _ _).mpr ⟨hidle, halike⟩).imp fun c c' hcc => ?_
  obtain ⟨hsame, hshown⟩ := Control.eq_of_masked hcc.2
  exact ⟨hsame, fun hbusy hleft => hshown (hcc.1 hbusy hleft)⟩

/-- A selection waits, and the first text of the usual schedule is told meanwhile. -/
def told : List Event :=
  [.begin 0 (.select sampleSeat "process"), .pass 250,
    .fire ⟨sampleSeat, 1, 250, "Status wird an Shopware gesendet…"⟩]

theorem progress_cosmetic_told :
    (∀ e ∈ told, e.isOpen = true) ∧
    told.filter Event.isOperation = [.begin 0 (.select sampleSeat "process")] ∧
    ((opened sampleStore .none samplePage).turns [.begin 0 (.select sampleSeat "process")]).tasks =
      (sample.turns told).tasks ∧
    (((opened sampleStore .none samplePage).turns
        [.begin 0 (.select sampleSeat "process")]).desk.control? sampleSeat).bind (·.feedback) ≠
      ((sample.turns told).desk.control? sampleSeat).bind (·.feedback) := by
  have hopen : ∀ e ∈ told, e.isOpen = true := by decide
  have hoperations : told.filter Event.isOperation =
      [Event.begin 0 (.select sampleSeat "process")].filter Event.isOperation := rfl
  have hsame := progress_cosmetic sampleStore .usual .none samplePage hopen hoperations
  exact ⟨hopen, rfl, hsame.1, by decide⟩

end Session
end OrderDesk
