import OrderDesk.Proofs.Fence
import OrderDesk.Proofs.Turn

/-! The texts of progress that are still to come. Each one was left by a selection that waits for
the answer to its request, in the epoch that the selection opened. So none is left for a control
that nobody waits at, and those that are left there later are of epochs that come later. -/
namespace OrderDesk

variable {d d' e : Desk} {s : Session} {sel : Selection} {t : Task} {g : Stage} {id bound : Nat}
  {seat : Seat} {m : Timer} {ev : Event} {es : List Event}

@[simp] theorem Desk.timers_touch (d : Desk) (seat : Seat) (u : Touch) :
    (d.touch seat u).timers = d.timers := rfl

theorem Desk.timers_perform (d : Desk) (w : List (Seat × Touch)) :
    (d.perform w).timers = d.timers :=
  List.foldlRecOn (motive := fun e : Desk => e.timers = d.timers) w _ rfl fun _ he _ _ => he

theorem Refresh.step_timers (d : Desk) (r : Refresh) : (r.step d).1.timers = d.timers := by
  unfold Refresh.step
  split
  · split <;> rfl
  all_goals rfl

/-- Only the step that sends a request leaves texts to be told later, and takes none back. -/
theorem Selection.Step.timers_cases (h : Selection.Step d sel d' g) :
    d'.timers = d.timers ∨ ∃ epoch url, sel.stage = .send epoch ∧ g = .sent epoch url ∧
      d'.timers = (d.startTimers sel.seat epoch).timers := by
  cases h with
  | send hs => exact Or.inr ⟨_, _, hs, rfl, rfl⟩
  | fetch => exact Or.inl (Refresh.step_timers _ _)
  | _ => exact Or.inl rfl

theorem PageRefresh.Step.timers {page : Nat} {r r' : PageRefresh}
    (h : PageRefresh.Step d page r d' r') : d'.timers = d.timers := by
  cases h with
  | fetch => exact Refresh.step_timers _ _
  | _ => rfl

namespace Task

/-- A task waits for the answer to its request in the epoch of a text, on the control that the text
is for. -/
def Attends (m : Timer) (t : Task) : Prop :=
  ∃ s url, t = selection s ∧ s.seat = m.seat ∧ s.stage = .sent m.epoch url

theorem Attends.rests (h : t.Attends m) : t.rests = true := by
  obtain ⟨s, url, rfl, -, hs⟩ := h
  simp [Task.rests, awaits, Selection.awaits, hs]

theorem Attends.claims (h : t.Attends m) : t.claims m.seat = true := by
  obtain ⟨s, url, rfl, hseat, hs⟩ := h
  simp [Task.claims, hseat, Selection.holdsClaim, hs]

/-- What a task that goes on from a desk has left when it has come to another: texts of progress in
an epoch alone that it has opened on the way. -/
structure Leaves (d e : Desk) (t : Task) : Prop where
  touched : d.Touched e
  timers : ∀ m ∈ e.timers, m ∈ d.timers ∨ d.epochAt m.seat < m.epoch ∧ t.Attends m
  found : ∀ s, t = selection s → s.stage = .choose ∨ s.stage = .announce → s.seat ∈ e.seats
  opened : ∀ s epoch, t = selection s → s.stage = .send epoch → d.epochAt s.seat < epoch

/-- A task that goes on waits for nothing, so what it has left is what was there. -/
theorem Leaves.mem (h : t.Leaves d e) (hr : t.rests = false) (hm : m ∈ e.timers) :
    m ∈ d.timers := by
  refine (h.timers m hm).resolve_right fun hnew => ?_
  rw [hnew.2.rests] at hr
  cases hr

theorem leaves_selection (h : (selection sel).Leaves d e) (hr : (selection sel).rests = false)
    (hstep : Selection.Step e sel d' g) : (selection (sel.moveTo g)).Leaves d d' := by
  have htouched := h.touched.trans hstep.touched
  refine ⟨htouched, fun m hm => ?_, ?_, ?_⟩
  · rcases hstep.timers_cases with hsame | ⟨epoch, url, hs, rfl, hd⟩
    · exact Or.inl (h.mem hr (hsame ▸ hm))
    · rw [hd] at hm
      rcases List.mem_append.mp hm with hold | hnew
      · exact Or.inl (h.mem hr hold)
      · obtain ⟨p, -, rfl⟩ := List.mem_map.mp hnew
        exact Or.inr ⟨h.opened sel epoch rfl hs, _, url, rfl, rfl, rfl⟩
  · rintro s ⟨⟩ hs
    change sel.seat ∈ d'.seats
    rw [hstep.touched.seats_eq]
    cases hstep with
    | claim _ hi =>
      obtain ⟨k, hk⟩ := Option.isSome_iff_exists.mp (Selection.ignored?_eq_none hi).1
      obtain ⟨c, hc, -⟩ := Option.map_eq_some_iff.mp hk
      exact Desk.exists_control_iff.mp ⟨c, hc⟩
    | choose hstage => exact h.found sel rfl (Or.inl hstage)
    | _ => simp [Selection.success, Selection.refusal, Selection.explanation] at hs
  · rintro s epoch ⟨⟩ hs
    cases hstep with
    | announce hstage =>
      -- The epoch that is opened is the one after that which the control was in.
      obtain ⟨c, hc⟩ := Desk.exists_control_iff.mpr (h.found sel rfl (Or.inr hstage))
      have hle := h.touched.epochAt_le sel.seat
      simp only [Selection.moveTo_stage, Stage.send.injEq, Desk.control?_touch, hc,
        Option.map_some, if_true, Option.elim_some] at hs
      simp only [Desk.epochAt, Desk.hold?, hc, Option.map_some, Option.elim_some] at hle
      subst hs
      exact Nat.lt_succ_of_le hle
    | _ => simp [Selection.success, Selection.refusal, Selection.explanation] at hs

theorem leaves_step (h : t.Leaves d e) (hr : t.rests = false) :
    (t.step e).2.Leaves d (t.step e).1 := by
  cases t with
  | selection s =>
    obtain ⟨d', g, he, hstep⟩ := s.step_spec e
    simpa [step, he] using leaves_selection h hr hstep
  | pageRefresh page r =>
    obtain ⟨d', r', he, hstep⟩ := r.step_spec e page
    have htouched := h.touched.trans ((pageRefresh page r).step_touched e)
    refine ⟨htouched, fun m hm => Or.inl (h.mem hr ?_), by simp [step], by simp [step]⟩
    simpa [step, he, hstep.timers] using hm
  | storeRefresh r =>
    have htouched := h.touched.trans ((storeRefresh r).step_touched e)
    refine ⟨htouched, fun m hm => Or.inl (h.mem hr ?_), by simp [step], by simp [step]⟩
    simpa [step, Refresh.step_timers] using hm

/-- How far a selection has come that may still open an epoch or has just opened one. -/
def isOpening : Task → Bool
  | selection s =>
    match s.stage with
    | .choose | .announce | .send _ => true
    | _ => false
  | _ => false

/-- A text of progress that is left when a task rests was there before, or is left by that task, in
an epoch that it opened. -/
theorem timers_settle (ht : t.isOpening = false) (hm : m ∈ (t.settle d).1.timers) :
    m ∈ d.timers ∨ d.epochAt m.seat < m.epoch ∧ (t.settle d).2.Attends m := by
  have hfirst : t.Leaves d d := by
    refine ⟨.of_eq rfl, fun m hm => Or.inl hm, ?_, ?_⟩
    · rintro s rfl (hs | hs) <;> simp [isOpening, hs] at ht
    · rintro s epoch rfl hs
      simp [isOpening, hs] at ht
  exact (settle_keeps (P := fun e t => t.Leaves d e) (fun _ _ h hr => leaves_step h hr)
    hfirst).timers m hm

theorem isOpening_ofWish (d : Desk) (wish : Wish) : (ofWish d wish).isOpening = false := by
  cases wish <;> rfl

/-- An answer to a task that rests takes back the texts that the task has left, and no other ones,
and lets the task open no epoch. -/
theorem answered_timers (hr : t.rests = true) (reply : Reply) :
    (t.answered d reply).2.isOpening = false ∧
    (∀ m ∈ (t.answered d reply).1.timers, m ∈ d.timers ∧
      (t.Attends m → t.answered d reply = (d, t))) := by
  cases resting_of_rests hr with
  | @sent s epoch url hs =>
    cases reply with
    | setState result =>
      rw [answered_of_sent hs]
      refine ⟨rfl, fun m hm => ?_⟩
      obtain ⟨hold, hother⟩ := List.mem_filter.mp hm
      refine ⟨hold, fun ha => ?_⟩
      obtain ⟨_, url', ⟨⟩, hseat, hs'⟩ := ha
      obtain ⟨rfl, -⟩ := Stage.sent.inj (hs.symm.trans hs')
      simp [hseat] at hother
    | transitions result =>
      have hsame : (selection s).answered d (.transitions result) = (d, selection s) := by
        simp [answered, Selection.answered, hs]
      rw [hsame]
      exact ⟨by simp [isOpening, hs], fun m hm => ⟨hm, fun _ => rfl⟩⟩
  | @asked s refused url hs =>
    refine ⟨?_, fun m hm => ⟨?_, fun ha => ?_⟩⟩
    · cases reply <;> simp [answered, Selection.answered, hs, isOpening]
    · cases reply <;> simpa [answered, Selection.answered, hs] using hm
    · obtain ⟨_, url', ⟨⟩, -, hs'⟩ := ha
      simp [hs] at hs'
  | @ended s outcome hs =>
    refine ⟨?_, fun m hm => ⟨?_, fun ha => ?_⟩⟩
    · cases reply <;> simp [answered, Selection.answered, hs, isOpening]
    · cases reply <;> simpa [answered, Selection.answered, hs] using hm
    · obtain ⟨_, url', ⟨⟩, -, hs'⟩ := ha
      simp [hs] at hs'
  | pageAsked | pageEnded | storeAsked | storeEnded =>
    refine ⟨?_, fun m hm => ⟨?_, fun ha => ?_⟩⟩
    · cases reply <;> rfl
    · cases reply <;> exact hm
    · obtain ⟨_, _, ⟨⟩, -, -⟩ := ha

/-- A selection that is dropped takes back the texts that it has left, and no task leaves any. -/
theorem dropped_timers (hm : m ∈ (t.dropped d).timers) : m ∈ d.timers ∧ ¬ t.Attends m := by
  cases t with
  | selection s =>
    cases hs : s.stage with
    | sent epoch url =>
      simp only [dropped, Selection.dropped, hs, Selection.holdsClaim, if_true] at hm
      obtain ⟨hold, hother⟩ := List.mem_filter.mp hm
      refine ⟨hold, fun ha => ?_⟩
      obtain ⟨_, url', ⟨⟩, hseat, hs'⟩ := ha
      obtain ⟨rfl, -⟩ := Stage.sent.inj (hs.symm.trans hs')
      simp [hseat] at hother
    | _ =>
      refine ⟨?_, fun ha => ?_⟩
      · simpa [dropped, Selection.dropped, hs, Selection.holdsClaim] using hm
      · obtain ⟨_, url', ⟨⟩, -, hs'⟩ := ha
        simp [hs] at hs'
  | pageRefresh page r | storeRefresh r =>
    refine ⟨hm, fun ha => ?_⟩
    obtain ⟨_, _, ⟨⟩, -, -⟩ := ha

end Task

namespace Session

theorem turn_eq_apply (h : ev.id? = none) : s.turn ev = s.apply ev := by
  cases ev with
  | begin | step | settle | answer | drop => simp [Event.id?] at h
  | _ => rfl

/-- An event that is about no task leaves no new texts of progress. -/
theorem timers_apply (h : ev.id? = none) (hm : m ∈ (s.apply ev).desk.timers) :
    m ∈ s.desk.timers := by
  cases ev with
  | begin | step | settle | answer | drop => simp [Event.id?] at h
  | fire timer => exact List.mem_of_mem_erase hm
  | hold seat =>
    simp only [apply, Desk.claim?] at hm
    split at hm <;> exact hm
  | release seat =>
    simp only [apply] at hm
    split at hm <;> exact hm
  | repopulate => exact s.desk.timers_perform _ ▸ hm
  | _ => exact hm

/-- A text of progress after a turn was there before, and who waited there still waits; or it was
left in the turn, in an epoch that came up in it. -/
theorem timers_turn (hs : s.Calm) (hm : m ∈ (s.turn ev).desk.timers) :
    (m ∈ s.desk.timers ∧ ∀ id t, s.task? id = some t → t.Attends m →
      (s.turn ev).task? id = some t) ∨
    (s.desk.epochAt m.seat < m.epoch ∧ ∃ id t, (s.turn ev).task? id = some t ∧ t.Attends m) := by
  cases hl : s.loses ev with
  | true =>
    rw [turn_of_loses hs hl] at hm ⊢
    exact Or.inl ⟨hm, fun _ _ ht _ => ht⟩
  | false =>
    cases ev with
    | begin id wish =>
      have hnone : s.task? id = none := by simpa [loses] using hl
      have hnew := task?_turn_begin hnone wish
      have hd : (s.turn (.begin id wish)).desk = ((Task.ofWish s.desk wish).settle s.desk).1 := by
        rw [turn_begin hnone]
      rw [hd] at hm
      rcases Task.timers_settle (Task.isOpening_ofWish _ _) hm with hold | ⟨hlt, ha⟩
      · refine Or.inl ⟨hold, fun other t ht _ => (task?_turn_of_ne ?_).trans ht⟩
        rintro ⟨⟩
        simp [hnone] at ht
      · exact Or.inr ⟨hlt, id, _, hnew, ha⟩
    | answer id reply =>
      obtain ⟨t, ht⟩ := Option.isSome_iff_exists.mp (by simpa [loses] using hl)
      have hrests := hs.rests _ (mem_of_task? ht)
      obtain ⟨hopening, htaken⟩ := Task.answered_timers (d := s.desk) hrests reply
      have hepoch : (t.answered s.desk reply).1.epochAt m.seat = s.desk.epochAt m.seat := by
        rw [Desk.epochAt, Desk.hold?_congr (t.answered_frame s.desk reply default).1, Desk.epochAt]
      have hput := turn_answer ht reply
      have hnow : (s.turn (.answer id reply)).task? id = some
          ((t.answered s.desk reply).2.settle (t.answered s.desk reply).1).2 := by
        rw [hput, task?_put ht]
      have hd : (s.turn (.answer id reply)).desk =
          ((t.answered s.desk reply).2.settle (t.answered s.desk reply).1).1 := by
        rw [hput]
        rfl
      rw [hd] at hm
      rcases Task.timers_settle hopening hm with hold | ⟨hlt, ha⟩
      · obtain ⟨hold, hsame⟩ := htaken m hold
        refine Or.inl ⟨hold, fun other u hu ha => ?_⟩
        by_cases ho : other = id
        · obtain rfl : t = u := Option.some.inj (ht.symm.trans (ho ▸ hu))
          rw [ho, hnow, hsame ha, Task.settle_of_rests hrests]
        · exact (task?_turn_of_ne (by simpa [Event.id?] using Ne.symm ho)).trans hu
      · exact Or.inr ⟨hepoch ▸ hlt, id, _, hnow, ha⟩
    | drop id =>
      obtain ⟨t, ht⟩ := Option.isSome_iff_exists.mp (by simpa [loses] using hl)
      have hd : (s.turn (.drop id)).desk = t.dropped s.desk := by rw [turn_drop ht]
      rw [hd] at hm
      obtain ⟨hold, hgone⟩ := Task.dropped_timers hm
      refine Or.inl ⟨hold, fun other u hu ha => ?_⟩
      by_cases ho : other = id
      · obtain rfl : t = u := Option.some.inj (ht.symm.trans (ho ▸ hu))
        exact absurd ha hgone
      · exact (task?_turn_of_ne (by simpa [Event.id?] using Ne.symm ho)).trans hu
    | step | settle => cases hl
    | _ =>
      rw [turn_eq_apply rfl] at hm
      refine Or.inl ⟨timers_apply rfl hm, fun id t ht _ => ?_⟩
      exact (task?_turn_of_ne (by simp [Event.id?])).trans ht

/-- Each text of progress that is still to come has a task that waits there. -/
def Attended (s : Session) : Prop :=
  ∀ m ∈ s.desk.timers, ∃ id t, s.task? id = some t ∧ t.Attends m

theorem attended_turn (hs : s.Calm) (h : s.Attended) (ev : Event) : (s.turn ev).Attended := by
  intro m hm
  rcases timers_turn hs hm with ⟨hold, hstill⟩ | ⟨-, hnew⟩
  · obtain ⟨id, t, ht, ha⟩ := h m hold
    exact ⟨id, t, hstill id t ht ha, ha⟩
  · exact hnew

theorem attended_opened (store : Store) (schedule : Schedule) (ds : List Descriptor) :
    (opened store schedule ds).Attended :=
  fun _ hm => by simp [opened, Desk.bindPage] at hm

theorem attended_turns (hs : s.Calm) (h : s.Attended) (es : List Event) : (s.turns es).Attended :=
  (List.foldlRecOn (motive := fun u => u.Calm ∧ u.Attended) es turn ⟨hs, h⟩ fun _ hu ev _ =>
    ⟨calm_turn hu.1 ev, attended_turn hu.1 hu.2 ev⟩).2

/-- The texts of progress for a control that a task holds are those that the task has left. -/
theorem Attended.of_claims (h : s.Attended) (hb : s.Balanced) (ht : s.task? id = some t)
    (hc : t.claims m.seat = true) (hm : m ∈ s.desk.timers) : t.Attends m := by
  obtain ⟨other, u, hu, ha⟩ := h m hm
  by_cases ho : other = id
  · obtain rfl : u = t := Option.some.inj (hu.symm.trans (ho ▸ ht))
    exact ha
  · have hidle := hb.not_claims ht hc (mem_of_task? hu) ho
    rw [ha.claims] at hidle
    cases hidle

/-- Where the texts for a control are of epochs past a bound, they stay so. -/
theorem later_turns (hs : s.Calm) (hb : bound ≤ s.desk.epochAt seat)
    (h : ∀ m ∈ s.desk.timers, m.seat = seat → bound < m.epoch) (es : List Event) :
    ∀ m ∈ (s.turns es).desk.timers, m.seat = seat → bound < m.epoch := by
  induction es generalizing s with
  | nil => exact h
  | cons ev es ih =>
    refine ih (calm_turn hs ev) ?_ fun m hm hseat => ?_
    · exact Nat.le_trans hb ((s.play_touched ev.toRest).epochAt_le seat)
    · rcases timers_turn hs hm with ⟨hold, -⟩ | ⟨hlt, -⟩
      · exact h m hold hseat
      · rw [hseat] at hlt
        exact Nat.lt_of_le_of_lt hb hlt

end Session
end OrderDesk
