import OrderDesk.Proofs.Parallel
import OrderDesk.Proofs.Rejection

/-! One order at a desk. Of the controls of other orders only the places count: no task of the order
looks at more of them, and what a selection on another order does to them is seen nowhere else, so
long as it is not refused. -/
namespace OrderDesk

variable {o : OrderId} {d d' : Desk} {t : Task} {sel : Selection} {g : Stage} {c : Control}
  {seat : Seat} {page : Nat} {w w' : List (Seat × Touch)} {qs qs' : List Question} {reply : Reply}

namespace Control

/-- A control as far as it matters to an order: of one of another order the place alone. -/
def within (o : OrderId) (c : Control) : Control :=
  if c.seat.order = o then c else { seat := c.seat, setUrl := none, state := "" }

theorem within_of_eq (h : c.seat.order = o) : c.within o = c := if_pos h

@[simp] theorem within_seat (o : OrderId) (c : Control) : (c.within o).seat = c.seat := by
  unfold within
  split <;> rfl

theorem within_touch_of_ne (h : c.seat.order ≠ o) (u : Touch) :
    (c.touch u).within o = c.within o := by
  simp [within, h]

end Control

namespace Desk

/-- A desk as far as it matters to an order, without the questions that were asked and the time. -/
def within (o : OrderId) (d : Desk) : Desk :=
  { d with
    controls := d.controls.map (·.within o)
    timers := d.timers.filter fun timer => timer.seat.order = o
    questions := []
    now := 0 }

/-- The controls of an order, on all pages. -/
def controlsOf (d : Desk) (o : OrderId) : List Control :=
  d.controls.filter fun c => c.seat.order = o

theorem controlsOf_within (o : OrderId) (d : Desk) :
    (d.within o).controlsOf o = d.controlsOf o := by
  simp only [controlsOf, within, List.filter_map, Function.comp_def, Control.within_seat]
  refine (List.map_congr_left fun c hc => ?_).trans (List.map_id' _)
  exact Control.within_of_eq (by simpa using List.of_mem_filter hc)

theorem within_congr (hs : d.store = d'.store) (hl : d.schedule = d'.schedule)
    (hc : d.controls.map (·.within o) = d'.controls.map (·.within o))
    (ht : (d.timers.filter fun timer => timer.seat.order = o) =
      d'.timers.filter fun timer => timer.seat.order = o)
    (hp : d.pages = d'.pages) : d.within o = d'.within o := by
  simp only [within, hs, hl, hc, ht, hp]

/-- An operation on a control of another order is not seen. -/
theorem within_touch (o : OrderId) (d : Desk) (seat : Seat) (u : Touch) :
    (d.touch seat u).within o =
      if seat.order = o then (d.within o).touch seat u else d.within o := by
  by_cases ho : seat.order = o
  · rw [if_pos ho]
    simp only [within, touch, List.map_map]
    congr 1
    refine List.map_congr_left fun c _ => ?_
    by_cases hc : c.seat = seat
    · simp [hc, Control.within, ho]
    · simp [hc]
  · rw [if_neg ho]
    refine within_congr rfl rfl ?_ rfl rfl
    simp only [touch, List.map_map]
    refine List.map_congr_left fun c _ => ?_
    by_cases hc : c.seat = seat
    · simp [hc, Control.within_touch_of_ne (hc ▸ ho)]
    · simp [hc]

theorem within_touch_of_ne (h : seat.order ≠ o) (u : Touch) :
    (d.touch seat u).within o = d.within o := by
  rw [within_touch, if_neg h]

/-- Of a row of operations those on the controls of the order count. -/
theorem within_perform (o : OrderId) (d : Desk) (w : List (Seat × Touch)) :
    (d.perform w).within o = (d.within o).perform (w.filter fun p => p.1.order = o) := by
  induction w generalizing d with
  | nil => rfl
  | cons p w ih =>
    refine (ih (d.touch p.1 p.2)).trans ?_
    rw [within_touch]
    by_cases hp : p.1.order = o
    · rw [if_pos hp, List.filter_cons_of_pos (by simpa using hp)]
      rfl
    · rw [if_neg hp, List.filter_cons_of_neg (by simpa using hp)]

theorem within_fire (o : OrderId) (d : Desk) (timer : Timer) : (d.fire timer).within o =
    { (d.touch timer.seat (.progress timer.epoch timer.text)).within o with
      timers := (d.within o).timers.erase timer } := by
  simp only [within, fire, List.erase_filter]

theorem within_fire_of_ne {timer : Timer} (h : timer.seat.order ≠ o) (d : Desk) :
    (d.fire timer).within o = d.within o := by
  have hnot : timer ∉ (d.within o).timers := by simp [within, h]
  rw [within_fire, within_touch_of_ne h, List.erase_of_not_mem hnot]

theorem control?_within (h : seat.order = o) (d : Desk) :
    (d.within o).control? seat = d.control? seat := by
  have hfound : (d.within o).control? seat = (d.control? seat).map (·.within o) := by
    simp only [within, control?, List.find?_map, Function.comp_def, Control.within_seat]
  rw [hfound]
  cases hc : d.control? seat with
  | none => rfl
  | some c => exact congrArg some (Control.within_of_eq (seat_of_control? hc ▸ h))

theorem seatsOn_within (o : OrderId) (d : Desk) (page : Nat) :
    (d.within o).seatsOn page = d.seatsOn page := by
  simp [within, seatsOn, controlsOn, List.filter_map, Function.comp_def]

/-- What brings the controls of a page up to date, as far as the order goes, is told by the controls
of the order. -/
theorem repopulation_within (o : OrderId) (d : Desk) (page : Nat) :
    ((d.within o).repopulation page).filter (fun p => p.1.order = o) =
      (d.repopulation page).filter fun p => p.1.order = o := by
  simp only [repopulation, controlsOn, within, List.filter_map, List.map_map, List.filter_filter,
    Function.comp_def, Control.within_seat]
  congr 1
  refine List.filter_congr fun c _ => ?_
  by_cases ho : c.seat.order = o
  · rw [Control.within_of_eq ho]
  · simp [ho]

variable (h : d.within o = d'.within o)
include h

theorem store_of_within : d.store = d'.store := by
  have hstore := congrArg Desk.store h
  exact hstore

theorem schedule_of_within : d.schedule = d'.schedule := by
  have hschedule := congrArg Desk.schedule h
  exact hschedule

theorem pages_of_within : d.pages = d'.pages := by
  have hpages := congrArg Desk.pages h
  exact hpages

theorem controls_of_within :
    d.controls.map (·.within o) = d'.controls.map (·.within o) := by
  have hcontrols := congrArg Desk.controls h
  exact hcontrols

theorem controlsOf_of_within : d.controlsOf o = d'.controlsOf o := by
  rw [← controlsOf_within, h, controlsOf_within]

theorem timers_of_within : (d.timers.filter fun timer => timer.seat.order = o) =
    d'.timers.filter fun timer => timer.seat.order = o := by
  have htimers := congrArg Desk.timers h
  exact htimers

theorem control?_of_within (ho : seat.order = o) : d.control? seat = d'.control? seat := by
  rw [← control?_within ho d, h, control?_within ho]

theorem repopulation_of_within (page : Nat) :
    ((d.repopulation page).filter fun p => p.1.order = o) =
      (d'.repopulation page).filter fun p => p.1.order = o := by
  rw [← repopulation_within, h, repopulation_within]

theorem renewals_of_within (s : Selection) (todo : List Seat) (graph : Graph) :
    ((s.renewals d todo graph).filter fun p => p.1.order = o) =
      (s.renewals d' todo graph).filter fun p => p.1.order = o := by
  simp only [Selection.renewals, List.filter_map, List.filter_filter, Function.comp_def]
  congr 1
  refine List.filter_congr fun other _ => ?_
  by_cases ho : other.order = o
  · simp [Selection.reaches, isBusy, control?_of_within h ho]
  · simp [ho]

theorem within_fire_congr (timer : Timer) : (d.fire timer).within o = (d'.fire timer).within o := by
  rw [within_fire, within_fire, within_touch, within_touch, h]

/-- A deed that is done at one time comes to the same as far as the order goes. -/
theorem within_run (hn : d.now = d'.now) (deed : Deed) :
    (deed.run d).within o = (deed.run d').within o := by
  have hs := store_of_within h
  have hl := schedule_of_within h
  have hc := controls_of_within h
  have ht := timers_of_within h
  have hp := pages_of_within h
  cases deed with
  | nothing => exact h
  | touch seat u => simp only [Deed.run, within_touch, h]
  | send seat epoch q =>
    refine within_congr hs hl hc ?_ hp
    simp [Deed.run, ask, startTimers, ht, hl, hn]
  | stop seat epoch =>
    refine within_congr hs hl hc ?_ hp
    simp only [Deed.run, stopTimers, List.filter_filter]
    simpa [List.filter_filter, Bool.and_comm] using
      congrArg (List.filter fun t : Timer => !(t.seat == seat && t.epoch == epoch)) ht
  | refresh r =>
    have hstep : ∀ e : Desk, (r.step e).1.within o =
        { e.within o with store := (r.step e).1.store } := fun e => by
      rw [r.step_rest e]
      rfl
    rw [Deed.run, Deed.run, hstep, hstep, h, (r.step_alike hs).1]
  | finish seat => simp only [Deed.run, within_touch, h]

end Desk

/-- Two desks that are alike within an order at one time, when the same has been asked at both. -/
structure Desk.Twins (o : OrderId) (qs qs' : List Question) (d d' : Desk) : Prop where
  within : d.within o = d'.within o
  now : d.now = d'.now
  asked : ∃ rs, d.questions = qs ++ rs ∧ d'.questions = qs' ++ rs

namespace Desk.Twins

theorem refl (h : d.within o = d'.within o) (hn : d.now = d'.now) :
    Twins o d.questions d'.questions d d' :=
  ⟨h, hn, [], by simp, by simp⟩

variable (h : Twins o qs qs' d d')
include h

theorem run (deed : Deed) : Twins o qs qs' (deed.run d) (deed.run d') := by
  refine ⟨within_run h.within h.now deed, ?_, ?_⟩
  · rw [Deed.now_run, Deed.now_run]
    exact h.now
  · obtain ⟨rs, hd, hd'⟩ := h.asked
    have hasks := deed.asks_congr (store_of_within h.within)
    refine ⟨rs ++ deed.asks d, ?_, ?_⟩
    · rw [Deed.questions_run, hd, List.append_assoc]
    · rw [Deed.questions_run, hd', ← hasks, List.append_assoc]

/-- Rows of operations that are one as far as the order goes come to the same for it. -/
theorem perform (hw : (w.filter fun p => p.1.order = o) = w'.filter fun p => p.1.order = o) :
    Twins o qs qs' (d.perform w) (d'.perform w') := by
  refine ⟨?_, ?_, ?_⟩
  · rw [within_perform, within_perform, h.within, hw]
  · rw [perform_eq, perform_eq]
    exact h.now
  · rw [perform_eq, perform_eq]
    exact h.asked

/-- What becomes of the store is one at both desks. -/
theorem store (f : Store → Store) :
    Twins o qs qs' { d with store := f d.store } { d' with store := f d'.store } := by
  refine ⟨?_, h.now, h.asked⟩
  have hwithin := congrArg (fun e : Desk => { e with store := f e.store }) h.within
  exact hwithin

end Desk.Twins

namespace Task

/-- A task that may concern an order: a refresh, or a selection on one of its controls. -/
def IsFor (o : OrderId) : Task → Prop
  | selection s => s.seat.order = o
  | _ => True

theorem step_isFor (h : t.IsFor o) (d : Desk) : (t.step d).2.IsFor o := by
  cases t with
  | selection s =>
    obtain ⟨d', g, he, -⟩ := s.step_spec d
    rw [step, he]
    exact h
  | _ => trivial

theorem settle_isFor (h : t.IsFor o) (d : Desk) : (t.settle d).2.IsFor o :=
  settle_keeps (P := fun _ t => t.IsFor o) (fun d _ h _ => step_isFor h d) h

theorem answered_isFor (h : t.IsFor o) (d : Desk) (reply : Reply) :
    (t.answered d reply).2.IsFor o := by
  cases t with
  | selection s => exact (congrArg Seat.order (s.answered_same d reply).1).trans h
  | pageRefresh page r | storeRefresh r =>
    unfold answered
    split <;> trivial

/-- A task looks at little of other orders: at the seats of their controls, and where it brings
controls up to date at whether they are busy. -/
theorem alike_of_within (h : d.within o = d'.within o) (hf : t.IsFor o)
    (hrenew : ∀ s graph todo, t = selection s → s.stage ≠ .repopulate graph todo)
    (hsurvey : ∀ page, t ≠ pageRefresh page .survey) : t.Alike d d' := by
  have hstore := (Desk.store_of_within h).symm
  cases t with
  | selection s =>
    refine ⟨hstore, ?_, fun graph seat todo hs => absurd hs (hrenew s graph _ rfl)⟩
    rw [Desk.control?_of_within h hf]
  | pageRefresh page r => exact ⟨hstore, fun hr => absurd (hr ▸ rfl) (hsurvey page)⟩
  | storeRefresh r => exact hstore

/-- A task that goes on at two desks that are alike within its order comes to the same there. -/
theorem settle_twins (h : Desk.Twins o qs qs' d d') (ho : t.Orderly) (hf : t.IsFor o) :
    (t.settle d).2 = (t.settle d').2 ∧ Desk.Twins o qs qs' (t.settle d).1 (t.settle d').1 := by
  obtain ⟨e, e', t', hd, hd', hend, -⟩ : ∃ e e' t', t.settle d = (e, t') ∧
      t.settle d' = (e', t') ∧ Desk.Twins o qs qs' e e' ∧ t'.Orderly ∧ t'.IsFor o := by
    refine settle_parallel (P := fun d d' t => Desk.Twins o qs qs' d d' ∧ t.Orderly ∧ t.IsFor o)
      ?_ ⟨h, ho, hf⟩
    rintro d d' t ⟨h, ho, hf⟩ hr
    -- A control of another order may be busy at one desk and idle at the other. Where that counts
    -- the task does not go on in step, so the row of controls is taken at once.
    by_cases hrenew : ∃ s graph todo, t = selection s ∧ s.stage = .repopulate graph todo
    · obtain ⟨s, graph, todo, rfl, hs⟩ := hrenew
      refine Or.inl ⟨_, _, _, settle_repopulate hs, settle_repopulate hs, ?_,
        h.perform (Desk.renewals_of_within h.within s todo graph), ?_, hf⟩
      · simp only [rank, Selection.rank, Selection.moveTo_stage, hs]
        omega
      · simp [Orderly, Task.todo]
    by_cases hsurvey : ∃ page, t = pageRefresh page .survey
    · obtain ⟨page, rfl⟩ := hsurvey
      refine Or.inr ⟨_, _, _, settle_survey d page, settle_survey d' page,
        h.perform (Desk.repopulation_of_within h.within page), ?_, hf⟩
      simp [Orderly, todo]
    have halike : t.Alike d d' := by
      refine alike_of_within h.within hf ?_ fun page hpage => hsurvey ⟨page, hpage⟩
      exact fun s graph todo ht hs => hrenew ⟨s, graph, todo, ht, hs⟩
    obtain ⟨deed, hd, hd', hlt, -⟩ := settle_deed halike ho hr
    exact Or.inl ⟨_, _, _, hd, hd', hlt, h.run deed, step_orderly ho, step_isFor hf d⟩
  rw [hd, hd']
  exact ⟨rfl, hend⟩

end Task

/-- A reconciliation is among the controls of its order, whatever controls are given. -/
theorem reconciliation_order {order : OrderId} {response : SetResponse} {seats : List Seat}
    {graph : Graph} {p : Seat × Touch} (h : p ∈ reconciliation order response seats graph) :
    p.1.order = order := by
  obtain ⟨⟨scope, seat, state⟩, hrow, hp⟩ := List.mem_flatMap.mp h
  have hseat : seat.order = order := by
    rw [reconcilable_eq] at hrow
    obtain ⟨scope', -, hrow⟩ := List.mem_filterMap.mp hrow
    obtain ⟨state', -, hrow⟩ := Option.bind_eq_some_iff.mp hrow
    obtain ⟨found, hfound, hrow⟩ := Option.map_eq_some_iff.mp hrow
    obtain ⟨-, rfl, -⟩ : scope' = scope ∧ found = seat ∧ state' = state := by simpa using hrow
    have hkey := List.find?_some hfound
    simp only [Bool.and_eq_true, beq_iff_eq] at hkey
    exact hkey.1
  simp only [List.mem_cons, List.not_mem_nil, or_false] at hp
  rcases hp with rfl | rfl | rfl <;> exact hseat

/-- Whether a reply refuses a change. -/
def Reply.isRefusal : Reply → Bool
  | .setState (.ok reply) => !reply.isSuccess
  | _ => false

/-- A stage of a selection that is not refused, and that has to do with other orders alone. -/
def Stage.Aloof (o : OrderId) : Stage → Prop
  | .conclude _ (.ok reply) => reply.isSuccess = true
  | .fetch _ _ | .repopulate _ _ | .renew _ _ _ | .reread _ => False
  | .perform todo _ => ∀ p ∈ todo, p.1.order ≠ o
  | _ => True

/-- A selection on a control of another order that is not refused. -/
structure Selection.Aloof (o : OrderId) (s : Selection) : Prop where
  seat : s.seat.order ≠ o
  stage : s.stage.Aloof o

namespace Desk

theorem within_send_of_ne (h : seat.order ≠ o) (epoch : Nat) (q : Question) :
    ((d.startTimers seat epoch).ask q).within o = d.within o := by
  refine within_congr rfl rfl rfl ?_ rfl
  have hnone : (d.schedule.map fun step => (⟨seat, epoch, d.now + step.1, step.2⟩ : Timer)).filter
      (fun timer => timer.seat.order = o) = [] := by
    refine List.filter_eq_nil_iff.mpr fun timer hm => ?_
    obtain ⟨step, -, rfl⟩ := List.mem_map.mp hm
    simpa using h
  simp only [ask, startTimers, List.filter_append, hnone, List.append_nil]

theorem within_stopTimers_of_ne (h : seat.order ≠ o) (epoch : Nat) :
    (d.stopTimers seat epoch).within o = d.within o := by
  refine within_congr rfl rfl rfl ?_ rfl
  simp only [stopTimers, List.filter_filter]
  refine List.filter_congr fun timer _ => ?_
  by_cases ht : timer.seat = seat
  · simp [ht, h]
  · simp [ht]

end Desk

namespace Selection

/-- What a selection on another order does is not seen, so long as it is not refused. -/
theorem Step.aloof (h : Step d sel d' g) (ha : sel.Aloof o) :
    d'.within o = d.within o ∧ (sel.moveTo g).Aloof o := by
  obtain ⟨hseat, hstage⟩ := ha
  cases h with
  | freshen _ | claim _ _ | choose _ | announce _ | accept _ _ =>
    exact ⟨Desk.within_touch_of_ne hseat _, hseat, trivial⟩
  | send _ _ => exact ⟨Desk.within_send_of_ne hseat _ _, hseat, trivial⟩
  | fail _ =>
    refine ⟨Desk.within_touch_of_ne hseat _, hseat, ?_⟩
    simpa [Stage.Aloof] using hseat
  | refuse hs hr =>
    rw [hs] at hstage
    exact absurd (hr.symm.trans hstage) (by simp)
  | survey _ =>
    refine ⟨rfl, hseat, fun p hp => ?_⟩
    rcases List.mem_append.mp hp with hp | hp
    · rw [reconciliation_order hp]
      exact hseat
    · simp only [List.mem_cons, List.not_mem_nil, or_false] at hp
      rcases hp with rfl | rfl <;> exact hseat
  | fetch hs _ | unfetched hs | fetched hs | renewed hs | next hs _ | skip hs _ _ | renew hs
  | reread hs =>
    rw [hs] at hstage
    exact hstage.elim
  | perform hs =>
    rw [hs] at hstage
    refine ⟨Desk.within_touch_of_ne (hstage _ List.mem_cons_self) _, hseat, fun p hp => ?_⟩
    exact hstage p (List.mem_cons_of_mem _ hp)
  | release _ =>
    refine ⟨?_, hseat, trivial⟩
    rw [Desk.within_touch_of_ne hseat, Desk.within_touch_of_ne hseat]
  | _ => exact ⟨rfl, hseat, trivial⟩

theorem Aloof.answered (ha : sel.Aloof o) (d : Desk) (hr : reply.isRefusal = false) :
    (sel.answered d reply).1.within o = d.within o ∧ (sel.answered d reply).2.Aloof o := by
  rcases sel.answered_cases d reply with
    h | ⟨epoch, url, result, -, rfl, h⟩ | ⟨refused, url, result, hs, -, h⟩
  · rw [h]
    exact ⟨rfl, ha⟩
  · rw [h]
    refine ⟨Desk.within_stopTimers_of_ne ha.seat epoch, ha.seat, ?_⟩
    cases result with
    | error cause => trivial
    | ok answer =>
      have hmade : answer.isSuccess = true := by simpa [Reply.isRefusal] using hr
      exact hmade
  · have hstage := ha.stage
    rw [hs] at hstage
    exact hstage.elim

theorem Aloof.dropped (ha : sel.Aloof o) (d : Desk) : (sel.dropped d).within o = d.within o := by
  unfold Selection.dropped
  split
  · split
    · rw [Desk.within_touch_of_ne ha.seat, Desk.within_stopTimers_of_ne ha.seat]
    · exact Desk.within_stopTimers_of_ne ha.seat _
  · split
    · exact Desk.within_touch_of_ne ha.seat _
    · rfl

end Selection

namespace Task

/-- A selection on a control of another order that is not refused. -/
def IsAloof (o : OrderId) : Task → Prop
  | selection s => s.Aloof o
  | _ => False

theorem settle_aloof (h : t.IsAloof o) (d : Desk) :
    (t.settle d).1.within o = d.within o ∧ (t.settle d).2.IsAloof o := by
  refine settle_keeps (P := fun e t => e.within o = d.within o ∧ t.IsAloof o) ?_ ⟨rfl, h⟩
  rintro e t ⟨hw, ha⟩ -
  cases t with
  | selection s =>
    obtain ⟨e', g, he, hstep⟩ := s.step_spec e
    obtain ⟨hsame, hafter⟩ := hstep.aloof ha
    rw [step, he]
    exact ⟨hsame.trans hw, hafter⟩
  | _ => exact ha.elim

theorem answered_aloof (h : t.IsAloof o) (d : Desk) (hr : reply.isRefusal = false) :
    (t.answered d reply).1.within o = d.within o ∧ (t.answered d reply).2.IsAloof o := by
  cases t with
  | selection s => exact Selection.Aloof.answered h d hr
  | _ => exact h.elim

theorem dropped_aloof (h : t.IsAloof o) (d : Desk) : (t.dropped d).within o = d.within o := by
  cases t with
  | selection s => exact Selection.Aloof.dropped h d
  | _ => exact h.elim

end Task
end OrderDesk
