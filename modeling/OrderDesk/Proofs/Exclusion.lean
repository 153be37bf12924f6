import OrderDesk.Proofs.Page
import OrderDesk.Proofs.Run

/-! One claim at a time on each control. A claim is taken and given up by steps between which any
other step may come; what they keep is the balance of claims and busy controls. -/
namespace OrderDesk

variable {s : Session} {t : Task} {id : Nat} {r : Desk × Task} {e : Event} {es : List Event}
  {d : Desk} {seat : Seat}

/-- Whether a question asks for a change of state. -/
def Question.isChange : Question → Bool
  | .setState _ _ => true
  | .transitions _ => false

/-- Whether a task waits for the answer to a change of the control in a seat. -/
def Task.awaitsChange (seat : Seat) : Task → Bool
  | .selection s => s.seat == seat && s.awaits.any Question.isChange
  | _ => false

/-- Whoever waits for a change holds the claim. -/
theorem Task.claims_of_awaitsChange (h : t.awaitsChange seat = true) : t.claims seat = true := by
  cases t with
  | selection s =>
    simp only [awaitsChange, Selection.awaits, Bool.and_eq_true] at h
    cases hs : s.stage <;> simp_all [claims, Selection.holdsClaim]
  | _ => simp [awaitsChange] at h

/-- Whatever is finished holds no claim. -/
theorem Task.not_claims_of_isFinished (h : t.isFinished = true) : t.claims seat = false := by
  cases t with
  | selection s =>
    simp only [isFinished, Selection.outcome?] at h
    cases hs : s.stage <;> simp_all [claims, Selection.holdsClaim]
  | _ => rfl

namespace Session

/-- The claims on a control: of the selections that hold it, and those apart from any task. -/
def claims (s : Session) (seat : Seat) : Nat :=
  s.tasks.countP (fun p => p.2.claims seat) + s.held.count seat

/-- The changes of a control that were asked for and not answered. -/
def outstanding (s : Session) (seat : Seat) : Nat :=
  s.tasks.countP fun p => p.2.awaitsChange seat

/-- A session that open events lead to from a page that was just bound. -/
def Reachable (s : Session) : Prop :=
  ∃ store schedule descriptors es, (∀ e ∈ es, e.isOpen) ∧
    s = (opened store schedule descriptors).play es

/-- Each control is as busy as there are claims on it. -/
structure Balanced (s : Session) : Prop where
  numbered : s.Numbered
  orderly : ∀ p ∈ s.tasks, p.2.Orderly
  balance : ∀ seat, (s.desk.isBusy seat).toNat = s.claims seat

/-- The claims of a task and the claims of all others. -/
theorem claims_split (hn : s.Numbered) (ht : s.task? id = some t) (seat : Seat) :
    s.claims seat = (s.remove id).claims seat + (t.claims seat).toNat ∧
      ∀ r, (s.put id r).claims seat = (s.remove id).claims seat + (r.2.claims seat).toNat := by
  obtain ⟨before, after, hs, hput, hremove⟩ := tasks_split hn ht
  have hcount : ∀ t : Task, (before ++ (id, t) :: after).countP (fun p => p.2.claims seat) =
      (before ++ after).countP (fun p => p.2.claims seat) + (t.claims seat).toNat := by
    intro t
    simp only [List.countP_append, List.countP_cons]
    cases t.claims seat
    · simp
    · simp only [if_true, Bool.toNat_true]
      omega
  have hheld : (s.remove id).held = s.held := rfl
  refine ⟨?_, fun r => ?_⟩
  · simp only [claims, hs, hremove, hcount, hheld]
    omega
  · have hheld' : (s.put id r).held = s.held := rfl
    simp only [claims, hput, hremove, hcount, hheld, hheld']
    omega

theorem balanced_opened (store : Store) (schedule : Schedule) (ds : List Descriptor) :
    (opened store schedule ds).Balanced := by
  refine ⟨List.nodup_nil, by simp [opened], fun seat => ?_⟩
  have hidle : ∀ c ∈ (opened store schedule ds).desk.controls, c.busy = false := by
    intro c hc
    simp only [opened, Desk.bindPage, List.nil_append, List.mem_map] at hc
    obtain ⟨x, _, rfl⟩ := hc
    simp only [Control.bind]
    split <;> rfl
  have hb : (opened store schedule ds).desk.isBusy seat = false := by
    cases hc : (opened store schedule ds).desk.control? seat with
    | none => simp [Desk.isBusy, hc]
    | some c => simpa [Desk.isBusy, hc] using hidle c (List.mem_of_find?_eq_some hc)
  rw [hb]
  rfl

theorem balanced_desk (h : s.Balanced) (hd : ∀ seat, d.isBusy seat = s.desk.isBusy seat) :
    Balanced { s with desk := d } :=
  ⟨h.numbered, h.orderly, fun seat => (congrArg Bool.toNat (hd seat)).trans (h.balance seat)⟩

/-- An event that changes a task and the desk in balance keeps the balance. -/
theorem balanced_put (h : s.Balanced) (ht : s.task? id = some t) (ho : r.2.Orderly)
    (hr : ∀ seat n, (s.desk.isBusy seat).toNat = n + (t.claims seat).toNat →
      (r.1.isBusy seat).toNat = n + (r.2.claims seat).toNat) : (s.put id r).Balanced := by
  refine ⟨numbered_put h.numbered, ?_, fun seat => ?_⟩
  · intro p hp
    rcases mem_put hp with rfl | hp
    · exact ho
    · exact h.orderly p hp
  · obtain ⟨hs, hput⟩ := claims_split h.numbered ht seat
    rw [hput]
    exact hr seat _ ((h.balance seat).trans hs)

theorem balanced_begin (h : s.Balanced) (id : Nat) (wish : Wish) :
    (s.apply (.begin id wish)).Balanced := by
  refine ⟨numbered_begin h.numbered id wish, ?_, ?_⟩
  all_goals
    simp only [apply]
    split
  · exact h.orderly
  · intro p hp
    rcases List.mem_append.mp hp with hp | hp
    · exact h.orderly p hp
    · obtain rfl := List.mem_singleton.mp hp
      exact (Task.ofWish_idle s.desk wish default).2
  · exact h.balance
  · intro seat
    simpa [claims, (Task.ofWish_idle s.desk wish seat).1] using h.balance seat

theorem balanced_step (h : s.Balanced) (id : Nat) : (s.apply (.step id)).Balanced := by
  refine elim_task? h fun t ht => ?_
  have ho := h.orderly _ (mem_of_task? ht)
  exact balanced_put h ht (Task.step_orderly ho) fun _ _ hb => Task.step_balance ho hb

theorem balanced_answer (h : s.Balanced) (id : Nat) (reply : Reply) :
    (s.apply (.answer id reply)).Balanced := by
  refine elim_task? h fun t ht => ?_
  have hf := t.answered_frame s.desk reply
  refine balanced_put h ht ((hf default).2.2 (h.orderly _ (mem_of_task? ht))) fun seat n hb => ?_
  rw [(hf seat).2.1, Desk.isBusy_congr (hf seat).1]
  exact hb

theorem balanced_drop (h : s.Balanced) (id : Nat) : (s.apply (.drop id)).Balanced := by
  refine elim_task? h fun t ht => ?_
  have hsub : (s.remove id).tasks.Sublist s.tasks := List.filter_sublist
  refine ⟨(hsub.map _).nodup h.numbered, fun p hp => h.orderly p (hsub.subset hp), fun seat => ?_⟩
  exact Task.dropped_balance ((h.balance seat).trans (claims_split h.numbered ht seat).1)

theorem balanced_hold (h : s.Balanced) (seat : Seat) : (s.apply (.hold seat)).Balanced := by
  by_cases hc : (s.desk.control? seat).isSome ∧ s.desk.isBusy seat = false
  · obtain ⟨hsome, hidle⟩ := hc
    simp only [apply, Desk.claim?, hsome, hidle, Bool.not_false, Bool.and_self, if_true,
      Option.elim_some]
    refine ⟨h.numbered, h.orderly, fun other => ?_⟩
    have hb := h.balance other
    simp only [claims, Desk.isBusy_touch_claim, List.count_cons] at hb ⊢
    by_cases ho : seat = other
    · subst ho
      simp_all [Desk.hold?]
      omega
    · simp_all
  · have hnone : s.desk.claim? seat = none := by
      simpa [Desk.claim?] using hc
    simpa [apply, hnone] using h

theorem balanced_release (h : s.Balanced) (seat : Seat) : (s.apply (.release seat)).Balanced := by
  by_cases hm : seat ∈ s.held
  · simp only [apply, hm, if_true]
    refine ⟨h.numbered, h.orderly, fun other => ?_⟩
    have hb := h.balance other
    have hle := (s.desk.isBusy other).toNat_le
    simp only [claims, Desk.isBusy_touch_release] at hb ⊢
    by_cases ho : seat = other
    · subst ho
      have hpos : 0 < s.held.count seat := List.count_pos_iff.mpr hm
      simp only [List.count_erase_self, if_true, Bool.toNat_false]
      omega
    · simp only [ho, if_false, List.count_erase_of_ne (Ne.symm ho)]
      exact hb
  · simpa [apply, hm] using h

theorem balanced_apply (h : s.Balanced) (he : e.isOpen) : (s.apply e).Balanced := by
  cases e with
  | begin id wish => exact balanced_begin h id wish
  | step id => exact balanced_step h id
  | settle id => exact settle_by_steps h.numbered h fun u hu => balanced_step hu id
  | answer id reply => exact balanced_answer h id reply
  | drop id => exact balanced_drop h id
  | fire timer => exact balanced_desk h fun _ => Desk.isBusy_touch (by simp) (by simp)
  | hold seat => exact balanced_hold h seat
  | release seat => exact balanced_release h seat
  | touch seat t =>
    refine balanced_desk h fun other => Desk.isBusy_touch ?_ ?_
    · rintro rfl
      simp [Event.isOpen, Touch.isOpen, Touch.isShared] at he
    · rintro rfl
      simp [Event.isOpen, Touch.isOpen, Touch.isShared] at he
  | repopulate =>
    refine balanced_desk h fun seat => ?_
    rw [Desk.isBusy_eq, Desk.isBusy_eq, Desk.repopulate,
      Desk.hold?_perform_of_isShared fun p hp => repopulation_shared hp]
  | _ => exact balanced_desk h fun _ => rfl

theorem balanced_reachable (h : s.Reachable) : s.Balanced := by
  obtain ⟨store, schedule, ds, es, hes, rfl⟩ := h
  exact play_keeps (fun _ _ hs he => balanced_apply hs he) (balanced_opened store schedule ds) hes

theorem seats_nodup_of_reachable (h : s.Reachable) : s.desk.seats.Nodup := by
  obtain ⟨store, schedule, ds, es, _, rfl⟩ := h
  rw [play_seats]
  exact Desk.seats_nodup_first store schedule ds

theorem outstanding_le_claims (s : Session) (seat : Seat) : s.outstanding seat ≤ s.claims seat :=
  Nat.le_trans (List.countP_mono_left fun _ _ hp => Task.claims_of_awaitsChange hp)
    (Nat.le_add_right _ _)

/-- In every session a control is busy exactly when there is one claim on it, there are never two,
and at most one change of it is asked for at a time. When no task goes on and no claim is held apart
from them, every control is idle. -/
theorem mutual_exclusion (h : s.Reachable) :
    (∀ c ∈ s.desk.controls, (c.busy = true ↔ s.claims c.seat = 1) ∧ s.claims c.seat ≤ 1 ∧
      s.outstanding c.seat ≤ 1) ∧
    ((∀ p ∈ s.tasks, p.2.isFinished = true) → s.held = [] →
      ∀ c ∈ s.desk.controls, c.busy = false) := by
  have hbusy : ∀ c ∈ s.desk.controls, c.busy.toNat = s.claims c.seat := by
    intro c hc
    have hfound := Desk.control?_of_mem (seats_nodup_of_reachable h) hc
    simpa [Desk.isBusy, hfound] using (balanced_reachable h).balance c.seat
  constructor
  · intro c hc
    have hb := hbusy c hc
    have hle := c.busy.toNat_le
    have ho := s.outstanding_le_claims c.seat
    refine ⟨?_, by omega, by omega⟩
    rw [← hb]
    exact Bool.toNat_eq_one.symm
  · intro hfin hheld c hc
    have hb := hbusy c hc
    have hnone : s.tasks.countP (fun p => p.2.claims c.seat) = 0 :=
      List.countP_eq_zero.mpr fun p hp => by
        simp [Task.not_claims_of_isFinished (hfin p hp)]
    rw [claims, hnone, hheld] at hb
    simpa using hb

theorem reachable_sample (es : List Event) (hes : ∀ e ∈ es, e.isOpen) :
    (sample.play es).Reachable :=
  ⟨_, _, _, es, hes, rfl⟩

/-- Two selections of one control, step by step, up to where one waits for an answer. -/
def contention : List Event :=
  [.begin 0 (.select sampleSeat "process"), .begin 1 (.select sampleSeat "cancel"),
    .step 0, .step 0, .step 0, .step 1, .step 1, .step 1, .step 0, .step 1, .step 0, .step 0,
    .step 0]

theorem mutual_exclusion_contention :
    (sample.play contention).outstanding sampleSeat = 1 ∧
    (∀ c ∈ (sample.play contention).desk.controls,
      (c.busy = true ↔ (sample.play contention).claims c.seat = 1) ∧
        (sample.play contention).claims c.seat ≤ 1 ∧
        (sample.play contention).outstanding c.seat ≤ 1) ∧
    ∀ c ∈ (sample.play (contention ++ [.drop 0])).desk.controls, c.busy = false := by
  have hr := reachable_sample contention (by decide)
  have hd := reachable_sample (contention ++ [.drop 0]) (by decide)
  exact ⟨by decide, (mutual_exclusion hr).1, (mutual_exclusion hd).2 (by decide) rfl⟩

end Session
end OrderDesk
