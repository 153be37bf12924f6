import OrderDesk.Proofs.Adoption
import OrderDesk.Proofs.Turn

/-! What a change that was made comes to. A row of operations goes through the controls one by one,
and each control is changed by the operations on its own seat; of those that follow on an answer,
there are some only on the controls that it reports a state for and on the one that asked. -/
namespace OrderDesk

variable {d : Desk} {s : Session} {sel : Selection} {t : Task} {c : Control} {g : Graph}
  {seat : Seat} {seats : List Seat} {page : Nat} {order : OrderId} {response : SetResponse}
  {epoch : Nat} {url : String}

namespace Control

/-- A control after those operations of a row that are on its seat. -/
def undergo (c : Control) (w : List (Seat × Touch)) : Control :=
  w.foldl (fun c p => if c.seat = p.1 then c.touch p.2 else c) c

/-- A control after a change in its order that the backend reports its state for. -/
def updated (c : Control) (g : Graph) (state : String) : Control :=
  { c with
    state := state
    loaded := c.isBound
    choices := if c.isBound then choicesFor (g.actionsFor c.seat.scope state) else c.choices
    hasActions := if c.isBound then !(g.actionsFor c.seat.scope state).isEmpty else c.hasActions
    feedback := some (Feedback.success Feedback.siblingUpdated) }

/-- A control after its own request for a change, which was made. -/
def served (c : Control) : Control :=
  { c with
    busy := false
    progress := false
    epoch := c.epoch + 1
    selected := none
    feedback := some (Feedback.success Feedback.saved) }

/-- A control after a change that the control in a seat asked for: brought up to date when it is on
the same page and a state is reported for it, and served when it is the one that asked. -/
def reconciled (asker : Seat) (response : SetResponse) (g : Graph) (c : Control) : Control :=
  let c :=
    if c.seat.page = asker.page then (response.reports asker.order c.seat).elim c (c.updated g)
    else c
  if c.seat = asker then c.served else c

@[simp] theorem undergo_nil (c : Control) : c.undergo [] = c := rfl

@[simp] theorem undergo_cons (c : Control) (p : Seat × Touch) (w : List (Seat × Touch)) :
    c.undergo (p :: w) = (if c.seat = p.1 then c.touch p.2 else c).undergo w := rfl

theorem undergo_append (c : Control) (v w : List (Seat × Touch)) :
    c.undergo (v ++ w) = (c.undergo v).undergo w := by
  simp [undergo]

@[simp] theorem updated_seat (c : Control) (g : Graph) (state : String) :
    (c.updated g state).seat = c.seat := rfl

/-- To take over a state, to freshen and to tell of it is to be brought up to date. -/
theorem touch_updated (c : Control) (g : Graph) (state : String) :
    ((c.touch (.adopt state)).touch (.freshen g)).touch
      (.tell (Feedback.success Feedback.siblingUpdated)) = c.updated g state := by
  cases hb : c.setUrl <;> simp [touch, updated, derive, permitted, isBound, hb]

/-- The rows of a reconciliation change a control by those for its seat alone. -/
theorem undergo_rows (c : Control) (g : Graph) (rows : List (Scope × Seat × String)) :
    c.undergo (rows.flatMap fun r => [(r.2.1, .adopt r.2.2), (r.2.1, .freshen g),
      (r.2.1, .tell (Feedback.success Feedback.siblingUpdated))]) =
      (rows.filter fun r => r.2.1 = c.seat).foldl (fun c r => c.updated g r.2.2) c := by
  induction rows generalizing c with
  | nil => rfl
  | cons r rows ih =>
    rw [List.flatMap_cons, undergo_append]
    by_cases h : c.seat = r.2.1
    · have hrow : c.undergo [(r.2.1, .adopt r.2.2), (r.2.1, .freshen g),
          (r.2.1, .tell (Feedback.success Feedback.siblingUpdated))] = c.updated g r.2.2 := by
        simpa [h] using c.touch_updated g r.2.2
      rw [hrow, ih]
      simp [h]
    · simp [ih, h, Ne.symm h]

/-- A reconciliation among the controls of a page brings up to date those that a state is reported
for, and no other. -/
theorem undergo_reconciliation (hpage : ∀ other ∈ seats, other.page = page) (c : Control)
    (g : Graph) :
    c.undergo (reconciliation order response seats g) =
      if c.seat ∈ seats then (response.reports order c.seat).elim c (c.updated g) else c := by
  refine (c.undergo_rows g (reconcilable order response seats)).trans ?_
  split
  · next hmem =>
    rw [reconcilable_filter hpage hmem]
    cases response.reports order c.seat <;> rfl
  · next hmem =>
    have hnone : (reconcilable order response seats).filter (fun r => r.2.1 = c.seat) = [] := by
      refine List.filter_eq_nil_iff.mpr fun r hr hc => hmem ?_
      exact of_decide_eq_true hc ▸ (reconcilable_spec hr).1
    rw [hnone]
    rfl

/-- What a selection among the controls of its page does on an answer that reports a change as
made, to each control of the desk. -/
theorem undergo_success (hpage : ∀ other ∈ seats, other.page = seat.page)
    (hmem : c.seat ∈ seats ↔ c.seat.page = seat.page) (response : SetResponse) (g : Graph) :
    c.undergo ((seat, .endProgress) :: (reconciliation seat.order response seats g ++
      [(seat, .unselect), (seat, .tell (Feedback.success Feedback.saved)), (seat, .hideProgress),
        (seat, .release)])) = c.reconciled seat response g := by
  rw [undergo_cons, undergo_append, undergo_reconciliation hpage]
  by_cases hseat : c.seat = seat
  · have hin : c.seat ∈ seats := hmem.mpr (congrArg Seat.page hseat)
    simp only [hseat, if_true, touch_seat, reconciled]
    rw [← hseat] at *
    simp only [hin, if_true]
    cases response.reports c.seat.order c.seat <;> simp <;> rfl
  · by_cases hon : c.seat.page = seat.page
    · have hin : c.seat ∈ seats := hmem.mpr hon
      cases hr : response.reports seat.order c.seat <;> simp [hseat, hin, hon, hr, reconciled]
    · have hout : c.seat ∉ seats := fun h => hon (hmem.mp h)
      simp [hseat, hout, hon, reconciled]

end Control

theorem Desk.perform_eq (d : Desk) (w : List (Seat × Touch)) :
    d.perform w = { d with controls := d.controls.map (·.undergo w) } := by
  induction w generalizing d with
  | nil => simp [perform, Control.undergo]
  | cons p w ih =>
    refine (ih (d.touch p.1 p.2)).trans ?_
    simp [touch, List.map_map, Function.comp_def]

/-- The scopes that a reconciliation among the controls of a page brings up to date, in their order
and each at most once. -/
theorem reconciledScopes_eq (hpage : ∀ other ∈ seats, other.page = page) :
    reconciledScopes order response seats = Scope.all.filter fun scope =>
      (response.reports order ⟨page, order, scope⟩).isSome &&
        decide (⟨page, order, scope⟩ ∈ seats) := by
  have hfind : ∀ scope, (seats.find? fun s => s.order == order && s.scope == scope).isSome =
      decide ((⟨page, order, scope⟩ : Seat) ∈ seats) := by
    intro scope
    rw [Bool.eq_iff_iff, decide_eq_true_iff, List.find?_isSome]
    constructor
    · rintro ⟨found, hm, hkey⟩
      have hp := hpage found hm
      simp only [Bool.and_eq_true, beq_iff_eq] at hkey
      cases found
      simp_all
    · exact fun hm => ⟨_, hm, by simp⟩
  rw [reconciledScopes, reconcilable_eq, List.map_filterMap, ← List.filterMap_eq_filter]
  refine List.filterMap_congr fun scope _ => ?_
  simp only [Option.guard, ← hfind, row, SetResponse.reports, SetResponse.stateFor_eq, if_true]
  cases ((response.rawState scope).map Text.trim).filter fun state => !state.isEmpty with
  | none => rfl
  | some state => cases seats.find? fun s => s.order == order && s.scope == scope <;> rfl

namespace Task

/-- A selection that learns that its change was made, up to its end. -/
theorem settle_success {reply : SetReply} (hs : sel.stage = .conclude epoch (.ok reply))
    (hr : reply.isSuccess = true) :
    (selection sel).settle d =
      (d.perform ((sel.seat, .endProgress) ::
        (reconciliation sel.seat.order reply.body sel.seats d.store.graph ++
          [(sel.seat, .unselect), (sel.seat, .tell (Feedback.success Feedback.saved)),
            (sel.seat, .hideProgress), (sel.seat, .release)])),
        selection (sel.moveTo (.finished (.applied reply.body
          (reconciledScopes sel.seat.order reply.body sel.seats))))) := by
  have hconclude : (selection sel).settle d =
      (selection (sel.moveTo (.survey reply.body))).settle (d.touch sel.seat .endProgress) := by
    rw [settle_step (rests_of_stage hs)]
    simp [step, Selection.step, hs, Selection.verdict, hr]
  rw [hconclude, settle_step rfl]
  refine (settle_perform rfl).trans (Prod.ext ?_ rfl)
  simp only [Desk.perform, List.foldl_cons, List.foldl_append, List.foldl_nil]
  rfl

end Task

namespace Session

/-- When the answer arrives that reports a change as made, and nothing comes between, each control
of the page that it reports a state for takes the state over and offers what the graph of the store
permits there, the control that asked is served, the scopes brought up to date are told in their
order, and all else stays as it was. -/
theorem reconciliation_exact {id : Nat} {action : String} {reply : SetReply}
    (ht : s.task? id =
      some (.selection ⟨seat, action, s.desk.seatsOn seat.page, .sent epoch url⟩))
    (hr : reply.isSuccess = true) :
    s.turn (.answer id (.setState (.ok reply))) = s.put id
      ({ s.desk.stopTimers seat epoch with
          controls := s.desk.controls.map (·.reconciled seat reply.body s.desk.store.graph) },
        .selection ⟨seat, action, s.desk.seatsOn seat.page, .finished (.applied reply.body
          (Scope.all.filter fun scope =>
            (reply.body.reports seat.order ⟨seat.page, seat.order, scope⟩).isSome &&
              decide (⟨seat.page, seat.order, scope⟩ ∈ s.desk.seats)))⟩) := by
  have hmem : ∀ other, other ∈ s.desk.seatsOn seat.page ↔
      other ∈ s.desk.seats ∧ other.page = seat.page := by
    simp [Desk.seatsOn_eq]
  have hpage : ∀ other ∈ s.desk.seatsOn seat.page, other.page = seat.page :=
    fun other ho => ((hmem other).mp ho).2
  rw [turn_answer ht]
  congr 1
  refine (Task.settle_success rfl hr).trans (Prod.ext ?_ ?_)
  · rw [Desk.perform_eq]
    refine congrArg (fun cs => { s.desk.stopTimers seat epoch with controls := cs }) ?_
    refine List.map_congr_left fun c hc => Control.undergo_success hpage ?_ reply.body _
    exact (hmem c.seat).trans ⟨And.right, fun h => ⟨List.mem_map_of_mem hc, h⟩⟩
  · have hscopes : reconciledScopes seat.order reply.body (s.desk.seatsOn seat.page) = _ :=
      reconciledScopes_eq hpage
    simp only [hmem, and_true] at hscopes
    rw [← hscopes]
    rfl

/-- A change of the order that is reported as made, with a state for the payment as well. -/
def acceptance : Event :=
  .answer 0 (.setState (.ok ⟨200, ⟨true, some " ", some " paid ", some "shipped", none⟩⟩))

theorem reconciliation_exact_acceptance :
    (((sample.turns [.begin 0 (.select sampleSeat "process")]).turn acceptance).desk.controls.map
      fun c => (c.state, c.busy, c.feedback)) =
        [("open", false, some (Feedback.success Feedback.saved)),
          ("paid", false, some (Feedback.success Feedback.siblingUpdated))] := by
  have ht : (sample.turns [.begin 0 (.select sampleSeat "process")]).task? 0 =
      some (.selection ⟨sampleSeat, "process", (sample.turns
        [.begin 0 (.select sampleSeat "process")]).desk.seatsOn 0, .sent 1 "/set-order"⟩) := rfl
  rw [acceptance, reconciliation_exact ht rfl]
  decide

end Session
end OrderDesk
