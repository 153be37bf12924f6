import OrderDesk.Proofs.Page

/-! The states that controls show. Only one operation changes the state of a control, and only the
response to a change brings that operation about. -/
namespace OrderDesk

variable {d e : Desk} {seat other : Seat} {seats : List Seat} {page : Nat} {t : Touch}
  {order : OrderId} {response : SetResponse}

/-- The state that a control takes over by an operation, if it does. -/
def Touch.state? : Touch → Option String
  | .adopt state => some state
  | _ => none

theorem Control.state_touch (c : Control) (t : Touch) :
    (c.touch t).state = t.state?.getD c.state := by
  cases t <;> simp [touch, derive, Touch.state?, apply_ite Control.state]

/-- The state that a response to a change in some order reports for the control in a seat: what is
left of its text without the blanks around, if anything is. -/
def SetResponse.reports (r : SetResponse) (order : OrderId) (seat : Seat) : Option String :=
  if order = seat.order then
    ((r.rawState seat.scope).map Text.trim).filter fun state => !state.isEmpty
  else none

theorem SetResponse.stateFor_eq (r : SetResponse) (scope : Scope) :
    r.stateFor scope = ((r.rawState scope).map Text.trim).filter fun state => !state.isEmpty := by
  cases h : r.rawState scope with
  | none => simp [stateFor, h]
  | some raw => simp [stateFor, h, Text.nonBlank?, Option.filter]

@[simp] theorem map_getD_none (state : Option String) :
    state.map (none : Option String).getD = state := by
  cases state <;> rfl

namespace Desk

/-- The state that the control in a seat shows. -/
def stateAt (d : Desk) (seat : Seat) : Option String := (d.control? seat).map (·.state)

theorem stateAt_congr (h : d.controls = e.controls) (seat : Seat) :
    d.stateAt seat = e.stateAt seat := by
  simp [stateAt, control?_congr h]

theorem stateAt_touch (d : Desk) (seat other : Seat) (t : Touch) :
    (d.touch seat t).stateAt other =
      if seat = other then (d.stateAt other).map t.state?.getD else d.stateAt other := by
  by_cases h : seat = other
  · simp [stateAt, control?_touch, h, Function.comp_def, Control.state_touch]
  · simp [stateAt, control?_touch, h]

theorem stateAt_touch_of_none (ht : t.state? = none) :
    (d.touch seat t).stateAt other = d.stateAt other := by
  simp [stateAt_touch, ht]

theorem stateAt_perform_of_none {w : List (Seat × Touch)} (hw : ∀ p ∈ w, p.2.state? = none) :
    (d.perform w).stateAt seat = d.stateAt seat := by
  induction w generalizing d with
  | nil => rfl
  | cons p w ih =>
    have hrest := ih (d := d.touch p.1 p.2) fun q hq => hw q (List.mem_cons_of_mem p hq)
    exact hrest.trans (stateAt_touch_of_none (hw p List.mem_cons_self))

theorem repopulation_state? {p : Seat × Touch} (h : p ∈ d.repopulation page) :
    p.2.state? = none := by
  obtain ⟨c, -, rfl⟩ := List.mem_map.mp h
  rfl

/-- The rows of a reconciliation leave a control with the state of the last row for it. -/
theorem stateAt_perform_rows (rows : List (Scope × Seat × String)) (g : Graph) (f : Feedback) :
    (d.perform (rows.flatMap fun r =>
      [(r.2.1, .adopt r.2.2), (r.2.1, .freshen g), (r.2.1, .tell f)])).stateAt seat =
      (d.stateAt seat).map
        (((rows.filter fun r => r.2.1 = seat).getLast?.map (·.2.2)).getD) := by
  induction rows generalizing d with
  | nil => simp [perform]
  | cons r rows ih =>
    rw [List.flatMap_cons, perform_append, ih]
    have hrow : (d.perform [(r.2.1, .adopt r.2.2), (r.2.1, .freshen g), (r.2.1, .tell f)]).stateAt
        seat = (d.touch r.2.1 (.adopt r.2.2)).stateAt seat := by
      simp only [perform, List.foldl_cons, List.foldl_nil]
      rw [stateAt_touch_of_none rfl, stateAt_touch_of_none rfl]
    rw [hrow, stateAt_touch]
    by_cases h : r.2.1 = seat
    · simp only [h, if_true, Option.map_map, List.filter_cons, decide_true, List.getLast?_cons,
        Option.map_some, Touch.state?]
      congr 1
      funext st
      cases (rows.filter fun r => r.2.1 = seat).getLast? <;> simp
    · simp [h]

/-- All controls are on the first page. -/
def Single (d : Desk) : Prop := ∀ seat ∈ d.seats, seat.page = 0

end Desk

/-- Among the seats of a page, the first one of an order and scope is the only one. -/
theorem find?_seat (hpage : ∀ other ∈ seats, other.page = page) (hseat : seat ∈ seats) :
    seats.find? (fun s => s.order == seat.order && s.scope == seat.scope) = some seat := by
  cases hf : seats.find? (fun s => s.order == seat.order && s.scope == seat.scope) with
  | none => simpa using List.find?_eq_none.mp hf seat hseat
  | some found =>
    have hkey := List.find?_some hf
    have hsame := (hpage found (List.mem_of_find?_eq_some hf)).trans (hpage seat hseat).symm
    simp only [Bool.and_eq_true, beq_iff_eq] at hkey
    cases found
    cases seat
    simp_all

/-- The row for a scope, if a state is reported for it and a control is there to take it over. -/
def row (order : OrderId) (response : SetResponse) (seats : List Seat) (scope : Scope) :
    Option (Scope × Seat × String) :=
  (response.stateFor scope).bind fun state =>
    (seats.find? fun s => s.order == order && s.scope == scope).map fun seat => (scope, seat, state)

theorem reconcilable_eq (order : OrderId) (response : SetResponse) (seats : List Seat) :
    reconcilable order response seats = Scope.all.filterMap (row order response seats) := by
  rw [reconcilable]
  congr 1
  funext scope
  rw [row]
  cases response.stateFor scope with
  | none => rfl
  | some state => cases seats.find? fun s => s.order == order && s.scope == scope <;> rfl

theorem row_filter (hpage : ∀ other ∈ seats, other.page = page) (hseat : seat ∈ seats)
    (scope : Scope) :
    ((row order response seats scope).filter fun r => r.2.1 = seat) =
      if scope = seat.scope then (response.reports order seat).map fun v => (scope, seat, v)
      else none := by
  by_cases hkey : order = seat.order ∧ scope = seat.scope
  · obtain ⟨rfl, rfl⟩ := hkey
    have hfind := find?_seat hpage hseat
    simp only [row, hfind, Option.map_some, if_true, SetResponse.reports, SetResponse.stateFor_eq]
    cases ((response.rawState seat.scope).map Text.trim).filter fun state => !state.isEmpty <;>
      simp
  · have hright : (if scope = seat.scope then
        (response.reports order seat).map fun v => (scope, seat, v) else none) = none := by
      by_cases hscope : scope = seat.scope
      · have horder : order ≠ seat.order := fun h => hkey ⟨h, hscope⟩
        simp [SetResponse.reports, horder]
      · simp [hscope]
    rw [hright]
    cases hstate : response.stateFor scope with
    | none => simp [row, hstate]
    | some state =>
      cases hf : seats.find? fun s => s.order == order && s.scope == scope with
      | none => simp [row, hstate, hf]
      | some found =>
        have hfound := List.find?_some hf
        simp only [Bool.and_eq_true, beq_iff_eq] at hfound
        have hne : found ≠ seat := by
          rintro rfl
          exact hkey ⟨hfound.1.symm, hfound.2.symm⟩
        simp [row, hstate, hf, hne]

/-- Of the rows for a response, the only one for a control of the page has the state that is
reported. -/
theorem reconcilable_filter (hpage : ∀ other ∈ seats, other.page = page) (hseat : seat ∈ seats) :
    (reconcilable order response seats).filter (fun r => r.2.1 = seat) =
      (response.reports order seat).toList.map fun v => (seat.scope, seat, v) := by
  rw [reconcilable_eq, List.filter_filterMap]
  simp only [row_filter hpage hseat]
  cases seat.scope <;> cases response.reports order seat <;> simp [Scope.all]

/-- Each row is for one of the seats, and brings it a state that is reported for it. -/
theorem reconcilable_spec {r : Scope × Seat × String} (h : r ∈ reconcilable order response seats) :
    r.2.1 ∈ seats ∧ response.reports order r.2.1 = some r.2.2 := by
  rw [reconcilable_eq] at h
  obtain ⟨scope, -, hrow⟩ := List.mem_filterMap.mp h
  obtain ⟨state, hstate, hrow⟩ := Option.bind_eq_some_iff.mp hrow
  obtain ⟨found, hfound, rfl⟩ := Option.map_eq_some_iff.mp hrow
  have hkey := List.find?_some hfound
  simp only [Bool.and_eq_true, beq_iff_eq] at hkey
  refine ⟨List.mem_of_find?_eq_some hfound, ?_⟩
  rw [SetResponse.reports, if_pos hkey.1.symm, hkey.2, ← SetResponse.stateFor_eq, hstate]

namespace Desk

/-- A reconciliation leaves each control with the state that is reported for it. -/
theorem stateAt_reconciliation (hs : d.Single) (hseat : seat ∈ d.seats) (g : Graph) :
    (d.perform (reconciliation order response d.seats g)).stateAt seat =
      (d.stateAt seat).map (response.reports order seat).getD := by
  refine (stateAt_perform_rows _ g _).trans ?_
  rw [reconcilable_filter hs hseat]
  cases response.reports order seat <;> rfl

end Desk
end OrderDesk
