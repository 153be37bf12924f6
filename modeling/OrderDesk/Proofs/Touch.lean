import OrderDesk.Desk

/-! Operations on controls, and the part of a control that belongs to the request that holds it. -/
namespace OrderDesk

variable {c : Control} {d e : Desk} {h : Hold} {seat other : Seat} {t : Touch}

/-- An operation that may come from any request, whoever holds the control. -/
def Touch.isShared : Touch → Bool
  | .populate _ | .freshen _ | .adopt _ | .tell _ | .progress _ _ => true
  | _ => false

/-- An operation that moves neither the claim on a control nor its progress indicator. -/
def Touch.isOpen : Touch → Bool
  | .select _ | .unselect => true
  | t => t.isShared

/-- An operation on the progress indicator itself. -/
def Touch.movesProgress : Touch → Bool
  | .beginProgress _ | .endProgress | .hideProgress => true
  | _ => false

theorem Touch.not_movesProgress_of_isOpen (h : t.isOpen) : t.movesProgress = false := by
  cases t <;> simp_all [Touch.movesProgress, Touch.isOpen, Touch.isShared]

theorem Touch.ne_claim_of_isShared (h : t.isShared) : t ≠ .claim := by
  rintro rfl
  simp [Touch.isShared] at h

theorem Touch.ne_release_of_isShared (h : t.isShared) : t ≠ .release := by
  rintro rfl
  simp [Touch.isShared] at h

/-- What belongs to the request that holds a control. -/
structure Hold where
  busy : Bool
  selected : Option String
  progress : Bool
  epoch : Nat

namespace Hold

/-- What an operation on a control does to the part that belongs to a request. -/
def touch (h : Hold) : Touch → Hold
  | .select action => { h with selected := some action }
  | .unselect => { h with selected := none }
  | .beginProgress _ => { h with progress := true, epoch := h.epoch + 1 }
  | .endProgress => { h with epoch := h.epoch + 1 }
  | .hideProgress => { h with progress := false }
  | .claim => { h with busy := true }
  | .release => { h with busy := false }
  | _ => h

theorem touch_of_isShared (ht : t.isShared) : h.touch t = h := by
  cases t <;> simp_all [touch, Touch.isShared]

theorem touch_of_not_movesProgress (ht : t.movesProgress = false) :
    (h.touch t).progress = h.progress ∧ (h.touch t).epoch = h.epoch := by
  cases t <;> simp_all [touch, Touch.movesProgress]

theorem epoch_le_touch (h : Hold) (t : Touch) : h.epoch ≤ (h.touch t).epoch := by
  cases t <;> simp [touch]

end Hold

namespace Control

/-- The part of a control that belongs to the request that holds it. -/
def hold (c : Control) : Hold := ⟨c.busy, c.selected, c.progress, c.epoch⟩

@[simp] theorem touch_seat (c : Control) (t : Touch) : (c.touch t).seat = c.seat := by
  cases t <;> simp [touch, derive, apply_ite Control.seat]

@[simp] theorem touch_setUrl (c : Control) (t : Touch) : (c.touch t).setUrl = c.setUrl := by
  cases t <;> simp [touch, derive, apply_ite Control.setUrl]

/-- That part goes its own way, whatever becomes of the rest. -/
@[simp] theorem hold_touch (c : Control) (t : Touch) : (c.touch t).hold = c.hold.touch t := by
  cases t <;> simp [touch, derive, hold, Hold.touch, apply_ite Control.busy,
    apply_ite Control.selected, apply_ite Control.progress, apply_ite Control.epoch]

end Control

namespace Desk

/-- A desk whose controls come from those of another by a row of operations. -/
def Touched (d e : Desk) : Prop := ∃ w, e.controls = (d.perform w).controls

theorem perform_append (d : Desk) (v w : List (Seat × Touch)) :
    d.perform (v ++ w) = (d.perform v).perform w := by
  simp [perform]

theorem perform_congr (h : d.controls = e.controls) (w : List (Seat × Touch)) :
    (d.perform w).controls = (e.perform w).controls := by
  induction w generalizing d e with
  | nil => exact h
  | cons p w ih => exact ih (by simp [touch, h])

theorem Touched.of_eq (h : e.controls = d.controls) : d.Touched e := ⟨[], h⟩

theorem Touched.touch (d : Desk) (seat : Seat) (t : Touch) : d.Touched (d.touch seat t) :=
  ⟨[(seat, t)], rfl⟩

theorem Touched.trans {f : Desk} (hd : d.Touched e) (he : e.Touched f) : d.Touched f := by
  obtain ⟨v, hv⟩ := hd
  obtain ⟨w, hw⟩ := he
  exact ⟨v ++ w, by rw [perform_append, hw, perform_congr hv]⟩

/-- The part of the control in a seat that belongs to the request that holds it. -/
def hold? (d : Desk) (seat : Seat) : Option Hold := (d.control? seat).map (·.hold)

theorem control?_congr (h : d.controls = e.controls) (seat : Seat) :
    d.control? seat = e.control? seat := by
  simp [control?, h]

theorem isBusy_congr (h : d.controls = e.controls) (seat : Seat) :
    d.isBusy seat = e.isBusy seat := by
  simp [isBusy, control?_congr h]

theorem hold?_congr (h : d.controls = e.controls) (seat : Seat) : d.hold? seat = e.hold? seat := by
  simp [hold?, control?_congr h]

theorem isBusy_eq (d : Desk) (seat : Seat) : d.isBusy seat = (d.hold? seat).any (·.busy) := by
  simp only [isBusy, hold?, Option.any_map]
  rfl

theorem seat_of_control? (h : d.control? seat = some c) : c.seat = seat := by
  simpa using List.find?_some h

theorem control?_touch (d : Desk) (seat other : Seat) (t : Touch) :
    (d.touch seat t).control? other =
      (d.control? other).map fun c => if seat = other then c.touch t else c := by
  have hp : ((fun c : Control => c.seat == other) ∘
      fun c => if c.seat = seat then c.touch t else c) = fun c => c.seat == other := by
    funext c
    by_cases h : c.seat = seat <;> simp [h]
  simp only [control?, touch, List.find?_map, hp]
  apply Option.map_congr
  intro c hc
  have : c.seat = other := seat_of_control? hc
  simp [this, eq_comm]

@[simp] theorem hold?_touch (d : Desk) (seat other : Seat) (t : Touch) :
    (d.touch seat t).hold? other =
      if seat = other then (d.hold? other).map (·.touch t) else d.hold? other := by
  by_cases h : seat = other
  · simp [hold?, control?_touch, h, Function.comp_def]
  · simp [hold?, control?_touch, h]

@[simp] theorem hold?_ask (d : Desk) (q : Question) : (d.ask q).hold? seat = d.hold? seat := rfl

@[simp] theorem hold?_startTimers (d : Desk) (at' : Seat) (epoch : Nat) :
    (d.startTimers at' epoch).hold? seat = d.hold? seat := rfl

/-- The epoch of progress of the control in a seat. -/
def epochAt (d : Desk) (seat : Seat) : Nat := (d.hold? seat).elim 0 (·.epoch)

/-- Epochs only ever go up. -/
theorem Touched.epochAt_le (h : d.Touched e) (seat : Seat) : d.epochAt seat ≤ e.epochAt seat := by
  obtain ⟨w, hw⟩ := h
  rw [epochAt, epochAt, hold?_congr hw]
  clear hw
  induction w generalizing d with
  | nil => exact Nat.le_refl _
  | cons p w ih =>
    refine Nat.le_trans ?_ (ih (d := d.touch p.1 p.2))
    rw [hold?_touch]
    split
    · cases d.hold? seat with
      | none => exact Nat.le_refl _
      | some h => exact h.epoch_le_touch p.2
    · exact Nat.le_refl _

theorem hold?_touch_of_isShared (ht : t.isShared) :
    (d.touch seat t).hold? other = d.hold? other := by
  have hid : (fun h : Hold => h.touch t) = id := funext fun h => Hold.touch_of_isShared ht
  simp [hid]

theorem hold?_perform_of_isShared {w : List (Seat × Touch)} (hw : ∀ p ∈ w, p.2.isShared) :
    (d.perform w).hold? seat = d.hold? seat := by
  induction w generalizing d with
  | nil => rfl
  | cons p w ih =>
    change ((d.touch p.1 p.2).perform w).hold? seat = _
    rw [ih fun q hq => hw q (List.mem_cons_of_mem p hq)]
    exact hold?_touch_of_isShared (hw p List.mem_cons_self)

/-- Only a claim or a release changes whether a control is busy. -/
theorem isBusy_touch (hc : t ≠ .claim) (hr : t ≠ .release) :
    (d.touch seat t).isBusy other = d.isBusy other := by
  simp only [isBusy_eq, hold?_touch]
  split
  · simp only [Option.any_map]
    congr 1
    funext h
    cases t <;> simp_all [Hold.touch]
  · rfl

theorem isBusy_touch_claim (d : Desk) (seat other : Seat) :
    (d.touch seat .claim).isBusy other =
      if seat = other then (d.hold? other).isSome else d.isBusy other := by
  by_cases h : seat = other
  · cases hh : d.hold? other <;> simp [isBusy_eq, h, hh, Hold.touch]
  · simp [isBusy_eq, h]

theorem isBusy_touch_release (d : Desk) (seat other : Seat) :
    (d.touch seat .release).isBusy other = if seat = other then false else d.isBusy other := by
  by_cases h : seat = other
  · cases hh : d.hold? other <;> simp [isBusy_eq, h, hh, Hold.touch]
  · simp [isBusy_eq, h]

end Desk
end OrderDesk
