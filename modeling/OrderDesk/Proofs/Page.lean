import Mathlib.Data.List.Nodup
import OrderDesk.Proofs.Run

/-! The controls of a page: one for each order and scope that is described first, and the same ones
for as long as the desk is there. -/
namespace OrderDesk

variable {d : Desk} {c : Control} {seat : Seat} {taken : List (OrderId × Scope)}
  {ds : List Descriptor} {x : Descriptor}

namespace Control

@[simp] theorem bind_seat (g : Graph) (page : Nat) (x : Descriptor) :
    (bind g page x).seat = ⟨page, x.order, x.scope⟩ := by
  simp only [bind]
  split <;> rfl

theorem bind_setUrl (g : Graph) (page : Nat) (x : Descriptor) :
    (bind g page x).setUrl = x.setUrl := by
  simp only [bind]
  split <;> rfl

theorem bind_state (g : Graph) (page : Nat) (x : Descriptor) :
    (bind g page x).state = x.state := by
  simp only [bind]
  split <;> rfl

end Control

namespace Desk

/-- The seats of all controls at a desk. -/
def seats (d : Desk) : List Seat := d.controls.map (·.seat)

/-- The endpoint of the control in a seat. -/
def setUrl? (d : Desk) (seat : Seat) : Option String := (d.control? seat).bind (·.setUrl)

theorem seats_congr {e : Desk} (h : d.controls = e.controls) : d.seats = e.seats := by
  simp [seats, h]

/-- What no operation changes in a control is the same in each control after a row of them. -/
theorem Touched.map_controls_eq {α : Type} {f : Control → α} {e : Desk} (h : d.Touched e)
    (hf : ∀ c t, f (Control.touch c t) = f c) : e.controls.map f = d.controls.map f := by
  obtain ⟨w, hw⟩ := h
  rw [hw]
  clear hw
  induction w generalizing d with
  | nil => rfl
  | cons p w ih =>
    refine (ih (d := d.touch p.1 p.2)).trans ?_
    rw [Desk.touch, List.map_map]
    refine List.map_congr_left fun c _ => ?_
    by_cases hc : c.seat = p.1
    · simp [hc, hf]
    · simp [hc]

theorem Touched.seats_eq {e : Desk} (h : d.Touched e) : e.seats = d.seats :=
  h.map_controls_eq Control.touch_seat

theorem seatsOn_eq (d : Desk) (page : Nat) : d.seatsOn page = d.seats.filter (·.page == page) := by
  simp only [seatsOn, controlsOn, seats, List.filter_map]
  rfl

/-- With one control to a seat, each is found in its own. -/
theorem control?_of_mem (hn : d.seats.Nodup) (hc : c ∈ d.controls) :
    d.control? c.seat = some c := by
  obtain ⟨before, after, h⟩ := List.append_of_mem hc
  rw [control?, List.find?_eq_some_iff_append]
  refine ⟨by simp, before, after, h, ?_⟩
  intro b hb
  simp only [seats, h, List.map_append, List.map_cons] at hn
  have hne := (List.nodup_cons.mp (List.nodup_middle.mp hn)).1
  have hbc : b.seat ≠ c.seat := fun he =>
    hne (List.mem_append_left _ (List.mem_map.mpr ⟨b, hb, he⟩))
  simpa using hbc

theorem exists_control_iff : (∃ c, d.control? seat = some c) ↔ seat ∈ d.seats := by
  constructor
  · rintro ⟨c, hc⟩
    exact List.mem_map.mpr ⟨c, List.mem_of_find?_eq_some hc, seat_of_control? hc⟩
  · intro h
    obtain ⟨c, hc, rfl⟩ := List.mem_map.mp h
    cases hf : d.control? c.seat with
    | some c' => exact ⟨c', rfl⟩
    | none => exact absurd (List.find?_eq_none.mp hf c hc) (by simp)

/-- Of the descriptors of one order and scope, only the first is left, and none that is taken. -/
theorem firstOfEach_unique (taken : List (OrderId × Scope)) (ds : List Descriptor) :
    ((firstOfEach taken ds).map fun x => (x.order, x.scope)).Nodup ∧
      ∀ x ∈ firstOfEach taken ds, (x.order, x.scope) ∉ taken := by
  induction ds generalizing taken with
  | nil => simp [firstOfEach]
  | cons y ds ih =>
    by_cases hy : (y.order, y.scope) ∈ taken
    · simpa [firstOfEach, hy] using ih taken
    · obtain ⟨hn, hfresh⟩ := ih ((y.order, y.scope) :: taken)
      simp only [firstOfEach, hy, if_false, List.map_cons, List.nodup_cons, List.mem_map,
        List.mem_cons]
      refine ⟨⟨?_, hn⟩, ?_⟩
      · rintro ⟨x, hx, he⟩
        exact hfresh x hx (by simp [he])
      · rintro x (rfl | hx)
        · exact hy
        · exact fun h => hfresh x hx (List.mem_cons_of_mem _ h)

/-- So they have seats of their own on one page. -/
theorem firstOfEach_seats_nodup (ds : List Descriptor) (page : Nat) :
    ((firstOfEach [] ds).map fun x => (⟨page, x.order, x.scope⟩ : Seat)).Nodup := by
  refine List.Nodup.of_map (fun s : Seat => (s.order, s.scope)) ?_
  rw [List.map_map]
  exact (firstOfEach_unique [] ds).1

theorem seats_bindPage (d : Desk) (ds : List Descriptor) :
    (d.bindPage ds).seats =
      d.seats ++ (firstOfEach [] ds).map fun x => ⟨d.pages, x.order, x.scope⟩ := by
  simp only [seats, bindPage, List.map_append, List.map_map]
  congr 1
  exact List.map_congr_left fun x _ => Control.bind_seat d.store.graph d.pages x

theorem seats_bindPage_first (store : Store) (schedule : Schedule) (ds : List Descriptor) :
    (Desk.bindPage { store, schedule } ds).seats =
      (firstOfEach [] ds).map fun x => ⟨0, x.order, x.scope⟩ := by
  simpa [seats] using seats_bindPage { store, schedule } ds

theorem seats_nodup_first (store : Store) (schedule : Schedule) (ds : List Descriptor) :
    (Desk.bindPage { store, schedule } ds).seats.Nodup := by
  rw [seats_bindPage_first]
  exact firstOfEach_seats_nodup ds 0

end Desk

/-- A control that is there stays there. -/
theorem Desk.Touched.exists_control {e : Desk} (h : d.Touched e) (hc : d.control? seat = some c) :
    ∃ c', e.control? seat = some c' := by
  rw [Desk.exists_control_iff, h.seats_eq, ← Desk.exists_control_iff]
  exact ⟨c, hc⟩

/-- A control keeps its endpoint. -/
theorem Desk.Touched.setUrl?_eq {e : Desk} (h : d.Touched e) (seat : Seat) :
    e.setUrl? seat = d.setUrl? seat := by
  obtain ⟨w, hw⟩ := h
  rw [Desk.setUrl?, Desk.control?_congr hw]
  clear hw
  induction w generalizing d with
  | nil => rfl
  | cons p w ih =>
    refine (ih (d := d.touch p.1 p.2)).trans ?_
    rw [Desk.setUrl?, Desk.control?_touch, Desk.setUrl?]
    cases d.control? seat with
    | none => rfl
    | some c =>
      by_cases hseat : p.1 = seat
      · simp [hseat]
      · simp [hseat]

/-- A selection that holds its control after a step has found it there. -/
theorem Selection.Step.seat_mem {s : Selection} {d' : Desk} {g : Stage}
    (h : Selection.Step d s d' g)
    (hs : s.holdsClaim = true → s.seat ∈ d.seats) (hc : (s.moveTo g).holdsClaim = true) :
    s.seat ∈ d.seats := by
  cases hb : s.holdsClaim with
  | true => exact hs hb
  | false =>
    cases h with
    | claim _ hi =>
      obtain ⟨k, hk⟩ := Option.isSome_iff_exists.mp (Selection.ignored?_eq_none hi).1
      obtain ⟨c, hc, -⟩ := Option.map_eq_some_iff.mp hk
      exact Desk.exists_control_iff.mp ⟨c, hc⟩
    | _ => simp_all [Selection.holdsClaim]

/-- Nothing that happens in a session puts a control in place or takes one away. -/
theorem Session.play_seats (s : Session) (es : List Event) :
    (s.play es).desk.seats = s.desk.seats :=
  (s.play_touched es).seats_eq

end OrderDesk
