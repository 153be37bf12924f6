import OrderDesk.Control
import OrderDesk.Store

/-!
A desk: the store, the controls of all pages that were bound, the texts of progress that are still
to come, and every question that was asked of the backend.
-/
namespace OrderDesk

/-- A text of progress that a request left to be told later. -/
structure Timer where
  seat : Seat
  epoch : Nat
  due : Nat
  text : String
  deriving DecidableEq, Repr

/-- The texts of progress and the times after which they are told, in milliseconds. -/
abbrev Schedule := List (Nat × String)

namespace Schedule

/-- The schedule that tells nothing. -/
def none : Schedule := []

/-- The usual schedule. -/
def usual : Schedule := [
  (250, "Status wird an Shopware gesendet…"),
  (900, "Auf Antwort von Shopware warten…"),
  (1700, "Lokalen Status aktualisieren…")]

end Schedule

/-- A desk. -/
structure Desk where
  store : Store
  schedule : Schedule
  controls : List Control := []
  timers : List Timer := []
  questions : List Question := []
  /-- The time in milliseconds. -/
  now : Nat := 0
  /-- The number of pages that were bound. The last one is the present one. -/
  pages : Nat := 0
  deriving DecidableEq

namespace Desk

/-- The control in a seat. -/
def control? (d : Desk) (seat : Seat) : Option Control :=
  d.controls.find? fun c => c.seat == seat

/-- Whether a control is busy. -/
def isBusy (d : Desk) (seat : Seat) : Bool :=
  (d.control? seat).any (·.busy)

/-- The desk after an operation on the control in a seat. -/
def touch (d : Desk) (seat : Seat) (t : Touch) : Desk :=
  { d with controls := d.controls.map fun c => if c.seat = seat then c.touch t else c }

/-- The desk after a row of operations. -/
def perform (d : Desk) (ts : List (Seat × Touch)) : Desk :=
  ts.foldl (fun d t => d.touch t.1 t.2) d

/-- The number of the present page. -/
def page (d : Desk) : Nat := d.pages - 1

/-- The controls of a page, in the order in which they were bound. -/
def controlsOn (d : Desk) (page : Nat) : List Control :=
  d.controls.filter fun c => c.seat.page == page

/-- The seats of a page. -/
def seatsOn (d : Desk) (page : Nat) : List Seat :=
  (d.controlsOn page).map (·.seat)

/-- The views of the present page. -/
def views (d : Desk) : List View :=
  (d.controlsOn d.page).map (·.view)

/-- The descriptors of which each is the first for its order and scope, when those of `taken` are
taken. -/
def firstOfEach (taken : List (OrderId × Scope)) : List Descriptor → List Descriptor
  | [] => []
  | d :: rest =>
    if (d.order, d.scope) ∈ taken then firstOfEach taken rest
    else d :: firstOfEach ((d.order, d.scope) :: taken) rest

/-- Binds a new page with one control for each order and scope that is described. -/
def bindPage (d : Desk) (descriptors : List Descriptor) : Desk :=
  { d with
    controls := d.controls ++
      (firstOfEach [] descriptors).map (Control.bind d.store.graph d.pages)
    pages := d.pages + 1 }

/-- The seat of an order and scope on a page, if a control was bound for it. -/
def seat? (d : Desk) (page : Nat) (order : OrderId) (scope : Scope) : Option Seat :=
  (d.seatsOn page).find? fun s => s.order == order && s.scope == scope

/-- The seats of an order on a page. -/
def siblings (d : Desk) (page : Nat) (order : OrderId) : List Seat :=
  (d.seatsOn page).filter fun s => s.order == order

/-- Asks a question of the backend. -/
def ask (d : Desk) (q : Question) : Desk :=
  { d with questions := d.questions ++ [q] }

/-- Leaves the texts of the schedule to be told to a control in an epoch of its progress. -/
def startTimers (d : Desk) (seat : Seat) (epoch : Nat) : Desk :=
  { d with
    timers := d.timers ++ d.schedule.map fun step => ⟨seat, epoch, d.now + step.1, step.2⟩ }

/-- Takes back the texts that were left for an epoch of a control. -/
def stopTimers (d : Desk) (seat : Seat) (epoch : Nat) : Desk :=
  { d with timers := d.timers.filter fun t => !(t.seat == seat && t.epoch == epoch) }

/-- Tells the text of a timer, which is then spent. -/
def fire (d : Desk) (t : Timer) : Desk :=
  { d.touch t.seat (.progress t.epoch t.text) with timers := d.timers.erase t }

/-- Claims a control for one request, unless another request holds it. -/
def claim? (d : Desk) (seat : Seat) : Option Desk :=
  if (d.control? seat).isSome && !d.isBusy seat then some (d.touch seat .claim) else none

/-- The operations that bring the idle controls of a page up to date with the graph. -/
def repopulation (d : Desk) (page : Nat) : List (Seat × Touch) :=
  ((d.controlsOn page).filter fun c => !c.busy).map fun c => (c.seat, .populate d.store.graph)

/-- Brings the idle controls of the present page up to date with the graph. -/
def repopulate (d : Desk) : Desk :=
  d.perform (d.repopulation d.page)

end Desk

/-- The scopes that a response reports a state for and that have a control among the seats, each
with its seat and state. -/
def reconcilable (order : OrderId) (response : SetResponse) (seats : List Seat) :
    List (Scope × Seat × String) :=
  Scope.all.filterMap fun scope => do
    let state ← response.stateFor scope
    let seat ← seats.find? fun s => s.order == order && s.scope == scope
    some (scope, seat, state)

/-- The operations that bring the controls of an order up to date with a response. -/
def reconciliation (order : OrderId) (response : SetResponse) (seats : List Seat) (g : Graph) :
    List (Seat × Touch) :=
  (reconcilable order response seats).flatMap fun (_, seat, state) =>
    [(seat, .adopt state), (seat, .freshen g),
      (seat, .tell (Feedback.success Feedback.siblingUpdated))]

/-- The scopes that a response brings up to date. -/
def reconciledScopes (order : OrderId) (response : SetResponse) (seats : List Seat) : List Scope :=
  (reconcilable order response seats).map (·.1)

end OrderDesk
