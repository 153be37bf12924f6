import OrderDesk.Feedback
import OrderDesk.Graph
import OrderDesk.Label

/-!
A control: what an operator sees and touches of one scope of one order. A control without an
endpoint is bound to nothing and only shows its state.

Each step that another activity may come between is one operation, so that a run of a desk is a
row of operations on its controls.
-/
namespace OrderDesk

/-- What a page says about a control. -/
structure Descriptor where
  order : OrderId
  scope : Scope
  state : String
  setUrl : Option String := none
  deriving DecidableEq, Repr, Inhabited

/-- An entry of the list that an operator chooses from. The first entry has no action. -/
structure Choice where
  action : String
  label : String
  deriving DecidableEq, Repr, Inhabited

/-- Which control: its page, counted from the first one that was bound, and its order and scope
there. -/
structure Seat where
  page : Nat
  order : OrderId
  scope : Scope
  deriving DecidableEq, Repr, Inhabited

/-- A control. -/
structure Control where
  seat : Seat
  setUrl : Option String
  busy : Bool := false
  state : String
  /-- Whether the choices were derived for the present state. -/
  loaded : Bool := false
  hasActions : Bool := false
  choices : List Choice := []
  selected : Option String := none
  feedback : Option Feedback := none
  progress : Bool := false
  /-- Counts the openings and closings of the progress indicator. -/
  epoch : Nat := 0
  deriving DecidableEq, Repr, Inhabited

/-- What an operator sees of a control. -/
structure View where
  order : OrderId
  scope : Scope
  state : String
  label : String
  choices : List Choice
  selectable : Bool
  busy : Bool
  progress : Bool
  selected : Option String
  feedback : Option Feedback
  deriving DecidableEq, Repr, Inhabited

/-- The actions on offer, which are the choices but the first. -/
def View.actions (v : View) : List String :=
  (v.choices.map (·.action)).filter fun a => !a.isEmpty

/-- An operation on a control. -/
inductive Touch where
  /-- Derives the choices from a graph. -/
  | populate (graph : Graph)
  /-- Derives the choices from a graph if they are not those of the present state. -/
  | freshen (graph : Graph)
  /-- Takes over a state that the backend reports. -/
  | adopt (state : String)
  | tell (feedback : Feedback)
  | select (action : String)
  | unselect
  /-- Opens an epoch of progress with a text. -/
  | beginProgress (text : String)
  /-- Tells a text of progress, if it belongs to the epoch that is open. -/
  | progress (epoch : Nat) (text : String)
  /-- Closes the epoch of progress. -/
  | endProgress
  | hideProgress
  | claim
  | release
  deriving DecidableEq

namespace Control

/-- The choices for a list of actions, after an entry that has none. -/
def choicesFor (actions : List String) : List Choice :=
  if actions.isEmpty then [⟨"", Feedback.noOptions⟩]
  else ⟨"", Feedback.chooseState⟩ :: actions.map fun a => ⟨a, labelOf a⟩

/-- The actions that a graph permits in the present state. -/
def permitted (c : Control) (g : Graph) : List String :=
  g.actionsFor c.seat.scope c.state

/-- Derives the choices from a graph. -/
def derive (c : Control) (g : Graph) : Control :=
  let actions := c.permitted g
  { c with choices := choicesFor actions, hasActions := !actions.isEmpty, loaded := true }

/-- Whether a control has an endpoint. -/
def isBound (c : Control) : Bool :=
  c.setUrl.isSome

/-- Binds what a page says about a control to a seat on it. -/
def bind (g : Graph) (page : Nat) (d : Descriptor) : Control :=
  let c : Control := { seat := ⟨page, d.order, d.scope⟩, setUrl := d.setUrl, state := d.state }
  if c.isBound then { c.derive g with feedback := some (Feedback.info Feedback.ready) }
  else { c with feedback := some (Feedback.error Feedback.notBound) }

/-- Whether a text of progress of an epoch is still wanted. -/
def wantsProgress (c : Control) (epoch : Nat) : Bool :=
  c.epoch == epoch && c.progress

/-- A control after an operation. -/
def touch (c : Control) : Touch → Control
  | .populate g => if c.isBound then c.derive g else c
  | .freshen g => if c.isBound && !c.loaded then c.derive g else c
  | .adopt state => { c with state := state, loaded := false }
  | .tell f => { c with feedback := some f }
  | .select action => { c with selected := some action }
  | .unselect => { c with selected := none }
  | .beginProgress text =>
    { c with progress := true, epoch := c.epoch + 1, feedback := some (Feedback.info text) }
  | .progress epoch text =>
    if c.wantsProgress epoch then { c with feedback := some (Feedback.info text) } else c
  | .endProgress => { c with epoch := c.epoch + 1 }
  | .hideProgress => { c with progress := false }
  | .claim => { c with busy := true }
  | .release => { c with busy := false }

/-- What an operator sees. -/
def view (c : Control) : View where
  order := c.seat.order
  scope := c.seat.scope
  state := c.state
  label := labelOf c.state
  choices := c.choices
  selectable := c.isBound && c.hasActions && !c.busy
  busy := c.busy
  progress := c.progress
  selected := c.selected
  feedback := c.feedback

end Control
end OrderDesk
