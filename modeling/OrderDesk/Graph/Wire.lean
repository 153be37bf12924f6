import OrderDesk.Graph
import OrderDesk.Json.Reader

/-!
The JSON text of a graph: an object of scopes, each an object of states, each a list of actions.
Reading takes all of a document or none of it.
-/
namespace OrderDesk.Graph
open Json Text

/-- The states of a scope as a value. -/
def statesValue (states : States) : Value :=
  .record (states.entries.map fun e => (e.1, Value.texts e.2))

/-- A graph as a value. -/
def toValue (g : Graph) : Value :=
  .record (g.scopes.entries.map fun e => (e.1, statesValue e.2))

/-- The text of a graph. -/
def text (g : Graph) : String :=
  g.toValue.compact

/-- The texts of an array of texts. -/
def actionsOf? (n : Node) : Option (List String) := do
  (← n.items?).mapM Node.text?

/-- The states of a scope, in which a repeated state has its last list. -/
def statesOf? (n : Node) : Option States := do
  let rows ← (← n.members?).mapM fun m => (actionsOf? m.2).map (m.1, ·)
  some (Dict.ofList rows)

/-- The graph of a document, in which a repeated scope has its last states. -/
def ofNode? (n : Node) : Option Graph := do
  let rows ← (← n.members?).mapM fun m => (statesOf? m.2).map (m.1, ·)
  some ⟨Dict.ofList rows⟩

/-- The graph of a text. -/
def ofText? (s : String) : Option Graph := do
  ofNode? (← Json.ofText? s)

end OrderDesk.Graph
