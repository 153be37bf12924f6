import OrderDesk.Scope
import OrderDesk.Text.Dict
import OrderDesk.Text.LowerCase

/-!
The transition graph: for each scope and state the actions that lead out of it, in the order in
which they are offered. Scopes are keys of any name, so that a graph with a scope unknown here is
still of use for the known ones.
-/
namespace OrderDesk
open Text

/-- The actions that lead out of each state of one scope. -/
abbrev States := Dict (List String)

/-- The actions that lead out of each state of each scope. -/
@[ext]
structure Graph where
  scopes : Dict States
  deriving DecidableEq

namespace Graph

/-- The graph without scopes. -/
def empty : Graph := ⟨Dict.empty⟩

instance : Inhabited Graph := ⟨empty⟩

/-- The states of a scope. -/
def states (g : Graph) (scope : Scope) : States :=
  (g.scopes.get? scope.name).getD Dict.empty

/-- Gives a state its actions in place of any former ones. -/
def withActions (g : Graph) (scope : Scope) (state : String) (actions : List String) : Graph :=
  ⟨g.scopes.insert scope.name ((g.states scope).insert state actions)⟩

/-- The first state, in ascending order, that differs from the given one in letter case alone. -/
def likeState? (states : States) (state : String) : Option (List String) :=
  (states.entries.find? fun e => lowerCase e.1 == lowerCase state).map (·.2)

/-- The actions that a state permits. A state of exactly that spelling goes before one that
differs in letter case alone, and a state that is not found permits none. -/
def actionsFor (g : Graph) (scope : Scope) (state : String) : List String :=
  match (g.states scope).get? state with
  | some actions => actions
  | none => if state.isEmpty then [] else (likeState? (g.states scope) state).getD []

end Graph
end OrderDesk
