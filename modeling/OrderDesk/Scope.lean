import OrderDesk.Text.Blank
import OrderDesk.Json.Value

/-!
The three state machines of an order, and the identifier of an order.
-/
namespace OrderDesk
open Json

/-- The identifier of an order. Identifiers are compared byte by byte. -/
structure OrderId where
  text : String
  deriving DecidableEq, Repr, Inhabited

/-- The order of two identifiers by their bytes. -/
def OrderId.compare (a b : OrderId) : Ordering :=
  Ord.compare a.text b.text

/-- An identifier is written as its text. -/
def OrderId.toValue (id : OrderId) : Value :=
  .text id.text

/-- One of the three independent state machines of an order. -/
inductive Scope where
  | order
  | payment
  | delivery
  deriving DecidableEq, Repr, Inhabited

namespace Scope

/-- Every scope, in the order in which answers are applied and shown. -/
def all : List Scope := [order, payment, delivery]

/-- The name of a scope, which is also its key in a graph. -/
def name : Scope → String
  | order => "order"
  | payment => "payment"
  | delivery => "delivery"

/-- The scope of a name. -/
def ofName? (name : String) : Option Scope :=
  all.find? fun s => s.name == name

/-- The scope that an operator wrote, whatever the case of its letters and the blanks around. -/
def parse? (raw : String) : Option Scope :=
  ofName? (Text.lowerAscii (Text.trim raw))

/-- What an operator is told about a scope that does not exist. -/
def unknownMessage (raw : String) : String :=
  "unknown scope '" ++ raw ++ "'; expected order, payment or delivery"

/-- A scope is written as its name. -/
def toValue (s : Scope) : Value :=
  .text s.name

/-- A scope is read from its name, or from an object whose one member has that name and `null`. -/
def ofNode? : Node → Option Scope
  | .string (some name) => ofName? name
  | .object [(some name, .null)] => ofName? name
  | _ => none

end Scope
end OrderDesk
