import OrderDesk.Graph.Wire
import OrderDesk.Json.Embedded

/-!
The messages that pass between a desk and the order backend, and how they are written and read.
The answer to a change of state is read field by field: a field of the wrong type counts as
missing. The metadata answer is read strictly.
-/
namespace OrderDesk
open Json Text

/-- A change of state that is asked for. -/
structure SetRequest where
  scope : Scope
  action : String
  deriving DecidableEq, Repr, Inhabited

namespace SetRequest

/-- A request as a value. -/
def toValue (r : SetRequest) : Value :=
  .record [("scope", r.scope.toValue), ("action", .text r.action)]

/-- The text of a request. -/
def text (r : SetRequest) : String :=
  r.toValue.compact

/-- The request of a document. -/
def ofNode? (n : Node) : Option SetRequest := do
  match ← n.fields? ["scope", "action"] with
  | [some scope, some action] => some ⟨← Scope.ofNode? scope, ← action.text?⟩
  | _ => none

/-- The request of a text. -/
def ofText? (s : String) : Option SetRequest := do
  ofNode? (← Json.ofText? s)

end SetRequest

/-- The answer to a change of state. Every field but the flag may be missing. -/
structure SetResponse where
  ok : Bool := false
  orderState : Option String := none
  paymentState : Option String := none
  shippingState : Option String := none
  error : Option String := none
  deriving DecidableEq, Repr, Inhabited

namespace SetResponse

/-- The names of the fields, in their order. -/
def fieldNames : List String :=
  ["ok", "order_state", "payment_state", "shipping_state", "error"]

/-- A field that is written only when it is there. -/
def optionalField (name : String) : Option String → List (String × Value)
  | none => []
  | some t => [(name, .text t)]

/-- An answer as a value. -/
def toValue (r : SetResponse) : Value :=
  .record (("ok", .bool r.ok) :: (optionalField "order_state" r.orderState ++
    optionalField "payment_state" r.paymentState ++
    optionalField "shipping_state" r.shippingState ++ optionalField "error" r.error))

/-- The text of an answer. -/
def text (r : SetResponse) : String :=
  r.toValue.compact

/-- The text of a field, or nothing when the field is missing or no text. -/
def lenientText (field : Option Node) : Option String :=
  field.bind Node.text?

/-- The flag of a field, which is down when the field is missing or no flag. -/
def lenientFlag (field : Option Node) : Bool :=
  (field.bind Node.bool?).getD false

/-- A field read in full, if it is there. -/
def fullField? : Option Node → Option (Option Node)
  | none => some none
  | some n => n.full?.map some

/-- The answer of a document. -/
def ofNode? (n : Node) : Option SetResponse := do
  match ← (← n.fields? fieldNames).mapM fullField? with
  | [ok, order, payment, shipping, error] =>
    some ⟨lenientFlag ok, lenientText order, lenientText payment, lenientText shipping,
      lenientText error⟩
  | _ => none

/-- The answer of a text. -/
def ofText? (s : String) : Option SetResponse := do
  ofNode? (← Json.ofText? s)

/-- The answer of a body. -/
def ofBytes? (bs : List UInt8) : Option SetResponse := do
  ofNode? (← Json.ofBytes? bs)

/-- The field of a scope as it stands in the answer. The state of the delivery is called that of
the shipping. -/
def rawState (r : SetResponse) : Scope → Option String
  | .order => r.orderState
  | .payment => r.paymentState
  | .delivery => r.shippingState

/-- The state that the answer reports for a scope. A blank one counts as missing. -/
def stateFor (r : SetResponse) (scope : Scope) : Option String :=
  (r.rawState scope).bind nonBlank?

/-- The error that the answer reports. A blank one counts as missing. -/
def errorMessage (r : SetResponse) : Option String :=
  r.error.bind nonBlank?

end SetResponse

/-- The answer to a change of state together with its status. -/
structure SetReply where
  status : Nat := 200
  body : SetResponse
  deriving DecidableEq, Repr, Inhabited

/-- Whether a status reports success. -/
def isSuccessStatus (status : Nat) : Bool :=
  200 ≤ status && status < 300

/-- Whether the change was made. A status of failure is a refusal whatever the body says. -/
def SetReply.isSuccess (r : SetReply) : Bool :=
  isSuccessStatus r.status && r.body.ok

/-- The answer of the metadata endpoint. -/
structure MetaResponse where
  ok : Bool := false
  transitions : Option Graph := none
  deriving DecidableEq

namespace MetaResponse

instance : Inhabited MetaResponse := ⟨⟨false, none⟩⟩

/-- An answer as a value. -/
def toValue (r : MetaResponse) : Value :=
  .record (("ok", .bool r.ok) ::
    match r.transitions with
    | none => []
    | some g => [("transitions", g.toValue)])

/-- The text of an answer. -/
def text (r : MetaResponse) : String :=
  r.toValue.compact

/-- The flag of a field, which is down when the field is missing. -/
def flagOf? : Option Node → Option Bool
  | none => some false
  | some n => n.bool?

/-- The graph of a field, if there is one. -/
def graphOf? : Option Node → Option (Option Graph)
  | none => some none
  | some .null => some none
  | some n => (Graph.ofNode? n).map some

/-- The answer of a document. -/
def ofNode? (n : Node) : Option MetaResponse := do
  match ← n.fields? ["ok", "transitions"] with
  | [ok, transitions] => some ⟨← flagOf? ok, ← graphOf? transitions⟩
  | _ => none

/-- The answer of a text. -/
def ofText? (s : String) : Option MetaResponse := do
  ofNode? (← Json.ofText? s)

/-- The answer of a body. -/
def ofBytes? (bs : List UInt8) : Option MetaResponse := do
  ofNode? (← Json.ofBytes? bs)

/-- The graph, when the answer reports success and carries one. -/
def graph? (r : MetaResponse) : Option Graph :=
  if r.ok then r.transitions else none

end MetaResponse
end OrderDesk
