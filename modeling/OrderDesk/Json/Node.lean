import OrderDesk.Json.Numeral

/-!
JSON documents as they are written. A document may be well formed and still hold what no reader
can use: a string that spells no text, or a numeral of too great a size. A part that is passed
over may hold such things, and a part that is read may not.
-/
namespace OrderDesk.Json

/-- A well-formed piece of a document. A string that spells no text is `none`. -/
inductive Node where
  | null
  | bool (value : Bool)
  | number (numeral : Numeral)
  | string (text : Option String)
  | array (items : List Node)
  | object (members : List (Option String × Node))
  deriving Repr

namespace Node

/-- The text of a string. -/
def text? : Node → Option String
  | .string t => t
  | _ => none

/-- The truth value of a literal. -/
def bool? : Node → Option Bool
  | .bool b => some b
  | _ => none

/-- The members of an object whose names are all texts. -/
def namedMembers? : List (Option String × Node) → Option (List (String × Node))
  | [] => some []
  | (none, _) :: _ => none
  | (some k, n) :: rest => (namedMembers? rest).map ((k, n) :: ·)

/-- The members of an object, if it is one and each has a name. -/
def members? : Node → Option (List (String × Node))
  | .object members => namedMembers? members
  | _ => none

/-- The items of an array, if it is one. -/
def items? : Node → Option (List Node)
  | .array items => some items
  | _ => none

/-- The fields of a record, each by its place in `names`. A record is written as an object, in
which no field stands twice and other members are passed over, or as an array of its fields in
order, in which the last ones may be missing. -/
def fields? (names : List String) : Node → Option (List (Option Node))
  | .object members => do
    let members ← namedMembers? members
    names.mapM fun name =>
      match members.filter fun m => m.1 == name with
      | [] => some none
      | [m] => some (some m.2)
      | _ => none
  | .array items =>
    if items.length ≤ names.length then
      some (items.map some ++ List.replicate (names.length - items.length) none)
    else none
  | _ => none

end Node
end OrderDesk.Json
