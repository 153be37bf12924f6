import OrderDesk.Json.Reader

/-!
Reading a part of a document in full. Every string in it must spell a text, every numeral must fit,
and arrays and objects may nest only so deep. An object whose first member has a certain name stands
for the document that its string holds, which is read in full in turn.
-/
namespace OrderDesk.Json.Node

/-- How deep arrays and objects may nest in a part that is read, the document included. -/
def maxDepth : Nat := 127

/-- The name of the only member of an object that stands for a document. -/
def documentName : String := "$serde_json::private::RawValue"

mutual
/-- The node with the document in place of every object that stands for one, if every part of it
can be read. Arrays and objects may be at most `room` deep, and `document` reads a document. -/
def fullWith (document : String → Option Node) (room : Nat) : Node → Option Node
  | .null => some .null
  | .bool b => some (.bool b)
  | .number n => if n.fits then some (.number n) else none
  | .string t => t.map fun t => .string (some t)
  | .array items =>
    if 0 < room then (fullItems document (room - 1) items).map .array else none
  | .object [] => if 0 < room then some (.object []) else none
  | .object ((k, n) :: rest) =>
    if room = 0 then none
    else if k = some documentName then
      match n, rest with
      | .string (some t), [] => document t
      | _, _ => none
    else do
      let name ← k
      let first ← fullWith document (room - 1) n
      let rest ← fullMembers document (room - 1) rest
      some (.object ((some name, first) :: rest))

/-- The items, each read in full. -/
def fullItems (document : String → Option Node) (room : Nat) : List Node → Option (List Node)
  | [] => some []
  | n :: rest => do
    let first ← fullWith document room n
    let rest ← fullItems document room rest
    some (first :: rest)

/-- The members, each with a name and read in full. -/
def fullMembers (document : String → Option Node) (room : Nat) :
    List (Option String × Node) → Option (List (Option String × Node))
  | [] => some []
  | (k, n) :: rest => do
    let name ← k
    let first ← fullWith document room n
    let rest ← fullMembers document room rest
    some ((some name, first) :: rest)
end

/-- A document, read in full. The first argument bounds how often one stands within another. -/
def document? : Nat → String → Option Node
  | 0, _ => none
  | n + 1, s => (ofText? s).bind (fullWith (document? n) maxDepth)

/-- A direct part of a document, read in full. -/
def full? (n : Node) : Option Node :=
  fullWith (fun s => document? (s.length + 1) s) (maxDepth - 1) n

end OrderDesk.Json.Node
