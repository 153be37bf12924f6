import OrderDesk.Json.Node
import OrderDesk.Text.Percent

/-!
JSON values that are written: everything but numbers. A value has one compact text and one text
laid out over lines.
-/
namespace OrderDesk.Json

/-- A value without numbers. -/
inductive Value where
  | null
  | bool (value : Bool)
  | text (value : String)
  | list (items : List Value)
  | record (members : List (String × Value))
  deriving Repr

/-- How a character is written inside a string. -/
def escape (c : Char) : List Char :=
  if c = '"' then ['\\', '"']
  else if c = '\\' then ['\\', '\\']
  else if c = Char.ofNat 0x08 then ['\\', 'b']
  else if c = '\t' then ['\\', 't']
  else if c = '\n' then ['\\', 'n']
  else if c = Char.ofNat 0x0C then ['\\', 'f']
  else if c = '\r' then ['\\', 'r']
  else if c.toNat < 0x20 then
    ['\\', 'u', '0', '0', Text.hexDigit (c.toNat / 16), Text.hexDigit (c.toNat % 16)]
  else [c]

/-- A text as a string of a document. -/
def quoted (s : String) : List Char :=
  '"' :: (s.toList.flatMap escape ++ ['"'])

namespace Value

/-- A list of texts. -/
def texts (ts : List String) : Value :=
  .list (ts.map .text)

/-- A text, or `null` where there is none. -/
def ofText? : Option String → Value
  | none => .null
  | some t => .text t

mutual
/-- The text without blanks. -/
def compactChars : Value → List Char
  | .null => ['n', 'u', 'l', 'l']
  | .bool true => ['t', 'r', 'u', 'e']
  | .bool false => ['f', 'a', 'l', 's', 'e']
  | .text t => quoted t
  | .list [] => ['[', ']']
  | .list (v :: vs) => '[' :: (compactChars v ++ compactItems vs)
  | .record [] => ['{', '}']
  | .record ((k, v) :: ms) => '{' :: (quoted k ++ ':' :: (compactChars v ++ compactMembers ms))

/-- The further items of a list and its end. -/
def compactItems : List Value → List Char
  | [] => [']']
  | v :: vs => ',' :: (compactChars v ++ compactItems vs)

/-- The further members of a record and its end. -/
def compactMembers : List (String × Value) → List Char
  | [] => ['}']
  | (k, v) :: ms => ',' :: (quoted k ++ ':' :: (compactChars v ++ compactMembers ms))
end

/-- The text without blanks. -/
def compact (v : Value) : String :=
  String.ofList v.compactChars

/-- A new line, indented. -/
def newLine (indent : Nat) : List Char :=
  '\n' :: List.replicate (2 * indent) ' '

mutual
/-- The text over lines, within `indent` outer values. -/
def laidOutChars (indent : Nat) : Value → List Char
  | .null => ['n', 'u', 'l', 'l']
  | .bool true => ['t', 'r', 'u', 'e']
  | .bool false => ['f', 'a', 'l', 's', 'e']
  | .text t => quoted t
  | .list [] => ['[', ']']
  | .list (v :: vs) =>
    '[' :: (newLine (indent + 1) ++ laidOutChars (indent + 1) v ++ laidOutItems indent vs)
  | .record [] => ['{', '}']
  | .record ((k, v) :: ms) =>
    '{' :: (newLine (indent + 1) ++ quoted k ++ [':', ' '] ++ laidOutChars (indent + 1) v ++
      laidOutMembers indent ms)

/-- The further items of a list and its end. -/
def laidOutItems (indent : Nat) : List Value → List Char
  | [] => newLine indent ++ [']']
  | v :: vs =>
    ',' :: (newLine (indent + 1) ++ laidOutChars (indent + 1) v ++ laidOutItems indent vs)

/-- The further members of a record and its end. -/
def laidOutMembers (indent : Nat) : List (String × Value) → List Char
  | [] => newLine indent ++ ['}']
  | (k, v) :: ms =>
    ',' :: (newLine (indent + 1) ++ quoted k ++ [':', ' '] ++ laidOutChars (indent + 1) v ++
      laidOutMembers indent ms)
end

/-- The text over lines, two blanks deeper within each value. -/
def laidOut (v : Value) : String :=
  String.ofList (v.laidOutChars 0)

mutual
/-- The document that a value's text writes. -/
def toNode : Value → Node
  | .null => .null
  | .bool b => .bool b
  | .text t => .string (some t)
  | .list vs => .array (toNodes vs)
  | .record ms => .object (toMembers ms)

/-- The items that a list's text writes. -/
def toNodes : List Value → List Node
  | [] => []
  | v :: vs => toNode v :: toNodes vs

/-- The members that a record's text writes. -/
def toMembers : List (String × Value) → List (Option String × Node)
  | [] => []
  | (k, v) :: ms => (some k, toNode v) :: toMembers ms
end

end Value
end OrderDesk.Json
