import OrderDesk.Number.Double
import OrderDesk.Text.Dict
import OrderDesk.Toml.Moment
import OrderDesk.Toml.Quoted

/-!
Values of a TOML document, and the text of a value in one line. A value is read with the members of
its tables in the order in which they are written. In its settled form they stand in the order of
their keys, and a table that starts with a mark has become the date or time that it holds.
-/
namespace OrderDesk.Toml

/-- A value. -/
inductive Value where
  | text (value : String)
  | integer (value : Int)
  | real (value : Double)
  | bool (value : Bool)
  | moment (value : Moment)
  | list (items : List Value)
  | table (members : List (String × Value))
  deriving Repr

namespace Value

mutual
/-- The text of a value. -/
def print : Value → String
  | .text t => String.ofList (quoted t.toList)
  | .integer n => toString n
  | .real x => x.text
  | .bool b => if b then "true" else "false"
  | .moment m => m.text
  | .list items => "[" ++ ", ".intercalate (printItems items) ++ "]"
  | .table [] => "\x7b\x7d"
  | .table members => "\x7b " ++ ", ".intercalate (printMembers members) ++ " \x7d"

/-- The texts of items. -/
def printItems : List Value → List String
  | [] => []
  | v :: vs => print v :: printItems vs

/-- The texts of members. -/
def printMembers : List (String × Value) → List String
  | [] => []
  | (k, v) :: ms => (String.ofList (quotedKey k.toList) ++ " = " ++ print v) :: printMembers ms
end

/-- The key that marks a table as one that stands for a date or time. -/
def momentKey : String := "$__toml_private_datetime"

/-- The date or time that a string holds. -/
def moment? : Value → Option Value
  | .text t => (Moment.ofText? t.toList).map .moment
  | _ => none

/-- Members in the order of their keys. -/
def sorted (members : List (String × Value)) : List (String × Value) :=
  members.foldl (fun done m => Text.Dict.place m.1 m.2 done) []

mutual
/-- The settled form of a value. A table whose first key is the mark must hold a date or time under
it, and its further members are passed over. -/
def settle? : Value → Option Value
  | .list items => (settleItems? items).map .list
  | .table [] => some (.table [])
  | .table ((k, v) :: ms) =>
    if k = momentKey then moment? v
    else do
      let first ← settle? v
      let rest ← settleMembers? ms
      some (.table (sorted ((k, first) :: rest)))
  | v => some v

/-- The settled forms of items. -/
def settleItems? : List Value → Option (List Value)
  | [] => some []
  | v :: vs => do
    let first ← settle? v
    let rest ← settleItems? vs
    some (first :: rest)

/-- The settled forms of members. -/
def settleMembers? : List (String × Value) → Option (List (String × Value))
  | [] => some []
  | (k, v) :: ms => do
    let first ← settle? v
    let rest ← settleMembers? ms
    some ((k, first) :: rest)
end

mutual
/-- Whether two values are the same. -/
def same : Value → Value → Bool
  | .text s, .text t => s = t
  | .integer m, .integer n => m = n
  | .real x, .real y => x = y
  | .bool a, .bool b => a = b
  | .moment m, .moment n => m = n
  | .list vs, .list ws => sameItems vs ws
  | .table ms, .table ns => sameMembers ms ns
  | _, _ => false

/-- Whether two lists have the same items. -/
def sameItems : List Value → List Value → Bool
  | [], [] => true
  | v :: vs, w :: ws => same v w && sameItems vs ws
  | _, _ => false

/-- Whether two tables have the same members. -/
def sameMembers : List (String × Value) → List (String × Value) → Bool
  | [], [] => true
  | (k, v) :: ms, (l, w) :: ns => k = l && same v w && sameMembers ms ns
  | _, _ => false
end

mutual
theorem same_iff : ∀ v w : Value, same v w = true ↔ v = w
  | .text s, w => by cases w <;> simp [same]
  | .integer n, w => by cases w <;> simp [same]
  | .real x, w => by cases w <;> simp [same]
  | .bool b, w => by cases w <;> simp [same]
  | .moment m, w => by cases w <;> simp [same]
  | .list vs, w => by cases w <;> simp [same, sameItems_iff vs]
  | .table ms, w => by cases w <;> simp [same, sameMembers_iff ms]

theorem sameItems_iff : ∀ vs ws : List Value, sameItems vs ws = true ↔ vs = ws
  | [], ws => by cases ws <;> simp [sameItems]
  | v :: vs, ws => by cases ws <;> simp [sameItems, same_iff v, sameItems_iff vs]

theorem sameMembers_iff : ∀ ms ns : List (String × Value), sameMembers ms ns = true ↔ ms = ns
  | [], ns => by cases ns <;> simp [sameMembers]
  | (k, v) :: ms, ns => by
    cases ns <;> simp [sameMembers, same_iff v, sameMembers_iff ms, Prod.ext_iff]
end

instance : DecidableEq Value := fun v w => decidable_of_iff (same v w = true) (same_iff v w)

end Value
end OrderDesk.Toml
