import OrderDesk.Toml.Value

/-!
The tables of a TOML document while it is read. Every key is given its value once, and every table
its header at most once. A table that only stands on the way to another one may still get its
header, and one that dotted keys have made may still get further members from dotted keys.
-/
namespace OrderDesk.Toml

/-- How a table has come about: by a header or in one piece, on the way to another table's header,
or on the way of a dotted key. -/
inductive Origin where
  | explicit
  | implied
  | dotted
  deriving DecidableEq, Repr

/-- What stands under a key: a value, a table, or a row of tables that all have the same
header. -/
inductive Branch where
  | leaf (value : Value)
  | table (origin : Origin) (members : List (String × Branch))
  | rows (tables : List (List (String × Branch)))
  deriving Repr

/-- The members of a table by their keys, in the order in which they were put there. -/
abbrev Members := List (String × Branch)

namespace Members

/-- What stands under a key. -/
def get? (ms : Members) (key : String) : Option Branch :=
  (ms.find? fun m => m.1 == key).map (·.2)

/-- Puts a branch under a key, in place of any former one. -/
def put (ms : Members) (key : String) (b : Branch) : Members :=
  match ms with
  | [] => [(key, b)]
  | m :: rest => if m.1 == key then (key, b) :: rest else m :: put rest key b

/-- Puts a branch under a key at the end, and takes away any former one. -/
def putLast (ms : Members) (key : String) (b : Branch) : Members :=
  (ms.filter fun m => m.1 != key) ++ [(key, b)]

/-- Changes the members of the table that a path leads to, given how it has come about. Tables
that are missing on the way are made. A path through a row leads on from its last table. The path
of a dotted key leads through no table that has its header. -/
def change? (isDotted : Bool) (f : Origin → Members → Option Members) :
    List String → Origin → Members → Option Members
  | [], origin, ms => f origin ms
  | key :: path, _, ms =>
    match ms.get? key with
    | none =>
      let origin := if isDotted then .dotted else .implied
      (change? isDotted f path origin []).map fun inner => ms.put key (.table origin inner)
    | some (.leaf _) => none
    | some (.table origin inner) =>
      if isDotted && origin = .explicit then none
      else
        (change? isDotted f path origin inner).map fun inner => ms.put key (.table origin inner)
    | some (.rows tables) =>
      match tables.getLast? with
      | none => none
      | some last =>
        (change? isDotted f path .explicit last).map fun last =>
          ms.put key (.rows (tables.dropLast ++ [last]))

/-- Gives a dotted key its value. All but the last part of the key lead to a table that dotted keys
have made. -/
def assign? (path : List String) (key : String) (v : Value) (ms : Members) : Option Members :=
  change? true (fun origin ms =>
    if (path.isEmpty || origin = .dotted) && (ms.get? key).isNone then some (ms.put key (.leaf v))
    else none) path .explicit ms

/-- Gives a table its header, which puts the table at the end. -/
def openTable? (path : List String) (key : String) (ms : Members) : Option Members :=
  change? false (fun _ ms =>
    match ms.get? key with
    | none => some (ms.put key (.table .explicit []))
    | some (.table .implied inner) => some (ms.putLast key (.table .explicit inner))
    | some _ => none) path .explicit ms

/-- Appends a table to the row of tables with its header. -/
def openRow? (path : List String) (key : String) (ms : Members) : Option Members :=
  change? false (fun _ ms =>
    match ms.get? key with
    | none => some (ms.put key (.rows [[]]))
    | some (.rows tables) => some (ms.put key (.rows (tables ++ [[]])))
    | some _ => none) path .explicit ms

/-- Gives a dotted key its value in the table that a header leads to. -/
def assignAt? (header path : List String) (key : String) (v : Value) (ms : Members) :
    Option Members :=
  change? false (fun _ ms => assign? path key v ms) header .explicit ms

end Members

mutual
/-- The value of a branch. -/
def Branch.toValue : Branch → Value
  | .leaf v => v
  | .table _ ms => .table (toValues ms)
  | .rows tables => .list (toTables tables)

/-- The values of members. -/
def Branch.toValues : List (String × Branch) → List (String × Value)
  | [] => []
  | (k, b) :: ms => (k, b.toValue) :: toValues ms

/-- The tables of a row. -/
def Branch.toTables : List (List (String × Branch)) → List Value
  | [] => []
  | ms :: tables => .table (toValues ms) :: toTables tables
end

end OrderDesk.Toml
