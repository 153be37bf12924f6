import OrderDesk.Text.Blank

/-!
Paths of files. A path is the text that names it; empty names and names of one point are passed
over, except a point at the very start.
-/
namespace OrderDesk.Disk
open Text

namespace Path

/-- The part of a path that stands before its names: the root, or a point at the start. -/
def lead : List Char → List Char
  | '/' :: _ => ['/']
  | ['.'] => ['.']
  | '.' :: '/' :: _ => ['.']
  | _ => []

/-- Whether a name is passed over. -/
def isIdle (name : List Char) : Bool :=
  name.isEmpty || name == ['.']

/-- The path without its last name. The root has no parent, and a single name has the empty one. -/
def parent? (path : List Char) : Option (List Char) :=
  let start := lead path
  match (pieces '/' (path.drop start.length)).reverse.dropWhile isIdle with
  | [] => if start = ['.'] then some [] else none
  | _ :: names => some (start ++ ['/'].intercalate (names.dropWhile isIdle).reverse)

/-- The path and everything above it, the path first. The first argument bounds their number. -/
def lineage : Nat → List Char → List (List Char)
  | 0, _ => []
  | n + 1, path =>
    path ::
      match parent? path with
      | none => []
      | some up => lineage n up

/-- The names along a path that lead anywhere. -/
def steps (path : List Char) : List String :=
  ((pieces '/' path).filter fun name => !isIdle name).map String.ofList

/-- Whether a path starts at the root. -/
def isAbsolute (path : List Char) : Bool :=
  path.head? == some '/'

end Path
end OrderDesk.Disk
