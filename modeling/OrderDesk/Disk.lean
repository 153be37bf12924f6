import OrderDesk.Cache
import OrderDesk.Disk.Path
import OrderDesk.Text.Utf8

/-!
The files that a desk can reach: directories, files of bytes, and database files, each at a list
of names below the root. Paths that do not start at the root start at the working directory.
-/
namespace OrderDesk

/-- What stands at a place on the disk. -/
inductive Disk.Item where
  | directory
  | file (bytes : List UInt8)
  | table (rows : Table)
  deriving DecidableEq

/-- The items by their places, and the working directory. -/
structure Disk where
  items : List (List String × Disk.Item)
  working : List String

namespace Disk
open Text

/-- What stands at a place. The root is always a directory. -/
def item? (d : Disk) (place : List String) : Option Item :=
  if place.isEmpty then some .directory
  else (d.items.find? fun e => e.1 == place).map (·.2)

/-- Whether a directory stands at a place. -/
def isDirectoryAt (d : Disk) (place : List String) : Bool :=
  d.item? place == some .directory

/-- Puts an item at a place, in place of any former one. -/
def put (d : Disk) (place : List String) (i : Item) : Disk :=
  { d with items := (place, i) :: d.items.filter fun e => e.1 != place }

/-- Takes away the item at a place. -/
def remove (d : Disk) (place : List String) : Disk :=
  { d with items := d.items.filter fun e => e.1 != place }

/-- Why a path leads nowhere: something is missing, or the way is barred. -/
inductive PathError where
  | missing
  | barred
  deriving DecidableEq, Repr

/-- The greatest number of bytes of a name. -/
def maxNameBytes : Nat := 255

/-- The least number of bytes of a path that is too long. -/
def maxPathBytes : Nat := 4096

/-- The place that one name leads to from a directory, whether anything stands there or not. -/
def enter (d : Disk) (at_ : List String) (name : String) : Except PathError (List String) :=
  if !d.isDirectoryAt at_ then .error .barred
  else if name == ".." then .ok at_.dropLast
  else if maxNameBytes < name.utf8ByteSize then .error .barred
  else .ok (at_ ++ [name])

/-- The place that names lead to, if something stands at each. -/
def walk (d : Disk) (at_ : List String) : List String → Except PathError (List String)
  | [] => .ok at_
  | name :: rest =>
    match d.enter at_ name with
    | .error e => .error e
    | .ok next => if (d.item? next).isSome then d.walk next rest else .error .missing

/-- Where a path starts. -/
def start (d : Disk) (path : List Char) : List String :=
  if Path.isAbsolute path then [] else d.working

/-- Whether a text can be the path of anything. -/
def isPath (path : List Char) : Bool :=
  !path.contains (Char.ofNat 0) && (bytes path).length < maxPathBytes

/-- The place of the item at a path. -/
def resolve (d : Disk) (path : List Char) : Except PathError (List String) :=
  if !isPath path then .error .barred
  else if path.isEmpty then .error .missing
  else d.walk (d.start path) (Path.steps path)

/-- The place where the item at a path stands or would stand. Its directory must be there. -/
def target (d : Disk) (path : List Char) : Except PathError (List String) :=
  if !isPath path then .error .barred
  else if path.isEmpty then .error .missing
  else
    match (Path.steps path).getLast? with
    | none => .ok (d.start path)
    | some name =>
      match d.walk (d.start path) (Path.steps path).dropLast with
      | .error e => .error e
      | .ok at_ => d.enter at_ name

/-- The number of bytes of the path from the root to a place. -/
def pathBytes (place : List String) : Nat :=
  place.foldl (fun n name => n + name.utf8ByteSize + 1) 0

/-- The greatest number of bytes of a path that is put together from the root. -/
def maxNamedBytes : Nat := 511

/-- The place that a name leads to when a step back takes away the name before it. Something else
than a directory leads nowhere, but what is missing may be stepped through. -/
def step (d : Disk) (place : List String) (name : String) : Except PathError (List String) :=
  if name == ".." then .ok place.dropLast
  else if (d.item? place).any (· != .directory) || maxNameBytes < name.utf8ByteSize ||
      maxNamedBytes < pathBytes (place ++ [name]) then .error .barred
  else .ok (place ++ [name])

/-- The place that a path names when steps back take away the names before them. Its directory must
be there. -/
def namedPlace (d : Disk) (path : List Char) : Except PathError (List String) :=
  if !isPath path then .error .barred
  else
    match (d.start path ++ Path.steps path).foldlM d.step [] with
    | .error e => .error e
    | .ok place =>
      if place.isEmpty || !d.isDirectoryAt place.dropLast then .error .barred else .ok place

/-- Whether a path leads to a directory. -/
def isDirectory (d : Disk) (path : List Char) : Bool :=
  match d.resolve path with
  | .ok place => d.isDirectoryAt place
  | .error _ => false

/-- Makes a directory where nothing stands yet. -/
def makeDirectory (d : Disk) (path : List Char) : Except PathError Disk :=
  match d.target path with
  | .error e => .error e
  | .ok place => if (d.item? place).isSome then .error .barred else .ok (d.put place .directory)

/-- Makes the first of the paths a directory, and where that needs it the further ones before,
each the parent of the one before it. What was made stays when a later step fails. -/
def makeAll (d : Disk) : List (List Char) → Disk × Bool
  | [] => (d, false)
  | path :: up =>
    if path.isEmpty then (d, true)
    else
      match d.makeDirectory path with
      | .ok made => (made, true)
      | .error .barred => (d, d.isDirectory path)
      | .error .missing =>
        match d.makeAll up with
        | (above, false) => (above, false)
        | (above, true) =>
          match above.makeDirectory path with
          | .ok made => (made, true)
          | .error _ => (above, above.isDirectory path)

/-- Makes a directory and everything above it. -/
def makeDirectories (d : Disk) (path : List Char) : Disk × Bool :=
  d.makeAll (Path.lineage (path.length + 1) path)

/-- The bytes of the file at a path. -/
def read? (d : Disk) (path : List Char) : Option (List UInt8) :=
  match d.resolve path with
  | .error _ => none
  | .ok place =>
    match d.item? place with
    | some (.file bs) => some bs
    | _ => none

/-- The sorted paths of everything below a place, directories with a stroke at their end. -/
def listing (d : Disk) (below : List String) : List String :=
  let paths := d.items.filterMap fun e =>
    if below.isPrefixOf e.1 && below.length < e.1.length then
      let path := String.intercalate "/" (e.1.drop below.length)
      some (if e.2 == .directory then path ++ "/" else path)
    else none
  paths.mergeSort fun a b => decide (a ≤ b)

end Disk
end OrderDesk
