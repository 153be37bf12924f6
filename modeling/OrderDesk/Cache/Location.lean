import OrderDesk.Disk
import OrderDesk.Text.Percent

/-!
Where a cache is kept. A location is written as a database url, or as a bare path that is taken
for one. The directory of a database file is made before the file is opened.
-/
namespace OrderDesk.Cache
open Text

/-- The location that is used when none is given. -/
def defaultUrl : String := "sqlite://./data/order_controls.db"

/-- The first sign of every database url. -/
def scheme : List Char := "sqlite:".toList

/-- The scheme with the two strokes that may follow it. -/
def longScheme : List Char := "sqlite://".toList

/-- The database url of a location: the default one for a blank text, the text itself when it is a
url, and else the url of the path. -/
def normalize (raw : String) : String :=
  let t := trim raw
  if t.isEmpty then defaultUrl
  else if (after? scheme t.toList).isSome || occurs "://".toList t.toList then t
  else
    String.ofList (longScheme ++ t.toList.map fun c => if c = '\\' then '/' else c)

/-- The text after every repetition of a start. The first argument bounds their number. -/
def dropStarts (start : List Char) : Nat → List Char → List Char
  | 0, s => s
  | n + 1, s =>
    match after? start s with
    | none => s
    | some rest => dropStarts start n rest

/-- A url without its schemes. -/
def withoutScheme (url : List Char) : List Char :=
  dropStarts scheme url.length (dropStarts longScheme url.length url)

/-- Whether a url reads as that of a database in memory. -/
def isMemoryUrl (url : String) : Bool :=
  (after? "sqlite::memory:".toList url.toList).isSome || occurs "mode=memory".toList url.toList

/-- The path of the file that a url names, if it reads as that of a database file. -/
def filePath? (url : String) : Option (List Char) :=
  if isMemoryUrl url || (after? scheme url.toList).isNone then none
  else
    match (withoutScheme url.toList).takeWhile (· != '?') with
    | [] => none
    | path => some path

/-- Makes the directory of the file that a url names. -/
def ensureParent (disk : Disk) (url : String) : Disk × Except CacheError Unit :=
  match (filePath? url).bind Disk.Path.parent? with
  | none => (disk, .ok ())
  | some parent =>
    if parent.isEmpty then (disk, .ok ())
    else
      match disk.makeDirectories parent with
      | (made, true) => (made, .ok ())
      | (made, false) => (made, .error (.noParent (String.ofList parent) url))

/-- The database url of a location, whose directory is made. -/
def prepare (disk : Disk) (raw : String) : Disk × Except CacheError String :=
  let url := normalize raw
  match ensureParent disk url with
  | (made, .ok ()) => (made, .ok url)
  | (made, .error e) => (made, .error e)

end OrderDesk.Cache
