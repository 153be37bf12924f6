import OrderDesk.Cache.Location

/-!
What the database is asked to open. A url gives a path and options; it is read by dropping the
schemes, cutting off what follows the first question mark as options, and percent-decoding the rest
as the path. A path that starts with `file:` is in turn a reference with options of its own, unless
the options of the url have been handed on with it.
-/
namespace OrderDesk.Cache
open Text

/-- What the options of a url ask for. -/
structure OpenOptions where
  inMemory : Bool := false
  readOnly : Bool := false
  immutable : Bool := false
  system : Option String := none
  deriving DecidableEq, Repr

/-- The text of bytes, in which bytes that spell nothing are replaced. -/
def spelledText (bs : List UInt8) : String :=
  String.ofList ((glyphs bs).map fun g => g.getD (Char.ofNat 0xFFFD))

/-- A text of a form, in which a plus sign is a blank. -/
def formText (s : List Char) : String :=
  spelledText (Percent.decode (s.map fun c => if c = '+' then ' ' else c))

/-- The name and value of one option. -/
def formPair (s : List Char) : String × String :=
  match splitFirst? '=' s with
  | none => (formText s, "")
  | some (name, value) => (formText name, formText value)

/-- Adds one option. -/
def OpenOptions.with? (o : OpenOptions) : String × String → Option OpenOptions
  | ("mode", "ro") => some { o with readOnly := true }
  | ("mode", "rw") => some o
  | ("mode", "rwc") => some o
  | ("mode", "memory") => some { o with inMemory := true }
  | ("cache", "private") => some o
  | ("cache", "shared") => some o
  | ("immutable", "true") => some { o with immutable := true }
  | ("immutable", "1") => some { o with immutable := true }
  | ("immutable", "false") => some { o with immutable := false }
  | ("immutable", "0") => some { o with immutable := false }
  | ("vfs", name) => some { o with system := some name }
  | _ => none

/-- The path and the options of a url. -/
def readUrl? (url : String) : Option (List Char × OpenOptions) := do
  let rest := withoutScheme url.toList
  let path := rest.takeWhile (· != '?')
  let pairs := ((pieces '&' (rest.drop (path.length + 1))).filter (!·.isEmpty)).map formPair
  let file ← ofBytes? (Percent.decode path)
  let start : OpenOptions := { inMemory := path == ":memory:".toList }
  let options ← pairs.foldlM OpenOptions.with? start
  some (file, options)

/-- What may be done with a database: nothing is said, it may be read, also be written, or also be
made. -/
inductive Access where
  | unsaid
  | read
  | write
  | make
  deriving DecidableEq, Repr

/-- How far an access reaches. -/
def Access.rank : Access → Nat
  | unsaid => 0
  | read => 1
  | write => 2
  | make => 3

/-- What the database is asked to open: a file by its name, or a database in memory. An immutable
file is read but not written. The system is the way in which files are reached. -/
structure Request where
  name : List Char
  inMemory : Bool := false
  access : Access
  immutable : Bool := false
  system : String := "unix"
  deriving DecidableEq, Repr

namespace Request

/-- The text before a character of number zero, which ends names. -/
def untilZero (s : List Char) : List Char :=
  s.takeWhile (· != Char.ofNat 0)

/-- A part of a reference with its percent codes decoded. -/
def decoded (s : List Char) : List Char :=
  untilZero (spelledText (Percent.decode s)).toList

/-- The number at the start of a text, if it is small enough to count. -/
def leadingNumber (s : List Char) : Nat :=
  let ds := (s.takeWhile Char.isDigit).dropWhile (· == '0')
  let n := ds.foldl (fun n d => 10 * n + (d.toNat - '0'.toNat)) 0
  if ds.length ≤ 10 ∧ n ≤ 0x7FFFFFFF then n else 0

/-- Whether a text says yes. -/
def saysYes (s : String) : Bool :=
  if s.toList.head?.any Char.isDigit then leadingNumber s.toList % 256 != 0
  else lowerAscii s ∈ ["on", "yes", "true"]

/-- Asks for another access, which must not reach further than the present one. -/
def withAccess? (r : Request) (a : Access) : Option Request :=
  if r.inMemory || a.rank ≤ r.access.rank then some { r with access := a, inMemory := false }
  else none

/-- Adds one option of a reference. -/
def with? (r : Request) : String × String → Option Request
  | ("vfs", name) => some { r with system := name }
  | ("cache", v) => if v = "shared" ∨ v = "private" then some r else none
  | ("mode", "ro") => r.withAccess? .read
  | ("mode", "rw") => r.withAccess? .write
  | ("mode", "rwc") => r.withAccess? .make
  | ("mode", "memory") => some { r with access := .unsaid, inMemory := true }
  | ("mode", _) => none
  | _ => some r

/-- The name and value of one option of a reference, unless it has no name. -/
def pair? (s : List Char) : Option (String × String) :=
  let (name, value) := (splitFirst? '=' s).getD (s, [])
  if (decoded name).isEmpty then none
  else some (String.ofList (decoded name), String.ofList (decoded value))

/-- What follows the machine that a reference names, which can only be this one. -/
def withoutMachine? (s : List Char) : Option (List Char) :=
  match s with
  | '/' :: '/' :: rest =>
    let machine := rest.takeWhile (· != '/')
    if machine.isEmpty || machine == "localhost".toList then some (rest.drop machine.length)
    else none
  | s => some s

/-- The request of a reference after its scheme. -/
def ofReference? (access : Access) (s : List Char) : Option Request := do
  let s := (← withoutMachine? s).takeWhile (· != '#')
  let name := s.takeWhile (· != '?')
  let pairs := (pieces '&' (s.drop (name.length + 1))).filterMap pair?
  let immutable := (pairs.find? fun p => p.1 == "immutable").any fun p => saysYes p.2
  pairs.foldlM with? { name := decoded name, access := access, immutable := immutable }

/-- The request of the path and options of a url. -/
def of? (path : List Char) (o : OpenOptions) : Option Request :=
  let access := if o.readOnly then Access.read else .make
  let system := o.system.getD "unix"
  if o.inMemory then some { name := [], inMemory := true, access := access, system := system }
  else if o.immutable || o.system.isSome then
    some { name := untilZero path, access := access, immutable := o.immutable, system := system }
  else if path.contains (Char.ofNat 0) then none
  else
    match after? "file:".toList path with
    | some reference => ofReference? access reference
    | none => some { name := path, access := access }

/-- Whether a request is for a database in memory. -/
def forMemory (r : Request) : Bool :=
  r.inMemory || r.name.isEmpty || r.name == ":memory:".toList || r.system == "memdb"

/-- The ways in which files are reached. -/
def systems : List String :=
  ["unix", "unix-none", "unix-dotfile", "unix-excl", "memdb"]

end Request
end OrderDesk.Cache
