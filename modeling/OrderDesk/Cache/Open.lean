import OrderDesk.Cache.Content
import OrderDesk.Cache.Request

/-!
Opening the database of a url. A file that is missing is made, and the table is made in a new
database. While a change is under way, the database keeps a journal in a file of its own beside the
database file, so a file beside which none can be made is never changed. What an earlier database of
the same name has left beside the file goes away with the first change.
-/
namespace OrderDesk.Cache
open Text

/-- What is added to the name of a database file for that of its journal. -/
def journalSuffix : String := "-journal"

/-- What is added to the name of a database file for that of its log of changes to come. -/
def logSuffix : String := "-wal"

/-- The greatest number of bytes of the path of a journal. -/
def maxJournalPathBytes : Nat := 512

/-- The place beside a file whose name is longer by a suffix. -/
def placeBeside (place : List String) (suffix : String) : List String :=
  place.dropLast ++ [place.getLast?.getD "" ++ suffix]

/-- Whether the files that a change needs can be made beside a database file. -/
def canChange (disk : Disk) (place : List String) : Bool :=
  (place.getLast?.getD "").utf8ByteSize + journalSuffix.utf8ByteSize ≤ Disk.maxNameBytes &&
    !disk.isDirectoryAt (placeBeside place journalSuffix) &&
    !disk.isDirectoryAt (placeBeside place logSuffix)

/-- The disk after a change to a database file. An empty log stays. -/
def afterChange (disk : Disk) (place : List String) : Disk :=
  let disk := disk.remove (placeBeside place journalSuffix)
  let log := placeBeside place logSuffix
  if disk.item? log = some (.file []) then disk else disk.remove log

/-- A new database in memory. -/
def openMemory (r : Request) : Except CacheError Database :=
  if r.access = .read then .error .noTable else .ok ⟨none, false, Dict.empty⟩

/-- Makes the table in a new database file. -/
def makeTable (disk : Disk) (place : List String) (readOnly : Bool) :
    Disk × Except CacheError Database :=
  if readOnly || !canChange disk place then (disk, .error .noTable)
  else (afterChange disk place, .ok ⟨some place, false, Dict.empty⟩)

/-- The place of a database file, if it can be reached. -/
def databasePlace? (disk : Disk) (path : List Char) : Option (List String) :=
  match disk.namedPlace path with
  | .error _ => none
  | .ok place =>
    if Disk.pathBytes place + journalSuffix.utf8ByteSize ≤ maxJournalPathBytes then some place
    else none

/-- Opens the file at a place. -/
def openFile (disk : Disk) (url : String) (place : List String) (r : Request) :
    Disk × Except CacheError Database :=
  let readOnly := r.access == .read || r.immutable
  match disk.item? place with
  | some .directory => (disk, .error (.notOpened url))
  | some (.table rows) => (disk, .ok ⟨some place, readOnly, rows⟩)
  | some (.file bs) =>
    if Content.isNew bs then makeTable disk place readOnly else (disk, .error .noTable)
  | none =>
    if r.access = .make then makeTable (disk.put place (.file [])) place readOnly
    else (disk, .error (.notOpened url))

/-- Opens what is asked for. -/
def openRequest (disk : Disk) (url : String) (r : Request) : Disk × Except CacheError Database :=
  if !Request.systems.contains r.system then (disk, .error (.notOpened url))
  else if r.forMemory then (disk, openMemory r)
  else
    match databasePlace? disk r.name with
    | none => (disk, .error (.notOpened url))
    | some place => openFile disk url place r

/-- Puts the rows of an open database file back on the disk. -/
def save (disk : Disk) : Cache → Disk
  | .database ⟨some place, false, rows⟩ => disk.put place (.table rows)
  | _ => disk

/-- Takes the rows of an open database file from the disk. -/
def reload (disk : Disk) : Cache → Cache
  | .database db =>
    match db.place.bind disk.item? with
    | some (.table rows) => .database { db with rows := rows }
    | _ => .database db
  | c => c

/-- Opens the database of a url. -/
def openUrl (disk : Disk) (url : String) : Disk × Except CacheError Cache :=
  match ensureParent disk url with
  | (made, .error e) => (made, .error e)
  | (made, .ok ()) =>
    match readUrl? url with
    | none => (made, .error (.invalidUrl url))
    | some (path, options) =>
      let opened : Disk × Except CacheError Database :=
        match Request.of? path options with
        | none => (made, .error (.notOpened url))
        | some r => openRequest made url r
      match opened with
      | (used, .error e) => (used, .error e)
      | (used, .ok db) => (save used (.database db), .ok (.database db))

/-- Opens the cache at a location, or the stand-in when that fails. -/
def openAt (disk : Disk) (raw : String) : Disk × Cache :=
  match prepare disk raw with
  | (made, .error _) => (made, .unavailable)
  | (made, .ok url) =>
    match openUrl made url with
    | (used, .error _) => (used, .unavailable)
    | (used, .ok cache) => (used, cache)

end OrderDesk.Cache
