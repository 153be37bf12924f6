import OrderDesk.Instant
import OrderDesk.Text.Dict

/-!
The cache that a graph is kept in between sessions: a map from texts to texts. There is a cache in
memory, a table of a database, and a stand-in for when none can be opened. Values mean nothing to
a cache.
-/
namespace OrderDesk
open Text

/-- When a row was written: at a time that the clock gave, or at a time that was put in by hand. -/
inductive Stamp where
  | clock
  | byHand (raw : String)
  deriving DecidableEq, Repr

/-- A row of a table. -/
structure Row where
  value : String
  stamp : Stamp
  deriving DecidableEq, Repr

/-- What is read from a cache. The time is missing when the clock gave it. -/
structure Entry where
  value : String
  writtenAt : Option Instant
  deriving DecidableEq, Repr

/-- Why a cache could not be opened, read or written. -/
inductive CacheError where
  | noParent (parent url : String)
  | invalidUrl (url : String)
  | notOpened (url : String)
  | noTable
  | readUnavailable (key : String)
  | writeUnavailable (key : String)
  | notWritten (key : String)
  | invalidTimestamp (key : String)
  deriving DecidableEq, Repr

/-- The text of an error. -/
def CacheError.message : CacheError → String
  | noParent parent url =>
    "failed to create parent directory '" ++ parent ++ "' for database url '" ++ url ++ "'"
  | invalidUrl url => "invalid cache database url '" ++ url ++ "'"
  | notOpened url => "failed to open cache database '" ++ url ++ "'"
  | noTable => "failed to ensure client_cache table exists"
  | readUnavailable key => "durable cache unavailable; cannot read '" ++ key ++ "'"
  | writeUnavailable key => "durable cache unavailable; cannot write '" ++ key ++ "'"
  | notWritten key => "failed to write cache entry '" ++ key ++ "'"
  | invalidTimestamp key => "cache entry '" ++ key ++ "' has invalid timestamp"

/-- The rows of a table by their keys. -/
abbrev Table := Dict Row

/-- An open database. One that lives in memory has no place on the disk. -/
structure Database where
  place : Option (List String)
  readOnly : Bool
  rows : Table
  deriving DecidableEq

/-- A cache. -/
inductive Cache where
  | unavailable
  | memory (values : Dict String)
  | database (db : Database)
  deriving DecidableEq

namespace Cache

/-- The key under which the graph is kept. -/
def graphKey : String := "sw_transitions_v1"

/-- The entry of a row, if its time can be read. -/
def entryOf (key : String) (row : Row) : Except CacheError Entry :=
  match row.stamp with
  | .clock => .ok ⟨row.value, none⟩
  | .byHand raw =>
    match Instant.parse? raw with
    | some t => .ok ⟨row.value, some t⟩
    | none => .error (.invalidTimestamp key)

/-- The entry of a key, if there is one. -/
def read (c : Cache) (key : String) : Except CacheError (Option Entry) :=
  match c with
  | unavailable => .error (.readUnavailable key)
  | memory values => .ok ((values.get? key).map (⟨·, none⟩))
  | database db =>
    match db.rows.get? key with
    | none => .ok none
    | some row => (entryOf key row).map some

/-- The cache with a value for a key, in place of any former one. -/
def write (c : Cache) (key value : String) : Except CacheError Cache :=
  match c with
  | unavailable => .error (.writeUnavailable key)
  | memory values => .ok (memory (values.insert key value))
  | database db =>
    if db.readOnly then .error (.notWritten key)
    else .ok (database { db with rows := db.rows.insert key ⟨value, .clock⟩ })

/-- Puts a time into the row of a key by hand, and counts the rows that it changes. -/
def setStamp (c : Cache) (key raw : String) : Cache × Nat :=
  match c with
  | database db =>
    match db.rows.get? key with
    | some row =>
      (database { db with rows := db.rows.insert key { row with stamp := .byHand raw } }, 1)
    | none => (c, 0)
  | _ => (c, 0)

/-- An empty cache in memory. -/
def emptyMemory : Cache := memory Dict.empty

end Cache
end OrderDesk
