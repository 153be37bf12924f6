import OrderDesk.Proofs.Opening
import OrderDesk.Proofs.Reopening

/-! The caches as one map. A cache in memory and a database answer a row of calls alike. A database
file may be opened again and its rows may be given other times by hand in between, and a key has the
value that was written to it last. -/
namespace OrderDesk
open Text

variable {url : String} {key value : String} {rows : Table} {values : Dict String}
  {place : List String} {made : Disk}

namespace Cache

/-- A call on a cache. -/
inductive Call where
  | read (key : String)
  | write (key value : String)
  deriving DecidableEq, Repr

/-- What a call gives. What was written is not given. -/
def answer (c : Cache) : Call → Except CacheError (Option Entry)
  | .read key => c.read key
  | .write key value => (c.write key value).map fun _ => none

/-- The cache after a call. -/
def after (c : Cache) : Call → Cache
  | .read _ => c
  | .write key value => (c.write key value).toOption.getD c

/-- The cache after a row of calls. -/
def afterAll (c : Cache) (calls : List Call) : Cache := calls.foldl after c

/-- What the calls of a row give. -/
def answers (c : Cache) : List Call → List (Except CacheError (Option Entry))
  | [] => []
  | call :: calls => c.answer call :: (c.after call).answers calls

/-- A cache in memory with one entry. -/
def seeded (key value : String) : Cache := memory (Dict.empty.insert key value)

/-- What the stand-in gives. -/
def refused : Call → CacheError
  | .read key => .readUnavailable key
  | .write key _ => .writeUnavailable key

end Cache

/-- A disk and the cache that is open on it. -/
structure Shelf where
  disk : Disk
  cache : Cache

/-- What a cache on a disk is put to: a call, opening its url again, or a time that is put into the
row of a key by hand. -/
inductive Use where
  | call (call : Cache.Call)
  | reopen
  | stamp (key raw : String)

namespace Shelf

/-- The shelf with another cache, whose rows are put on the disk. -/
def keep (s : Shelf) (c : Cache) : Shelf := ⟨Cache.save s.disk c, c⟩

/-- The shelf after a use. A url that cannot be opened leaves the cache open that is. -/
def use (url : String) (s : Shelf) : Use → Shelf
  | .call (.read _) => s
  | .call (.write key value) =>
    match s.cache.write key value with
    | .ok c => s.keep c
    | .error _ => s
  | .stamp key raw => s.keep (s.cache.setStamp key raw).1
  | .reopen =>
    match Cache.openUrl s.disk url with
    | (disk, .ok c) => ⟨disk, c⟩
    | (disk, .error _) => ⟨disk, s.cache⟩

/-- The shelf after a row of uses. -/
def uses (url : String) (s : Shelf) (us : List Use) : Shelf := us.foldl (use url) s

end Shelf

namespace Use

/-- The row of a key after a use. -/
def row? (key : String) (row : Option Row) : Use → Option Row
  | .call (.write k value) => if k = key then some ⟨value, .clock⟩ else row
  | .stamp k raw => if k = key then row.map fun r => { r with stamp := .byHand raw } else row
  | _ => row

/-- The row of a key after a row of uses. -/
def left? (key : String) (us : List Use) : Option Row := us.foldl (row? key) none

/-- The time that a use puts into the row of a key. -/
def stamp? (key : String) : Use → Option String
  | .stamp k raw => if k = key then some raw else none
  | _ => none

/-- The time that was put into the row of a key last. -/
def lastStamp? (key : String) (us : List Use) : Option String :=
  (us.filterMap (stamp? key)).getLast?

theorem foldl_row?_eq_none {row : Option Row} {us : List Use} :
    us.foldl (row? key) row = none ↔ row = none ∧ ∀ value, .call (.write key value) ∉ us := by
  induction us generalizing row with
  | nil => simp
  | cons u us ih =>
    rw [List.foldl_cons, ih]
    cases u with
    | call c =>
      cases c with
      | read k => simp [row?]
      | write k v =>
        by_cases hk : k = key
        · subst hk
          simp only [row?, if_true, reduceCtorEq, false_and, false_iff, not_and]
          exact fun _ hno => hno v List.mem_cons_self
        · simp [row?, hk, Ne.symm hk]
    | reopen => simp [row?]
    | stamp k raw =>
      by_cases hk : k = key <;> simp [row?, hk]

/-- A key that is written to no more keeps its value, and has the time that is put in last. -/
theorem foldl_row?_of_unwritten {row : Row} {us : List Use}
    (h : ∀ value, .call (.write key value) ∉ us) :
    us.foldl (row? key) (some row) =
      some { row with stamp := ((lastStamp? key us).map .byHand).getD row.stamp } := by
  induction us generalizing row with
  | nil => rfl
  | cons u us ih =>
    have hrest : ∀ value, Use.call (.write key value) ∉ us :=
      fun value hm => h value (List.mem_cons_of_mem u hm)
    rw [List.foldl_cons]
    cases u with
    | call c =>
      cases c with
      | read k => simp [row?, ih hrest, lastStamp?, stamp?]
      | write k v =>
        have hk : k ≠ key := by
          rintro rfl
          exact h v List.mem_cons_self
        simp [row?, hk, ih hrest, lastStamp?, stamp?]
    | reopen => simp [row?, ih hrest, lastStamp?, stamp?]
    | stamp k raw =>
      by_cases hk : k = key
      · simp only [row?, hk, if_true, Option.map_some, ih hrest, lastStamp?, stamp?,
          List.filterMap_cons, List.getLast?_cons]
        cases (us.filterMap (stamp? key)).getLast? <;> rfl
      · simp [row?, hk, ih hrest, lastStamp?, stamp?]

theorem left?_concat (key : String) (us : List Use) (u : Use) :
    left? key (us ++ [u]) = row? key (left? key us) u := by
  simp [left?]

/-- A table with the rows that uses have left. -/
def Fills (us : List Use) (rows : Table) : Prop := ∀ key, rows.get? key = left? key us

theorem Fills.empty : Fills [] Dict.empty := fun _ => rfl

/-- A table in which each row is as a use makes it. -/
theorem Fills.concat {us : List Use} {u : Use} {rows' : Table} (h : Fills us rows)
    (hu : ∀ key, rows'.get? key = row? key (rows.get? key) u) : Fills (us ++ [u]) rows' := by
  intro key
  rw [left?_concat, ← h key, hu key]

theorem Fills.write {us : List Use} (h : Fills us rows) (key value : String) :
    Fills (us ++ [.call (.write key value)]) (rows.insert key ⟨value, .clock⟩) := by
  refine h.concat fun other => ?_
  rw [row?, Dict.get?_insert_ite]

theorem Fills.stamp {us : List Use} {row : Row} (h : Fills us rows) {key : String}
    (hrow : rows.get? key = some row) (raw : String) :
    Fills (us ++ [.stamp key raw]) (rows.insert key { row with stamp := .byHand raw }) := by
  refine h.concat fun other => ?_
  rw [row?, Dict.get?_insert_ite]
  by_cases hk : key = other
  · simp [← hk, hrow]
  · rw [if_neg hk, if_neg hk]

theorem left?_of_written {before after us : List Use}
    (hus : us = before ++ .call (.write key value) :: after)
    (hlast : ∀ other, .call (.write key other) ∉ after) :
    left? key us = some ⟨value, ((lastStamp? key after).map .byHand).getD .clock⟩ := by
  rw [left?, hus, List.foldl_append, List.foldl_cons, row?, if_pos rfl,
    foldl_row?_of_unwritten hlast]

end Use

namespace Cache

/-- What reads of a cache give after uses, and what a further write comes to. -/
structure Maps (us : List Use) (c : Cache) : Prop where
  absent : ∀ key, c.read key = .ok none ↔ ∀ value, .call (.write key value) ∉ us
  present : ∀ key value before after, us = before ++ .call (.write key value) :: after →
    (∀ other, .call (.write key other) ∉ after) →
      ((∃ error, c.read key = .error error) ↔
        ∃ raw, Use.lastStamp? key after = some raw ∧ Instant.parse? raw = none) ∧
      ∀ entry, c.read key = .ok (some entry) → entry.value = value
  repaired : ∀ key value, ∃ c', c.write key value = .ok c' ∧
    c'.read key = .ok (some ⟨value, none⟩) ∧ ∀ other, other ≠ key → c'.read other = c.read other

theorem read_database (place : Option (List String)) (readOnly : Bool) (rows : Table)
    (key : String) :
    (database ⟨place, readOnly, rows⟩).read key =
      match rows.get? key with
      | none => .ok none
      | some row => (entryOf key row).map some := rfl

theorem maps_database {db : Database} {us : List Use} (hw : db.readOnly = false)
    (h : Use.Fills us db.rows) : (database db).Maps us where
  absent := by
    intro key
    have hnone : Use.left? key us = none ↔ ∀ value, .call (.write key value) ∉ us := by
      simp [Use.left?, Use.foldl_row?_eq_none]
    rw [← hnone, read_database, h key]
    cases Use.left? key us with
    | none => simp
    | some row =>
      rcases entryOf_cases key row with ⟨-, entry, he, -⟩ | ⟨-, he⟩ <;> simp [he, Except.map]
  present := by
    intro key value before after hus hlast
    rw [read_database, h key, Use.left?_of_written hus hlast]
    cases Use.lastStamp? key after with
    | none => simp [entryOf, Except.map]
    | some raw => cases hp : Instant.parse? raw <;> simp [entryOf, Except.map, hp]
  repaired := by
    intro key value
    refine ⟨database { db with rows := db.rows.insert key ⟨value, .clock⟩ }, by simp [write, hw],
      ?_, fun other hne => ?_⟩
    · simp [read, Dict.get?_insert, entryOf, Except.map]
    · simp [read, Dict.get?_insert_of_ne _ hne]

/-- A table and a map of texts that hold the same, when all times are the clock's. -/
def Same (rows : Table) (values : Dict String) : Prop :=
  ∀ key, rows.get? key = (values.get? key).map (⟨·, .clock⟩)

theorem Same.empty : Same Dict.empty Dict.empty := fun _ => rfl

theorem Same.insert (h : Same rows values) (key value : String) :
    Same (rows.insert key ⟨value, .clock⟩) (values.insert key value) := by
  intro other
  simp only [Dict.get?_insert_ite]
  split
  · rfl
  · exact h other

/-- A cache in memory is read like a database that holds the same. -/
theorem Same.read (h : Same rows values) (place : Option (List String)) (key : String) :
    (database ⟨place, false, rows⟩).read key = (memory values).read key := by
  simp only [Cache.read, h key]
  cases values.get? key <;> rfl

theorem Same.maps {us : List Use} (h : Same rows values) (hr : Use.Fills us rows) :
    (memory values).Maps us := by
  have hmaps : (database ⟨none, false, rows⟩).Maps us := maps_database rfl hr
  refine ⟨?_, ?_, fun key value => ⟨_, rfl, ?_, fun other hne => ?_⟩⟩
  · simpa only [h.read] using hmaps.absent
  · simpa only [h.read] using hmaps.present
  · simp [Cache.read, Dict.get?_insert]
  · simp [Cache.read, Dict.get?_insert_of_ne _ hne]

/-- A cache in memory after calls holds what a table would. -/
theorem Same.exists_afterAll {us : List Use} (h : Same rows values) (hr : Use.Fills us rows)
    (calls : List Call) : ∃ rows' values', (memory values).afterAll calls = memory values' ∧
      Same rows' values' ∧ Use.Fills (us ++ calls.map .call) rows' := by
  induction calls generalizing us rows values with
  | nil => exact ⟨rows, values, rfl, h, by simpa using hr⟩
  | cons call calls ih =>
    rw [List.map_cons, List.append_cons]
    cases call with
    | read key => exact ih h (hr.concat fun _ => rfl)
    | write key value => exact ih (h.insert key value) (hr.write key value)

theorem Same.answers (h : Same rows values) (place : Option (List String)) (calls : List Call) :
    (database ⟨place, false, rows⟩).answers calls = (memory values).answers calls := by
  induction calls generalizing rows values with
  | nil => rfl
  | cons call calls ih =>
    cases call with
    | read key =>
      rw [Cache.answers, Cache.answers, answer, answer, h.read]
      exact congrArg _ (ih h)
    | write key value => exact congrArg (_ :: ·) (ih (h.insert key value))

theorem answers_unavailable (calls : List Call) :
    unavailable.answers calls = calls.map fun call => .error (refused call) := by
  induction calls with
  | nil => rfl
  | cons call calls ih => cases call <;> exact congrArg (_ :: ·) ih

end Cache

namespace Shelf

/-- A shelf with a database file that is open, to which the way is kept. -/
structure Bears (made : Disk) (place : List String) (rows : Table) (s : Shelf) : Prop where
  way : made.KeepsWay place s.disk
  table : s.disk.item? place = some (.table rows)
  opened : s.cache = .database ⟨some place, false, rows⟩

variable {s : Shelf} {us : List Use} {r : Cache.Request}

/-- Rows that are put into the file are there. -/
theorem Bears.keep (h : s.Bears made place rows) (rows' : Table) :
    (s.keep (.database ⟨some place, false, rows'⟩)).Bears made place rows' := by
  obtain ⟨hway, htable⟩ := h.way.put_table h.table rows'
  exact ⟨hway, htable, rfl⟩

/-- Each use leaves the rows that it should in the file. -/
theorem Bears.use (hl : Cache.Leads made url place r) (h : s.Bears made place rows)
    (hr : Use.Fills us rows) (u : Use) :
    ∃ rows', (s.use url u).Bears made place rows' ∧ Use.Fills (us ++ [u]) rows' := by
  cases u with
  | call c =>
    cases c with
    | read key => exact ⟨rows, h, hr.concat fun _ => rfl⟩
    | write key value =>
      refine ⟨rows.insert key ⟨value, .clock⟩, ?_, hr.write key value⟩
      simp only [Shelf.use, h.opened, Cache.write]
      exact h.keep _
  | reopen =>
    refine ⟨rows, ?_, hr.concat fun _ => rfl⟩
    simp only [Shelf.use, hl.openUrl_eq h.way h.table]
    by_cases hs : Cache.IsStraight made url
    · simp only [hs, if_true]
      exact h.keep rows
    · -- The url bars its own way, and the cache that is open stays so.
      simp only [hs, if_false]
      exact h
  | stamp key raw =>
    simp only [Shelf.use, h.opened, Cache.setStamp]
    cases hrow : rows.get? key with
    | none =>
      refine ⟨rows, h.keep rows, hr.concat fun other => ?_⟩
      by_cases hk : key = other
      · simp [Use.row?, ← hk, hrow]
      · simp [Use.row?, hk]
    | some row => exact ⟨_, h.keep _, hr.stamp hrow raw⟩

theorem Bears.uses (hl : Cache.Leads made url place r) (h : s.Bears made place rows)
    {before : List Use} (hr : Use.Fills before rows) (us : List Use) :
    ∃ rows', (s.uses url us).Bears made place rows' ∧ Use.Fills (before ++ us) rows' := by
  induction us generalizing s before rows with
  | nil => exact ⟨rows, h, by simpa using hr⟩
  | cons u us ih =>
    obtain ⟨rows', h', hr'⟩ := h.use hl hr u
    rw [List.append_cons]
    exact ih h' hr'

/-- Opening the url again gives the cache that is open, unless the url leads through the file. -/
theorem Bears.openUrl (hl : Cache.Leads made url place r) (h : s.Bears made place rows) :
    (∀ used c, Cache.openUrl s.disk url = (used, .ok c) → c = s.cache) ∧
      ((∃ used, Cache.openUrl s.disk url = (used, .ok s.cache)) ↔ Cache.IsStraight made url) := by
  rw [hl.openUrl_eq h.way h.table, h.opened]
  by_cases hs : Cache.IsStraight made url
  · simp [hs, eq_comm]
  · simp [hs]

end Shelf

namespace Cache

/-- The caches are one map. A database and a cache in memory answer every row of calls alike, the
stand-in answers each with an error, and what is read under a key is what was written to it last. A
database file stays so as its url is opened again, which gives the cache that is open, and as times
are put into its rows by hand, where a row is an error as long as its last time is none. The url can
be opened again exactly when its path does not lead through the file. -/
theorem caches_map :
    (∀ place calls, (database ⟨place, false, Dict.empty⟩).answers calls =
      emptyMemory.answers calls) ∧
    (∀ calls, unavailable.answers calls = calls.map fun call => .error (refused call)) ∧
    (∀ calls, (emptyMemory.afterAll calls).Maps (calls.map .call)) ∧
    (∀ key value calls, ((seeded key value).afterAll calls).Maps
      (.call (.write key value) :: calls.map .call)) ∧
    ∀ disk url used place,
      openUrl disk url = (used, .ok (.database ⟨some place, false, Dict.empty⟩)) →
      ∀ us s, s = Shelf.uses url ⟨used, .database ⟨some place, false, Dict.empty⟩⟩ us →
        s.cache.Maps us ∧
        (∀ again c, openUrl s.disk url = (again, .ok c) → c = s.cache) ∧
        ((∃ again, openUrl s.disk url = (again, .ok s.cache)) ↔ IsStraight disk url) := by
  refine ⟨fun place calls => Same.empty.answers place calls, answers_unavailable, fun calls => ?_,
    fun key value calls => ?_, fun disk url used place hopen us s hs => ?_⟩
  · obtain ⟨rows, values, hafter, hsame, hfills⟩ := Same.empty.exists_afterAll .empty calls
    exact hafter ▸ hsame.maps hfills
  · obtain ⟨rows, values, hafter, hsame, hfills⟩ :=
      (Same.empty.insert key value).exists_afterAll (Use.Fills.empty.write key value) calls
    exact hafter ▸ hsame.maps hfills
  · obtain ⟨made, r, hl, hway, hext, htable⟩ := exists_leads hopen
    have hfresh : Shelf.Bears made place Dict.empty
        ⟨used, .database ⟨some place, false, Dict.empty⟩⟩ := ⟨hway, htable, rfl⟩
    obtain ⟨rows, h, hfills⟩ := hfresh.uses hl Use.Fills.empty us
    subst hs
    obtain ⟨hsame, hagain⟩ := h.openUrl hl
    exact ⟨h.opened ▸ maps_database rfl hfills, hsame, hagain.trans (IsStraight.congr hext)⟩

/-- Two writes, of which one has no text, a time that is none, and the url opened again. -/
def spoiling : List Use :=
  [.call (.write "graph" "[]"), .call (.write "note" ""), .stamp "graph" "never", .reopen]

theorem caches_map_spoiling :
    ∃ used place, openUrl bareDisk "sqlite://./data/cache.db" =
        (used, .ok (.database ⟨some place, false, Dict.empty⟩)) ∧
      ∀ s, s = Shelf.uses "sqlite://./data/cache.db"
          ⟨used, .database ⟨some place, false, Dict.empty⟩⟩ spoiling →
        (∃ error, s.cache.read "graph" = .error error) ∧
        (∀ entry, s.cache.read "note" = .ok (some entry) → entry.value = "") ∧
        ∃ again, openUrl s.disk "sqlite://./data/cache.db" = (again, .ok s.cache) := by
  obtain ⟨-, -, -, -, hfile⟩ := caches_map
  have hopen : ∃ used, openUrl bareDisk "sqlite://./data/cache.db" =
      (used, .ok (.database ⟨some ["home", "data", "cache.db"], false, Dict.empty⟩)) :=
    ⟨_, Prod.ext rfl (by decide +kernel)⟩
  obtain ⟨used, hopen⟩ := hopen
  refine ⟨used, _, hopen, fun s hs => ?_⟩
  obtain ⟨hmaps, -, hagain⟩ := hfile _ _ _ _ hopen spoiling s hs
  refine ⟨(hmaps.present "graph" "[]" [] _ rfl (by simp)).1.mpr ⟨"never", by decide, by decide⟩,
    (hmaps.present "note" "" [.call (.write "graph" "[]")] _ rfl (by simp)).2, hagain.mpr ?_⟩
  decide +kernel

end Cache
end OrderDesk
