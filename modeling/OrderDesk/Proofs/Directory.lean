import OrderDesk.Proofs.Location

/-! The directory of a database file. The one that is made for a url is that of the path as it is
written there, and none is made when the url reads as that of a database in memory. The database
reads percent codes in the path and asks less before it takes a url for one of a file, so it may ask
for a file whose directory is not there. -/
namespace OrderDesk
open Text

variable {d made : Disk} {url : String} {path up dir name name' : List Char}

namespace Text

variable {c : Char} {s t : List Char}

theorem exists_pieces_cons (c : Char) (s : List Char) : ∃ p ps, pieces c s = p :: ps := by
  rw [pieces_eq_splitOn]
  exact List.exists_cons_of_ne_nil (List.splitOn_ne_nil c s)

theorem pieces_append_cons (s t : List Char) :
    pieces c (s ++ c :: t) = pieces c s ++ pieces c t := by
  induction s with
  | nil =>
    obtain ⟨p, ps, hp⟩ := exists_pieces_cons c t
    simp [pieces, hp]
  | cons d s ih =>
    obtain ⟨p, ps, hp⟩ := exists_pieces_cons c s
    rw [List.cons_append, pieces, ih, pieces, hp]
    by_cases hd : d = c
    · simp [hd]
    · simp [hd]

theorem pieces_of_not_mem (h : c ∉ s) : pieces c s = [s] :=
  parted_iff.mp ⟨List.cons_ne_nil _ _, by simpa using h, by simp [List.intercalate]⟩

/-- What ends with a `c`, or is empty, is cut at the same places whatever follows without a `c`. -/
theorem exists_rows (h : s = [] ∨ s.getLast? = some c) :
    ∃ rows, ∀ t, c ∉ t → pieces c (s ++ t) = rows ++ [t] := by
  rcases h with rfl | h
  · exact ⟨[], fun t ht => pieces_of_not_mem ht⟩
  · obtain ⟨front, rfl⟩ := List.getLast?_eq_some_iff.mp h
    refine ⟨pieces c front, fun t ht => ?_⟩
    rw [List.append_assoc, List.singleton_append, pieces_append_cons, pieces_of_not_mem ht]

theorem bytes_inj (h : bytes s = bytes t) : s = t :=
  Option.some.inj ((ofBytes?_eq_some_iff.mpr h).symm.trans (ofBytes?_eq_some_iff.mpr rfl))

theorem bytes_append (s t : List Char) : bytes (s ++ t) = bytes s ++ bytes t :=
  List.flatMap_append

namespace Percent

variable {w w' : List Char} {bs bs' : List UInt8}

/-- A text that ends with a stroke, or is empty, stands for the same bytes whatever follows. -/
theorem Codes.append (h : Codes w bs) (h' : Codes w' bs') (hw : w = [] ∨ w.getLast? = some '/') :
    Codes (w ++ w') (bs ++ bs') := by
  have hstroke : ∀ x, hexDigit? '/' ≠ some x := fun x hx => by
    have hnone : hexDigit? '/' = none := by decide
    rw [hnone] at hx
    cases hx
  induction h with
  | nil => exact h'
  | @byte hi lo x y w bs hhi hlo _ ih =>
    refine .byte hhi hlo (ih ?_)
    cases w with
    | nil =>
      obtain rfl : lo = '/' := by simpa using hw
      exact absurd hlo (hstroke y)
    | cons a w => exact Or.inr (by simpa using hw)
  | @sign c w bs hno _ ih =>
    rw [List.append_assoc]
    -- Where the text ends too early for two digits, the stroke is no digit.
    rcases w with _ | ⟨a, _ | ⟨b, w⟩⟩
    · obtain rfl : c = '/' := by simpa using hw
      exact .sign (fun _ _ _ _ _ he => absurd he (by decide)) (ih (Or.inl rfl))
    · obtain rfl : a = '/' := by simpa using hw
      refine .sign (fun hi lo rest x y _ hrest hhi => ?_) (ih (Or.inr rfl))
      obtain ⟨rfl, -⟩ := List.cons.inj hrest
      exact absurd hhi (hstroke x)
    · refine .sign (fun hi lo rest x y hc hrest => ?_) (ih (Or.inr (by simpa using hw)))
      obtain ⟨ha, hrest⟩ := List.cons.inj hrest
      obtain ⟨hb, -⟩ := List.cons.inj hrest
      rw [← ha, ← hb]
      exact hno a b w x y hc rfl

/-- A text without percent signs stands for itself. -/
theorem codes_self (h : '%' ∉ s) : Codes s (bytes s) := by
  induction s with
  | nil => exact .nil
  | cons c s ih =>
    rw [List.mem_cons, not_or] at h
    exact .sign (fun _ _ _ _ _ he => absurd he.symm h.1) (ih h.2)

end Percent

end Text

namespace Disk

namespace Path

/-- A name, as paths have them: it holds no stroke and is not passed over. -/
def IsName (name : List Char) : Prop := '/' ∉ name ∧ isIdle name = false

theorem lead_of_names {c e : Char} (hroot : c ≠ '/') (hpoint : ¬(c = '.' ∧ e = '/'))
    (rest : List Char) : lead (c :: e :: rest) = [] := by
  rw [lead.eq_def]
  split <;> simp_all

/-- What a path starts with is settled as soon as a stroke has come. -/
theorem lead_append (h : dir.getLast? = some '/') (rest : List Char) :
    lead (dir ++ rest) = lead dir ∧ lead dir <+: dir := by
  rcases dir with _ | ⟨c, _ | ⟨e, dir⟩⟩
  · cases h
  · obtain rfl : c = '/' := by simpa using h
    exact ⟨rfl, List.prefix_refl _⟩
  · by_cases hroot : c = '/'
    · subst hroot
      exact ⟨rfl, e :: dir, rfl⟩
    · by_cases hpoint : c = '.' ∧ e = '/'
      · obtain ⟨rfl, rfl⟩ := hpoint
        exact ⟨rfl, '/' :: dir, rfl⟩
      · rw [List.cons_append, List.cons_append, lead_of_names hroot hpoint,
          lead_of_names hroot hpoint]
        exact ⟨rfl, List.nil_prefix⟩

theorem lead_name (h : IsName name) : lead name = [] := by
  obtain ⟨hstroke, hidle⟩ := h
  rw [lead.eq_def]
  split <;> simp_all [isIdle]

/-- The parent of a path is the same whatever name comes last. -/
theorem exists_parent? (h : dir = [] ∨ dir.getLast? = some '/') :
    ∃ up, ∀ name, IsName name → parent? (dir ++ name) = some up := by
  obtain ⟨front, start, hdir, hlead⟩ : ∃ front start, (front = [] ∨ front.getLast? = some '/') ∧
      ∀ name, IsName name → lead (dir ++ name) = start ∧
        (dir ++ name).drop start.length = front ++ name := by
    rcases h with rfl | h
    · exact ⟨[], [], Or.inl rfl, fun name hname => ⟨lead_name hname, rfl⟩⟩
    · obtain ⟨front, hfront⟩ := (lead_append h []).2
      refine ⟨front, lead dir, ?_, fun name _ => ⟨(lead_append h name).1, ?_⟩⟩
      · cases front with
        | nil => exact Or.inl rfl
        | cons c front =>
          rw [← hfront, List.getLast?_append_of_ne_nil _ (List.cons_ne_nil c front)] at h
          exact Or.inr h
      · conv_lhs => rw [← hfront, List.append_assoc]
        rw [hfront, List.drop_left]
  obtain ⟨rows, hrows⟩ := exists_rows hdir
  refine ⟨start ++ ['/'].intercalate (rows.reverse.dropWhile isIdle).reverse, fun name hname => ?_⟩
  obtain ⟨hstart, hrest⟩ := hlead name hname
  rw [parent?]
  simp only [hstart, hrest, hrows name hname.1, List.reverse_append, List.reverse_singleton,
    List.singleton_append, List.dropWhile_cons, hname.2]
  rfl

end Path

/-- The directory of a path is there. A name alone stands in the working directory, and the root in
none. -/
def HasDirectoryOf (d : Disk) (path : List Char) : Prop :=
  ∀ up ∈ Path.parent? path, d.isDirectory (if up.isEmpty then ['.'] else up) = true

instance (d : Disk) (path : List Char) : Decidable (d.HasDirectoryOf path) :=
  inferInstanceAs (Decidable (∀ up ∈ Path.parent? path, _))

theorem HasDirectoryOf.congr (h : d.HasDirectoryOf path) {other : List Char}
    (hparent : Path.parent? other = Path.parent? path) : d.HasDirectoryOf other :=
  fun up hup => h up (hparent ▸ hup)

/-- The working directory goes by the name of a point. -/
theorem isDirectory_point (h : d.isDirectoryAt d.working = true) : d.isDirectory ['.'] = true := by
  have hpath : isPath ['.'] = true := by decide
  have hsteps : Path.steps ['.'] = [] := by decide
  have hstart : d.start ['.'] = d.working := rfl
  simp only [isDirectory, resolve, hpath, hsteps, hstart, walk]
  exact h

end Disk

namespace Cache

/-- The path of a url as it is written there. -/
def writtenPath (url : String) : List Char := (withoutScheme url.toList).takeWhile (· != '?')

/-- A url that is taken for that of a database in memory when its directory is to be made. -/
def SeemsInMemory (url : String) : Prop :=
  "sqlite::memory:".toList <+: url.toList ∨ "mode=memory".toList <:+: url.toList

theorem isMemoryUrl_iff : isMemoryUrl url = true ↔ SeemsInMemory url := by
  rw [isMemoryUrl, Bool.or_eq_true, after?_isSome_iff, occurs_iff, SeemsInMemory]

/-- Then no directory is made. -/
theorem ensureParent_of_seemsInMemory (h : SeemsInMemory url) (d : Disk) :
    ensureParent d url = (d, .ok ()) := by
  have hfile : filePath? url = none := by simp [filePath?, isMemoryUrl_iff.mpr h]
  simp [ensureParent, hfile]

theorem filePath?_eq_writtenPath (hscheme : scheme <+: url.toList) (hmemory : ¬ SeemsInMemory url)
    (hne : writtenPath url ≠ []) : filePath? url = some (writtenPath url) := by
  have hfile : isMemoryUrl url = false :=
    Bool.of_not_eq_true fun hm => hmemory (isMemoryUrl_iff.mp hm)
  obtain ⟨rest, hrest⟩ := Option.isSome_iff_exists.mp (after?_isSome_iff.mpr hscheme)
  simp only [filePath?, hfile, hrest, Option.isNone_some, Bool.or_self, Bool.false_eq_true,
    if_false]
  split
  · next hnil => exact absurd hnil hne
  · rfl

/-- The directory that is made for a url is that of the written path. -/
theorem hasDirectoryOf_writtenPath {u : Unit} (h : ensureParent d url = (made, .ok u))
    (hscheme : scheme <+: url.toList) (hmemory : ¬ SeemsInMemory url)
    (hworking : d.isDirectoryAt d.working = true) : made.HasDirectoryOf (writtenPath url) := by
  intro up hup
  have hext : d.Extends made := by
    have := extends_ensureParent d url
    rwa [h] at this
  have hpoint : made.isDirectory ['.'] = true :=
    hext.isDirectory (Disk.isDirectory_point hworking)
  by_cases hempty : up = []
  · rwa [hempty]
  · have hne : writtenPath url ≠ [] := by
      intro hnil
      rw [hnil] at hup
      cases hup
    have hparent : (filePath? url).bind Disk.Path.parent? = some up := by
      rw [filePath?_eq_writtenPath hscheme hmemory hne]
      exact hup
    simp only [ensureParent, hparent, List.isEmpty_iff, hempty, if_false] at h ⊢
    split at h
    · next hmade =>
      obtain rfl := (Prod.mk.inj h).1
      exact Disk.isDirectory_of_makeAll hempty hmade
    · cases (Prod.mk.inj h).2

/-- The database is asked for what the written path stands for. -/
theorem codes_of_readUrl? {file : List Char} {options : OpenOptions}
    (h : readUrl? url = some (file, options)) : Percent.Codes (writtenPath url) (bytes file) := by
  obtain ⟨s, hs, h⟩ := Option.bind_eq_some_iff.mp h
  obtain ⟨o, -, h⟩ := Option.bind_eq_some_iff.mp h
  obtain ⟨rfl, rfl⟩ := Prod.mk.inj (Option.some.inj h)
  exact Percent.codes_iff.mpr (ofBytes?_eq_some_iff.mp hs).symm

/-- When a url has been prepared, the directory of its path as it is written is there, unless the
url seems to be one in memory: then nothing was made. It is also that of the file that the database
is then asked for, if the path stands for itself in percent code, as it does without percent signs,
or does so up to its last name, which stands for a name. -/
theorem directory_prepared {file : List Char} {options : OpenOptions}
    (hready : ensureParent d url = (made, .ok ()) ∨ ∃ raw, prepare d raw = (made, .ok url))
    (hscheme : "sqlite:".toList <+: url.toList) (hasked : readUrl? url = some (file, options))
    (hworking : d.isDirectoryAt d.working = true) :
    (SeemsInMemory url → made = d) ∧
    (¬ SeemsInMemory url →
      made.HasDirectoryOf (writtenPath url) ∧
      (Percent.Codes (writtenPath url) (bytes (writtenPath url)) →
        file = writtenPath url ∧ made.HasDirectoryOf file) ∧
      ∀ dir name name', writtenPath url = dir ++ name → (dir = [] ∨ dir.getLast? = some '/') →
        Percent.Codes dir (bytes dir) → Percent.Codes name (bytes name') →
        Disk.Path.IsName name → Disk.Path.IsName name' →
          file = dir ++ name' ∧ made.HasDirectoryOf file) := by
  have hmade : ensureParent d url = (made, .ok ()) := by
    rcases hready with h | ⟨raw, h⟩
    · exact h
    · obtain ⟨hurl, h⟩ := prepare_eq_ok.mp h
      rwa [← hurl] at h
  have hcodes := Percent.codes_iff.mp (codes_of_readUrl? hasked)
  refine ⟨fun hmemory => ?_, fun hmemory => ?_⟩
  · rw [ensureParent_of_seemsInMemory hmemory] at hmade
    exact (Prod.mk.inj hmade).1.symm
  · have hthere := hasDirectoryOf_writtenPath hmade hscheme hmemory hworking
    refine ⟨hthere, fun hself => ?_, fun dir name name' hpath hdir hself hspells hname hname' => ?_⟩
    · obtain rfl : writtenPath url = file :=
        bytes_inj ((Percent.codes_iff.mp hself).symm.trans hcodes)
      exact ⟨rfl, hthere⟩
    · have hfile : bytes (dir ++ name') = bytes file := by
        rw [bytes_append, ← Percent.codes_iff.mp (hself.append hspells hdir), ← hpath, hcodes]
      obtain rfl := bytes_inj hfile
      obtain ⟨up, hup⟩ := Disk.Path.exists_parent? hdir
      refine ⟨rfl, hthere.congr ?_⟩
      rw [hpath, hup name hname, hup name' hname']

/-- A url with a directory to be made and a name in percent code. -/
theorem directory_prepared_coded :
    (prepare bareDisk "data/my%20cache.db").2 = .ok "sqlite://data/my%20cache.db" ∧
    (prepare bareDisk "data/my%20cache.db").1.HasDirectoryOf "data/my cache.db".toList := by
  have hprepared : (prepare bareDisk "data/my%20cache.db").2 =
      .ok "sqlite://data/my%20cache.db" := by
    decide +kernel
  have hready : prepare bareDisk "data/my%20cache.db" =
      ((prepare bareDisk "data/my%20cache.db").1, .ok "sqlite://data/my%20cache.db") :=
    Prod.ext rfl hprepared
  have hasked : readUrl? "sqlite://data/my%20cache.db" = some ("data/my cache.db".toList, {}) := by
    decide +kernel
  have hspells : Percent.Codes "my%20cache.db".toList (bytes "my cache.db".toList) :=
    Percent.codes_iff.mpr (by decide +kernel)
  obtain ⟨-, hfile⟩ := directory_prepared (Or.inr ⟨_, hready⟩) (by decide) hasked (by decide)
  obtain ⟨-, -, hcoded⟩ := hfile (by rw [← isMemoryUrl_iff]; decide +kernel)
  exact ⟨hprepared, (hcoded "data/".toList _ _ (by decide +kernel) (Or.inr (by decide))
    (Percent.codes_self (by decide)) hspells ⟨by decide, by decide⟩ ⟨by decide, by decide⟩).2⟩

/-- A url of a file for which all is said to be prepared, but whose directory is not there, so that
the stand-in takes the place of the cache. -/
structure IsUnprepared (d : Disk) (url : String) (file : List Char) : Prop where
  scheme : "sqlite:".toList <+: url.toList
  asked : readUrl? url = some (file, {})
  prepared : (prepare d url).2 = .ok url
  missing : ¬ (prepare d url).1.HasDirectoryOf file
  lost : (openAt d url).2 = .unavailable

/-- What the database reads as a blank is not read when the directory is made, and signs that stand
in a path are taken for those of a database in memory. -/
theorem directory_unprepared :
    bareDisk.isDirectoryAt bareDisk.working = true ∧
    IsUnprepared bareDisk "sqlite://my%20data/cache.db" "my data/cache.db".toList ∧
    IsUnprepared bareDisk "sqlite://nested/mode=memory.db" "nested/mode=memory.db".toList ∧
    IsUnprepared bareDisk "sqlite::memory:/cache.db" ":memory:/cache.db".toList := by
  refine ⟨by decide, ⟨?_, ?_, ?_, ?_, ?_⟩, ⟨?_, ?_, ?_, ?_, ?_⟩, ⟨?_, ?_, ?_, ?_, ?_⟩⟩ <;>
    decide +kernel

end Cache
end OrderDesk
