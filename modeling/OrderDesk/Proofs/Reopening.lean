import OrderDesk.Cache.Open

/-! What opening the database of a url once more comes to. Its directory is there from then on, and
nothing that stood on the way to the file is changed, so the url leads to the same file, which gives
the rows that were put into it. -/
namespace OrderDesk
open Text

variable {d e made used : Disk} {place q at_ : List String} {i : Disk.Item} {path : List Char}
  {url : String} {rows : Table} {r : Cache.Request}

namespace Disk

theorem item?_put_of_ne (h : q ≠ place) : (d.put place i).item? q = d.item? q := by
  have hkept : ∀ items : List (List String × Item),
      (items.filter fun e => e.1 != place).find? (fun e => e.1 == q) =
        items.find? fun e => e.1 == q := by
    intro items
    rw [List.find?_filter]
    refine congrArg (items.find? ·) (funext fun e => ?_)
    by_cases he : e.1 = q <;> simp [he, h]
  simp [item?, put, h.symm, hkept]

theorem item?_remove_of_ne (h : q ≠ place) : (d.remove place).item? q = d.item? q := by
  rw [← item?_put_of_ne (d := d) (i := .directory) h]
  simp [item?, put, remove, h.symm]

theorem item?_put_self (h : place ≠ []) : (d.put place i).item? place = some i := by
  simp [item?, put, h]

theorem isDirectoryAt_remove (h : d.isDirectoryAt q = false) (place : List String) :
    (d.remove place).isDirectoryAt q = false := by
  by_cases hq : q = place
  · subst hq
    cases q with
    | nil => cases h
    | cons name rest =>
      have hgone : (d.remove (name :: rest)).items.find? (fun e => e.1 == name :: rest) = none := by
        simp [remove]
      simp [isDirectoryAt, item?, hgone]
  · rwa [isDirectoryAt, item?_remove_of_ne hq]

theorem isDirectoryAt_root (d : Disk) : d.isDirectoryAt [] = true := rfl

theorem isDirectoryAt_put (d : Disk) (place : List String) :
    (d.put place .directory).isDirectoryAt place = true := by
  by_cases h : place = []
  · subst h
    exact isDirectoryAt_root _
  · simp [isDirectoryAt, item?_put_self h]

theorem isDirectoryAt_of_enter {name : String} (h : d.enter at_ name = .ok q) :
    d.isDirectoryAt at_ = true := by
  refine Bool.of_not_eq_false fun hno => ?_
  simp [enter, hno] at h

/-- A disk with the same working directory and all directories of another one. -/
structure Extends (d e : Disk) : Prop where
  working : e.working = d.working
  directories : ∀ q, d.isDirectoryAt q = true → e.isDirectoryAt q = true

namespace Extends

theorem refl (d : Disk) : d.Extends d := ⟨rfl, fun _ => id⟩

theorem trans {f : Disk} (h : d.Extends e) (h' : e.Extends f) : d.Extends f :=
  ⟨h'.working.trans h.working, fun q hq => h'.directories q (h.directories q hq)⟩

theorem put (h : d.isDirectoryAt place = false) (i : Item) : d.Extends (d.put place i) := by
  refine ⟨rfl, fun q hq => ?_⟩
  have hne : q ≠ place := by
    rintro rfl
    simp [hq] at h
  rwa [isDirectoryAt, item?_put_of_ne hne]

theorem remove (h : d.isDirectoryAt place = false) : d.Extends (d.remove place) := by
  refine ⟨rfl, fun q hq => ?_⟩
  have hne : q ≠ place := by
    rintro rfl
    simp [hq] at h
  rwa [isDirectoryAt, item?_remove_of_ne hne]

theorem start (h : d.Extends e) (path : List Char) : e.start path = d.start path := by
  simp [Disk.start, h.working]

theorem enter (h : d.Extends e) {name : String} (he : d.enter at_ name = .ok q) :
    e.enter at_ name = .ok q := by
  unfold Disk.enter at he ⊢
  cases hd : d.isDirectoryAt at_ with
  | false => simp [hd] at he
  | true => simpa [hd, h.directories _ hd] using he

/-- The way to a directory leads there still. -/
theorem walk (h : d.Extends e) {names : List String} (hw : d.walk at_ names = .ok q)
    (hq : d.isDirectoryAt q = true) : e.walk at_ names = .ok q := by
  induction names generalizing at_ with
  | nil => exact hw
  | cons name rest ih =>
    simp only [Disk.walk] at hw ⊢
    cases hn : d.enter at_ name with
    | error error => simp [hn] at hw
    | ok next =>
      simp only [hn] at hw
      split at hw
      · -- What is walked through is a directory, and so is what the walk ends at.
        have hnext : d.isDirectoryAt next = true := by
          cases rest with
          | nil => exact Except.ok.inj hw ▸ hq
          | cons name rest =>
            refine Bool.of_not_eq_false fun hno => ?_
            simp [Disk.walk, Disk.enter, hno] at hw
        have hthere : e.item? next = some .directory := by
          simpa [isDirectoryAt] using h.directories _ hnext
        simpa [h.enter hn, hthere] using ih hw
      · cases hw

theorem target (h : d.Extends e) (ht : d.target path = .ok q) : e.target path = .ok q := by
  unfold Disk.target at ht ⊢
  rw [h.start]
  split at ht
  · cases ht
  · split at ht
    · cases ht
    · cases hlast : (Path.steps path).getLast? with
      | none => simp_all
      | some name =>
        cases hw : d.walk (d.start path) (Path.steps path).dropLast with
        | error error => simp [hlast, hw] at ht
        | ok near =>
          have hn : d.enter near name = .ok q := by simpa [hlast, hw] using ht
          simp_all [h.walk hw (isDirectoryAt_of_enter hn), h.enter hn]

end Extends

theorem walk_concat (names : List String) (name : String) :
    d.walk at_ (names ++ [name]) = .ok q ↔
      ∃ near, d.walk at_ names = .ok near ∧ d.enter near name = .ok q ∧
        (d.item? q).isSome = true := by
  induction names generalizing at_ with
  | nil =>
    simp only [List.nil_append, walk, Except.ok.injEq, exists_eq_left']
    cases d.enter at_ name with
    | error error => simp
    | ok next =>
      simp only [Except.ok.injEq]
      split
      · next hn => exact ⟨fun h => ⟨Except.ok.inj h, Except.ok.inj h ▸ hn⟩, fun h => h.1 ▸ rfl⟩
      · next hn => exact ⟨nofun, fun h => absurd (h.1 ▸ h.2) hn⟩
  | cons first rest ih =>
    simp only [List.cons_append, walk]
    cases d.enter at_ first with
    | error error => simp
    | ok next =>
      by_cases hn : (d.item? next).isSome = true
      · simp only [hn, if_true]
        exact ih
      · simp [hn]

/-- A path leads to a directory when one stands at its target. -/
theorem isDirectory_iff (d : Disk) (path : List Char) :
    d.isDirectory path = true ↔ ∃ q, d.target path = .ok q ∧ d.isDirectoryAt q = true := by
  have hresolve : d.isDirectory path = true ↔
      ∃ q, d.resolve path = .ok q ∧ d.isDirectoryAt q = true := by
    unfold isDirectory
    cases d.resolve path <;> simp
  rw [hresolve]
  refine exists_congr fun q => and_congr_left fun hq => ?_
  have hthere : d.item? q = some .directory := by simpa [isDirectoryAt] using hq
  unfold resolve target
  split
  · rfl
  · split
    · rfl
    · rcases List.eq_nil_or_concat (Path.steps path) with hsteps | ⟨names, name, hsteps⟩
      · simp [hsteps, walk]
      · rw [hsteps, List.concat_eq_append, walk_concat]
        simp only [List.getLast?_concat, List.dropLast_concat, hthere, Option.isSome_some, and_true]
        cases d.walk (d.start path) names <;> simp

theorem Extends.isDirectory (h : d.Extends e) (hd : d.isDirectory path = true) :
    e.isDirectory path = true := by
  obtain ⟨q, ht, hq⟩ := (isDirectory_iff d path).mp hd
  exact (isDirectory_iff e path).mpr ⟨q, h.target ht, h.directories q hq⟩

theorem isDirectory_of_made (h : d.makeDirectory path = .ok made) :
    d.Extends made ∧ made.isDirectory path = true := by
  unfold makeDirectory at h
  cases ht : d.target path with
  | error error => simp [ht] at h
  | ok q =>
    simp only [ht] at h
    split at h
    · cases h
    · next hnone =>
      obtain rfl := Except.ok.inj h
      have hfree : d.isDirectoryAt q = false := by
        simp_all [isDirectoryAt]
      have hext := Extends.put hfree .directory
      exact ⟨hext, (isDirectory_iff _ _).mpr ⟨q, hext.target ht, isDirectoryAt_put d q⟩⟩

theorem makeDirectory_of_isDirectory (h : d.isDirectory path = true) :
    d.makeDirectory path = .error .barred := by
  obtain ⟨q, ht, hq⟩ := (isDirectory_iff d path).mp h
  have hthere : d.item? q = some .directory := by simpa [isDirectoryAt] using hq
  simp [makeDirectory, ht, hthere]

theorem extends_makeAll (d : Disk) (paths : List (List Char)) : d.Extends (d.makeAll paths).1 := by
  induction paths with
  | nil => exact .refl d
  | cons path up ih =>
    unfold makeAll
    split
    · exact .refl d
    · split
      · next made hm => exact (isDirectory_of_made hm).1
      · exact .refl d
      · split
        · next ha => exact ha ▸ ih
        · next ha =>
          rw [ha] at ih
          split
          · next hm => exact ih.trans (isDirectory_of_made hm).1
          · exact ih

/-- What directories are made for is one of them. -/
theorem isDirectory_of_makeAll {up : List (List Char)} (hne : path ≠ [])
    (h : d.makeAll (path :: up) = (made, true)) : made.isDirectory path = true := by
  simp only [makeAll, List.isEmpty_iff, hne, if_false] at h
  split at h
  · next hm =>
    obtain rfl := (Prod.mk.inj h).1
    exact (isDirectory_of_made hm).2
  · obtain ⟨rfl, hd⟩ := Prod.mk.inj h
    exact hd
  · split at h
    · cases (Prod.mk.inj h).2
    · split at h
      · next hm =>
        obtain rfl := (Prod.mk.inj h).1
        exact (isDirectory_of_made hm).2
      · obtain ⟨rfl, hd⟩ := Prod.mk.inj h
        exact hd

theorem makeDirectories_of_isDirectory (hne : path ≠ []) (h : d.isDirectory path = true) :
    d.makeDirectories path = (d, true) := by
  simp [makeDirectories, Path.lineage, makeAll, hne, makeDirectory_of_isDirectory h, h]

/-- Whether something else than a directory stands at a place. -/
def isBarred (d : Disk) (place : List String) : Bool := (d.item? place).any (· != .directory)

theorem isBarred_remove (h : (d.remove place).isBarred q = true) : d.isBarred q = true := by
  by_cases hq : q = place
  · have hgone : (d.remove place).items.find? (fun e => e.1 == q) = none := by simp [remove, hq]
    cases q with
    | nil => exact h
    | cons name rest => simp [isBarred, item?, hgone] at h
  · rwa [isBarred, item?_remove_of_ne hq] at h

/-- A disk that extends another one and bars no way that was open there, except at a place. -/
structure KeepsWay (made : Disk) (place : List String) (d : Disk) : Prop
    extends made.Extends d where
  barred : ∀ q, q ≠ place → d.isBarred q = true → made.isBarred q = true

namespace KeepsWay

theorem refl (d : Disk) (place : List String) : d.KeepsWay place d :=
  ⟨.refl d, fun _ _ => id⟩

theorem trans (h : made.KeepsWay place d) (h' : d.KeepsWay place e) : made.KeepsWay place e :=
  ⟨h.toExtends.trans h'.toExtends, fun q hq hb => h.barred q hq (h'.barred q hq hb)⟩

theorem put (h : made.KeepsWay place d) (hp : d.isDirectoryAt place = false) (i : Item) :
    made.KeepsWay place (d.put place i) := by
  refine ⟨h.toExtends.trans (.put hp i), fun q hq hb => h.barred q hq ?_⟩
  rwa [isBarred, item?_put_of_ne hq] at hb

/-- Rows that are put into a table are there, and the way to it is kept. -/
theorem put_table (h : made.KeepsWay place d) (ht : d.item? place = some (.table rows))
    (rows' : Table) : made.KeepsWay place (d.put place (.table rows')) ∧
      (d.put place (.table rows')).item? place = some (.table rows') := by
  have hroot : place ≠ [] := by
    rintro rfl
    cases ht
  have hfile : d.isDirectoryAt place = false := by simp [isDirectoryAt, ht]
  exact ⟨h.put hfile _, item?_put_self hroot⟩

theorem remove (h : made.KeepsWay place d) (hq : d.isDirectoryAt q = false) :
    made.KeepsWay place (d.remove q) :=
  ⟨h.toExtends.trans (.remove hq), fun p hp hb => h.barred p hp (isBarred_remove hb)⟩

end KeepsWay

section Steps
variable {name : String} {names from_ to_ : List String}

/-- The place that a name leads to from another one. -/
def onward (from_ : List String) (name : String) : List String :=
  if name = ".." then from_.dropLast else from_ ++ [name]

/-- Whether names that lead on from a place go nowhere but back from another one. -/
def turnsBackAt (place : List String) : List String → List String → Bool
  | _, [] => true
  | from_, name :: rest =>
    (from_ != place || name == "..") && turnsBackAt place (onward from_ name) rest

theorem step_eq_onward (h : d.step from_ name = .ok to_) : to_ = onward from_ name := by
  unfold step at h
  unfold onward
  split at h
  · simp_all
  · split at h
    · cases h
    · simp_all

theorem isBarred_of_step (h : d.step from_ name = .ok to_) (hne : name ≠ "..") :
    d.isBarred from_ = false := by
  refine Bool.of_not_eq_true fun hb => ?_
  rw [isBarred] at hb
  simp [step, hne, hb] at h

theorem step_of_open (h : d.step from_ name = .ok to_)
    (hb : name ≠ ".." → e.isBarred from_ = false) : e.step from_ name = .ok to_ := by
  by_cases hne : name = ".."
  · simpa [step, hne] using h
  · have hd := isBarred_of_step h hne
    have he := hb hne
    rw [isBarred] at hd he
    simpa [step, hne, hd, he] using h

theorem foldlM_step_cons : (name :: names).foldlM d.step from_ = .ok to_ ↔
    ∃ near, d.step from_ name = .ok near ∧ names.foldlM d.step near = .ok to_ := by
  rw [List.foldlM_cons]
  cases d.step from_ name <;> simp [bind, Except.bind]

/-- Names that lead anywhere lead to the same place on every disk. -/
theorem foldlM_step_eq (h : names.foldlM d.step from_ = .ok to_) :
    to_ = names.foldl onward from_ := by
  induction names generalizing from_ with
  | nil => exact (Except.ok.inj h).symm
  | cons name rest ih =>
    obtain ⟨near, hnear, h⟩ := foldlM_step_cons.mp h
    rw [ih h, step_eq_onward hnear, List.foldl_cons]

/-- Where the way to a file is kept, names lead there again unless they lead through the file. -/
theorem foldlM_step_iff (hk : made.KeepsWay place d) (hp : d.isBarred place = true)
    (h : names.foldlM made.step from_ = .ok to_) :
    names.foldlM d.step from_ = .ok to_ ↔ turnsBackAt place from_ names = true := by
  induction names generalizing from_ with
  | nil => exact iff_of_true h rfl
  | cons name rest ih =>
    obtain ⟨near, hnear, hrest⟩ := foldlM_step_cons.mp h
    obtain rfl := step_eq_onward hnear
    -- From the file itself a name leads nowhere but back. What else was open once is open still.
    have hhere : (∃ near, d.step from_ name = .ok near) ↔ from_ ≠ place ∨ name = ".." := by
      refine ⟨fun ⟨near, hd⟩ => ?_, fun hor => ⟨_, step_of_open hnear fun hne => ?_⟩⟩
      · refine Decidable.or_iff_not_imp_left.mpr fun heq => Decidable.byContradiction fun hne => ?_
        rw [Decidable.not_not.mp heq] at hd
        exact absurd hp (by simp [isBarred_of_step hd hne])
      · have hne' := hor.resolve_right hne
        refine Bool.of_not_eq_true fun hb => ?_
        exact absurd (hk.barred from_ hne' hb) (by simp [isBarred_of_step hnear hne])
    rw [foldlM_step_cons, turnsBackAt, Bool.and_eq_true, ← ih hrest]
    simp only [Bool.or_eq_true, bne_iff_ne, beq_iff_eq, ← hhere]
    constructor
    · rintro ⟨near, hd, hto⟩
      exact ⟨⟨near, hd⟩, step_eq_onward hd ▸ hto⟩
    · rintro ⟨⟨near, hd⟩, hto⟩
      exact ⟨near, hd, step_eq_onward hd ▸ hto⟩

end Steps

theorem namedPlace_eq_ok : d.namedPlace path = .ok place ↔
    isPath path = true ∧ (d.start path ++ Path.steps path).foldlM d.step [] = .ok place ∧
      place ≠ [] ∧ d.isDirectoryAt place.dropLast = true := by
  unfold namedPlace
  cases isPath path with
  | false => simp
  | true =>
    cases (d.start path ++ Path.steps path).foldlM d.step [] with
    | error error => simp
    | ok q =>
      by_cases hq : (q.isEmpty || !d.isDirectoryAt q.dropLast) = true
      · simp only [hq, Bool.not_true, Bool.false_eq_true, if_false, if_true, reduceCtorEq,
          Except.ok.injEq, true_and, false_iff]
        rintro ⟨rfl, hne, hdir⟩
        simp [hne, hdir] at hq
      · simp only [hq, Bool.not_true, Bool.false_eq_true, if_false, Except.ok.injEq, true_and]
        refine ⟨fun h => ⟨h, ?_⟩, And.left⟩
        simpa [← h] using hq

namespace KeepsWay

/-- A path to a place leads there as long as the way is kept, or nowhere. -/
theorem namedPlace (h : made.KeepsWay place d) (hm : made.namedPlace path = .ok place)
    (hd : d.namedPlace path = .ok q) : q = place := by
  obtain ⟨-, hm, -⟩ := namedPlace_eq_ok.mp hm
  obtain ⟨-, hd, -⟩ := namedPlace_eq_ok.mp hd
  rw [h.start] at hd
  exact (foldlM_step_eq hd).trans (foldlM_step_eq hm).symm

theorem namedPlace_iff (h : made.KeepsWay place d) (hm : made.namedPlace path = .ok place)
    (hp : d.isBarred place = true) : d.namedPlace path = .ok place ↔
      turnsBackAt place [] (made.start path ++ Path.steps path) = true := by
  obtain ⟨hpath, hm, hne, hdir⟩ := namedPlace_eq_ok.mp hm
  rw [namedPlace_eq_ok, h.start, foldlM_step_iff h hp hm]
  exact ⟨fun h => h.2.1, fun hturns => ⟨hpath, hturns, hne, h.directories _ hdir⟩⟩

end KeepsWay

end Disk

namespace Cache

/-- Once the directory of a url was made it is there, and stays there as directories are added. -/
theorem ensureParent_again {u : Unit} (h : ensureParent d url = (made, .ok u))
    (he : made.Extends e) : ensureParent e url = (e, .ok ()) := by
  unfold ensureParent at h ⊢
  cases hparent : (filePath? url).bind Disk.Path.parent? with
  | none => rfl
  | some parent =>
    simp only [hparent] at h ⊢
    by_cases hne : parent = []
    · simp [hne]
    · simp only [List.isEmpty_iff, hne, if_false] at h ⊢
      split at h
      · next hmade =>
        obtain rfl := (Prod.mk.inj h).1
        have hthere := Disk.isDirectory_of_makeAll hne hmade
        rw [Disk.makeDirectories_of_isDirectory hne (he.isDirectory hthere)]
      · cases (Prod.mk.inj h).2

theorem extends_ensureParent (d : Disk) (url : String) : d.Extends (ensureParent d url).1 := by
  unfold ensureParent
  split
  · exact .refl d
  · next parent _ =>
    split
    · exact .refl d
    · have hext := Disk.extends_makeAll d (Disk.Path.lineage (parent.length + 1) parent)
      split <;> next hmade => exact (congrArg Prod.fst hmade) ▸ hext

theorem prepare_eq_ok {raw : String} : prepare d raw = (made, .ok url) ↔
    url = normalize raw ∧ ensureParent d (normalize raw) = (made, .ok ()) := by
  unfold prepare
  simp only
  rcases ensureParent d (normalize raw) with ⟨before, error | _⟩
  · simp
  · simp [and_comm, eq_comm]

theorem databasePlace?_eq_some : databasePlace? d path = some place ↔
    d.namedPlace path = .ok place ∧
      Disk.pathBytes place + journalSuffix.utf8ByteSize ≤ maxJournalPathBytes := by
  unfold databasePlace?
  cases d.namedPlace path with
  | error error => simp
  | ok q =>
    by_cases hq : Disk.pathBytes q + journalSuffix.utf8ByteSize ≤ maxJournalPathBytes
    · simp only [hq, if_true, Option.some.injEq, Except.ok.injEq]
      exact ⟨fun h => ⟨h, h ▸ hq⟩, And.left⟩
    · simp only [hq, if_false, Except.ok.injEq, reduceCtorEq, false_iff, not_and]
      exact fun h => h ▸ hq

/-- What a url asks to open. -/
def request? (url : String) : Option Request :=
  (readUrl? url).bind fun (path, options) => Request.of? path options

/-- A url whose path does not lead through the file that it leads to. -/
def IsStraight (d : Disk) (url : String) : Prop :=
  ∀ r ∈ request? url, let names := d.start r.name ++ Disk.Path.steps r.name
    Disk.turnsBackAt (names.foldl Disk.onward []) [] names = true

instance (d : Disk) (url : String) : Decidable (IsStraight d url) :=
  inferInstanceAs (Decidable (∀ r ∈ request? url, _))

theorem IsStraight.congr (h : d.Extends e) : IsStraight e url ↔ IsStraight d url := by
  simp only [IsStraight, h.start]

/-- A url that leads to a database file at a place, which may be written to. The directory that the
url names is there. -/
structure Leads (d : Disk) (url : String) (place : List String) (r : Request) : Prop where
  parent : ensureParent d url = (d, .ok ())
  request : request? url = some r
  system : Request.systems.contains r.system = true
  file : r.forMemory = false
  named : databasePlace? d r.name = some place
  writable : (r.access == .read || r.immutable) = false

theorem openUrl_of_request (hp : ensureParent d url = (made, .ok ()))
    (hr : request? url = some r) : openUrl d url =
      match openRequest made url r with
      | (used, .error error) => (used, .error error)
      | (used, .ok db) => (save used (.database db), .ok (.database db)) := by
  unfold openUrl
  unfold request? at hr
  simp only [hp]
  cases hread : readUrl? url with
  | none => simp [hread] at hr
  | some asked =>
    simp only [hread, Option.bind_some] at hr
    rcases ho : openRequest made url r with ⟨used, error | db⟩ <;> simp only [hr, ho]

theorem exists_request_of_openUrl {cache : Cache} (h : openUrl d url = (used, .ok cache)) :
    ∃ made r opened db, ensureParent d url = (made, .ok ()) ∧ request? url = some r ∧
      openRequest made url r = (opened, .ok db) ∧ used = save opened (.database db) ∧
      cache = .database db := by
  unfold openUrl at h
  unfold request?
  split at h
  · cases h
  · next made hp =>
    cases hread : readUrl? url with
    | none => simp [hread] at h
    | some asked =>
      simp only [hread] at h
      cases hr : Request.of? asked.1 asked.2 with
      | none => simp [hr] at h
      | some r =>
        simp only [hr] at h
        rcases ho : openRequest made url r with ⟨opened, error | db⟩
        · simp [ho] at h
        · simp only [ho] at h
          obtain ⟨hu, hc⟩ := Prod.mk.inj h
          exact ⟨made, r, opened, db, hp, hr, ho, hu.symm, (Except.ok.inj hc).symm⟩

namespace Leads
variable {r : Request}

/-- Its url leads to a file again unless it leads through the file. -/
theorem databasePlace?_iff (h : Leads made url place r) (hk : made.KeepsWay place d)
    (ht : d.item? place = some (.table rows)) :
    databasePlace? d r.name = some place ↔ IsStraight made url := by
  obtain ⟨hnamed, hbytes⟩ := databasePlace?_eq_some.mp h.named
  have hfile : d.isBarred place = true := by simp [Disk.isBarred, ht]
  obtain ⟨-, hfold, -⟩ := Disk.namedPlace_eq_ok.mp hnamed
  rw [databasePlace?_eq_some, hk.namedPlace_iff hnamed hfile, and_iff_left hbytes, IsStraight,
    h.request, Disk.foldlM_step_eq hfold]
  simp

/-- As long as the way to the file is kept and the file is a table, opening the url gives the table,
unless the url leads through the file. -/
theorem openUrl_eq (h : Leads made url place r) (hk : made.KeepsWay place d)
    (ht : d.item? place = some (.table rows)) :
    openUrl d url = if IsStraight made url then
        (d.put place (.table rows), .ok (.database ⟨some place, false, rows⟩))
      else (d, .error (.notOpened url)) := by
  rw [openUrl_of_request (ensureParent_again h.parent hk.toExtends) h.request]
  simp only [openRequest, h.system, h.file, ← h.databasePlace?_iff hk ht]
  cases hp : databasePlace? d r.name with
  | none => simp
  | some q =>
    obtain rfl : q = place :=
      hk.namedPlace (databasePlace?_eq_some.mp h.named).1 (databasePlace?_eq_some.mp hp).1
    simp [openFile, ht, h.writable, save]

end Leads

/-- What a change does to the files beside a database file is no change on the way to it. -/
theorem afterChange_spec (hc : canChange d place = true) (hp : d.isDirectoryAt place = false) :
    d.KeepsWay place (afterChange d place) ∧ (afterChange d place).isDirectoryAt place = false := by
  simp only [canChange, Bool.and_eq_true, Bool.not_eq_true'] at hc
  have hkeeps := (Disk.KeepsWay.refl d place).remove hc.1.2
  have hplace := Disk.isDirectoryAt_remove hp (placeBeside place journalSuffix)
  have hlog := Disk.isDirectoryAt_remove hc.2 (placeBeside place journalSuffix)
  unfold afterChange
  simp only
  split
  · exact ⟨hkeeps, hplace⟩
  · exact ⟨hkeeps.remove hlog, Disk.isDirectoryAt_remove hplace _⟩

theorem makeTable_spec {readOnly : Bool} {db : Database} (hp : d.isDirectoryAt place = false)
    (h : makeTable d place readOnly = (used, .ok db)) :
    db = ⟨some place, readOnly, Dict.empty⟩ ∧ d.KeepsWay place used ∧
      used.isDirectoryAt place = false := by
  unfold makeTable at h
  split at h
  · cases h
  · next hc =>
    simp only [Bool.or_eq_true, not_or, Bool.not_eq_true, Bool.not_eq_false'] at hc
    obtain ⟨rfl, hdb⟩ := Prod.mk.inj h
    obtain ⟨rfl, hc⟩ := hc
    obtain ⟨hafter, hplace⟩ := afterChange_spec hc hp
    exact ⟨(Except.ok.inj hdb).symm, hafter, hplace⟩

/-- A file that was opened is none of the directories, and the way to it is kept. -/
theorem openFile_spec {db : Database} (hroot : place ≠ [])
    (h : openFile d url place r = (used, .ok db)) :
    db.place = some place ∧ db.readOnly = (r.access == .read || r.immutable) ∧
      d.KeepsWay place used ∧ used.isDirectoryAt place = false := by
  unfold openFile at h
  simp only at h
  split at h
  · cases h
  · next rows ht =>
    obtain ⟨rfl, hdb⟩ := Prod.mk.inj h
    obtain rfl := Except.ok.inj hdb
    exact ⟨rfl, rfl, .refl d place, by simp [Disk.isDirectoryAt, ht]⟩
  · next bytes ht =>
    split at h
    · have hfile : d.isDirectoryAt place = false := by simp [Disk.isDirectoryAt, ht]
      obtain ⟨rfl, hk, hp⟩ := makeTable_spec hfile h
      exact ⟨rfl, rfl, hk, hp⟩
    · cases h
  · next ht =>
    split at h
    · have hfree : d.isDirectoryAt place = false := by simp [Disk.isDirectoryAt, ht]
      have hfile : (d.put place (.file [])).isDirectoryAt place = false := by
        simp [Disk.isDirectoryAt, Disk.item?_put_self hroot]
      obtain ⟨rfl, hk, hp⟩ := makeTable_spec hfile h
      have hput := (Disk.KeepsWay.refl d place).put hfree (.file [])
      exact ⟨rfl, rfl, hput.trans hk, hp⟩
    · cases h

/-- The disk on which a database file was opened, and what it keeps. -/
theorem exists_leads (h : openUrl d url = (used, .ok (.database ⟨some place, false, rows⟩))) :
    ∃ made r, Leads made url place r ∧ made.KeepsWay place used ∧ d.Extends made ∧
      used.item? place = some (.table rows) := by
  obtain ⟨made, r, opened, db, hp, hr, ho, rfl, hc⟩ := exists_request_of_openUrl h
  obtain rfl := Cache.database.inj hc
  have hadded : d.Extends made := by
    have := extends_ensureParent d url
    rwa [hp] at this
  unfold openRequest at ho
  split at ho
  · cases ho
  · next hsystem =>
    split at ho
    · unfold openMemory at ho
      split at ho <;> cases (Prod.mk.inj ho).2
    · next hfile =>
      split at ho
      · cases ho
      · next q hq =>
        have hroot := (Disk.namedPlace_eq_ok.mp (databasePlace?_eq_some.mp hq).1).2.2.1
        obtain ⟨hplace, hwritable, hk, hfree⟩ := openFile_spec hroot ho
        obtain rfl := Option.some.inj hplace
        exact ⟨made, r,
          ⟨ensureParent_again hp (.refl made), hr, by simpa using hsystem, by simpa using hfile, hq,
            hwritable.symm⟩,
          hk.put hfree _, hadded, Disk.item?_put_self hroot⟩

/-- A disk with a directory to work in and nothing else. -/
def bareDisk : Disk where
  items := [(["home"], .directory)]
  working := ["home"]

end Cache
end OrderDesk
