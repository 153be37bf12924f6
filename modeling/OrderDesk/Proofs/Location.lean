import OrderDesk.Proofs.Precedence
import OrderDesk.Proofs.Reopening

/-! Locations of the cache. What a text is made into is a url without blanks at its ends, and such a
url is left as it is, so the settings may give a location that is read a second time when the cache
is opened. -/
namespace OrderDesk
open Text

variable {t : String} {start part s rest : List Char}

namespace Cache

/-- A url as it is kept: it is not blank, has no blanks at its ends, and begins with the scheme of a
database or holds the sign between a scheme and what follows. -/
structure IsLocation (t : String) : Prop where
  sign : ∃ c ∈ t.toList, isBlank c = false
  first : ∀ c ∈ t.toList.head?, isBlank c = false
  last : ∀ c ∈ t.toList.getLast?, isBlank c = false
  url : "sqlite:".toList <+: t.toList ∨ "://".toList <:+: t.toList

/-- A text that is trimmed and a url is a location, unless it is empty. -/
theorem isLocation_iff : IsLocation t ↔ t ≠ "" ∧ trim t = t ∧
    ("sqlite:".toList <+: t.toList ∨ "://".toList <:+: t.toList) := by
  constructor
  · rintro ⟨⟨c, hc, -⟩, hfirst, hlast, hurl⟩
    refine ⟨?_, trim_eq_self_iff.mpr ⟨hfirst, hlast⟩, hurl⟩
    rintro rfl
    exact absurd hc List.not_mem_nil
  · rintro ⟨hne, htrim, hurl⟩
    obtain ⟨hfirst, hlast⟩ := trim_eq_self_iff.mp htrim
    cases hlist : t.toList with
    | nil => exact absurd (String.toList_eq_nil_iff.mp hlist) hne
    | cons c rest => exact ⟨⟨c, by simp [hlist], hfirst c (by simp [hlist])⟩, hfirst, hlast, hurl⟩

theorem normalize_of_isLocation (h : IsLocation t) : normalize t = t := by
  obtain ⟨hne, htrim, hurl⟩ := isLocation_iff.mp h
  exact locates_iff.mp (.url (trims_iff.mpr htrim) hne hurl)

/-- A stroke that leans the other way is no more a blank than a stroke is. -/
theorem isBlank_turned (c : Char) : isBlank (if c = '\\' then '/' else c) = isBlank c := by
  split
  · next h =>
    rw [h]
    rfl
  · rfl

theorem longScheme_eq : longScheme = 's' :: "qlite://".toList := by decide

theorem scheme_prefix_longScheme : scheme <+: longScheme := ⟨['/', '/'], by decide⟩

/-- The url of a path that is trimmed. -/
theorem isLocation_ofPath (hne : t ≠ "") (htrim : trim t = t) : IsLocation
    (String.ofList (longScheme ++ t.toList.map fun c => if c = '\\' then '/' else c)) := by
  have hs : isBlank 's' = false := by decide
  constructor <;> rw [String.toList_ofList]
  · exact ⟨'s', by rw [longScheme_eq]; exact List.mem_cons_self, hs⟩
  · rw [longScheme_eq]
    rintro _ ⟨⟩
    exact hs
  · intro c hc
    have hlist : t.toList ≠ [] := fun h => hne (String.toList_eq_nil_iff.mp h)
    obtain ⟨d, hd, rfl⟩ : ∃ d ∈ t.toList.getLast?, (if d = '\\' then '/' else d) = c := by
      rw [List.getLast?_append_of_ne_nil _ (by simpa using hlist), List.getLast?_map] at hc
      exact Option.map_eq_some_iff.mp hc
    rw [isBlank_turned]
    exact (trim_eq_self_iff.mp htrim).2 d hd
  · rw [String.toList_ofList]
    exact Or.inl (scheme_prefix_longScheme.trans (List.prefix_append _ _))

theorem isLocation_normalize (raw : String) : IsLocation (normalize raw) := by
  have h : Locates raw (normalize raw) := locates_iff.mpr rfl
  generalize normalize raw = u at h
  cases h with
  | usual =>
    exact isLocation_iff.mpr
      ⟨by decide, by decide, Or.inl ⟨"//./data/order_controls.db".toList, by decide⟩⟩
  | url htrims hne hurl =>
    obtain rfl := trims_iff.mp htrims
    exact isLocation_iff.mpr ⟨hne, trim_trim raw, hurl⟩
  | path htrims hne =>
    obtain rfl := trims_iff.mp htrims
    have hpath := isLocation_ofPath hne (trim_trim raw)
    rwa [String.ofList_append] at hpath

/-- Of a location no more counts than what it is made into. -/
theorem prepare_congr {raw raw' : String} (h : normalize raw = normalize raw') (disk : Disk) :
    prepare disk raw = prepare disk raw' := by
  unfold prepare
  rw [h]

theorem openAt_congr {raw raw' : String} (h : normalize raw = normalize raw') (disk : Disk) :
    openAt disk raw = openAt disk raw' := by
  unfold openAt
  rw [prepare_congr h]

/-- Every text is made into a location, and it is the locations that are left as they are. So the
location that the settings have from a text, of the file or of the environment, is prepared and
opened just as that text would be, with the same url and the same directories. -/
theorem location_stable (raw : String) :
    IsLocation (normalize raw) ∧ (normalize raw = raw ↔ IsLocation raw) ∧
    normalize (normalize raw) = normalize raw ∧
    ∀ file environment, Settings.Chooses file environment
      ⟨"APP__CACHE_URL", "ORDER_CONTROLS_CACHE_URL", "cache_database_url"⟩ raw → ∀ disk,
        prepare disk (Settings.load file environment).cacheUrl = prepare disk raw ∧
        openAt disk (Settings.load file environment).cacheUrl = openAt disk raw := by
  have htwice : normalize (normalize raw) = normalize raw :=
    normalize_of_isLocation (isLocation_normalize raw)
  have hkept : normalize raw = raw ↔ IsLocation raw :=
    ⟨fun h => (congrArg IsLocation h).mp (isLocation_normalize raw), normalize_of_isLocation⟩
  refine ⟨isLocation_normalize raw, hkept, htwice, fun file environment hchosen disk => ?_⟩
  have hurl : (Settings.load file environment).cacheUrl = normalize raw := by
    have hchosen := Settings.chooses_iff.mp hchosen
    rw [Settings.cacheUrl_load]
    exact congrArg (·.elim defaultUrl normalize) hchosen
  rw [hurl]
  exact ⟨prepare_congr htwice disk, openAt_congr htwice disk⟩

/-- An environment in which the second variable gives a path between blanks, whose strokes lean the
other way. -/
def leaningEnvironment : Dict String :=
  Dict.ofList [("ORDER_CONTROLS_CACHE_URL", " .\\data\\cache.db\t")]

theorem location_stable_leaning :
    Settings.Chooses none leaningEnvironment
      ⟨"APP__CACHE_URL", "ORDER_CONTROLS_CACHE_URL", "cache_database_url"⟩
      " .\\data\\cache.db\t" ∧
    prepare bareDisk (Settings.load none leaningEnvironment).cacheUrl =
      prepare bareDisk " .\\data\\cache.db\t" ∧
    openAt bareDisk (Settings.load none leaningEnvironment).cacheUrl =
      openAt bareDisk " .\\data\\cache.db\t" ∧
    (prepare bareDisk " .\\data\\cache.db\t").2 = .ok "sqlite://./data/cache.db" ∧
    (prepare bareDisk " .\\data\\cache.db\t").1.isDirectoryAt ["home", "data"] = true := by
  have hchosen : Settings.Chooses none leaningEnvironment
      ⟨"APP__CACHE_URL", "ORDER_CONTROLS_CACHE_URL", "cache_database_url"⟩
      " .\\data\\cache.db\t" :=
    .ofEnvironment (.next (by decide +kernel) (by decide +kernel))
  obtain ⟨hprepare, hopen⟩ := (location_stable _).2.2.2 none leaningEnvironment hchosen bareDisk
  exact ⟨hchosen, hprepare, hopen, by decide +kernel, by decide +kernel⟩

end Cache
end OrderDesk
