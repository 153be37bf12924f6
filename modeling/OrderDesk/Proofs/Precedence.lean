import OrderDesk.Settings
import OrderDesk.Proofs.Coding
import OrderDesk.Proofs.Documents
import OrderDesk.Proofs.Notation

/-! Which text decides a setting. It is that of the first of its two variables that is there, and
else what the file has under its key; a blank text clears the setting and does not fall through. The
flag alone passes over words that stand for nothing, but only from the environment to the file. -/
namespace OrderDesk
open Text

variable {file file' : Option (List UInt8)} {environment environment' : Dict String} {t u : String}

namespace Toml

/-- The members of a document stand in the order of their keys. -/
theorem sorted_ordered (members : List (String × Value)) :
    (Value.sorted members).Pairwise fun a b => a.1 < b.1 := by
  suffices h : ∀ done : List (String × Value), (done.Pairwise fun a b => a.1 < b.1) →
      (members.foldl (fun done m => Dict.place m.1 m.2 done) done).Pairwise
        fun a b => a.1 < b.1 from
    h [] .nil
  induction members with
  | nil => exact fun _ h => h
  | cons m members ih => exact fun _ h => ih _ (Dict.place_ordered _ _ h)

theorem ordered_of_ofText? {members : List (String × Value)} (h : ofText? t = some members) :
    members.Pairwise fun a b => a.1 < b.1 := by
  obtain ⟨settled, -, rfl⟩ := Option.map_eq_some_iff.mp h
  exact sorted_ordered settled

end Toml

namespace Cache

/-- What stands for a location: the usual one for a blank text, the text itself without the blanks
around it when it is a url, and else the url of the path, whose strokes all lean one way. -/
inductive Locates (t : String) : String → Prop where
  | usual : (∀ c ∈ t.toList, isBlank c = true) → Locates t "sqlite://./data/order_controls.db"
  | url {u : String} : Trims t u → u ≠ "" →
      ("sqlite:".toList <+: u.toList ∨ "://".toList <:+: u.toList) → Locates t u
  | path {u : String} : Trims t u → u ≠ "" →
      ¬ ("sqlite:".toList <+: u.toList ∨ "://".toList <:+: u.toList) →
        Locates t ("sqlite://" ++ String.ofList (u.toList.map fun c => if c = '\\' then '/' else c))

/-- A text stands for one location. -/
theorem locates_iff : Locates t u ↔ normalize t = u := by
  have hurl : ((after? scheme (trim t).toList).isSome || occurs "://".toList (trim t).toList) =
      true ↔ "sqlite:".toList <+: (trim t).toList ∨ "://".toList <:+: (trim t).toList := by
    rw [Bool.or_eq_true, after?_isSome_iff, occurs_iff]
    rfl
  unfold normalize
  simp only [String.isEmpty_iff, hurl]
  constructor
  · intro h
    cases h with
    | usual hblank => rw [if_pos (trim_eq_empty_iff.mpr hblank), defaultUrl]
    | url htrims hne h =>
      obtain rfl := trims_iff.mp htrims
      rw [if_neg hne, if_pos h]
    | path htrims hne h =>
      obtain rfl := trims_iff.mp htrims
      rw [if_neg hne, if_neg h, String.ofList_append]
      rfl
  · rintro rfl
    split
    · next hempty => exact .usual (trim_eq_empty_iff.mp hempty)
    · next hne =>
      split
      · next h => exact .url (trims_trim t) hne h
      · next h =>
        rw [String.ofList_append]
        exact .path (trims_trim t) hne h

end Cache

namespace Settings

variable {n : Names} {flag : Bool} {v : Toml.Value}

/-- A file is a document that has a value under a key. -/
def Holds (file : Option (List UInt8)) (key : String) (v : Toml.Value) : Prop :=
  ∃ s members, file = some (bytes s) ∧ Toml.ofText? (String.ofList s) = some members ∧
    (key, v) ∈ members

/-- The environment gives a setting a text: by its first variable, or by the other one when the
first is not there. -/
inductive Sets (environment : Dict String) (n : Names) (t : String) : Prop where
  | first : environment.get? n.first = some t → Sets environment n t
  | next : environment.get? n.first = none → environment.get? n.next = some t →
      Sets environment n t

/-- The text of a value: a string itself, a date or time as the table that stands for it, and any
other value as it is written. -/
inductive HasText : Toml.Value → String → Prop where
  | text (t : String) : HasText (.text t) t
  | moment {m : Toml.Moment} {t : String} :
      Toml.Writes (.table [("$__toml_private_datetime", .text m.text)]) t → HasText (.moment m) t
  | written {v : Toml.Value} {t : String} : (∀ s, v ≠ .text s) → (∀ m, v ≠ .moment m) →
      Toml.Writes v t → HasText v t

/-- The text that decides a setting: what the environment gives it, and else that of the value that
the file has under its key. -/
inductive Chooses (file : Option (List UInt8)) (environment : Dict String) (n : Names) :
    String → Prop where
  | ofEnvironment {t : String} : Sets environment n t → Chooses file environment n t
  | ofFile {v : Toml.Value} {t : String} : (∀ t, ¬ Sets environment n t) → Holds file n.key v →
      HasText v t → Chooses file environment n t

/-- A word for a flag, in letters of either size and between blanks. -/
def Means (t : String) (flag : Bool) : Prop :=
  ∃ u word, Trims t u ∧ u.toList.map Char.toLower = word.toList ∧
    word ∈ if flag then ["1", "true", "yes", "on"] else ["0", "false", "no", "off"]

theorem hasText_iff : HasText v t ↔ textOf v = t := by
  constructor
  · intro h
    cases h with
    | text => rfl
    | moment h => exact Toml.writes_iff.mp h
    | written htext hmoment h =>
      rw [← Toml.writes_iff.mp h]
      cases v with
      | text s => exact absurd rfl (htext s)
      | moment m => exact absurd rfl (hmoment m)
      | _ => rfl
  · rintro rfl
    cases v with
    | text s => exact .text s
    | moment m => exact .moment (Toml.writes_print _)
    | _ => exact .written (by simp) (by simp) (Toml.writes_print _)

theorem sets_iff : Sets environment n t ↔ fromEnvironment environment n = some t := by
  rw [fromEnvironment, Option.orElse_eq_some]
  constructor
  · rintro (h | ⟨hfirst, hnext⟩)
    · exact Or.inl h
    · exact Or.inr ⟨hfirst, hnext⟩
  · rintro (h | ⟨hfirst, hnext⟩)
    · exact .first h
    · exact .next hfirst hnext

theorem means_iff : Means t flag ↔ flag? t = some flag := by
  have hmeans : Means t flag ↔ lowerAscii (trim t) ∈
      if flag then ["1", "true", "yes", "on"] else ["0", "false", "no", "off"] := by
    constructor
    · rintro ⟨u, word, htrims, hlower, hword⟩
      rwa [trims_iff.mp htrims, lowerAscii, hlower, String.ofList_toList]
    · exact fun h => ⟨trim t, _, trims_trim t, by rw [lowerAscii, String.toList_ofList], h⟩
  rw [hmeans]
  unfold flag?
  generalize lowerAscii (trim t) = word
  constructor
  · intro h
    cases flag <;>
      (simp only [if_true, Bool.false_eq_true, if_false, List.mem_cons, List.not_mem_nil,
        or_false] at h
       rcases h with rfl | rfl | rfl | rfl <;> rfl)
  · intro h
    split at h <;> cases h <;> decide

/-- The text that a file has under the key of a setting. -/
def filed? (file : Option (List UInt8)) (n : Names) : Option String :=
  (file.bind textsOf?).bind (fromFile · n)

/-- A file gives a setting the text of the value that it has under its key. -/
theorem filed?_eq_some_iff : filed? file n = some t ↔ ∃ v, Holds file n.key v ∧ textOf v = t := by
  have htexts : ∀ (bs : List UInt8) s members, ofBytes? bs = some s →
      Toml.ofText? (String.ofList s) = some members →
        (filed? (some bs) n = some t ↔ ∃ v, (n.key, v) ∈ members ∧ textOf v = t) := by
    intro bs s members hs hmembers
    have hordered : (members.map fun m => (m.1, textOf m.2)).Pairwise fun a b => a.1 < b.1 :=
      List.pairwise_map.mpr (Toml.ordered_of_ofText? hmembers)
    have hdict : textsOf? bs = some ⟨_, hordered⟩ := by
      simp only [textsOf?, hs, hmembers, Option.bind_eq_bind, Option.bind_some, Option.pure_def]
      exact congrArg some (Dict.ofList_entries ⟨_, hordered⟩)
    rw [filed?, Option.bind_some, hdict, Option.bind_some, fromFile, Dict.get?_eq_some_iff]
    simp
  constructor
  · intro h
    obtain ⟨texts, htexts?, -⟩ := Option.bind_eq_some_iff.mp h
    obtain ⟨bs, rfl, hread⟩ := Option.bind_eq_some_iff.mp htexts?
    obtain ⟨s, hs, hread⟩ := Option.bind_eq_some_iff.mp hread
    obtain ⟨members, hmembers, -⟩ := Option.bind_eq_some_iff.mp hread
    obtain ⟨v, hv, rfl⟩ := (htexts bs s members hs hmembers).mp h
    exact ⟨v, ⟨s, members, (ofBytes?_eq_some_iff.mp hs) ▸ rfl, hmembers, hv⟩, rfl⟩
  · rintro ⟨v, ⟨s, members, rfl, hmembers, hv⟩, rfl⟩
    exact (htexts _ s members (ofBytes?_eq_some_iff.mpr rfl) hmembers).mpr ⟨v, hv, rfl⟩

/-- The text that decides a setting is what the environment gives it, or else the file. -/
theorem chooses_iff :
    Chooses file environment n t ↔ (fromEnvironment environment n <|> filed? file n) = some t := by
  rw [Option.orElse_eq_some, ← sets_iff, filed?_eq_some_iff]
  constructor
  · rintro (h | ⟨hnone, hv, htext⟩)
    · exact Or.inl h
    · exact Or.inr ⟨Option.eq_none_iff_forall_ne_some.mpr fun t ht => hnone t (sets_iff.mpr ht),
        _, hv, hasText_iff.mp htext⟩
  · rintro (h | ⟨hnone, v, hv, htext⟩)
    · exact .ofEnvironment h
    · refine .ofFile (fun t ht => ?_) hv (hasText_iff.mpr htext)
      rw [sets_iff, hnone] at ht
      cases ht

/-- Both layers at once: what is laid over the usual settings last decides. -/
theorem load_eq (file : Option (List UInt8)) (environment : Dict String) :
    load file environment =
      { baseUrl := (fromEnvironment environment baseUrlNames <|> filed? file baseUrlNames).bind
          nonBlank?
        metaUrl := (fromEnvironment environment metaUrlNames <|> filed? file metaUrlNames).bind
          nonBlank?
        cacheUrl := (fromEnvironment environment cacheUrlNames <|> filed? file cacheUrlNames).elim
          Cache.defaultUrl Cache.normalize
        cookie := (fromEnvironment environment cookieNames <|> filed? file cookieNames).bind
          nonBlank?
        progress := ((fromEnvironment environment progressNames).bind flag?).getD
          (((filed? file progressNames).bind flag?).getD true) } := by
  have hover : ∀ {α : Type} (late early : Option String) (usual : α) (read : String → α),
      late.elim (early.elim usual read) read = (late <|> early).elim usual read := by
    intro α late early usual read
    cases late <;> rfl
  have hbind : ∀ given : Option String, given.bind nonBlank? = given.elim none nonBlank? := by
    intro given
    cases given <;> rfl
  simp only [hbind, ← hover]
  cases hfile : file.bind textsOf? <;> simp [load, overlay, filed?, hfile]

/-- What a text makes of a setting: nothing when it is blank, and else the text without the blanks
around it. -/
def Reads (t : String) (value : Option String) : Prop :=
  ((∀ c ∈ t.toList, isBlank c = true) → value = none) ∧
    ((∃ c ∈ t.toList, isBlank c = false) → ∃ u, Trims t u ∧ value = some u)

/-- A text makes one thing of a setting. -/
theorem reads_iff {value : Option String} : Reads t value ↔ nonBlank? t = value := by
  by_cases hempty : trim t = ""
  · have hblank := trim_eq_empty_iff.mp hempty
    have hnone : nonBlank? t = none := by simp [nonBlank?, hempty]
    rw [hnone]
    constructor
    · exact fun h => (h.1 hblank).symm
    · rintro rfl
      refine ⟨fun _ => rfl, ?_⟩
      rintro ⟨c, hc, hsign⟩
      rw [hblank c hc] at hsign
      cases hsign
  · have hsign : ∃ c ∈ t.toList, isBlank c = false := by
      simpa using mt trim_eq_empty_iff.mpr hempty
    have hsome : nonBlank? t = some (trim t) := by simp [nonBlank?, hempty]
    rw [hsome]
    constructor
    · intro h
      obtain ⟨u, htrims, rfl⟩ := h.2 hsign
      rw [trims_iff.mp htrims]
    · rintro rfl
      exact ⟨fun hblank => absurd (trim_eq_empty_iff.mpr hblank) hempty,
        fun _ => ⟨trim t, trims_trim t, rfl⟩⟩

/-- Two files and environments have the same under the three names of a setting. -/
structure Agree (file file' : Option (List UInt8)) (environment environment' : Dict String)
    (n : Names) : Prop where
  first : environment.get? n.first = environment'.get? n.first
  next : environment.get? n.next = environment'.get? n.next
  key : ∀ v, Holds file n.key v ↔ Holds file' n.key v

theorem Agree.fromEnvironment_eq (h : Agree file file' environment environment' n) :
    fromEnvironment environment n = fromEnvironment environment' n := by
  rw [fromEnvironment, fromEnvironment, h.first, h.next]

theorem Agree.filed?_eq (h : Agree file file' environment environment' n) :
    filed? file n = filed? file' n := by
  refine Option.ext fun t => ?_
  simp only [filed?_eq_some_iff, h.key]

/-- Bytes that spell no text, or a text that is no document. -/
def IsUnreadable (bs : List UInt8) : Prop :=
  ∀ s, bytes s = bs → Toml.ofText? (String.ofList s) = none

theorem textsOf?_of_unreadable {bs : List UInt8} (h : IsUnreadable bs) : textsOf? bs = none := by
  cases hs : ofBytes? bs with
  | none => simp [textsOf?, hs]
  | some s => simp [textsOf?, hs, h s (ofBytes?_eq_some_iff.mp hs)]

/-- A setting that is a text is what the text that decides it reads as, and missing without one. -/
structure IsText (n : Names) (setting : Settings → Option String) : Prop where
  chosen : ∀ file environment t, Chooses file environment n t →
    Reads t (setting (load file environment))
  unset : ∀ file environment, (∀ t, ¬ Chooses file environment n t) →
    setting (load file environment) = none
  alone : ∀ file file' environment environment', Agree file file' environment environment' n →
    setting (load file environment) = setting (load file' environment')

/-- A setting that is a place is the location that the text that decides it stands for, and the
usual one without such a text. -/
structure IsPlace (n : Names) (setting : Settings → String) : Prop where
  chosen : ∀ file environment t, Chooses file environment n t →
    Cache.Locates t (setting (load file environment))
  unset : ∀ file environment, (∀ t, ¬ Chooses file environment n t) →
    setting (load file environment) = "sqlite://./data/order_controls.db"
  alone : ∀ file file' environment environment', Agree file file' environment environment' n →
    setting (load file environment) = setting (load file' environment')

/-- A setting that is a flag is the word of the variable that decides, if that is one, else the word
of the file, if that is one, and else on. -/
structure IsFlag (n : Names) (setting : Settings → Bool) : Prop where
  chosen : ∀ file environment t flag, Sets environment n t → Means t flag →
    setting (load file environment) = flag
  filed : ∀ file environment v t flag, (∀ t flag, Sets environment n t → ¬ Means t flag) →
    Holds file n.key v → HasText v t → Means t flag → setting (load file environment) = flag
  unset : ∀ file environment, (∀ t flag, Sets environment n t → ¬ Means t flag) →
    (∀ v t flag, Holds file n.key v → HasText v t → ¬ Means t flag) →
      setting (load file environment) = true
  alone : ∀ file file' environment environment', Agree file file' environment environment' n →
    setting (load file environment) = setting (load file' environment')

theorem fromEnvironment_orElse_filed? (h : ∀ t, ¬ Chooses file environment n t) :
    (fromEnvironment environment n <|> filed? file n) = none :=
  Option.eq_none_iff_forall_ne_some.mpr fun t ht => h t (chooses_iff.mpr ht)

theorem isText_of_load {setting : Settings → Option String}
    (h : ∀ file environment, setting (load file environment) =
      (fromEnvironment environment n <|> filed? file n).bind nonBlank?) : IsText n setting where
  chosen file environment t ht := by
    rw [h, chooses_iff.mp ht, Option.bind_some]
    exact reads_iff.mpr rfl
  unset file environment hnone := by
    rw [h, fromEnvironment_orElse_filed? hnone, Option.bind_none]
  alone file file' environment environment' hagree := by
    rw [h, h, hagree.fromEnvironment_eq, hagree.filed?_eq]

theorem cacheUrl_load (file : Option (List UInt8)) (environment : Dict String) :
    (load file environment).cacheUrl =
      (fromEnvironment environment cacheUrlNames <|> filed? file cacheUrlNames).elim
        Cache.defaultUrl Cache.normalize := by
  rw [load_eq]

theorem isPlace_cacheUrl : IsPlace cacheUrlNames cacheUrl where
  chosen file environment t ht := by
    rw [cacheUrl_load, chooses_iff.mp ht, Option.elim_some]
    exact Cache.locates_iff.mpr rfl
  unset file environment hnone := by
    rw [cacheUrl_load, fromEnvironment_orElse_filed? hnone, Option.elim_none, Cache.defaultUrl]
  alone file file' environment environment' hagree := by
    rw [cacheUrl_load, cacheUrl_load, hagree.fromEnvironment_eq, hagree.filed?_eq]

/-- A word that stands for no flag is passed over. -/
theorem bind_flag?_eq_none {given : Option String}
    (h : ∀ t flag, given = some t → ¬ Means t flag) : given.bind flag? = none := by
  refine Option.eq_none_iff_forall_ne_some.mpr fun flag hflag => ?_
  obtain ⟨t, ht, hmeans⟩ := Option.bind_eq_some_iff.mp hflag
  exact h t flag ht (means_iff.mpr hmeans)

theorem progress_load (file : Option (List UInt8)) (environment : Dict String) :
    (load file environment).progress = ((fromEnvironment environment progressNames).bind flag?).getD
      (((filed? file progressNames).bind flag?).getD true) := by
  rw [load_eq]

theorem isFlag_progress : IsFlag progressNames progress where
  chosen file environment t flag ht hmeans := by
    rw [progress_load, sets_iff.mp ht, Option.bind_some, means_iff.mp hmeans, Option.getD_some]
  filed file environment v t flag hnone hv htext hmeans := by
    have hfiled : filed? file progressNames = some t :=
      filed?_eq_some_iff.mpr ⟨v, hv, hasText_iff.mp htext⟩
    rw [progress_load, bind_flag?_eq_none fun t flag ht => hnone t flag (sets_iff.mpr ht), hfiled,
      Option.bind_some, means_iff.mp hmeans, Option.getD_none, Option.getD_some]
  unset file environment hnone hnone' := by
    have hfiled : ∀ t flag, filed? file progressNames = some t → ¬ Means t flag := by
      intro t flag ht hmeans
      obtain ⟨v, hv, htext⟩ := filed?_eq_some_iff.mp ht
      exact hnone' v t flag hv (hasText_iff.mpr htext) hmeans
    rw [progress_load, bind_flag?_eq_none fun t flag ht => hnone t flag (sets_iff.mpr ht),
      bind_flag?_eq_none hfiled, Option.getD_none, Option.getD_none]
  alone file file' environment environment' hagree := by
    rw [progress_load, progress_load, hagree.fromEnvironment_eq, hagree.filed?_eq]

/-- A setting is decided by the first of its two variables that is there, and else by the value that
the file has under its key, whatever else is in either. A file that cannot be read gives the
settings that none gives. -/
theorem settings_precedence :
    IsText ⟨"APP__BASE_URL", "ORDER_CONTROLS_BASE_URL", "base_url"⟩ baseUrl ∧
    IsText ⟨"APP__META_URL", "ORDER_CONTROLS_META_URL", "meta_url"⟩ metaUrl ∧
    IsText ⟨"APP__COOKIE", "ORDER_CONTROLS_COOKIE", "cookie"⟩ cookie ∧
    IsPlace ⟨"APP__CACHE_URL", "ORDER_CONTROLS_CACHE_URL", "cache_database_url"⟩ cacheUrl ∧
    IsFlag ⟨"APP__PROGRESS_MESSAGES", "ORDER_CONTROLS_PROGRESS", "progress_messages"⟩ progress ∧
    ∀ bs environment, IsUnreadable bs → load (some bs) environment = load none environment := by
  refine ⟨isText_of_load (n := baseUrlNames) fun file environment => ?_,
    isText_of_load (n := metaUrlNames) fun file environment => ?_,
    isText_of_load (n := cookieNames) fun file environment => ?_, isPlace_cacheUrl,
    isFlag_progress, fun bs environment h => ?_⟩
  · rw [load_eq]
  · rw [load_eq]
  · rw [load_eq]
  · simp [load, textsOf?_of_unreadable h]

/-- A file with a string between blanks, a number, a day, a list and a word. -/
def sampleFile : String :=
  "base_url = \" http://shop/ \"\nmeta_url = 3\ncache_database_url = 1979-05-27\n" ++
    "cookie = [-7, 1.50, true, \"a\\\"b\", \x7b \"x y\" = 07:32:00 \x7d, []]\n" ++
    "progress_messages = \" OFF\\t\"\n"

/-- The list of the file. -/
def sampleCookie : Toml.Value :=
  .list [.integer (-7), .real (.finite false 6755399441055744 (-52)), .bool true, .text "a\"b",
    .table [("x y", .moment (.time ⟨7, 32, 0, 0⟩))], .list []]

/-- What stands in the file, in the order of its keys. -/
def sampleMembers : List (String × Toml.Value) :=
  [("base_url", .text " http://shop/ "), ("cache_database_url", .moment (.date ⟨1979, 5, 27⟩)),
    ("cookie", sampleCookie), ("meta_url", .integer 3), ("progress_messages", .text " OFF\t")]

/-- An environment that has both variables of the endpoint and both of the flag. -/
def sampleEnvironment : Dict String :=
  Dict.ofList [("APP__META_URL", " "), ("ORDER_CONTROLS_META_URL", "/meta"),
    ("APP__PROGRESS_MESSAGES", "maybe"), ("ORDER_CONTROLS_PROGRESS", "on")]

theorem ofText?_sampleFile : Toml.ofText? sampleFile = some sampleMembers := by
  decide +kernel

theorem holds_sample {key : String} (hv : (key, v) ∈ sampleMembers) :
    Holds (some (bytes sampleFile.toList)) key v :=
  ⟨_, _, rfl, by rw [String.ofList_toList]; exact ofText?_sampleFile, hv⟩

theorem not_sets_sample (hn : n ∈ [baseUrlNames, cacheUrlNames, cookieNames]) (t : String) :
    ¬ Sets sampleEnvironment n t := by
  have hnone : ∀ n ∈ [baseUrlNames, cacheUrlNames, cookieNames],
      fromEnvironment sampleEnvironment n = none := by
    decide
  rw [sets_iff, hnone n hn]
  exact nofun

theorem not_means_sample (t : String) (flag : Bool) (h : Sets sampleEnvironment progressNames t) :
    ¬ Means t flag := by
  have hmaybe : fromEnvironment sampleEnvironment progressNames = some "maybe" := by decide
  rw [sets_iff, hmaybe] at h
  cases h
  rw [means_iff]
  cases flag <;> decide

/-- A string of the file counts as it is, and another value as it is written. The blank text of the
first variable clears the endpoint, whatever stands behind it; the word of the first variable stands
for no flag, so that of the file counts, and the other variable is passed over. -/
theorem settings_precedence_mixed :
    Toml.ofText? sampleFile = some sampleMembers ∧
    load (some (bytes sampleFile.toList)) sampleEnvironment =
      { baseUrl := some "http://shop/"
        metaUrl := none
        cacheUrl := "sqlite://\x7b \"$__toml_private_datetime\" = \"1979-05-27\" \x7d"
        cookie := some "[-7, 1.5, true, 'a\"b', \x7b \"x y\" = 07:32:00 \x7d, []]"
        progress := false } := by
  obtain ⟨hbase, hmeta, hcookie, hcache, hflag, -⟩ := settings_precedence
  have hbaseUrl := hbase.chosen _ sampleEnvironment " http://shop/ " <|
    .ofFile (not_sets_sample (by decide)) (holds_sample (by decide)) (.text _)
  have hmetaUrl := hmeta.chosen (some (bytes sampleFile.toList)) sampleEnvironment " " <|
    .ofEnvironment (.first (by decide))
  have hcookie := hcookie.chosen _ sampleEnvironment _ <|
    .ofFile (v := sampleCookie) (not_sets_sample (by decide)) (holds_sample (by decide))
      (.written (by simp [sampleCookie]) (by simp [sampleCookie]) (Toml.writes_print _))
  have hcacheUrl := hcache.chosen _ sampleEnvironment _ <|
    .ofFile (v := .moment (.date ⟨1979, 5, 27⟩)) (not_sets_sample (by decide))
      (holds_sample (by decide)) (.moment (Toml.writes_print _))
  have hprogress := hflag.filed _ sampleEnvironment (.text " OFF\t") _ false not_means_sample
    (holds_sample (by decide)) (.text _) (means_iff.mpr (by decide))
  rw [reads_iff] at hbaseUrl hmetaUrl hcookie
  rw [Cache.locates_iff] at hcacheUrl
  refine ⟨ofText?_sampleFile, ?_⟩
  rcases hload : load (some (bytes sampleFile.toList)) sampleEnvironment with ⟨_, _, _, _, _⟩
  rw [hload] at hbaseUrl hmetaUrl hcookie hcacheUrl hprogress
  subst hbaseUrl hmetaUrl hcookie hcacheUrl hprogress
  decide +kernel

end Settings
end OrderDesk
