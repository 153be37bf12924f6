import OrderDesk.Cookie
import OrderDesk.Proofs.Coding
import OrderDesk.Proofs.Offer

/-! The token of a cookie header. A header is a row of pieces, and the first one that gives a value
to the name of the token decides, whatever comes after it. The value stands for the bytes that its
percent code spells, or for itself when these are no text. -/
namespace OrderDesk
open Text

namespace Cookie

variable {header : String} {piece value : List Char} {rows : List (List Char)}

/-- A piece gives the token a value: without the blanks around it, it is a pair with the name of
the token. -/
def Gives (piece value : List Char) : Prop :=
  strip isBlank piece = tokenName ++ '=' :: value

/-- The value that the first piece of a header gives the token which gives it one. -/
def Decides (header : String) (value : List Char) : Prop :=
  ∃ before piece after, Parted ';' (before ++ piece :: after) header.toList ∧
    (∀ p ∈ before, ∀ v, ¬ Gives p v) ∧ Gives piece value

/-- The value that a piece gives the token, if it does. -/
def value? (piece : List Char) : Option (List Char) :=
  ((pair? piece).filter fun pair => pair.1 == tokenName).map (·.2)

theorem value?_eq_some_iff : value? piece = some value ↔ Gives piece value := by
  have hnot : '=' ∉ tokenName := by decide
  simp only [value?, pair?, Option.map_eq_some_iff, Option.filter_eq_some_iff, Prod.exists,
    splitFirst?_eq_some_iff, beq_iff_eq, Gives]
  constructor
  · rintro ⟨name, v, ⟨⟨-, hpiece⟩, rfl⟩, rfl⟩
    exact hpiece
  · intro hpiece
    exact ⟨tokenName, value, ⟨⟨hnot, hpiece⟩, rfl⟩, rfl⟩

theorem value?_eq_none_iff : value? piece = none ↔ ∀ v, ¬ Gives piece v := by
  simp only [← value?_eq_some_iff]
  exact Option.eq_none_iff_forall_ne_some

theorem decides_iff :
    Decides header value ↔ (pieces ';' header.toList).findSome? value? = some value := by
  simp only [List.findSome?_eq_some_iff, value?_eq_some_iff, value?_eq_none_iff, Decides,
    parted_iff]
  constructor
  · rintro ⟨before, piece, after, hrows, hbefore, hpiece⟩
    exact ⟨before, piece, after, hrows, hpiece, hbefore⟩
  · rintro ⟨before, piece, after, hrows, hpiece, hbefore⟩
    exact ⟨before, piece, after, hrows, hbefore, hpiece⟩

/-- The token that a value stands for, unless it is blank. -/
def read? (value : List Char) : Option String :=
  if (strip isBlank value).isEmpty then none else some (decoded (strip isBlank value))

/-- The first piece that gives the token a value decides. -/
theorem token?_eq (header : String) :
    token? header = ((pieces ';' header.toList).findSome? value?).bind read? := by
  have hfirst : ∀ rows : List (List Char),
      ((rows.filterMap pair?).find? fun pair => pair.1 == tokenName).map (·.2) =
        rows.findSome? value? := by
    intro rows
    induction rows with
    | nil => rfl
    | cons row rows ih =>
      cases hpair : pair? row with
      | none => simpa [List.findSome?_cons, value?, hpair] using ih
      | some pair =>
        by_cases hname : pair.1 = tokenName
        · simp [value?, hpair, hname, Option.filter]
        · simpa [List.findSome?_cons, value?, hpair, hname] using ih
  rw [← hfirst, Option.bind_map]
  rfl

theorem token?_of_decides (h : Decides header value) : token? header = read? value := by
  rw [token?_eq, decides_iff.mp h]
  rfl

/-- A piece that is no pair, or one of another name, with no semicolon within. -/
structure Aside (piece : List Char) : Prop where
  not_mem : ';' ∉ piece
  name_ne : ∀ name value, '=' ∉ name → piece = name ++ '=' :: value → strip isBlank name ≠ tokenName

theorem aside_iff : Aside piece ↔ ';' ∉ piece ∧
    ∀ pair ∈ splitFirst? '=' piece, strip isBlank pair.1 ≠ tokenName := by
  constructor
  · rintro ⟨hnot, hname⟩
    refine ⟨hnot, fun pair hpair => ?_⟩
    obtain ⟨hequals, hpiece⟩ := splitFirst?_eq_some_iff.mp hpair
    exact hname pair.1 pair.2 hequals hpiece
  · rintro ⟨hnot, hname⟩
    exact ⟨hnot, fun name value hequals hpiece =>
      hname (name, value) (splitFirst?_eq_some_iff.mpr ⟨hequals, hpiece⟩)⟩

instance : DecidablePred Aside := fun _ => decidable_of_iff' _ aside_iff

/-- Such a piece gives the token no value. -/
theorem Aside.not_gives (h : Aside piece) (value : List Char) : ¬ Gives piece value := by
  intro hgives
  obtain ⟨front, back, hpiece, hfront, -⟩ := exists_strip isBlank piece
  have hequals : '=' ∉ front := fun hmem => absurd (hfront _ hmem) (by decide)
  refine h.name_ne (front ++ tokenName) (value ++ back) ?_ ?_ ?_
  · simpa [hequals] using (by decide : '=' ∉ tokenName)
  · rw [hpiece, hgives]
    simp
  · rw [strip_append_left hfront]
    decide

theorem read?_eq_none_iff : read? value = none ↔ ∀ c ∈ value, isBlank c = true := by
  rw [read?, ← strip_eq_nil_iff, ← List.isEmpty_iff]
  split <;> simp_all

/-- A value is read as the text whose bytes it stands for, or as it is without blanks when there is
no such text. -/
theorem read?_cases (h : ∃ c ∈ value, isBlank c = false) :
    ∃ bs, Percent.Codes (strip isBlank value) bs ∧
      ((∃ s, bytes s = bs ∧ read? value = some (String.ofList s)) ∨
        (∀ s, bytes s ≠ bs) ∧ read? value = some (String.ofList (strip isBlank value))) := by
  have hread : read? value = some (decoded (strip isBlank value)) := by
    rw [read?, if_neg]
    rw [List.isEmpty_iff, strip_eq_nil_iff]
    obtain ⟨c, hc, hsign⟩ := h
    exact fun hblank => by simp [hblank c hc] at hsign
  refine ⟨_, Percent.codes_decode _, ?_⟩
  rw [hread, decoded]
  cases htext : ofBytes? (Percent.decode (strip isBlank value)) with
  | some s => exact Or.inl ⟨s, ofBytes?_eq_some_iff.mp htext, rfl⟩
  | none =>
    refine Or.inr ⟨fun s hs => ?_, rfl⟩
    rw [← ofBytes?_eq_some_iff, htext] at hs
    cases hs

/-- A text that is written in percent code is read back, also with blanks before it. -/
theorem read?_written {t : String} {w front : List Char} (ht : t ≠ "")
    (hw : Percent.Writes (bytes t.toList) w) (hfront : ∀ c ∈ front, isBlank c = true) :
    read? (front ++ w) = some t := by
  have hstrip : strip isBlank (front ++ w) = w := by
    rw [strip_append_left hfront, strip_eq_self_iff]
    exact ⟨fun c hc => (hw.not_blank c (List.mem_of_mem_head? hc)).1,
      fun c hc => (hw.not_blank c (List.mem_of_mem_getLast? hc)).1⟩
  have hdecoded : ofBytes? (Percent.decode w) = some t.toList :=
    ofBytes?_eq_some_iff.mpr (Percent.codes_iff.mp hw.codes).symm
  rw [read?, hstrip, if_neg (by simpa using hw.ne_nil (bytes_ne_nil ht)), decoded, hdecoded]
  simp

/-- A pair of the name of the token and a written text gives it that text, whatever blanks stand
around the pair. -/
theorem gives_written {w front mid back : List Char} (hw : Percent.Writes bs w) (hne : w ≠ [])
    (hblank : ∀ c ∈ front ++ mid ++ back, isBlank c = true) :
    ';' ∉ front ++ tokenName ++ '=' :: mid ++ w ++ back ∧
      Gives (front ++ tokenName ++ '=' :: mid ++ w ++ back) (mid ++ w) := by
  have hfront : ∀ c ∈ front, isBlank c = true := fun c hc => hblank c (by simp [hc])
  have hback : ∀ c ∈ back, isBlank c = true := fun c hc => hblank c (by simp [hc])
  constructor
  · have hparted : ∀ c, isBlank c = true → c ≠ ';' := by
      rintro c hc rfl
      exact absurd hc (by decide)
    have hname : ';' ∉ tokenName := by decide
    have hown : ';' ∉ w := fun hmem => (hw.not_blank _ hmem).2 rfl
    have hothers : ';' ∉ front ++ mid ++ back := fun hmem => hparted _ (hblank _ hmem) rfl
    simp only [List.mem_append, not_or] at hothers
    simp [hname, hown, hothers.1.1, hothers.1.2, hothers.2]
  · have hassoc : front ++ tokenName ++ '=' :: mid ++ w ++ back =
        front ++ (tokenName ++ '=' :: (mid ++ w)) ++ back := by simp
    rw [Gives, hassoc, strip_append hfront hback, strip_eq_self_iff]
    refine ⟨fun c hc => ?_, fun c hc => ?_⟩
    · have hname : tokenName = 'c' :: "srftoken".toList := rfl
      rw [hname, List.cons_append, List.head?_cons, Option.mem_some_iff] at hc
      subst hc
      decide
    · obtain ⟨rest, last, rfl⟩ := (List.eq_nil_or_concat' w).resolve_left hne
      have hlast : tokenName ++ '=' :: (mid ++ (rest ++ [last])) =
          tokenName ++ '=' :: (mid ++ rest) ++ [last] := by simp
      rw [hlast, List.getLast?_concat, Option.mem_some_iff] at hc
      subst hc
      exact (hw.not_blank last (by simp)).1

/-- A text that is written in percent code is read back from a cookie header, whatever other pieces
stand before and after it. A header has no token just if no piece gives it a value or the first one
that does gives it blanks. Else the token is the text whose bytes that value stands for, or the
value itself when there is no such text. -/
theorem cookie_token :
    (∀ (t : String) (w front mid back : List Char) (before after : List (List Char)), t ≠ "" →
      Percent.Writes (bytes t.toList) w → (∀ c ∈ front ++ mid ++ back, isBlank c = true) →
      (∀ piece ∈ before ++ after, Aside piece) →
        token? (String.ofList ([';'].intercalate
          (before ++ (front ++ tokenName ++ '=' :: mid ++ w ++ back) :: after))) = some t) ∧
    ∀ header : String,
      (token? header = none ↔
        (∀ rows, Parted ';' rows header.toList → ∀ piece ∈ rows, ∀ value, ¬ Gives piece value) ∨
          ∃ value, Decides header value ∧ ∀ c ∈ value, isBlank c = true) ∧
      ∀ value, Decides header value → (∃ c ∈ value, isBlank c = false) →
        ∃ bs, Percent.Codes (strip isBlank value) bs ∧
          ((∃ s, bytes s = bs ∧ token? header = some (String.ofList s)) ∨
            (∀ s, bytes s ≠ bs) ∧
              token? header = some (String.ofList (strip isBlank value))) := by
  refine ⟨?_, fun header => ⟨?_, ?_⟩⟩
  · intro t w front mid back before after ht hw hblank hothers
    obtain ⟨hnot, hgives⟩ := gives_written hw (hw.ne_nil (bytes_ne_nil ht)) hblank
    have hdecides : Decides (String.ofList ([';'].intercalate
        (before ++ (front ++ tokenName ++ '=' :: mid ++ w ++ back) :: after))) (mid ++ w) := by
      refine ⟨before, _, after, ⟨by simp, ?_, String.toList_ofList.symm⟩,
        fun p hp => (hothers p (by simp [hp])).not_gives, hgives⟩
      intro row hrow
      rcases List.mem_append.mp hrow with hrow | hrow
      · exact (hothers row (by simp [hrow])).not_mem
      · rcases List.mem_cons.mp hrow with rfl | hrow
        · exact hnot
        · exact (hothers row (by simp [hrow])).not_mem
    rw [token?_of_decides hdecides]
    exact read?_written ht hw fun c hc => hblank c (by simp [hc])
  · have hpieces : Parted ';' (pieces ';' header.toList) header.toList := parted_iff.mpr rfl
    constructor
    · intro hnone
      rw [token?_eq] at hnone
      cases hfirst : (pieces ';' header.toList).findSome? value? with
      | none =>
        refine Or.inl fun rows hrows piece hpiece => ?_
        rw [← parted_iff.mp hrows] at hpiece
        exact value?_eq_none_iff.mp (List.findSome?_eq_none_iff.mp hfirst piece hpiece)
      | some value =>
        rw [hfirst] at hnone
        exact Or.inr ⟨value, decides_iff.mpr hfirst, read?_eq_none_iff.mp hnone⟩
    · rintro (hnone | ⟨value, hdecides, hblank⟩)
      · have hfirst : (pieces ';' header.toList).findSome? value? = none :=
          List.findSome?_eq_none_iff.mpr fun piece hpiece =>
            value?_eq_none_iff.mpr (hnone _ hpieces piece hpiece)
        rw [token?_eq, hfirst]
        rfl
      · rw [token?_of_decides hdecides]
        exact read?_eq_none_iff.mpr hblank
  · intro value hdecides hsign
    rw [token?_of_decides hdecides]
    exact read?_cases hsign

/-- A token of a sign beyond ASCII and a semicolon, written with digits of both sizes, between other
pairs. A value whose bytes spell no text is the token as it stands. -/
theorem cookie_token_coded :
    token? "csrftokens=1;sid=%41;\u2003csrftoken=\t%c3%A4b%3B ;theme" = some "äb;" ∧
      token? "csrftoken=%FF%" = some "%FF%" := by
  constructor
  · have hw : Percent.Writes (bytes "äb;".toList) "%c3%A4b%3B".toList :=
      .byte (by decide) (by decide) (.byte (by decide) (by decide)
        (.sign (by decide) (.byte (by decide) (by decide) .nil)))
    have hheader := cookie_token.1 "äb;" "%c3%A4b%3B".toList ['\u2003'] ['\t'] [' ']
      ["csrftokens=1".toList, "sid=%41".toList] ["theme".toList] (by decide) hw
      (List.all_eq_true.mp rfl) (by decide)
    exact hheader
  · have hdecides : Decides "csrftoken=%FF%" "%FF%".toList := decides_iff.mpr (by decide)
    obtain ⟨bs, hbs, ⟨s, hs, -⟩ | ⟨-, hread⟩⟩ := (cookie_token.2 "csrftoken=%FF%").2 _ hdecides
      ⟨'%', by decide, by decide⟩
    · have hnone : ofBytes? (Percent.decode (strip isBlank "%FF%".toList)) = none := by decide
      rw [Percent.codes_iff.mp hbs, ofBytes?_eq_some_iff.mpr hs] at hnone
      cases hnone
    · exact hread

end Cookie
end OrderDesk
