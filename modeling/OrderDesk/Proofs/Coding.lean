import Mathlib
import OrderDesk.Text.Percent
import OrderDesk.Proofs.Messages
import OrderDesk.Proofs.Trimming

/-! Texts taken apart. A text is cut at a sign into the rows that join to it, and split where the sign
comes first. Bytes spell a text just if they are its bytes, and
a text in percent code stands for the bytes that are decoded from it. -/
namespace OrderDesk
open Text

namespace Text

variable {c : Char} {s t name value w : List Char} {rows : List (List Char)} {bs : List UInt8}

theorem pieces_eq_splitOn (c : Char) (s : List Char) : pieces c s = s.splitOn c := by
  induction s with
  | nil => rfl
  | cons d s ih =>
    rw [pieces, ih, List.splitOn_cons_eq_if_modifyHead]
    cases hrows : s.splitOn c with
    | nil => exact absurd hrows (List.splitOn_ne_nil c s)
    | cons p ps => simp

theorem not_mem_of_mem_pieces {row : List Char} (h : row ∈ pieces c s) : c ∉ row := by
  induction s generalizing row with
  | nil => simp_all [pieces]
  | cons d s ih =>
    rw [pieces] at h
    cases hrows : pieces c s with
    | nil =>
      rw [pieces_eq_splitOn] at hrows
      exact absurd hrows (List.splitOn_ne_nil c s)
    | cons p ps =>
      have hp : c ∉ p := ih (by simp [hrows])
      have hps : ∀ row ∈ ps, c ∉ row := fun row hrow => ih (by simp [hrows, hrow])
      simp only [hrows] at h
      split at h
      · rcases List.mem_cons.mp h with rfl | h
        · exact List.not_mem_nil
        · rcases List.mem_cons.mp h with rfl | h
          · exact hp
          · exact hps row h
      · next hd =>
        rcases List.mem_cons.mp h with rfl | h
        · exact List.not_mem_cons_of_ne_of_not_mem (Ne.symm hd) hp
        · exact hps row h

/-- The rows of a text: a `c` stands between any two of them, and none within. -/
structure Parted (c : Char) (rows : List (List Char)) (s : List Char) : Prop where
  ne_nil : rows ≠ []
  not_mem : ∀ row ∈ rows, c ∉ row
  join : [c].intercalate rows = s

theorem parted_iff : Parted c rows s ↔ pieces c s = rows := by
  constructor
  · rintro ⟨hne, hnot, rfl⟩
    exact (pieces_eq_splitOn c _).trans (List.splitOn_intercalate c hnot hne)
  · rintro rfl
    refine ⟨?_, fun row hrow => not_mem_of_mem_pieces hrow, ?_⟩
    · rw [pieces_eq_splitOn]
      exact List.splitOn_ne_nil c s
    · rw [pieces_eq_splitOn]
      exact List.intercalate_splitOn c

theorem splitFirst?_cons (d : Char) (s : List Char) : splitFirst? c (d :: s) =
    if d = c then some ([], s) else (splitFirst? c s).map fun r => (d :: r.1, r.2) := by
  by_cases hd : d = c
  · simp [splitFirst?, hd]
  · simp only [splitFirst?, List.dropWhile_cons, List.takeWhile_cons, bne_iff_ne, ne_eq, hd,
      not_false_eq_true, if_true, if_false]
    cases s.dropWhile (· != c) <;> rfl

/-- A text is split where the sign comes first. -/
theorem splitFirst?_eq_some_iff :
    splitFirst? c s = some (name, value) ↔ c ∉ name ∧ s = name ++ c :: value := by
  induction s generalizing name with
  | nil => simp [splitFirst?]
  | cons d s ih =>
    rw [splitFirst?_cons]
    by_cases hd : d = c
    · cases name with
      | nil => simp [hd]
      | cons e name => simpa [hd] using fun hne _ he => absurd he hne
    · cases name with
      | nil => simp [hd]
      | cons e name =>
        have hrest := @ih name
        simp only [if_neg hd, Option.map_eq_some_iff, Prod.exists, Prod.mk.injEq, List.cons.injEq,
          List.cons_append, List.mem_cons, not_or]
        constructor
        · rintro ⟨n, v, hsplit, ⟨rfl, rfl⟩, rfl⟩
          obtain ⟨hnot, rfl⟩ := hrest.mp hsplit
          exact ⟨⟨Ne.symm hd, hnot⟩, rfl, rfl⟩
        · rintro ⟨⟨-, hnot⟩, rfl, rfl⟩
          exact ⟨name, value, hrest.mpr ⟨hnot, rfl⟩, ⟨rfl, rfl⟩, rfl⟩

theorem spelled?_eq_some_iff {gs : List Glyph} : spelled? gs = some s ↔ gs = s.map some := by
  induction gs generalizing s with
  | nil => cases s <;> simp [spelled?]
  | cons g gs ih =>
    cases g with
    | none => cases s <;> simp [spelled?]
    | some c => cases s <;> simp [spelled?, ih, and_comm]

/-- The first character that bytes spell is the one whose bytes come first. -/
theorem exists_of_firstChar? (h : firstChar? bs = some c) :
    ∃ rest, bs = String.utf8EncodeChar c ++ rest := by
  obtain ⟨more, hmore⟩ := ByteArray.exists_of_utf8DecodeChar?_eq_some h
  have htake : bs.take 4 = String.utf8EncodeChar c ++ more.data.toList := by
    have := congrArg (·.data.toList) hmore
    simpa [ByteArray.data_append, List.toList_data_toByteArray] using this
  refine ⟨more.data.toList ++ bs.drop 4, ?_⟩
  rw [← List.append_assoc, ← htake, List.take_append_drop]

theorem bytes_ne_nil {t : String} (ht : t ≠ "") : bytes t.toList ≠ [] := by
  intro hnil
  have hglyphs := glyphs_bytes t.toList
  rw [hnil] at hglyphs
  exact ht (String.toList_eq_nil_iff.mp (List.map_eq_nil_iff.mp hglyphs.symm))

/-- Bytes are read as a text just if they are its bytes. -/
theorem ofBytes?_eq_some_iff : ofBytes? bs = some s ↔ bytes s = bs := by
  rw [ofBytes?, spelled?_eq_some_iff]
  refine ⟨fun h => ?_, fun h => h ▸ glyphs_bytes s⟩
  induction s generalizing bs with
  | nil =>
    cases bs with
    | nil => rfl
    | cons b bs =>
      simp only [glyphs, glyphsAfter] at h
      split at h <;> cases h
  | cons c s ih =>
    obtain ⟨rest, rfl⟩ : ∃ rest, bs = String.utf8EncodeChar c ++ rest := by
      cases bs with
      | nil => cases h
      | cons b bs =>
        simp only [glyphs, glyphsAfter] at h
        split at h
        · next d hd => exact exists_of_firstChar? (hd.trans (List.cons.inj h).1)
        · cases (List.cons.inj h).1
    rw [glyphs_encoded, List.map_cons, List.cons.injEq] at h
    exact congrArg (String.utf8EncodeChar c ++ ·) (ih h.2)

variable {n : Nat}

theorem bounds_of_isAlphanum (h : c.isAlphanum = true) :
    (0x30 ≤ c.toNat ∧ c.toNat ≤ 0x39) ∨ (0x41 ≤ c.toNat ∧ c.toNat ≤ 0x5A) ∨
      (0x61 ≤ c.toNat ∧ c.toNat ≤ 0x7A) := by
  simp [Char.isAlphanum, Char.isAlpha, Char.isUpper, Char.isLower, Char.isDigit,
    UInt32.le_iff_toNat_le] at h
  omega

theorem isAlphanum_of_hexDigit? (h : hexDigit? c = some n) : c.isAlphanum = true := by
  unfold hexDigit? at h
  simp [Char.isAlphanum, Char.isAlpha, Char.isUpper, Char.isLower, Char.isDigit, Char.le_def,
    UInt32.le_iff_toNat_le] at *
  grind

/-- A sign of ASCII that is to be seen is no blank. -/
theorem not_isBlank (h : 0x21 ≤ c.toNat) (h' : c.toNat ≤ 0x7E) : isBlank c = false := by
  simp only [isBlank, Bool.or_eq_false_iff, Bool.and_eq_false_iff, decide_eq_false_iff_not,
    beq_eq_false_iff_ne]
  omega

/-- A sign of ASCII has one byte. -/
theorem utf8EncodeChar_ascii (h : c.toNat < 0x80) :
    String.utf8EncodeChar c = [UInt8.ofNat c.toNat] := by
  have hsize : c.utf8Size = 1 := by
    simp [Char.utf8Size, UInt32.le_iff_toNat_le]
    omega
  rw [String.utf8EncodeChar_eq_singleton hsize]
  rfl

end Text

namespace Text.Percent

variable {t : String} {w : List Char} {bs : List UInt8}

/-- A text in percent code and the bytes that it stands for: a percent sign and two hexadecimal
digits stand for one byte, and whatever else is there stands for itself. -/
inductive Codes : List Char → List UInt8 → Prop where
  | nil : Codes [] []
  | byte {hi lo : Char} {x y : Nat} {w : List Char} {bs : List UInt8} : hexDigit? hi = some x →
      hexDigit? lo = some y → Codes w bs →
      Codes ('%' :: hi :: lo :: w) (UInt8.ofNat (16 * x + y) :: bs)
  | sign {c : Char} {w : List Char} {bs : List UInt8} :
      (∀ hi lo rest x y, c = '%' → w = hi :: lo :: rest → hexDigit? hi = some x →
        hexDigit? lo ≠ some y) →
      Codes w bs → Codes (c :: w) (String.utf8EncodeChar c ++ bs)

theorem codes_decode (w : List Char) : Codes w (decode w) := by
  fun_induction decode w with
  | case1 => exact .nil
  | case2 hi lo w x y hy hx ih => exact .byte hx hy ih
  | case3 hi lo w hno ih =>
    refine .sign ?_ ih
    rintro _ _ _ x y - ⟨rfl, rfl, rfl⟩ hx hy
    exact hno x y hx hy
  | case4 c w hno ih =>
    refine .sign ?_ ih
    rintro hi lo rest x y rfl rfl - -
    exact hno hi lo rest rfl rfl

/-- A text stands for the bytes that are decoded from it, and for no others. -/
theorem codes_iff : Codes w bs ↔ decode w = bs := by
  refine ⟨fun h => ?_, fun h => h ▸ codes_decode w⟩
  induction h with
  | nil => rfl
  | byte hx hy _ ih => rw [decode, hx, hy, ← ih]
  | @sign c w bs hno _ ih =>
    rw [← ih, decode.eq_def]
    split
    · contradiction
    · split
      · grind
      · grind
    · simp_all

/-- A way to write bytes in percent code, in which a letter or digit may stand for itself. -/
inductive Writes : List UInt8 → List Char → Prop where
  | nil : Writes [] []
  | sign {c : Char} {bs : List UInt8} {w : List Char} : c.isAlphanum = true → Writes bs w →
      Writes (UInt8.ofNat c.toNat :: bs) (c :: w)
  | byte {b : UInt8} {hi lo : Char} {bs : List UInt8} {w : List Char} :
      hexDigit? hi = some (b.toNat / 16) → hexDigit? lo = some (b.toNat % 16) → Writes bs w →
      Writes (b :: bs) ('%' :: hi :: lo :: w)

/-- What is written for bytes stands for them. -/
theorem Writes.codes (h : Writes bs w) : Codes w bs := by
  induction h with
  | nil => exact .nil
  | @sign c bs w hc _ ih =>
    have hbounds := bounds_of_isAlphanum hc
    have hbyte : String.utf8EncodeChar c = [UInt8.ofNat c.toNat] :=
      utf8EncodeChar_ascii (by omega)
    have hcodes := Codes.sign (c := c) ?_ ih
    · rwa [hbyte] at hcodes
    · rintro hi lo rest x y rfl
      exact absurd hc (by decide)
  | @byte b hi lo bs w hhi hlo _ ih =>
    have hcodes := Codes.byte hhi hlo ih
    rwa [Nat.div_add_mod, UInt8.ofNat_toNat] at hcodes

/-- What is written for bytes is made of letters, digits and percent signs. -/
theorem Writes.signs (h : Writes bs w) : ∀ c ∈ w, c.isAlphanum = true ∨ c = '%' := by
  induction h with
  | nil => simp
  | sign hc _ ih => simpa [hc] using ih
  | byte hhi hlo _ ih =>
    simpa [isAlphanum_of_hexDigit? hhi, isAlphanum_of_hexDigit? hlo] using ih

/-- So it holds neither a blank nor a semicolon. -/
theorem Writes.not_blank (h : Writes bs w) : ∀ c ∈ w, isBlank c = false ∧ c ≠ ';' := by
  intro c hc
  rcases h.signs c hc with hsign | rfl
  · have hbounds := bounds_of_isAlphanum hsign
    refine ⟨not_isBlank (by omega) (by omega), ?_⟩
    rintro rfl
    exact absurd hsign (by decide)
  · decide

theorem Writes.ne_nil (h : Writes bs w) (hbs : bs ≠ []) : w ≠ [] := by
  cases h with
  | nil => exact absurd rfl hbs
  | _ => exact List.cons_ne_nil _ _

end Text.Percent

end OrderDesk
