import Mathlib.Data.List.TakeWhile
import OrderDesk.Toml.Reader

/-! How the values of a document are written within one line. A string is written in one of four
forms, and a key may stand bare as well; whichever form is taken, the string that is read back is
the one that was written. -/
namespace OrderDesk.Toml
open Text

variable {c mark : Char} {s s' rest : List Char} {row most : Nat} {v : Value} {t t' : String}

/-! ### One character -/

theorem isPlain_of_not_isControl (h : isControl c = false) (hline : c ≠ '\n') :
    isPlain c = true := by
  simpa [isControl, hline] using h

theorem toNat_lt_of_isControl (h : isControl c = true) : c.toNat < 0x80 := by
  simp only [isControl, isPlain, Bool.and_eq_true, Bool.not_eq_true', Bool.or_eq_false_iff,
    Bool.and_eq_false_iff, decide_eq_false_iff_not, bne_eq_false_iff_eq] at h
  omega

theorem numbered?_hexDigits : ∀ n < 0x80,
    numbered? ['0', '0', (hexDigit (n / 16)).toUpper, (hexDigit (n % 16)).toUpper] =
      some (Char.ofNat n) := by
  decide

/-- A character is written after a backslash as a letter, or by its number, or as itself. -/
theorem escape_cases (c : Char) :
    (∃ letter, letter ≠ 'u' ∧ letter ≠ 'U' ∧ isSpace letter = false ∧ letter ≠ '\n' ∧
      letter ≠ '\r' ∧ escaped? letter = some c ∧ escape c = ['\\', letter]) ∨
    (∃ a b, numbered? ['0', '0', a, b] = some c ∧ escape c = ['\\', 'u', '0', '0', a, b]) ∨
    (c ≠ '"' ∧ c ≠ '\\' ∧ c ≠ '\n' ∧ c ≠ '\r' ∧ isPlain c = true ∧ escape c = [c]) := by
  unfold escape
  iterate 7
    split
    · subst c
      exact Or.inl ⟨_, by decide, by decide, by decide, by decide, by decide, rfl, rfl⟩
  split
  · next h =>
    refine Or.inr (Or.inl ⟨_, _, ?_, rfl⟩)
    rw [numbered?_hexDigits _ (toNat_lt_of_isControl h), Char.ofNat_toNat]
  · next hslash hquote _ _ hline _ hreturn h =>
    exact Or.inr (Or.inr ⟨hquote, hslash, hline, hreturn,
      isPlain_of_not_isControl (Bool.of_not_eq_true h) hline, rfl⟩)

/-- What is written for a character within one line is read as that character. -/
theorem readEscaped_escape (c : Char) (rest : List Char) :
    readEscaped (escape c ++ rest) = (readEscaped rest).map fun r => (c :: r.1, r.2) := by
  rcases escape_cases c with ⟨letter, hu, hU, -, -, -, hletter, he⟩ | ⟨a, b, hnumber, he⟩ |
    ⟨hquote, hslash, -, -, hplain, he⟩
  · rw [he]
    simp [readEscaped, hu, hU, hletter]
  · rw [he]
    simp [readEscaped, hnumber]
  · rw [he]
    simp [readEscaped, hslash, hplain]

/-- So it is over lines, unless it is a mark or ends the line. -/
theorem readEscapedLines_escape (hquote : c ≠ '"') (hline : c ≠ '\n') (rest : List Char) :
    readEscapedLines false (escape c ++ rest) =
      (readEscapedLines false rest).map fun r => (c :: r.1, r.2) := by
  rcases escape_cases c with ⟨letter, hu, hU, hspace, hn, hr, hletter, he⟩ | ⟨a, b, hnumber, he⟩ |
    ⟨-, hslash, -, hreturn, hplain, he⟩
  · have hends : endsLine (letter :: rest) = false := by
      simp [endsLine, skipSpace, hspace, newLine?, hn, hr]
    rw [he]
    simp [readEscapedLines, hu, hU, hends, hletter]
  · rw [he]
    simp [readEscapedLines, hnumber]
  · rw [he]
    simp [readEscapedLines, hquote, hreturn, hslash, hplain]

/-- What is written for a character does not begin with a mark, nor does it end a line. -/
theorem escape_head (c : Char) : ∃ a as, escape c = a :: as ∧ a ≠ '"' ∧ a ≠ '\n' ∧ a ≠ '\r' := by
  rcases escape_cases c with ⟨letter, -, -, -, -, -, -, he⟩ | ⟨a, b, -, he⟩ |
    ⟨hquote, -, hline, hreturn, -, he⟩
  · exact ⟨_, _, he, by decide⟩
  · exact ⟨_, _, he, by decide⟩
  · exact ⟨_, _, he, hquote, hline, hreturn⟩

/-! ### Strings within one line -/

theorem readEscaped_escaped (s rest : List Char) :
    readEscaped (s.flatMap escape ++ '"' :: rest) = some (s, rest) := by
  induction s with
  | nil => simp [readEscaped]
  | cons c s ih =>
    rw [List.flatMap_cons, List.append_assoc, readEscaped_escape, ih, Option.map_some]

theorem readQuoted?_escapedString (s : List Char) :
    readQuoted? (escapedString s) = some (s, []) := by
  cases s with
  | nil => rfl
  | cons c s =>
    obtain ⟨a, as, he, hquote, -⟩ := escape_head c
    have hread := readEscaped_escaped (c :: s) []
    rw [List.flatMap_cons, he, List.cons_append] at hread
    rw [escapedString, between, List.flatMap_cons, he]
    simpa [readQuoted?, hquote] using hread

theorem readLiteral_append (h : ∀ c ∈ s, isPlain c = true ∧ c ≠ '\'') (rest : List Char) :
    readLiteral (s ++ '\'' :: rest) = some (s, rest) := by
  induction s with
  | nil => simp [readLiteral]
  | cons c s ih =>
    obtain ⟨hplain, hmark⟩ := h c List.mem_cons_self
    have hrest := ih fun d hd => h d (List.mem_cons_of_mem c hd)
    simp [readLiteral, hplain, hrest]

theorem readQuoted?_literal (hne : s ≠ []) (h : ∀ c ∈ s, isPlain c = true ∧ c ≠ '\'') :
    readQuoted? (between ['\''] s) = some (s, []) := by
  obtain ⟨c, s, rfl⟩ := List.exists_cons_of_ne_nil hne
  have hread := readLiteral_append h []
  have hmark := (h c List.mem_cons_self).2
  simpa [readQuoted?, between, hmark] using hread

/-! ### Strings over lines -/

/-- A text over lines does not begin with the end of one, unless it was put there. -/
theorem dropNewLine_opening (hs : '\n' ∉ s → ∀ a ∈ s'.head?, a ≠ '\n' ∧ a ≠ '\r') :
    dropNewLine ((if '\n' ∈ s then ['\n'] else []) ++ s') = s' := by
  by_cases h : '\n' ∈ s
  · simp [h, dropNewLine, newLine?]
  · cases s' with
    | nil => simp [h, dropNewLine, newLine?]
    | cons a s' =>
      obtain ⟨hline, hreturn⟩ := hs h a rfl
      simp [h, dropNewLine, newLine?, hline, hreturn]

theorem escapeLines_of_ne (hquote : c ≠ '"') (hline : c ≠ '\n') (row : Nat) (s : List Char) :
    escapeLines row (c :: s) = escape c ++ escapeLines 0 s := by
  rw [escapeLines]
  · exact hquote
  · exact hline

/-- After two marks, and before anything but a mark, the next sign is no mark. -/
theorem escapeLines_head (h : c ≠ '"' ∨ 2 ≤ row) (s : List Char) :
    ∃ a as, escapeLines row (c :: s) = a :: as ∧ a ≠ '"' := by
  by_cases hquote : c = '"'
  · subst hquote
    have hrow := h.resolve_left (fun hne => hne rfl)
    exact ⟨'\\', '"' :: escapeLines 0 s, by rw [escapeLines, if_pos hrow], by decide⟩
  · by_cases hline : c = '\n'
    · subst hline
      exact ⟨'\n', escapeLines 0 s, rfl, by decide⟩
    · obtain ⟨a, as, he, ha, -⟩ := escape_head c
      exact ⟨a, as ++ escapeLines 0 s, by rw [escapeLines_of_ne hquote hline, he, List.cons_append],
        ha⟩

theorem readEscapedLines_mark (h : ∀ r, rest ≠ '"' :: '"' :: r) :
    readEscapedLines false ('"' :: rest) =
      (readEscapedLines false rest).map fun r => ('"' :: r.1, r.2) := by
  have hplain : isPlain '"' = true := by decide
  rw [readEscapedLines] <;> simp_all

/-- A mark that stands as it is, is read as one. -/
theorem readEscapedLines_row (hrow : row < 2)
    (ih : readEscapedLines false (escapeLines (row + 1) s ++ ['"', '"', '"']) = some (s, [])) :
    readEscapedLines false ('"' :: (escapeLines (row + 1) s ++ ['"', '"', '"'])) =
      some ('"' :: s, []) := by
  -- Only at the end of the string may two more marks follow, and there they are counted.
  match s with
  | [] => rfl
  | d :: s =>
    by_cases hd : d ≠ '"' ∨ 2 ≤ row + 1
    · obtain ⟨a, as, he, ha⟩ := escapeLines_head hd s
      have hother : ∀ r, escapeLines (row + 1) (d :: s) ++ ['"', '"', '"'] ≠ '"' :: '"' :: r := by
        simp [he, ha]
      rw [readEscapedLines_mark hother, ih, Option.map_some]
    · obtain ⟨rfl, rfl⟩ : d = '"' ∧ row = 0 := by simpa using hd
      match s with
      | [] => rfl
      | e :: s =>
        have hrow : e ≠ '"' ∨ 2 ≤ 2 := Or.inr (Nat.le_refl 2)
        obtain ⟨a, as, he, ha⟩ := escapeLines_head hrow s
        have hother : ∀ r, escapeLines 1 ('"' :: e :: s) ++ ['"', '"', '"'] ≠ '"' :: '"' :: r := by
          rw [escapeLines, if_neg (by decide), he]
          simp [ha]
        rw [readEscapedLines_mark hother, ih, Option.map_some]

/-- Of the marks in a row two at most stand as they are, so that the three at the end are found. -/
theorem readEscapedLines_escapeLines (s : List Char) (row : Nat) :
    readEscapedLines false (escapeLines row s ++ ['"', '"', '"']) = some (s, []) := by
  induction s generalizing row with
  | nil => rfl
  | cons c s ih =>
    by_cases hquote : c = '"'
    · subst hquote
      rw [escapeLines]
      split
      · simp [readEscapedLines, endsLine, skipSpace, isSpace, newLine?, escaped?, ih]
      · next hrow => exact readEscapedLines_row (Nat.lt_of_not_le hrow) (ih _)
    · by_cases hline : c = '\n'
      · subst hline
        simp [escapeLines, readEscapedLines, ih]
      · rw [escapeLines_of_ne hquote hline, List.append_assoc,
          readEscapedLines_escape hquote hline, ih, Option.map_some]

theorem readQuoted?_escapedLines (s : List Char) :
    readQuoted? (escapedLines s) = some (s, []) := by
  have hfirst : '\n' ∉ s → ∀ a ∈ (escapeLines 0 s ++ ['"', '"', '"']).head?,
      a ≠ '\n' ∧ a ≠ '\r' := by
    intro hs a ha
    match s with
    | [] =>
      obtain rfl : '"' = a := by simpa [escapeLines] using ha
      decide
    | c :: s =>
      have hline : c ≠ '\n' := fun hc => hs (hc ▸ List.mem_cons_self)
      by_cases hquote : c = '"'
      · subst hquote
        obtain rfl : '"' = a := by simpa [escapeLines] using ha
        decide
      · obtain ⟨b, bs, he, -, hb⟩ := escape_head c
        obtain rfl : b = a := by simpa [escapeLines_of_ne hquote hline, he] using ha
        exact hb
  have hread := dropNewLine_opening hfirst
  simp only [escapedLines, opening, List.replicate, List.cons_append, List.nil_append, readQuoted?,
    List.append_assoc, hread]
  exact readEscapedLines_escapeLines s 0

/-- One character more: how long the row at the end is, and the longest one. -/
def countRow (mark : Char) (counts : Nat × Nat) (c : Char) : Nat × Nat :=
  let row := if c = mark then counts.1 + 1 else 0
  (row, max row counts.2)

theorem longestRow_eq (mark : Char) (s : List Char) :
    longestRow mark s = (s.foldl (countRow mark) (0, 0)).2 := rfl

theorem le_countRow (mark : Char) (s : List Char) (counts : Nat × Nat) :
    counts.2 ≤ (s.foldl (countRow mark) counts).2 := by
  induction s generalizing counts with
  | nil => exact Nat.le_refl _
  | cons c s ih => exact Nat.le_trans (Nat.le_max_right _ _) (ih (countRow mark counts c))

/-- Where no row is longer than two, a third mark does not follow. -/
theorem ne_of_countRow {counts : Nat × Nat}
    (h : ((mark :: mark :: c :: s).foldl (countRow mark) counts).2 ≤ 2) : c ≠ mark := by
  rintro rfl
  have hrow := Nat.le_trans (le_countRow c s _) h
  simp only [countRow, if_true] at hrow
  omega

theorem readLiteralLines_mark (h : ∀ r, rest ≠ '\'' :: '\'' :: r) :
    readLiteralLines ('\'' :: rest) =
      (readLiteralLines rest).map fun r => ('\'' :: r.1, r.2) := by
  have hplain : isPlain '\'' = true := by decide
  rw [readLiteralLines] <;> simp_all

theorem readLiteralLines_cons (hmark : c ≠ '\'') (hc : isControl c = false) (rest : List Char) :
    readLiteralLines (c :: rest) = (readLiteralLines rest).map fun r => (c :: r.1, r.2) := by
  by_cases hline : c = '\n'
  · subst hline
    simp [readLiteralLines]
  · have hplain := isPlain_of_not_isControl hc hline
    have hreturn : c ≠ '\r' := by
      rintro rfl
      exact absurd hplain (by decide)
    simp [readLiteralLines, hmark, hreturn, hplain]

/-- A string with two marks in a row at most ends where the three at its end begin. -/
theorem readLiteralLines_append (h : ∀ c ∈ s, isControl c = false) (counts : Nat × Nat)
    (hrow : (s.foldl (countRow '\'') counts).2 ≤ 2) :
    readLiteralLines (s ++ ['\'', '\'', '\'']) = some (s, []) := by
  induction s generalizing counts with
  | nil => rfl
  | cons c s ih =>
    have hread := ih (fun d hd => h d (List.mem_cons_of_mem c hd)) _ hrow
    by_cases hmark : c = '\''
    · subst hmark
      match s with
      | [] => rfl
      | [d] =>
        by_cases hd : d = '\''
        · subst hd
          rfl
        · rw [List.cons_append, readLiteralLines_mark (by simp [hd]), hread, Option.map_some]
      | d :: e :: s =>
        have hother : ∀ r, d :: e :: s ++ ['\'', '\'', '\''] ≠ '\'' :: '\'' :: r := by
          rintro r hsplit
          obtain ⟨rfl, rfl, -⟩ : d = '\'' ∧ e = '\'' ∧ _ = r := by simpa using hsplit
          exact ne_of_countRow hrow rfl
        rw [List.cons_append, readLiteralLines_mark hother, hread, Option.map_some]
    · rw [List.cons_append, readLiteralLines_cons hmark (h c List.mem_cons_self), hread,
        Option.map_some]

theorem readQuoted?_literalLines (h : ∀ c ∈ s, isControl c = false)
    (hrow : longestRow '\'' s ≤ 2) : readQuoted? (literalLines s) = some (s, []) := by
  have hfirst : '\n' ∉ s → ∀ a ∈ (s ++ ['\'', '\'', '\'']).head?, a ≠ '\n' ∧ a ≠ '\r' := by
    intro hs a ha
    match s with
    | [] =>
      obtain rfl : '\'' = a := by simpa using ha
      decide
    | c :: s =>
      obtain rfl : c = a := by simpa using ha
      refine ⟨fun hc => hs (hc ▸ List.mem_cons_self), ?_⟩
      rintro rfl
      exact absurd (h _ List.mem_cons_self) (by decide)
  have hread := dropNewLine_opening hfirst
  simp only [literalLines, opening, List.replicate, List.cons_append, List.nil_append, readQuoted?,
    List.append_assoc, hread]
  exact readLiteralLines_append h (0, 0) (longestRow_eq '\'' s ▸ hrow)

/-! ### The form that is taken -/

/-- A string that is written is read back. -/
theorem readQuoted?_quoted (s : List Char) : readQuoted? (quoted s) = some (s, []) := by
  unfold quoted
  simp only
  split
  · exact readQuoted?_escapedString s
  · next hfirst =>
    split
    · next h =>
      simp only [Bool.and_eq_true, Bool.not_eq_true', List.any_eq_false, List.contains_eq_mem,
        decide_eq_false_iff_not] at h
      obtain ⟨⟨hcontrol, hline⟩, hmark⟩ := h
      refine readQuoted?_literal ?_ fun c hc => ⟨?_, fun he => hmark (he ▸ hc)⟩
      · rintro rfl
        exact hfirst (by decide)
      · exact isPlain_of_not_isControl (Bool.of_not_eq_true (hcontrol c hc))
          fun he => hline (he ▸ hc)
    · split
      · exact readQuoted?_escapedLines s
      · split
        · next h =>
          simp only [Bool.and_eq_true, Bool.not_eq_true', List.any_eq_false, decide_eq_true_eq] at h
          exact readQuoted?_literalLines (fun c hc => Bool.of_not_eq_true (h.1 c hc)) h.2
        · split
          · exact readQuoted?_escapedLines s
          · exact readQuoted?_escapedString s

theorem readKeyPart?_escapedString (s : List Char) :
    readKeyPart? (escapedString s) = some (String.ofList s, []) := by
  simp [readKeyPart?, escapedString, between, readEscaped_escaped]

theorem readKeyPart?_bare (hne : s ≠ []) (h : ∀ c ∈ s, isKeySign c = true) :
    readKeyPart? s = some (String.ofList s, []) := by
  obtain ⟨c, s, rfl⟩ := List.exists_cons_of_ne_nil hne
  have hc := h c List.mem_cons_self
  have hquote : c ≠ '"' := by
    rintro rfl
    exact absurd hc (by decide)
  have hmark : c ≠ '\'' := by
    rintro rfl
    exact absurd hc (by decide)
  have htake : (c :: s).takeWhile isKeySign = c :: s := List.takeWhile_eq_self_iff.mpr h
  have hdrop : (c :: s).dropWhile isKeySign = [] := List.dropWhile_eq_nil_iff.mpr h
  rw [readKeyPart?, htake, hdrop]
  · exact fun _ hsplit => hquote (List.cons.inj hsplit).1
  · exact fun _ hsplit => hmark (List.cons.inj hsplit).1

/-- A key that is written is read back. -/
theorem readKeyPart?_quotedKey (s : List Char) :
    readKeyPart? (quotedKey s) = some (String.ofList s, []) := by
  unfold quotedKey
  simp only
  split
  · next h =>
    simp only [Bool.and_eq_true, Bool.not_eq_true', List.isEmpty_eq_false_iff,
      List.all_eq_true] at h
    exact readKeyPart?_bare h.1 h.2
  · split
    · exact readKeyPart?_escapedString s
    · split
      · next h =>
        simp only [Bool.and_eq_true, Bool.not_eq_true', List.any_eq_false, List.contains_eq_mem,
          decide_eq_false_iff_not, Bool.or_eq_true, beq_iff_eq, not_or] at h
        obtain ⟨hsigns, hmark⟩ := h
        have hread := readLiteral_append (s := s) (fun c hc =>
          ⟨isPlain_of_not_isControl (Bool.of_not_eq_true (hsigns c hc).1) (hsigns c hc).2,
            fun he => hmark (he ▸ hc)⟩) []
        simp [readKeyPart?, between, hread]
      · exact readKeyPart?_escapedString s

/-! ### The text of a value -/

/-- How a string is written: in the form that is preferred, in which it is read as that string. -/
inductive WritesString (t : String) : String → Prop where
  | intro : readQuoted? (quoted t.toList) = some (t.toList, []) →
      WritesString t (String.ofList (quoted t.toList))

/-- How a key is written, in which form it is read as that key. -/
inductive WritesKey (k : String) : String → Prop where
  | intro : readKeyPart? (quotedKey k.toList) = some (k, []) →
      WritesKey k (String.ofList (quotedKey k.toList))

mutual
/-- How a value is written within one line. -/
inductive Writes : Value → String → Prop where
  | text {t written : String} : WritesString t written → Writes (.text t) written
  | integer (n : Int) : Writes (.integer n) (toString n)
  | real (x : Double) : Writes (.real x) x.text
  | yes : Writes (.bool true) "true"
  | no : Writes (.bool false) "false"
  | moment (m : Moment) : Writes (.moment m) m.text
  | list {vs : List Value} {ts : List String} :
      WritesItems vs ts → Writes (.list vs) ("[" ++ ", ".intercalate ts ++ "]")
  | empty : Writes (.table []) "\x7b\x7d"
  | table {m : String × Value} {ms : List (String × Value)} {ts : List String} :
      WritesMembers (m :: ms) ts →
        Writes (.table (m :: ms)) ("\x7b " ++ ", ".intercalate ts ++ " \x7d")

/-- How the items of a list are written. -/
inductive WritesItems : List Value → List String → Prop where
  | nil : WritesItems [] []
  | cons {v : Value} {vs : List Value} {t : String} {ts : List String} :
      Writes v t → WritesItems vs ts → WritesItems (v :: vs) (t :: ts)

/-- How the members of a table are written. -/
inductive WritesMembers : List (String × Value) → List String → Prop where
  | nil : WritesMembers [] []
  | cons {k key t : String} {v : Value} {ms : List (String × Value)} {ts : List String} :
      WritesKey k key → Writes v t → WritesMembers ms ts →
        WritesMembers ((k, v) :: ms) ((key ++ " = " ++ t) :: ts)
end

mutual
/-- Each value has a text. -/
theorem writes_print : ∀ v : Value, Writes v v.print
  | .text t => .text (.intro (readQuoted?_quoted t.toList))
  | .integer n => .integer n
  | .real x => .real x
  | .bool true => .yes
  | .bool false => .no
  | .moment m => .moment m
  | .list vs => .list (writesItems_print vs)
  | .table [] => .empty
  | .table (m :: ms) => .table (writesMembers_print (m :: ms))

theorem writesItems_print : ∀ vs : List Value, WritesItems vs (Value.printItems vs)
  | [] => .nil
  | v :: vs => .cons (writes_print v) (writesItems_print vs)

theorem writesMembers_print : ∀ ms : List (String × Value),
    WritesMembers ms (Value.printMembers ms)
  | [] => .nil
  | (k, v) :: ms => by
    have hkey := readKeyPart?_quotedKey k.toList
    rw [String.ofList_toList] at hkey
    exact .cons (.intro hkey) (writes_print v) (writesMembers_print ms)
end

mutual
/-- No value has two texts. -/
theorem print_of_writes : ∀ {v : Value} {t : String}, Writes v t → v.print = t
  | _, _, .text (.intro _) => rfl
  | _, _, .integer _ => rfl
  | _, _, .real _ => rfl
  | _, _, .yes => rfl
  | _, _, .no => rfl
  | _, _, .moment _ => rfl
  | _, _, .list h => by rw [Value.print, printItems_of_writes h]
  | _, _, .empty => rfl
  | _, _, .table h => by
    rw [Value.print, printMembers_of_writes h]
    exact List.cons_ne_nil _ _

theorem printItems_of_writes : ∀ {vs : List Value} {ts : List String}, WritesItems vs ts →
    Value.printItems vs = ts
  | _, _, .nil => rfl
  | _, _, .cons h hs => by rw [Value.printItems, print_of_writes h, printItems_of_writes hs]

theorem printMembers_of_writes : ∀ {ms : List (String × Value)} {ts : List String},
    WritesMembers ms ts → Value.printMembers ms = ts
  | _, _, .nil => rfl
  | _, _, .cons (.intro _) h hs => by
    rw [Value.printMembers, print_of_writes h, printMembers_of_writes hs]
end

theorem writes_iff : Writes v t ↔ v.print = t :=
  ⟨print_of_writes, fun h => h ▸ writes_print v⟩

end OrderDesk.Toml
