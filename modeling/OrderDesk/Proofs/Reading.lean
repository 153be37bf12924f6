import OrderDesk.Json.Reader
import OrderDesk.Json.Value

/-! What is written as JSON is read back, whatever follows it. A character of a string is written
in one of three forms, each of which is one piece to the reader. The compact text of a value and the
one over lines differ in the blanks between the signs alone, and the reader passes over these. -/
namespace OrderDesk.Json
open Text

variable {c : Char} {s s' t rest : List Glyph} {blanks : List Char} {n : Nat} {node : Node}
  {name : Option String}

/-- A character is written after a backslash as a letter, or by its number, or as itself. -/
theorem escape_cases (c : Char) :
    (∃ letter, letter ≠ 'u' ∧ escaped? letter = some c ∧ escape c = ['\\', letter]) ∨
    (c.toNat < 0x20 ∧ escape c =
      ['\\', 'u', '0', '0', hexDigit (c.toNat / 16), hexDigit (c.toNat % 16)]) ∨
    (c ≠ '"' ∧ c ≠ '\\' ∧ 0x20 ≤ c.toNat ∧ escape c = [c]) := by
  unfold escape
  iterate 7
    split
    · subst c
      exact Or.inl ⟨_, by decide, rfl, rfl⟩
  split
  · next h => exact Or.inr (Or.inl ⟨h, rfl⟩)
  · next hquote hslash _ _ _ _ _ h => exact Or.inr (Or.inr ⟨hquote, hslash, by omega, rfl⟩)

theorem unit?_hexDigits : ∀ n < 0x20,
    unit? (some '0') (some '0') (some (hexDigit (n / 16))) (some (hexDigit (n % 16))) = some n := by
  decide

/-- What is written for a character is one piece to the reader, which spells the character. -/
theorem readPieces_escape (c : Char) (rest : List Glyph) :
    ∃ p, readPieces ((escape c).map some ++ rest) =
        (readPieces rest).map (fun r => (p :: r.1, r.2)) ∧
      ∀ ps, spell? (p :: ps) = (spell? ps).map (c :: ·) := by
  rcases escape_cases c with ⟨letter, hu, hletter, he⟩ | ⟨hlow, he⟩ | ⟨hquote, hslash, hlow, he⟩
  · refine ⟨.glyph (some c), ?_, fun _ => rfl⟩
    rw [he]
    simp [readPieces, hu, hletter]
    cases readPieces rest <;> rfl
  · refine ⟨.unit c.toNat, ?_, fun ps => ?_⟩
    · rw [he]
      simp [readPieces, unit?_hexDigits _ hlow]
      cases readPieces rest <;> rfl
    · have h₁ : ¬ 0xD800 ≤ c.toNat := by omega
      have h₂ : ¬ 0xDC00 ≤ c.toNat := by omega
      rw [spell?.eq_def]
      simp [h₁, h₂]
  · refine ⟨.glyph (some c), ?_, fun _ => rfl⟩
    rw [he]
    have h₁ : ¬ c.toNat < 0x20 := by omega
    simp [readPieces, hquote, hslash, h₁]
    cases readPieces rest <;> rfl

theorem readString_quoted (s : String) (rest : List Glyph) :
    readString ((s.toList.flatMap escape ++ ['"']).map some ++ rest) = some (some s, rest) := by
  suffices h : ∀ cs : List Char, ∃ ps,
      readPieces ((cs.flatMap escape ++ ['"']).map some ++ rest) = some (ps, rest) ∧
        spell? ps = some cs by
    obtain ⟨ps, hread, hspell⟩ := h s.toList
    rw [readString, hread]
    simp [hspell]
  intro cs
  induction cs with
  | nil => exact ⟨[], by simp [readPieces], rfl⟩
  | cons c cs ih =>
    obtain ⟨ps, hread, hspell⟩ := ih
    obtain ⟨p, hp, hspells⟩ :=
      readPieces_escape c ((cs.flatMap escape ++ ['"']).map some ++ rest)
    refine ⟨p :: ps, ?_, by simp [hspells, hspell]⟩
    simp only [List.flatMap_cons, List.append_assoc, List.map_append] at hp hread ⊢
    rw [hp, hread]
    rfl

/-! ### One step of each reader -/

theorem skipSpace_cons (h : isSpace (some c) = false) (s : List Glyph) :
    skipSpace (some c :: s) = some c :: s := by
  simp [skipSpace, h]

theorem skipSpace_append (h : ∀ c ∈ blanks, isSpace (some c) = true) (s : List Glyph) :
    skipSpace (blanks.map some ++ s) = skipSpace s :=
  List.dropWhile_append_of_pos (by simpa using h)

theorem readNode_skipSpace (h : skipSpace s = skipSpace s') (n : Nat) :
    readNode n s = readNode n s' := by
  cases n with
  | zero => rfl
  | succ n => rw [readNode, readNode, h]

theorem readItems_skipSpace (h : skipSpace s = skipSpace s') (n : Nat) :
    readItems n s = readItems n s' := by
  cases n with
  | zero => rfl
  | succ n => rw [readItems, readItems, readNode_skipSpace h]

theorem readMembers_skipSpace (h : skipSpace s = skipSpace s') (n : Nat) :
    readMembers n s = readMembers n s' := by
  cases n with
  | zero => rfl
  | succ n => rw [readMembers, readMembers, h]

theorem readNode_quote (n : Nat) (s : List Glyph) :
    readNode (n + 1) (some '"' :: s) = (readString s).map fun r => (.string r.1, r.2) := by
  rw [readNode, skipSpace_cons (by decide)]
  rfl

theorem readNode_bracket (n : Nat) (hs : skipSpace s = some c :: s') (hend : c ≠ ']') :
    readNode (n + 1) (some '[' :: s) = (readItems n s).map fun r => (.array r.1, r.2) := by
  rw [readNode, skipSpace_cons (by decide)]
  simp [hs, hend]

theorem readNode_brace (n : Nat) (hs : skipSpace s = some '"' :: s') :
    readNode (n + 1) (some '{' :: s) = (readMembers n s).map fun r => (.object r.1, r.2) := by
  rw [readNode, skipSpace_cons (by decide)]
  simp [hs]

theorem readItems_comma (h : readNode n s = some (node, t)) (ht : skipSpace t = some ',' :: rest) :
    readItems (n + 1) s = (readItems n rest).map fun r => (node :: r.1, r.2) := by
  rw [readItems, h]
  simp [ht]
  cases readItems n rest <;> rfl

theorem readItems_bracket (h : readNode n s = some (node, t))
    (ht : skipSpace t = some ']' :: rest) : readItems (n + 1) s = some ([node], rest) := by
  rw [readItems, h]
  simp [ht]

theorem readMembers_comma (hname : readString s = some (name, some ':' :: s'))
    (h : readNode n s' = some (node, t)) (ht : skipSpace t = some ',' :: rest) :
    readMembers (n + 1) (some '"' :: s) =
      (readMembers n rest).map fun r => ((name, node) :: r.1, r.2) := by
  rw [readMembers, skipSpace_cons (by decide)]
  simp [hname, h, skipSpace_cons (c := ':') (by decide), ht]
  cases readMembers n rest <;> rfl

theorem readMembers_brace (hname : readString s = some (name, some ':' :: s'))
    (h : readNode n s' = some (node, t)) (ht : skipSpace t = some '}' :: rest) :
    readMembers (n + 1) (some '"' :: s) = some ([(name, node)], rest) := by
  rw [readMembers, skipSpace_cons (by decide)]
  simp [hname, h, skipSpace_cons (c := ':') (by decide), ht]

namespace Value

/-! ### Texts with blanks between the signs -/

/-- The blanks of a text: those before an entry and before the end of a list or record, within so
many values, and those after a colon. -/
structure Gaps where
  entry : Nat → List Char
  colon : List Char
  isSpace_entry : ∀ n, ∀ c ∈ entry n, isSpace (some c) = true
  isSpace_colon : ∀ c ∈ colon, isSpace (some c) = true

/-- The blanks of a compact text, which has none. -/
def Gaps.compact : Gaps := ⟨fun _ => [], [], by simp, by simp⟩

/-- The blanks of a text over lines. -/
def Gaps.laidOut : Gaps where
  entry := newLine
  colon := [' ']
  isSpace_entry n c hc := by
    rcases List.mem_cons.mp hc with rfl | hc
    · decide
    · rw [(List.mem_replicate.mp hc).2]
      decide
  isSpace_colon := List.forall_mem_singleton.mpr rfl

mutual
/-- The text of a value with blanks between its signs, within `indent` outer values. -/
def spacedChars (gaps : Gaps) (indent : Nat) : Value → List Char
  | .null => ['n', 'u', 'l', 'l']
  | .bool true => ['t', 'r', 'u', 'e']
  | .bool false => ['f', 'a', 'l', 's', 'e']
  | .text t => quoted t
  | .list [] => ['[', ']']
  | .list (v :: vs) =>
    '[' :: (gaps.entry (indent + 1) ++ spacedChars gaps (indent + 1) v ++
      spacedItems gaps indent vs)
  | .record [] => ['{', '}']
  | .record ((k, v) :: ms) =>
    '{' :: (gaps.entry (indent + 1) ++ (quoted k ++ ':' :: (gaps.colon ++
      spacedChars gaps (indent + 1) v ++ spacedMembers gaps indent ms)))

/-- The further items of a list and its end. -/
def spacedItems (gaps : Gaps) (indent : Nat) : List Value → List Char
  | [] => gaps.entry indent ++ [']']
  | v :: vs =>
    ',' :: (gaps.entry (indent + 1) ++ spacedChars gaps (indent + 1) v ++
      spacedItems gaps indent vs)

/-- The further members of a record and its end. -/
def spacedMembers (gaps : Gaps) (indent : Nat) : List (String × Value) → List Char
  | [] => gaps.entry indent ++ ['}']
  | (k, v) :: ms =>
    ',' :: (gaps.entry (indent + 1) ++ (quoted k ++ ':' :: (gaps.colon ++
      spacedChars gaps (indent + 1) v ++ spacedMembers gaps indent ms)))
end

mutual
theorem compactChars_eq : ∀ (v : Value) (indent : Nat),
    v.compactChars = spacedChars .compact indent v
  | .null, _ => rfl
  | .bool true, _ => rfl
  | .bool false, _ => rfl
  | .text t, _ => rfl
  | .list [], _ => rfl
  | .list (v :: vs), indent => by
    rw [compactChars, spacedChars, compactChars_eq v (indent + 1), compactItems_eq vs indent]
    rfl
  | .record [], _ => rfl
  | .record ((k, v) :: ms), indent => by
    rw [compactChars, spacedChars, compactChars_eq v (indent + 1), compactMembers_eq ms indent]
    simp [Gaps.compact]

theorem compactItems_eq : ∀ (vs : List Value) (indent : Nat),
    compactItems vs = spacedItems .compact indent vs
  | [], _ => rfl
  | v :: vs, indent => by
    rw [compactItems, spacedItems, compactChars_eq v (indent + 1), compactItems_eq vs indent]
    rfl

theorem compactMembers_eq : ∀ (ms : List (String × Value)) (indent : Nat),
    compactMembers ms = spacedMembers .compact indent ms
  | [], _ => rfl
  | (k, v) :: ms, indent => by
    rw [compactMembers, spacedMembers, compactChars_eq v (indent + 1),
      compactMembers_eq ms indent]
    simp [Gaps.compact]
end

mutual
theorem laidOutChars_eq : ∀ (v : Value) (indent : Nat),
    laidOutChars indent v = spacedChars .laidOut indent v
  | .null, _ => rfl
  | .bool true, _ => rfl
  | .bool false, _ => rfl
  | .text t, _ => rfl
  | .list [], _ => rfl
  | .list (v :: vs), indent => by
    rw [laidOutChars, spacedChars, laidOutChars_eq v (indent + 1), laidOutItems_eq vs indent]
    rfl
  | .record [], _ => rfl
  | .record ((k, v) :: ms), indent => by
    rw [laidOutChars, spacedChars, laidOutChars_eq v (indent + 1), laidOutMembers_eq ms indent]
    simp [Gaps.laidOut]

theorem laidOutItems_eq : ∀ (vs : List Value) (indent : Nat),
    laidOutItems indent vs = spacedItems .laidOut indent vs
  | [], _ => rfl
  | v :: vs, indent => by
    rw [laidOutItems, spacedItems, laidOutChars_eq v (indent + 1), laidOutItems_eq vs indent]
    rfl

theorem laidOutMembers_eq : ∀ (ms : List (String × Value)) (indent : Nat),
    laidOutMembers indent ms = spacedMembers .laidOut indent ms
  | [], _ => rfl
  | (k, v) :: ms, indent => by
    rw [laidOutMembers, spacedMembers, laidOutChars_eq v (indent + 1),
      laidOutMembers_eq ms indent]
    simp [Gaps.laidOut]
end

variable (gaps : Gaps)

theorem skipSpace_entry (indent : Nat) (s : List Glyph) :
    skipSpace ((gaps.entry indent).map some ++ s) = skipSpace s :=
  skipSpace_append (gaps.isSpace_entry indent) s

/-- The text of a value begins with a sign that is neither a blank nor the end of a list. -/
theorem spacedChars_head (indent : Nat) (v : Value) :
    ∃ c cs, spacedChars gaps indent v = c :: cs ∧ isSpace (some c) = false ∧ c ≠ ']' := by
  cases v with
  | null => exact ⟨_, _, rfl, by decide⟩
  | bool b => cases b <;> exact ⟨_, _, rfl, by decide⟩
  | text t => exact ⟨_, _, rfl, by decide⟩
  | list vs => cases vs <;> exact ⟨_, _, rfl, by decide⟩
  | record ms => cases ms <;> exact ⟨_, _, rfl, by decide⟩

/-- Blanks before a list of items are passed over. -/
theorem readItems_entry (indent n : Nat) (s : List Glyph) :
    readItems n ((gaps.entry indent).map some ++ s) = readItems n s :=
  readItems_skipSpace (skipSpace_entry gaps indent s) n

theorem readMembers_entry (indent n : Nat) (s : List Glyph) :
    readMembers n ((gaps.entry indent).map some ++ s) = readMembers n s :=
  readMembers_skipSpace (skipSpace_entry gaps indent s) n

theorem readNode_colon (n : Nat) (s : List Glyph) :
    readNode n (gaps.colon.map some ++ s) = readNode n s :=
  readNode_skipSpace (skipSpace_append gaps.isSpace_colon s) n

mutual
/-- A value is read back from its text. -/
theorem readNode_spaced : ∀ (v : Value) (indent n : Nat) (rest : List Glyph),
    (spacedChars gaps indent v).length ≤ n →
      readNode n ((spacedChars gaps indent v).map some ++ rest) = some (v.toNode, rest)
  | v, indent, 0, rest, h => by
    obtain ⟨c, cs, hv, -⟩ := spacedChars_head gaps indent v
    simp [hv] at h
  | .null, _, n + 1, rest, _ => by
    simp [spacedChars, readNode, skipSpace, isSpace, after?, toNode]
  | .bool true, _, n + 1, rest, _ => by
    simp [spacedChars, readNode, skipSpace, isSpace, after?, toNode]
  | .bool false, _, n + 1, rest, _ => by
    simp [spacedChars, readNode, skipSpace, isSpace, after?, toNode]
  | .text t, _, n + 1, rest, _ => by
    rw [spacedChars, quoted, List.map_cons, List.cons_append, readNode_quote, readString_quoted]
    rfl
  | .list [], _, n + 1, rest, _ => by
    simp [spacedChars, readNode, skipSpace, isSpace, toNode, toNodes]
  | .list (v :: vs), indent, n + 1, rest, h => by
    simp only [spacedChars, List.length_append, List.length_cons] at h
    have hread := readItems_spaced v vs indent n rest (by
      rw [List.length_append]
      omega)
    obtain ⟨c, cs, hv, hspace, hend⟩ := spacedChars_head gaps (indent + 1) v
    rw [hv, List.cons_append, List.map_cons, List.cons_append] at hread
    rw [spacedChars, hv, List.append_assoc, List.map_cons, List.map_append, List.cons_append,
      List.append_assoc, List.cons_append, List.map_cons, List.cons_append,
      readNode_bracket n ((skipSpace_entry ..).trans (skipSpace_cons hspace _)) hend,
      readItems_entry, hread]
    rfl
  | .record [], _, n + 1, rest, _ => by
    simp [spacedChars, readNode, skipSpace, isSpace, toNode, toMembers]
  | .record ((k, v) :: ms), indent, n + 1, rest, h => by
    simp only [spacedChars, List.length_append, List.length_cons] at h
    have hread := readMembers_spaced k v ms indent n rest (by
      simp only [List.length_append, List.length_cons]
      omega)
    rw [spacedChars, List.map_cons, List.map_append, List.cons_append, List.append_assoc]
    rw [quoted, List.cons_append, List.map_cons, List.cons_append] at hread ⊢
    rw [readNode_brace n ((skipSpace_entry ..).trans (skipSpace_cons (by decide) _)),
      readMembers_entry, hread]
    rfl

/-- The items of a list are read back from the first of them on. -/
theorem readItems_spaced : ∀ (v : Value) (vs : List Value) (indent n : Nat) (rest : List Glyph),
    (spacedChars gaps (indent + 1) v ++ spacedItems gaps indent vs).length ≤ n →
      readItems n ((spacedChars gaps (indent + 1) v ++ spacedItems gaps indent vs).map some ++
        rest) = some (v.toNode :: toNodes vs, rest)
  | v, vs, indent, 0, rest, h => by
    obtain ⟨c, cs, hv, -⟩ := spacedChars_head gaps (indent + 1) v
    simp [hv] at h
  | v, [], indent, n + 1, rest, h => by
    simp only [spacedItems, List.length_append, List.length_cons] at h
    have hread := readNode_spaced v (indent + 1) n
      ((gaps.entry indent).map some ++ some ']' :: rest) (by omega)
    have hstep := readItems_bracket hread
      ((skipSpace_entry ..).trans (skipSpace_cons (by decide) _))
    simpa [spacedItems, toNodes] using hstep
  | v, w :: vs, indent, n + 1, rest, h => by
    simp only [spacedItems, List.length_append, List.length_cons] at h
    have hrest := readItems_spaced w vs indent n rest (by
      rw [List.length_append]
      omega)
    have hread := readNode_spaced v (indent + 1) n
      (some ',' :: ((gaps.entry (indent + 1)).map some ++
        ((spacedChars gaps (indent + 1) w ++ spacedItems gaps indent vs).map some ++ rest)))
      (by omega)
    have hstep := readItems_comma hread (skipSpace_cons (by decide) _)
    rw [readItems_entry, hrest] at hstep
    simpa [spacedItems, toNodes] using hstep

/-- The members of a record are read back from the first of them on. -/
theorem readMembers_spaced : ∀ (k : String) (v : Value) (ms : List (String × Value))
    (indent n : Nat) (rest : List Glyph),
    (quoted k ++ ':' :: (gaps.colon ++ spacedChars gaps (indent + 1) v ++
      spacedMembers gaps indent ms)).length ≤ n →
      readMembers n ((quoted k ++ ':' :: (gaps.colon ++ spacedChars gaps (indent + 1) v ++
        spacedMembers gaps indent ms)).map some ++ rest) =
          some ((some k, v.toNode) :: toMembers ms, rest)
  | k, v, ms, indent, 0, rest, h => by simp at h
  | k, v, [], indent, n + 1, rest, h => by
    simp only [quoted, spacedMembers, List.length_append, List.length_cons] at h
    have hname := readString_quoted k (some ':' :: (gaps.colon.map some ++
      ((spacedChars gaps (indent + 1) v).map some ++
        ((gaps.entry indent).map some ++ some '}' :: rest))))
    have hread := readNode_spaced v (indent + 1) n
      ((gaps.entry indent).map some ++ some '}' :: rest) (by omega)
    have hstep := readMembers_brace hname ((readNode_colon ..).trans hread)
      ((skipSpace_entry ..).trans (skipSpace_cons (by decide) _))
    simpa [quoted, spacedMembers, toMembers] using hstep
  | k, v, (l, w) :: ms, indent, n + 1, rest, h => by
    simp only [quoted, spacedMembers, List.length_append, List.length_cons] at h
    have hrest := readMembers_spaced l w ms indent n rest (by
      simp only [quoted, List.length_append, List.length_cons]
      omega)
    have hname := readString_quoted k (some ':' :: (gaps.colon.map some ++
      ((spacedChars gaps (indent + 1) v).map some ++ some ',' ::
        ((gaps.entry (indent + 1)).map some ++ ((quoted l ++ ':' :: (gaps.colon ++
          spacedChars gaps (indent + 1) w ++ spacedMembers gaps indent ms)).map some ++ rest)))))
    have hread := readNode_spaced v (indent + 1) n (some ',' ::
      ((gaps.entry (indent + 1)).map some ++ ((quoted l ++ ':' :: (gaps.colon ++
        spacedChars gaps (indent + 1) w ++ spacedMembers gaps indent ms)).map some ++ rest)))
      (by omega)
    have hstep := readMembers_comma hname ((readNode_colon ..).trans hread)
      (skipSpace_cons (by decide) _)
    rw [readMembers_entry, hrest] at hstep
    simpa [quoted, spacedMembers, toMembers] using hstep
end

theorem toNodes_eq (vs : List Value) : toNodes vs = vs.map toNode := by
  induction vs with
  | nil => rfl
  | cons v vs ih => simp [toNodes, ih]

theorem members?_record (ms : List (String × Value)) :
    (record ms).toNode.members? = some (ms.map fun m => (m.1, m.2.toNode)) := by
  rw [toNode, Node.members?]
  induction ms with
  | nil => rfl
  | cons m ms ih => simp [toMembers, Node.namedMembers?, ih]

end Value

/-- What a value writes is the document of that value, also with blanks behind it. -/
theorem ofText?_spaced (gaps : Value.Gaps) (v : Value)
    (h : ∀ c ∈ blanks, isSpace (some c) = true) :
    ofText? (String.ofList (v.spacedChars gaps 0 ++ blanks)) = some v.toNode := by
  have hread := v.readNode_spaced gaps 0 (2 * (v.spacedChars gaps 0 ++ blanks).length + 1)
    (blanks.map some) (by
      rw [List.length_append]
      omega)
  have hend : skipSpace (blanks.map some) = [] := by
    simpa [skipSpace] using skipSpace_append h []
  rw [ofText?, ofGlyphs?, String.toList_ofList, List.length_map, List.map_append, hread]
  simp [hend]

/-- A value's text is the text of the document that the value writes. -/
theorem ofText?_compact (v : Value) : ofText? v.compact = some v.toNode := by
  rw [Value.compact, v.compactChars_eq 0, ← List.append_nil (v.spacedChars .compact 0)]
  exact ofText?_spaced .compact v (by simp)

/-- The text over lines is a document as well, with the end of its last line. -/
theorem ofText?_laidOut (v : Value) : ofText? (v.laidOut ++ "\n") = some v.toNode := by
  have htext : v.laidOut ++ "\n" = String.ofList (v.spacedChars .laidOut 0 ++ ['\n']) := by
    rw [Value.laidOut, v.laidOutChars_eq 0, String.ofList_append]
  rw [htext]
  exact ofText?_spaced .laidOut v (List.forall_mem_singleton.mpr rfl)

end OrderDesk.Json
