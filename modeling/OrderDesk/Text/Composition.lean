import OrderDesk.Text.Composition.Table

/-!
The composed form of a text. The same letter can be one character or a letter with marks after it,
and marks of different classes can stand in any order. In the composed form each letter is as few
characters as possible and its marks stand in the order of their classes.
-/
namespace OrderDesk.Text
namespace Composition

/-- The class of a mark, by which it is put in order. Every other character has class zero. -/
def classOf (c : Char) : Nat :=
  classes.value c

/-! Syllables of Hangul are composed by a rule: a first letter, a vowel, and perhaps a last
letter. -/

/-- The number of the first syllable. -/
def syllableStart : Nat := 0xAC00

/-- The number of the first of the first letters. -/
def leadStart : Nat := 0x1100

/-- The number of the first vowel. -/
def vowelStart : Nat := 0x1161

/-- The number before that of the first of the last letters. -/
def tailStart : Nat := 0x11A7

/-- The place of a character in a row of `size` characters. -/
def placeIn? (start size : Nat) (c : Char) : Option Nat :=
  if start ≤ c.toNat ∧ c.toNat < start + size then some (c.toNat - start) else none

/-- The letters of a syllable. -/
def syllableParts (n : Nat) : List Char :=
  [Char.ofNat (leadStart + n / 588), Char.ofNat (vowelStart + n % 588 / 28)] ++
    if n % 28 = 0 then [] else [Char.ofNat (tailStart + n % 28)]

/-- The syllable of two letters, or of a syllable without a last letter and such a letter. -/
def syllable? (a b : Char) : Option Char :=
  match placeIn? leadStart 19 a, placeIn? vowelStart 21 b with
  | some l, some v => some (Char.ofNat (syllableStart + 588 * l + 28 * v))
  | _, _ =>
    match placeIn? syllableStart 11172 a, placeIn? (tailStart + 1) 27 b with
    | some n, some t => if n % 28 = 0 then some (Char.ofNat (a.toNat + t + 1)) else none
    | _, _ => none

/-- The characters that a character is composed of, which is itself when no others compose it. -/
def parts (c : Char) : List Char :=
  match placeIn? syllableStart 11172 c with
  | some n => syllableParts n
  | none => (wholes.find? c).elim [c] (·.spelled)

/-- The character that two others compose. -/
def whole? (a b : Char) : Option Char :=
  match syllable? a b with
  | some c => some c
  | none =>
    let ps := (parts a ++ [b]).map Char.toNat
    (Array.find? (·.values == ps) wholes).map fun r => Char.ofNat r.first

/-- Puts a character after a text, which is given last character first. A mark goes before the
marks of higher classes that end the text. -/
def settle (c : Char) : List Char → List Char
  | [] => [c]
  | d :: rest =>
    if classOf c ≠ 0 ∧ classOf c < classOf d then d :: settle c rest else c :: d :: rest

/-- The text with every character taken apart, and the marks in order. -/
def apart (s : List Char) : List Char :=
  ((s.flatMap parts).foldl (fun done c => settle c done) []).reverse

/-- The composed text of a letter, the marks after it that it has not taken up, last mark first,
and what follows. The letter takes up a character unless a mark of no lower class stands
between. -/
def composeFrom (letter : Char) (marks : List Char) : List Char → List Char
  | [] => letter :: marks.reverse
  | c :: rest =>
    let near := marks.head?.all fun m => classOf m < classOf c
    match if near then whole? letter c else none with
    | some d => composeFrom d marks rest
    | none =>
      if classOf c = 0 then letter :: (marks.reverse ++ composeFrom c [] rest)
      else composeFrom letter (c :: marks) rest

/-- The composed text of characters that are taken apart. -/
def compose : List Char → List Char
  | [] => []
  | c :: rest => if classOf c = 0 then composeFrom c [] rest else c :: compose rest

end Composition

/-- The composed form of a text. -/
def composed (s : List Char) : List Char :=
  Composition.compose (Composition.apart s)

end OrderDesk.Text
