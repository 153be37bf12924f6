import OrderDesk.Json.Node
import OrderDesk.Text.Percent

/-!
Reading a JSON document from its glyphs. Reading is strict: nothing stands before or after the
document but blanks, and a byte that spells no character may stand only inside a string.
-/
namespace OrderDesk.Json
open Text

/-- The blanks that may stand between the signs of a document. -/
def isSpace (g : Glyph) : Bool :=
  g == some ' ' || g == some '\n' || g == some '\t' || g == some '\r'

/-- What follows the blanks. -/
def skipSpace (s : List Glyph) : List Glyph :=
  s.dropWhile isSpace

/-- What follows a word. -/
def after? : List Char → List Glyph → Option (List Glyph)
  | [], s => some s
  | c :: cs, some d :: s => if c = d then after? cs s else none
  | _ :: _, _ => none

/-- A piece of a string: a glyph, or half or all of a character given by its number. -/
inductive Piece where
  | glyph (g : Glyph)
  | unit (n : Nat)
  deriving DecidableEq, Repr

/-- The text that the pieces of a string spell. Two halves that follow each other make one
character, and a half that stands alone spells nothing. -/
def spell? : List Piece → Option (List Char)
  | [] => some []
  | .glyph none :: _ => none
  | .glyph (some c) :: rest => (spell? rest).map (c :: ·)
  | .unit high :: rest =>
    if 0xDC00 ≤ high ∧ high ≤ 0xDFFF then none
    else if 0xD800 ≤ high ∧ high ≤ 0xDBFF then
      match rest with
      | .unit low :: rest =>
        if 0xDC00 ≤ low ∧ low ≤ 0xDFFF then
          (spell? rest).map (Char.ofNat (0x10000 + (high - 0xD800) * 0x400 + (low - 0xDC00)) :: ·)
        else none
      | _ => none
    else (spell? rest).map (Char.ofNat high :: ·)

/-- The character that a letter after a backslash stands for. -/
def escaped? : Char → Option Char
  | '"' => some '"'
  | '\\' => some '\\'
  | '/' => some '/'
  | 'b' => some (Char.ofNat 0x08)
  | 'f' => some (Char.ofNat 0x0C)
  | 'n' => some '\n'
  | 'r' => some '\r'
  | 't' => some '\t'
  | _ => none

/-- The number that four hexadecimal digits write. -/
def unit? (a b c d : Glyph) : Option Nat := do
  let a ← hexDigit? (← a)
  let b ← hexDigit? (← b)
  let c ← hexDigit? (← c)
  let d ← hexDigit? (← d)
  some (((a * 16 + b) * 16 + c) * 16 + d)

/-- The pieces up to the closing quotation mark, and what follows it. -/
def readPieces : List Glyph → Option (List Piece × List Glyph)
  | [] => none
  | some '"' :: rest => some ([], rest)
  | some '\\' :: some 'u' :: a :: b :: c :: d :: rest => do
    let n ← unit? a b c d
    let (ps, rest) ← readPieces rest
    some (.unit n :: ps, rest)
  | some '\\' :: g :: rest => do
    let c ← escaped? (← g)
    let (ps, rest) ← readPieces rest
    some (.glyph (some c) :: ps, rest)
  | g :: rest =>
    if g == some '\\' || g.any fun c => c.toNat < 0x20 then none
    else do
      let (ps, rest) ← readPieces rest
      some (.glyph g :: ps, rest)

/-- A string after its opening quotation mark. -/
def readString (s : List Glyph) : Option (Option String × List Glyph) :=
  (readPieces s).map fun (ps, rest) => ((spell? ps).map String.ofList, rest)

/-- The digits at the start, and what follows them. -/
def readDigits : List Glyph → List Nat × List Glyph
  | some c :: rest =>
    if c.isDigit then
      let (ds, rest) := readDigits rest
      ((c.toNat - '0'.toNat) :: ds, rest)
    else ([], some c :: rest)
  | s => ([], s)

/-- The value of a row of digits. -/
def digitsValue (ds : List Nat) : Nat :=
  ds.foldl (fun n d => 10 * n + d) 0

/-- The digits before the point: a zero alone, or digits that do not begin with one. -/
def readWhole : List Glyph → Option (List Nat × List Glyph)
  | some '0' :: rest => some ([0], rest)
  | s =>
    match readDigits s with
    | ([], _) => none
    | r => some r

/-- The digits after the point, if there is one. -/
def readFraction : List Glyph → Option (List Nat × List Glyph)
  | some '.' :: rest =>
    match readDigits rest with
    | ([], _) => none
    | r => some r
  | s => some ([], s)

/-- The digits of a power of ten after its sign. -/
def readPower (sign : Int) (s : List Glyph) : Option (Option Int × List Glyph) :=
  match readDigits s with
  | ([], _) => none
  | (ds, rest) => some (some (sign * digitsValue ds), rest)

/-- The power of ten, if one is written. -/
def readExponent : List Glyph → Option (Option Int × List Glyph)
  | some c :: rest =>
    if c = 'e' ∨ c = 'E' then
      match rest with
      | some '+' :: rest => readPower 1 rest
      | some '-' :: rest => readPower (-1) rest
      | rest => readPower 1 rest
    else some (none, some c :: rest)
  | s => some (none, s)

/-- A numeral after its sign. -/
def readNumeral (s : List Glyph) : Option (Node × List Glyph) := do
  let (whole, s) ← readWhole s
  let (fraction, s) ← readFraction s
  let (exponent, s) ← readExponent s
  some (.number ⟨whole, fraction, exponent⟩, s)

mutual
/-- A node, and what follows it. The first argument bounds how often the readers call each
other. -/
def readNode : Nat → List Glyph → Option (Node × List Glyph)
  | 0, _ => none
  | n + 1, s =>
    match skipSpace s with
    | some 'n' :: rest => (after? ['u', 'l', 'l'] rest).map (.null, ·)
    | some 't' :: rest => (after? ['r', 'u', 'e'] rest).map (.bool true, ·)
    | some 'f' :: rest => (after? ['a', 'l', 's', 'e'] rest).map (.bool false, ·)
    | some '"' :: rest => (readString rest).map fun (t, rest) => (.string t, rest)
    | some '[' :: rest =>
      match skipSpace rest with
      | some ']' :: rest => some (.array [], rest)
      | _ => (readItems n rest).map fun (items, rest) => (.array items, rest)
    | some '{' :: rest =>
      match skipSpace rest with
      | some '}' :: rest => some (.object [], rest)
      | _ => (readMembers n rest).map fun (members, rest) => (.object members, rest)
    | some '-' :: rest => readNumeral rest
    | s => readNumeral s

/-- The items of an array up to its end. -/
def readItems : Nat → List Glyph → Option (List Node × List Glyph)
  | 0, _ => none
  | n + 1, s => do
    let (item, s) ← readNode n s
    match skipSpace s with
    | some ',' :: rest =>
      let (items, rest) ← readItems n rest
      some (item :: items, rest)
    | some ']' :: rest => some ([item], rest)
    | _ => none

/-- The members of an object up to its end. -/
def readMembers : Nat → List Glyph → Option (List (Option String × Node) × List Glyph)
  | 0, _ => none
  | n + 1, s =>
    match skipSpace s with
    | some '"' :: s => do
      let (name, s) ← readString s
      match skipSpace s with
      | some ':' :: s =>
        let (value, s) ← readNode n s
        match skipSpace s with
        | some ',' :: rest =>
          let (members, rest) ← readMembers n rest
          some ((name, value) :: members, rest)
        | some '}' :: rest => some ([(name, value)], rest)
        | _ => none
      | _ => none
    | _ => none
end

/-- The document that the glyphs write. -/
def ofGlyphs? (s : List Glyph) : Option Node := do
  let (node, rest) ← readNode (2 * s.length + 1) s
  if (skipSpace rest).isEmpty then some node else none

/-- The document that a text writes. -/
def ofText? (s : String) : Option Node :=
  ofGlyphs? (s.toList.map some)

/-- The document that bytes write. -/
def ofBytes? (bs : List UInt8) : Option Node :=
  ofGlyphs? (glyphs bs)

end OrderDesk.Json
