import OrderDesk.Text.Blank

/-!
Labels of a domain name in ASCII. A label with other characters is written as its ASCII characters
followed by digits that tell, in a code of variable length, where to insert which of the others.
`insertions` writes the digits of a label, and `decode?` reads a label from its digits.
-/
namespace OrderDesk.Url.Punycode
open Text

/-- The digit of a value below 36. -/
def digit (d : Nat) : Char :=
  if d < 26 then Char.ofNat ('a'.toNat + d) else Char.ofNat ('0'.toNat + (d - 26))

/-- The number of values that end a code at a digit's place. -/
def threshold (place bias : Nat) : Nat :=
  min 26 (max 1 (place - bias))

theorem threshold_pos (place bias : Nat) : 1 ≤ threshold place bias := by
  unfold threshold
  omega

/-- The digits of a number. -/
def digits (bias place n : Nat) : List Char :=
  let t := threshold place bias
  if n < t then [digit n]
  else digit (t + (n - t) % (36 - t)) :: digits bias (place + 36) ((n - t) / (36 - t))
termination_by n
decreasing_by
  have h1 := threshold_pos place bias
  have h2 : (n - threshold place bias) / (36 - threshold place bias) ≤ n - threshold place bias :=
    Nat.div_le_self ..
  omega

/-- Divides a step by 35 until it is small, and counts the divisions. -/
def shrink (step : Nat) : Nat × Nat :=
  if 455 < step then
    let (s, n) := shrink (step / 35)
    (s, n + 1)
  else (step, 0)
termination_by step

/-- The bias after a step that inserted a character, which is then the `size`th. -/
def adapt (step size : Nat) (isFirst : Bool) : Nat :=
  let step := if isFirst then step / 700 else step / 2
  let (s, n) := shrink (step + step / size)
  36 * n + 36 * s / (s + 38)

/-- The state of writing: the digits so far, the positions passed since the last insertion, the
bias, and the number of characters that are there. -/
structure Progress where
  out : List Char
  passed : Nat
  bias : Nat
  size : Nat

/-- Passes one character of the label while those with number `n` are inserted. -/
def pass (basic n : Nat) (p : Progress) (c : Char) : Progress :=
  if c.toNat < n then { p with passed := p.passed + 1 }
  else if c.toNat = n then
    { out := p.out ++ digits p.bias 36 p.passed
      passed := 0
      bias := adapt p.passed (p.size + 1) (p.size == basic)
      size := p.size + 1 }
  else p

/-- The numbers of the other characters in ascending order, each once. -/
def others (label : List Char) : List Nat :=
  let ns := ((label.map Char.toNat).filter (0x80 ≤ ·)).mergeSort
  ns.eraseDups

/-- The digits that insert the other characters of a label. -/
def insertions (label : List Char) : List Char :=
  let basic := (label.filter fun c => c.toNat < 0x80).length
  let start : Progress × Nat := (⟨[], 0, 72, basic⟩, 0x80)
  let (p, _) := (others label).foldl (fun (p, last) n =>
    let p := { p with passed := p.passed + (n - last) * (p.size + 1) }
    let p := label.foldl (pass basic n) p
    ({ p with passed := p.passed + 1 }, n + 1)) start
  p.out

/-- The code of a label: its ASCII characters, and the digits that insert the others. -/
def encode (s : List Char) : List Char :=
  let basic := s.filter fun c => c.toNat < 0x80
  (if basic.isEmpty then [] else basic ++ ['-']) ++ insertions s

/-- The value of a digit. -/
def digitValue? (c : Char) : Option Nat :=
  if 'a' ≤ c ∧ c ≤ 'z' then some (c.toNat - 'a'.toNat)
  else if '0' ≤ c ∧ c ≤ '9' then some (c.toNat - '0'.toNat + 26)
  else none

/-- The state of reading: the text so far, the number of the character that was inserted last, the
bias, and the positions to be passed until the next insertion, of which `start` were there when its
digits began. The next digit counts `weight` times. -/
structure Reading where
  text : List Char
  code : Nat := 0x80
  bias : Nat := 72
  start : Nat := 0
  passed : Nat := 0
  weight : Nat := 1
  place : Nat := 36

/-- The greatest number of positions and the greatest weight. -/
def limit : Nat := 0xFFFFFFFF

/-- Inserts the character that all positions passed lead to. -/
def Reading.insert? (r : Reading) : Option Reading :=
  let size := r.text.length + 1
  let code := r.code + r.passed / size
  let position := r.passed % size
  if code.isValidChar then
    some {
      text := r.text.take position ++ Char.ofNat code :: r.text.drop position
      code := code
      bias := adapt (r.passed - r.start) size (r.start == 0)
      start := position + 1
      passed := position + 1 }
  else none

/-- Reads one digit. A digit below the threshold is the last one of an insertion. -/
def Reading.digit? (r : Reading) (c : Char) : Option Reading := do
  let d ← digitValue? c
  let t := threshold r.place r.bias
  let r := { r with passed := r.passed + d * r.weight }
  if limit < r.passed then none
  else if d < t then r.insert?
  else
    let weight := r.weight * (36 - t)
    if limit < weight then none else some { r with weight := weight, place := r.place + 36 }

/-- The ASCII characters of a code and its digits. -/
def splitCode (s : List Char) : List Char × List Char :=
  match splitFirst? '-' s.reverse with
  | some (digits, basic) =>
    if basic.isEmpty then ([], s) else (basic.reverse, digits.reverse)
  | none => ([], s)

/-- The label that a code writes, if it is one. -/
def decode? (s : List Char) : Option (List Char) := do
  let (basic, digits) := splitCode s
  let r ← digits.foldlM Reading.digit? { text := basic }
  if r.place = 36 then some r.text else none

end OrderDesk.Url.Punycode
