import OrderDesk.Text.Blank
import OrderDesk.Toml.Tree

/-!
Reading a TOML document from its text. A document is read as a whole or not at all.
-/
namespace OrderDesk.Toml
open Text

/-- The digits of a run in which single underscores may stand between digits, and what follows. -/
def readRun (isDigit : Char → Bool) : List Char → List Char × List Char
  | '_' :: c :: rest =>
    if isDigit c then
      let (ds, rest) := readRun isDigit rest
      (c :: ds, rest)
    else ([], '_' :: c :: rest)
  | c :: rest =>
    if isDigit c then
      let (ds, rest) := readRun isDigit rest
      (c :: ds, rest)
    else ([], c :: rest)
  | [] => ([], [])

/-- The digits of a run that starts with a digit. -/
def readDigits? (isDigit : Char → Bool) : List Char → Option (List Char × List Char)
  | c :: rest =>
    if isDigit c then
      let (ds, rest) := readRun isDigit rest
      some (c :: ds, rest)
    else none
  | [] => none

/-- Whether a sign makes negative, and what follows it. -/
def readSign : List Char → Bool × List Char
  | '+' :: rest => (false, rest)
  | '-' :: rest => (true, rest)
  | s => (false, s)

/-- The digits of a decimal number: a zero alone, or digits that do not begin with one. -/
def readWhole? : List Char → Option (List Char × List Char)
  | '0' :: rest => some (['0'], rest)
  | s => readDigits? Char.isDigit s

/-- The number that digits write. -/
def valueOf (base : Nat) (digits : List Char) : Nat :=
  digits.foldl (fun n d => base * n + (hexDigit? d).getD 0) 0

/-- The greatest integer. -/
def maxInteger : Nat := Nat.pow 2 63 - 1

/-- An integer of a base other than ten. -/
def readBased? (base : Nat) (isDigit : Char → Bool) (s : List Char) :
    Option (Value × List Char) := do
  let (ds, rest) ← readDigits? isDigit s
  let n := valueOf base ds
  if n ≤ maxInteger then some (.integer n, rest) else none

/-- An integer. -/
def readInteger? : List Char → Option (Value × List Char)
  | '0' :: 'x' :: rest => readBased? 16 (fun c => (hexDigit? c).isSome) rest
  | '0' :: 'o' :: rest => readBased? 8 (fun c => '0' ≤ c && c ≤ '7') rest
  | '0' :: 'b' :: rest => readBased? 2 (fun c => c == '0' || c == '1') rest
  | s => do
    let (negative, s) := readSign s
    let (ds, rest) ← readWhole? s
    let n := valueOf 10 ds
    if negative then
      if n ≤ maxInteger + 1 then some (.integer (-(n : Int)), rest) else none
    else if n ≤ maxInteger then some (.integer n, rest)
    else none

/-- The digits after the point, if there is one. -/
def readFraction? : List Char → Option (List Char × List Char)
  | '.' :: rest => readDigits? Char.isDigit rest
  | s => some ([], s)

/-- The power of ten, if one is written. -/
def readPower? : List Char → Option (Option Int × List Char)
  | c :: rest =>
    if c = 'e' ∨ c = 'E' then do
      let (negative, s) := readSign rest
      let (ds, rest) ← readDigits? Char.isDigit s
      let n : Int := valueOf 10 ds
      some (some (if negative then -n else n), rest)
    else some (none, c :: rest)
  | [] => some (none, [])

/-- A number that is no integer. One that is too great is refused, but one that is too small is
taken for negative infinity. -/
def readReal? (s : List Char) : Option (Value × List Char) := do
  let (negative, s) := readSign s
  match s with
  | 'i' :: 'n' :: 'f' :: rest => some (.real (.infinite negative), rest)
  | 'n' :: 'a' :: 'n' :: rest => some (.real .nan, rest)
  | s =>
    let (whole, s) ← readWhole? s
    let (fraction, s) ← readFraction? s
    let (power, rest) ← readPower? s
    if fraction.isEmpty && power.isNone then none
    else
      let x := Double.ofDecimal negative (valueOf 10 (whole ++ fraction))
        (power.getD 0 - fraction.length)
      if x = .infinite false then none else some (.real x, rest)

/-- The deepest nesting of lists and tables, and the greatest number of a dotted key's parts. -/
def maxDepth : Nat := 79

/-- A part of a key. -/
def readKeyPart? : List Char → Option (String × List Char)
  | '"' :: rest => (readEscaped rest).map fun (t, rest) => (String.ofList t, rest)
  | '\'' :: rest => (readLiteral rest).map fun (t, rest) => (String.ofList t, rest)
  | s =>
    match s.takeWhile isKeySign with
    | [] => none
    | t => some (String.ofList t, s.dropWhile isKeySign)

/-- The parts of a dotted key: those before the last one, and the last one. The first argument
bounds their number. -/
def readKey? : Nat → List Char → Option ((List String × String) × List Char)
  | 0, _ => none
  | n + 1, s => do
    let (part, s) ← readKeyPart? (skipSpace s)
    match skipSpace s with
    | '.' :: rest =>
      let ((path, key), rest) ← readKey? n rest
      some ((part :: path, key), rest)
    | s => some (([], part), s)

/-- A key, the sign after it, and its value. -/
def readPair? (value : List Char → Option (Value × List Char)) (s : List Char) :
    Option ((List String × String × Value) × List Char) := do
  let ((path, key), s) ← readKey? maxDepth s
  match s with
  | '=' :: rest =>
    let (v, rest) ← value (skipSpace rest)
    some ((path, key, v), rest)
  | _ => none

/-- The items of a list up to its end. The first argument bounds their number. -/
def readItems? (value : List Char → Option (Value × List Char)) :
    Nat → List Char → Option (List Value × List Char)
  | 0, _ => none
  | n + 1, s =>
    match skipFiller false s with
    | ']' :: rest => some ([], rest)
    | s => do
      let (v, s) ← value s
      match skipFiller false s with
      | ',' :: rest =>
        let (vs, rest) ← readItems? value n rest
        some (v :: vs, rest)
      | ']' :: rest => some ([v], rest)
      | _ => none

/-- The members of a table within one line up to its end, added to those that were read before.
The first argument bounds their number. -/
def readMembers? (value : List Char → Option (Value × List Char)) :
    Nat → Members → List Char → Option (Members × List Char)
  | 0, _, _ => none
  | n + 1, ms, s => do
    let ((path, key, v), s) ← readPair? value s
    let ms ← ms.assign? path key v
    match skipSpace s with
    | ',' :: rest => readMembers? value n ms rest
    | '}' :: rest => some (ms, rest)
    | _ => none

/-- A value, and what follows it. The first argument bounds how deep lists and tables nest. -/
def readValue? : Nat → List Char → Option (Value × List Char)
  | n, s =>
    match s with
    | '"' :: _ => (readQuoted? s).map fun (t, rest) => (.text (String.ofList t), rest)
    | '\'' :: _ => (readQuoted? s).map fun (t, rest) => (.text (String.ofList t), rest)
    | 't' :: 'r' :: 'u' :: 'e' :: rest => some (.bool true, rest)
    | 'f' :: 'a' :: 'l' :: 's' :: 'e' :: rest => some (.bool false, rest)
    | '[' :: rest =>
      match n with
      | 0 => none
      | n + 1 =>
        (readItems? (readValue? n) (rest.length + 1) rest).map fun (vs, rest) => (.list vs, rest)
    | '{' :: rest =>
      match n with
      | 0 => none
      | n + 1 =>
        match skipSpace rest with
        | '}' :: rest => some (.table [], rest)
        | _ =>
          (readMembers? (readValue? n) (rest.length + 1) [] rest).map fun (ms, rest) =>
            (.table (Branch.toValues ms), rest)
    | s =>
      ((Moment.read? s).map fun (m, rest) => (.moment m, rest)) <|>
        readReal? s <|> readInteger? s

/-- The members of a document, line by line, added to those that were read before. Keys belong to
the table of the last header. The first argument bounds the number of lines. -/
def readLines? : Nat → List String → Members → List Char → Option Members
  | 0, _, _, _ => none
  | n + 1, header, ms, s =>
    match skipSpace s with
    | [] => some ms
    | '[' :: '[' :: rest => do
      let ((path, key), s) ← readKey? maxDepth rest
      let s ← after? [']', ']'] s
      readLines? n (path ++ [key]) (← ms.openRow? path key) (← lineEnd? s)
    | '[' :: rest => do
      let ((path, key), s) ← readKey? maxDepth rest
      let s ← after? [']'] s
      readLines? n (path ++ [key]) (← ms.openTable? path key) (← lineEnd? s)
    | s =>
      match lineEnd? s with
      | some rest => readLines? n header ms rest
      | none => do
        let ((path, key, v), s) ← readPair? (readValue? maxDepth) s
        readLines? n header (← ms.assignAt? header path key v) (← lineEnd? s)

/-- The mark that may stand at the start of a document. -/
def byteOrderMark : Char := Char.ofNat 0xFEFF

/-- The settled members of the document that a text writes, in the order of their keys. -/
def ofText? (s : String) : Option (List (String × Value)) :=
  let s :=
    match s.toList with
    | c :: rest => if c = byteOrderMark then rest else c :: rest
    | [] => []
  ((readLines? (s.length + 1) [] [] s).bind fun ms => Value.settleMembers? (Branch.toValues ms)).map
    Value.sorted

end OrderDesk.Toml
