import OrderDesk.Text.Percent
import OrderDesk.Toml.Sign

/-!
Strings of a TOML document. A string stands within one line or over several, and is either
escaped, between double quotation marks, or literal, between single ones.
-/
namespace OrderDesk.Toml
open Text

/-- The character that a letter after a backslash stands for. -/
def escaped? : Char → Option Char
  | 'b' => some (Char.ofNat 0x08)
  | 't' => some '\t'
  | 'n' => some '\n'
  | 'f' => some (Char.ofNat 0x0C)
  | 'r' => some '\r'
  | '"' => some '"'
  | '\\' => some '\\'
  | _ => none

/-- The character whose number the hexadecimal digits write. -/
def numbered? (digits : List Char) : Option Char := do
  let n ← digits.foldlM (fun n d => (hexDigit? d).map (16 * n + ·)) 0
  if n.isValidChar then some (Char.ofNat n) else none

/-- An escaped string after its opening mark, and what follows its closing one. -/
def readEscaped : List Char → Option (List Char × List Char)
  | [] => none
  | '"' :: rest => some ([], rest)
  | '\\' :: 'u' :: a :: b :: c :: d :: rest => do
    let x ← numbered? [a, b, c, d]
    (readEscaped rest).map fun (t, rest) => (x :: t, rest)
  | '\\' :: 'U' :: a :: b :: c :: d :: e :: f :: g :: h :: rest => do
    let x ← numbered? [a, b, c, d, e, f, g, h]
    (readEscaped rest).map fun (t, rest) => (x :: t, rest)
  | '\\' :: c :: rest => do
    let x ← escaped? c
    (readEscaped rest).map fun (t, rest) => (x :: t, rest)
  | c :: rest =>
    if isPlain c && c != '\\' then (readEscaped rest).map fun (t, rest) => (c :: t, rest)
    else none

/-- A literal string after its opening mark, and what follows its closing one. -/
def readLiteral : List Char → Option (List Char × List Char)
  | [] => none
  | '\'' :: rest => some ([], rest)
  | c :: rest =>
    if isPlain c then (readLiteral rest).map fun (t, rest) => (c :: t, rest) else none

/-- Whether a line ends after blanks. -/
def endsLine (s : List Char) : Bool :=
  (newLine? (skipSpace s)).isSome

/-- An escaped string over lines, after its opening marks. Up to two marks that stand before the
closing three belong to the string. The flag tells that a backslash has ended the line, after
which blanks and ends of lines are passed over. -/
def readEscapedLines : Bool → List Char → Option (List Char × List Char)
  | _, '"' :: '"' :: '"' :: '"' :: '"' :: rest => some (['"', '"'], rest)
  | _, '"' :: '"' :: '"' :: '"' :: rest => some (['"'], rest)
  | _, '"' :: '"' :: '"' :: rest => some ([], rest)
  | passing, '\n' :: rest =>
    if passing then readEscapedLines true rest
    else (readEscapedLines false rest).map fun (t, rest) => ('\n' :: t, rest)
  | passing, '\r' :: '\n' :: rest =>
    if passing then readEscapedLines true rest
    else (readEscapedLines false rest).map fun (t, rest) => ('\n' :: t, rest)
  | _, '\\' :: 'u' :: a :: b :: c :: d :: rest => do
    let x ← numbered? [a, b, c, d]
    (readEscapedLines false rest).map fun (t, rest) => (x :: t, rest)
  | _, '\\' :: 'U' :: a :: b :: c :: d :: e :: f :: g :: h :: rest => do
    let x ← numbered? [a, b, c, d, e, f, g, h]
    (readEscapedLines false rest).map fun (t, rest) => (x :: t, rest)
  | _, '\\' :: c :: rest =>
    if endsLine (c :: rest) then readEscapedLines true (c :: rest)
    else do
      let x ← escaped? c
      (readEscapedLines false rest).map fun (t, rest) => (x :: t, rest)
  | passing, c :: rest =>
    if passing && isSpace c then readEscapedLines true rest
    else if isPlain c && c != '\\' then
      (readEscapedLines false rest).map fun (t, rest) => (c :: t, rest)
    else none
  | _, [] => none

/-- A literal string over lines, after its opening marks. Up to two marks that stand before the
closing three belong to the string. -/
def readLiteralLines : List Char → Option (List Char × List Char)
  | '\'' :: '\'' :: '\'' :: '\'' :: '\'' :: rest => some (['\'', '\''], rest)
  | '\'' :: '\'' :: '\'' :: '\'' :: rest => some (['\''], rest)
  | '\'' :: '\'' :: '\'' :: rest => some ([], rest)
  | '\n' :: rest => (readLiteralLines rest).map fun (t, rest) => ('\n' :: t, rest)
  | '\r' :: '\n' :: rest => (readLiteralLines rest).map fun (t, rest) => ('\n' :: t, rest)
  | c :: rest =>
    if isPlain c then (readLiteralLines rest).map fun (t, rest) => (c :: t, rest) else none
  | [] => none

/-- The text after the end of a line, if it starts with one. -/
def dropNewLine (s : List Char) : List Char :=
  (newLine? s).getD s

/-- A string of any kind, and what follows it. -/
def readQuoted? : List Char → Option (List Char × List Char)
  | '"' :: '"' :: '"' :: rest => readEscapedLines false (dropNewLine rest)
  | '\'' :: '\'' :: '\'' :: rest => readLiteralLines (dropNewLine rest)
  | '"' :: rest => readEscaped rest
  | '\'' :: rest => readLiteral rest
  | _ => none

/-- The longest row of one character. -/
def longestRow (c : Char) (s : List Char) : Nat :=
  (s.foldl (fun (row, most) d =>
    let row := if d = c then row + 1 else 0
    (row, max row most)) (0, 0)).2

/-- Whether a character can only be written by its escape. -/
def isControl (c : Char) : Bool :=
  !isPlain c && c != '\n'

/-- The escape of a character. -/
def escape (c : Char) : List Char :=
  if c = '\\' then ['\\', '\\']
  else if c = '"' then ['\\', '"']
  else if c = Char.ofNat 0x08 then ['\\', 'b']
  else if c = '\t' then ['\\', 't']
  else if c = '\n' then ['\\', 'n']
  else if c = Char.ofNat 0x0C then ['\\', 'f']
  else if c = '\r' then ['\\', 'r']
  else if isControl c then
    ['\\', 'u', '0', '0', (hexDigit (c.toNat / 16)).toUpper, (hexDigit (c.toNat % 16)).toUpper]
  else [c]

/-- The inside of an escaped string over lines, when `row` marks have just been written. Ends of
lines are kept, and of three marks in a row the third is escaped. -/
def escapeLines : Nat → List Char → List Char
  | _, [] => []
  | row, '"' :: rest =>
    if 2 ≤ row then '\\' :: '"' :: escapeLines 0 rest else '"' :: escapeLines (row + 1) rest
  | _, '\n' :: rest => '\n' :: escapeLines 0 rest
  | _, c :: rest => escape c ++ escapeLines 0 rest

/-- A text between marks. -/
def between (mark inside : List Char) : List Char :=
  mark ++ inside ++ mark

/-- The text as an escaped string within one line. -/
def escapedString (s : List Char) : List Char :=
  between ['"'] (s.flatMap escape)

/-- The three marks, and the end of the line when the text has several lines. -/
def opening (mark : Char) (s : List Char) : List Char :=
  List.replicate 3 mark ++ if '\n' ∈ s then ['\n'] else []

/-- The text as an escaped string over lines. -/
def escapedLines (s : List Char) : List Char :=
  opening '"' s ++ escapeLines 0 s ++ List.replicate 3 '"'

/-- The text as a literal string over lines. -/
def literalLines (s : List Char) : List Char :=
  opening '\'' s ++ s ++ List.replicate 3 '\''

/-- How a text is written: without escapes when it can be, and within one line when it has but
one. -/
def quoted (s : List Char) : List Char :=
  let backslash := s.contains '\\'
  let control := s.any isControl
  let lines := s.contains '\n'
  if !control && !backslash && !lines && !s.contains '"' then escapedString s
  else if !control && !lines && !s.contains '\'' then between ['\''] s
  else if !control && !backslash && longestRow '"' s ≤ 2 then escapedLines s
  else if !control && longestRow '\'' s ≤ 2 then literalLines s
  else if lines then escapedLines s
  else escapedString s

/-- Whether a character may stand in a bare key. -/
def isKeySign (c : Char) : Bool :=
  c.isAlphanum || c == '_' || c == '-'

/-- How a key is written. -/
def quotedKey (s : List Char) : List Char :=
  let control := s.any fun c => isControl c || c == '\n'
  if !s.isEmpty && s.all isKeySign then s
  else if !control && !s.contains '\\' && !s.contains '"' then escapedString s
  else if !control && !s.contains '\'' then between ['\''] s
  else escapedString s

end OrderDesk.Toml
