/-!
The signs of a TOML document: the characters that may stand in its strings and comments, and what
may stand between its words.
-/
namespace OrderDesk.Toml

/-- Whether a character may stand unescaped in a string or comment. Of the control characters only
the tab may. -/
def isPlain (c : Char) : Bool :=
  c == '\t' || (0x20 ≤ c.toNat && c.toNat != 0x7F)

/-- The blanks within a line. -/
def isSpace (c : Char) : Bool :=
  c == ' ' || c == '\t'

/-- What follows the blanks. -/
def skipSpace (s : List Char) : List Char :=
  s.dropWhile isSpace

/-- What follows the end of a line. -/
def newLine? : List Char → Option (List Char)
  | '\n' :: rest => some rest
  | '\r' :: '\n' :: rest => some rest
  | _ => none

/-- What follows blanks, a comment if there is one, and the end of a line or document. -/
def lineEnd? (s : List Char) : Option (List Char) :=
  let s :=
    match skipSpace s with
    | '#' :: rest => rest.dropWhile isPlain
    | s => s
  if s.isEmpty then some [] else newLine? s

/-- What follows blanks, ends of lines and comments. The flag tells whether the text starts within
a comment. -/
def skipFiller : Bool → List Char → List Char
  | _, '\n' :: rest => skipFiller false rest
  | _, '\r' :: '\n' :: rest => skipFiller false rest
  | true, c :: rest => if isPlain c then skipFiller true rest else c :: rest
  | false, '#' :: rest => skipFiller true rest
  | false, c :: rest => if isSpace c then skipFiller false rest else c :: rest
  | _, [] => []

end OrderDesk.Toml
