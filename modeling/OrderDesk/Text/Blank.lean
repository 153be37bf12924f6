/-!
Blank characters and trimming. A text is trimmed of every character that Unicode calls white
space, at both ends, and is blank when nothing is left.
-/
namespace OrderDesk.Text

/-- The Unicode property White_Space. -/
def isBlank (c : Char) : Bool :=
  let n := c.toNat
  (0x09 ≤ n && n ≤ 0x0D) || n == 0x20 || n == 0x85 || n == 0xA0 || n == 0x1680 ||
    (0x2000 ≤ n && n ≤ 0x200A) || n == 0x2028 || n == 0x2029 || n == 0x202F ||
    n == 0x205F || n == 0x3000

/-- Drops the items at both ends for which `p` holds. -/
def strip {α : Type} (p : α → Bool) (xs : List α) : List α :=
  ((xs.dropWhile p).reverse.dropWhile p).reverse

/-- The text without the blanks at its ends. -/
def trim (s : String) : String :=
  String.ofList (strip isBlank s.toList)

/-- The trimmed text, unless nothing is left of it. -/
def nonBlank? (s : String) : Option String :=
  let t := trim s
  if t.isEmpty then none else some t

/-- A capital letter of ASCII becomes small, and every other character stays. -/
def lowerAscii (s : String) : String :=
  String.ofList (s.toList.map Char.toLower)

/-- The text before the first `c` and the text after it, when there is one. -/
def splitFirst? (c : Char) (s : List Char) : Option (List Char × List Char) :=
  match s.dropWhile (· != c) with
  | [] => none
  | _ :: rest => some (s.takeWhile (· != c), rest)

/-- The pieces between the `c`s, of which there is always one more than there are `c`s. -/
def pieces (c : Char) : List Char → List (List Char)
  | [] => [[]]
  | d :: rest =>
    match pieces c rest with
    | [] => [[d]]
    | p :: ps => if d = c then [] :: p :: ps else (d :: p) :: ps

/-- The text after `start`, when it begins with it. -/
def after? : List Char → List Char → Option (List Char)
  | [], s => some s
  | _ :: _, [] => none
  | a :: as, b :: bs => if a = b then after? as bs else none

/-- Whether `part` stands somewhere in the text. -/
def occurs (part : List Char) : List Char → Bool
  | [] => part.isEmpty
  | c :: rest => (after? part (c :: rest)).isSome || occurs part rest

end OrderDesk.Text
