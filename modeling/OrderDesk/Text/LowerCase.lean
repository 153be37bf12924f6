import OrderDesk.Text.LowerCase.Table

/-!
The small form of a text. Two texts that differ in letter case alone have the same small form.
-/
namespace OrderDesk.Text
namespace LowerCase

/-- The small forms of a single character; a dotted capital I has two characters. -/
def small (c : Char) : List Char :=
  let n := c.toNat
  if n < 0x80 then [c.toLower]
  else if n = 0x130 then ['i', Char.ofNat 0x307]
  else [(smallForms.find? c).elim c (·.image c)]

/-- Whether the character is a letter with case, and not one that is passed over. -/
def isCased (c : Char) : Bool :=
  casedRuns.has c

/-- Whether the character is passed over when the end of a word is looked for. -/
def isIgnorable (c : Char) : Bool :=
  ignorableRuns.has c

/-- Whether the first character that is not passed over is a letter with case. -/
def touchesWord (s : List Char) : Bool :=
  (s.dropWhile isIgnorable).head?.any isCased

/-- The small forms of the characters after `before`, which is given last character first. A
capital sigma that ends a word has a small form of its own. -/
def smallFrom (before : List Char) : List Char → List Char
  | [] => []
  | c :: rest =>
    (if c.toNat = 0x3A3 then
      if touchesWord before && !touchesWord rest then [Char.ofNat 0x3C2] else [Char.ofNat 0x3C3]
    else small c) ++ smallFrom (c :: before) rest

end LowerCase

/-- The small form of a text. -/
def lowerCase (s : String) : String :=
  String.ofList (LowerCase.smallFrom [] s.toList)

end OrderDesk.Text
