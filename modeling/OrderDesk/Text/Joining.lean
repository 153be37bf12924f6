import OrderDesk.Text.Composition
import OrderDesk.Text.Joining.Table
import OrderDesk.Text.Mark

/-!
Joiners: two characters without a shape that ask for letters to be joined, or not to be. They may
stand only where they make a difference: after a sign that kills a vowel, and the one against
joining also between two letters that would join.
-/
namespace OrderDesk.Text.Joining

/-- The character against joining. -/
def nonJoiner : Char := Char.ofNat 0x200C

/-- The character for joining. -/
def joiner : Char := Char.ofNat 0x200D

/-- The class of the signs that kill a vowel. -/
def killerClass : Nat := 9

/-- Whether letters join across a character. -/
def isTransparent (c : Char) : Bool :=
  Mark.nonspacing.has c || formatRuns.has c

/-- Whether the last letter of a text, which is given last character first, joins what follows. -/
def joinsOn (before : List Char) : Bool :=
  (before.dropWhile isTransparent).head?.any fun c => bothRuns.has c || leftRuns.has c

/-- Whether the first letter of a text joins what stands before it. -/
def joinsBack (after : List Char) : Bool :=
  (after.dropWhile isTransparent).head?.any fun c => bothRuns.has c || rightRuns.has c

/-- Whether a character may stand after `before`, given last character first, and before
`after`. -/
def fits (before : List Char) (c : Char) (after : List Char) : Bool :=
  let afterKiller := before.head?.any fun d => Composition.classOf d == killerClass
  if c = nonJoiner then afterKiller || (joinsOn before && joinsBack after)
  else c != joiner || afterKiller

/-- Whether every joiner stands where it may, after `before`, given last character first. -/
def allFit (before : List Char) : List Char → Bool
  | [] => true
  | c :: rest => fits before c rest && allFit (c :: before) rest

end OrderDesk.Text.Joining
