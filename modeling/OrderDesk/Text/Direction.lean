import OrderDesk.Text.Direction.Table
import OrderDesk.Text.Mark

/-!
The directions of writing. In a row of names each name has to keep its own characters together,
whatever the direction of its neighbours is; the rule for that speaks of the kinds of characters a
name starts with, holds and ends with.
-/
namespace OrderDesk.Text

/-- How a character is placed in a line: as a letter from the left or right, as a digit among
letters from the right or the left, as a sign that follows its surroundings, as a mark on the
character before it, or as a sign that ends or governs a stretch of text. -/
inductive Direction where
  | left
  | right
  | arabic
  | number
  | neutral
  | mark
  | breaking
  deriving DecidableEq, Repr

namespace Direction

/-- The direction of a character. -/
def of (c : Char) : Direction :=
  if rightRuns.has c then right
  else if arabicRuns.has c then arabic
  else if numberRuns.has c then number
  else if neutralRuns.has c then neutral
  else if breakingRuns.has c then breaking
  else if Mark.nonspacing.has c && !leftRuns.has c then mark
  else left

/-- Whether a character is written from the right. -/
def isFromRight (c : Char) : Bool :=
  of c == right || of c == arabic

/-- Whether the last one that is no mark is among `ends`. -/
def endsWith (ends ds : List Direction) : Bool :=
  (ds.reverse.dropWhile (· == mark)).head?.any (· ∈ ends)

/-- Whether a name keeps together in any surroundings. -/
def keepsTogether (name : List Char) : Bool :=
  let ds := name.map of
  match ds with
  | [] => true
  | .left :: _ => ds.all (· ∈ [left, number, neutral, mark]) && endsWith [left, number] ds
  | .right :: _ =>
    ds.all (· ∈ [right, arabic, number, neutral, mark]) && endsWith [right, arabic, number] ds &&
      !(ds.contains arabic && ds.contains number)
  | _ => false

end Direction
end OrderDesk.Text
