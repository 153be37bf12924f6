import OrderDesk.Text.Direction
import OrderDesk.Text.Joining
import OrderDesk.Url
import OrderDesk.Url.Domain.Table
import OrderDesk.Url.Punycode

/-!
Domain names. A name is put into one form, in which letters are small and composed, and each of its
labels is then written in ASCII. A label that is given in ASCII but stands for other characters has
to stand for a label in that form.
-/
namespace OrderDesk.Url

/-- The signs that stand in no host. -/
def isForbidden (c : Char) : Bool :=
  c ∈ [Char.ofNat 0, '\t', '\n', '\r', ' ', '#', '/', ':', '<', '>', '?', '@', '[', '\\', ']',
    '^', '|']

namespace Domain
open Text

/-- Whether a character is one of ASCII. -/
def isAscii (c : Char) : Bool :=
  c.toNat < 0x80

/-- The signs that stand in no label. -/
def isDenied (c : Char) : Bool :=
  isForbidden c || isControl c || c == '%'

/-- What is put for a character, if a domain name may hold it. -/
def image? (c : Char) : Option (List Char) :=
  if isAscii c then some [c.toLower]
  else if dropped.has c then some []
  else if refused.has c then none
  else
    match replaced.find? c, spelledOut.find? c with
    | some r, _ => some [r.image c]
    | none, some r => some r.spelled
    | none, none => some [c]

/-- The one form of a name. -/
def form? (s : List Char) : Option (List Char) :=
  (s.mapM image?).map fun images => composed images.flatten

/-- What a label in ASCII that stands for other characters starts with. -/
def codeMark : List Char := "xn--".toList

/-- The greatest length of a label with characters beyond ASCII. -/
def maxWide : Nat := 1000

/-- The greatest length of the code of a label. -/
def maxCode : Nat := 2000

/-- Whether a label beyond ASCII starts with no mark, and its joiners stand where they may. -/
def isSound (label : List Char) : Bool :=
  !label.head?.any Mark.isMark && Joining.allFit [] label

/-- A label: the characters that it stands for, and its text in ASCII. -/
structure Label where
  name : List Char
  ascii : List Char
  deriving DecidableEq, Repr

/-- The label that a code writes. -/
def ofCode? (code : List Char) : Option Label := do
  if code.isEmpty || maxCode < code.length || code.getLast? == some '-' then none
  else
    let name ← Punycode.decode? code
    if form? name = some name && isSound name then some ⟨name, codeMark ++ code⟩ else none

/-- The label of a piece of a name. -/
def ofPiece? (piece : List Char) : Option Label :=
  if piece.any isDenied then none
  else
    match after? codeMark piece with
    | some code => if code.all isAscii then ofCode? code else none
    | none =>
      if piece.all isAscii then some ⟨piece, piece⟩
      else if piece.length ≤ maxWide && isSound piece then
        some ⟨piece, codeMark ++ Punycode.encode piece⟩
      else none

/-- Whether labels keep together. Where nothing is written from the right, all do. -/
def keepTogether (labels : List Label) : Bool :=
  !(labels.any fun l => l.name.any Direction.isFromRight) ||
    labels.all fun l => Direction.keepsTogether l.name

/-- A domain name in ASCII, from its percent-coded text. -/
def read? (s : List Char) : Option (List Char) := do
  let text ← ofBytes? (Percent.decode s)
  let labels ← (pieces '.' (← form? text)).mapM ofPiece?
  if keepTogether labels then some (['.'].intercalate (labels.map (·.ascii))) else none

end Domain
end OrderDesk.Url
