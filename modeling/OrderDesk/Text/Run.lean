import OrderDesk.Text.Blank
import OrderDesk.Text.Percent

/-!
Tables of characters. A table is a row of runs, each of which stands for characters in a row and
may carry values for them. It is written as words in hexadecimal: `41-5A` is a run, `100-12E/2`
every second character of one, and what follows a colon are its values.
-/
namespace OrderDesk.Text

/-- Every `step`th character from `first` to `last`, and the values that a table gives them. -/
structure Run where
  first : Nat
  last : Nat
  step : Nat := 1
  values : List Nat := []
  deriving DecidableEq, Repr

namespace Run

/-- The number that hexadecimal digits write. -/
def number (s : List Char) : Nat :=
  s.foldl (fun n d => 16 * n + (hexDigit? d).getD 0) 0

/-- The run of a word. -/
def ofWord (word : List Char) : Run :=
  let (place, values) := (splitFirst? ':' word).getD (word, [])
  let (place, step) := (splitFirst? '/' place).getD (place, ['1'])
  let (first, last) := (splitFirst? '-' place).getD (place, place)
  { first := number first
    last := number last
    step := number step
    values := if values.isEmpty then [] else (pieces ',' values).map number }

/-- Whether a character belongs to a run. -/
def has (r : Run) (c : Char) : Bool :=
  r.first ≤ c.toNat && c.toNat ≤ r.last && (c.toNat - r.first) % r.step == 0

/-- The character that a run puts in place of one of its own: the single value counts for the
first of the run and moves along with it, and of several values each one has its own. -/
def image (r : Run) (c : Char) : Char :=
  match r.values with
  | [v] => Char.ofNat (v + (c.toNat - r.first))
  | vs => (vs[(c.toNat - r.first) / r.step]?).elim c Char.ofNat

/-- The characters that the values of a run number. -/
def spelled (r : Run) : List Char :=
  r.values.map Char.ofNat

end Run

/-- A table of characters. -/
abbrev Runs := Array Run

namespace Runs

/-- The words of a text, with those that were read after its first characters. -/
def splitWords (s : List Char) : List Char × List (List Char) :=
  s.foldr (fun c (word, words) =>
    if isBlank c then ([], if word.isEmpty then words else word :: words)
    else (c :: word, words)) ([], [])

/-- The table that a text writes. -/
def ofText (s : String) : Runs :=
  let (word, words) := splitWords s.toList
  ((if word.isEmpty then words else word :: words).map Run.ofWord).toArray

/-- The run that a character belongs to. -/
def find? (rs : Runs) (c : Char) : Option Run :=
  Array.find? (·.has c) rs

/-- Whether a character belongs to any run. -/
def has (rs : Runs) (c : Char) : Bool :=
  rs.any (·.has c)

/-- The first value of the run that a character belongs to, and zero outside all runs. -/
def value (rs : Runs) (c : Char) : Nat :=
  ((find? rs c).bind (·.values.head?)).getD 0

end Runs
end OrderDesk.Text
