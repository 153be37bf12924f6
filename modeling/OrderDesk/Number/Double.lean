/-!
Doubles and their decimal texts, in exact arithmetic. A double is written with the fewest digits
that read back as the same double; of two texts with as few digits the nearer one is taken, and of
two that are as near the greater one.
-/
namespace OrderDesk

/-- A double: a significand times a power of two, an infinity, or no number. -/
inductive Double where
  | finite (negative : Bool) (significand : Nat) (power : Int)
  | infinite (negative : Bool)
  | nan
  deriving DecidableEq, Repr

namespace Double

/-- The least power of two. -/
def minPower : Int := -1074

/-- The greatest power of two. -/
def maxPower : Int := 971

/-- The number below which significands stay. -/
def significandLimit : Nat := Nat.pow 2 53

/-- A fraction times a power of a base. -/
def scale (base : Nat) (num den : Nat) (power : Int) : Nat × Nat :=
  (num * base.pow power.toNat, den * base.pow (-power).toNat)

/-- The quotient rounded to the nearest number, and to the even one of two that are as near. -/
def roundDiv (num den : Nat) : Nat :=
  let below := num / den
  let rest := 2 * (num % den)
  if den < rest ∨ (rest = den ∧ below % 2 = 1) then below + 1 else below

/-- The power of two that a positive fraction reaches and whose double it does not. -/
def binaryOrder (num den : Nat) : Int :=
  let guess : Int := (num.log2 : Int) - den.log2
  let (a, b) := scale 2 num den (-guess)
  if a < b then guess - 1 else guess

/-- The double nearest to a positive fraction. -/
def ofFraction (negative : Bool) (num den : Nat) : Double :=
  let power := max minPower (binaryOrder num den - 52)
  let (a, b) := scale 2 num den (-power)
  let m := roundDiv a b
  let (m, power) := if m = significandLimit then (significandLimit / 2, power + 1) else (m, power)
  if maxPower < power then infinite negative else finite negative m power

/-- The double nearest to a number of decimal digits times a power of ten. Powers that lead far
beyond all doubles are not computed. -/
def ofDecimal (negative : Bool) (n : Nat) (power : Int) : Double :=
  let order : Int := (Nat.toDigits 10 n).length + power
  if n = 0 ∨ order < -330 then finite negative 0 minPower
  else if 310 < order then infinite negative
  else
    let (num, den) := scale 10 n 1 power
    ofFraction negative num den

/-- The least power of ten that is greater than a positive fraction. -/
def decimalOrder (num den : Nat) : Int :=
  if den ≤ num then (Nat.toDigits 10 (num / den)).length
  else
    let d := (Nat.toDigits 10 (den / num)).length
    if den ≤ num * Nat.pow 10 (d - 1) then 2 - (d : Int) else 1 - (d : Int)

/-- The number of `units`, each a fraction of it, that lies between the bounds and is nearest to
the value, if one of the two neighbours of the value lies there. -/
def neighbour? (low value high unit : Nat) (closed : Bool) : Option Nat :=
  let below := value / unit
  let hitsBelow := if closed then low ≤ below * unit else low < below * unit
  let hitsAbove := if closed then (below + 1) * unit ≤ high else (below + 1) * unit < high
  if hitsBelow ∧ (¬hitsAbove ∨ 2 * (value % unit) < unit) then some below
  else if hitsAbove then some (below + 1)
  else none

/-- The shortest decimal of a positive double: digits and a power of ten. All bounds are counted
in quarters of the last binary place. -/
def shortest (m : Nat) (power : Int) : Nat × Int :=
  let gap := if m = significandLimit / 2 ∧ minPower < power then 1 else 2
  let (quarter, den) := scale 2 1 1 (power - 2)
  let order := decimalOrder (4 * m * quarter) den
  let attempt (digits : Nat) : Option (Nat × Int) :=
    let place : Int := order - (digits + 1 : Nat)
    let (factor, unit) := scale 10 quarter den (-place)
    (neighbour? ((4 * m - gap) * factor) (4 * m * factor) ((4 * m + 2) * factor) unit
      (m % 2 == 0)).map (·, place)
  ((List.range 17).findSome? attempt).getD (0, 0)

/-- Digits and a power of ten without zeros at the end of the digits. The first argument bounds
the zeros. -/
def dropZeros : Nat → Nat × Int → Nat × Int
  | 0, d => d
  | fuel + 1, (n, power) =>
    if n % 10 = 0 then dropZeros fuel (n / 10, power + 1) else (n, power)

/-- The digits of a number with the point in its place, and a zero where a side would be empty. -/
def positional (n : Nat) (power : Int) : List Char :=
  let digits := Nat.toDigits 10 n
  if 0 ≤ power then digits ++ List.replicate power.toNat '0' ++ ['.', '0']
  else
    let places := (-power).toNat
    let padded := List.replicate (places + 1 - digits.length) '0' ++ digits
    padded.take (padded.length - places) ++ '.' :: padded.drop (padded.length - places)

/-- The text of a double. -/
def text : Double → String
  | nan => "nan"
  | infinite negative => if negative then "-inf" else "inf"
  | finite negative m power =>
    let digits :=
      if m = 0 then ['0', '.', '0']
      else
        let (n, place) := dropZeros 17 (shortest m power)
        positional n place
    String.ofList (if negative then '-' :: digits else digits)

end Double
end OrderDesk
