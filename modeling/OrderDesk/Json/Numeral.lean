/-!
Numerals of a JSON document. No number is ever computed with; it only matters whether a numeral
is of a size that a double holds.
-/
namespace OrderDesk.Json

/-- The digits of a numeral, and its power of ten when one is written. -/
structure Numeral where
  whole : List Nat
  fraction : List Nat := []
  exponent : Option Int := none
  deriving DecidableEq, Repr

namespace Numeral

/-- The greatest significand that is read digit by digit. -/
def significandLimit : Nat := Nat.pow 2 64 - 1

/-- Appends digits to a significand up to the first that makes it too great, and counts those. -/
def absorb (significand : Nat) : List Nat → Nat × Nat
  | [] => (significand, 0)
  | d :: rest =>
    if significandLimit < 10 * significand + d then (significand, 0)
    else
      let (s, taken) := absorb (10 * significand + d) rest
      (s, taken + 1)

/-- The significand, and the power of ten that it is multiplied by. A digit that no longer fits
is dropped. -/
def scaled (n : Numeral) : Nat × Int :=
  let (whole, read) := absorb 0 n.whole
  let (significand, decimals) := absorb whole n.fraction
  (significand, (n.whole.length - read : Nat) - (decimals : Int) + n.exponent.getD 0)

/-- The nearest number with 53 binary digits, the even one of two that are as near. -/
def rounded (n : Nat) : Nat :=
  let unit := Nat.pow 2 (n.log2 + 1 - 53)
  let below := n / unit
  let rest := 2 * (n % unit)
  if unit < rest ∨ (rest = unit ∧ below % 2 = 1) then (below + 1) * unit else below * unit

/-- The least number that is rounded to infinity. -/
def infinite : Nat := Nat.pow 2 1024 - Nat.pow 2 970

/-- Whether the number is of a size that a double holds. -/
def fits (n : Numeral) : Bool :=
  let (significand, power) := n.scaled
  significand = 0 || power < 0 ||
    (power ≤ 308 && rounded significand * rounded (Nat.pow 10 power.toNat) < infinite)

end Numeral
end OrderDesk.Json
