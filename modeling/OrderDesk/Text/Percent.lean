import OrderDesk.Text.Utf8

/-!
Percent coding: a byte is written as a percent sign and two hexadecimal digits. A percent sign
that two such digits do not follow stands for itself.
-/
namespace OrderDesk.Text

/-- The value of a hexadecimal digit, large or small. -/
def hexDigit? (c : Char) : Option Nat :=
  if '0' ≤ c ∧ c ≤ '9' then some (c.toNat - '0'.toNat)
  else if 'a' ≤ c ∧ c ≤ 'f' then some (c.toNat - 'a'.toNat + 10)
  else if 'A' ≤ c ∧ c ≤ 'F' then some (c.toNat - 'A'.toNat + 10)
  else none

/-- The small hexadecimal digit of a value below sixteen. -/
def hexDigit (n : Nat) : Char :=
  if n < 10 then Char.ofNat ('0'.toNat + n) else Char.ofNat ('a'.toNat + (n - 10))

namespace Percent

/-- The bytes that a percent-coded text stands for. -/
def decode : List Char → List UInt8
  | [] => []
  | '%' :: a :: b :: rest =>
    match hexDigit? a, hexDigit? b with
    | some x, some y => UInt8.ofNat (16 * x + y) :: decode rest
    | _, _ => String.utf8EncodeChar '%' ++ decode (a :: b :: rest)
  | c :: rest => String.utf8EncodeChar c ++ decode rest

/-- The code of one byte, with capital digits. -/
def encodeByte (b : UInt8) : List Char :=
  ['%', (hexDigit (b.toNat / 16)).toUpper, (hexDigit (b.toNat % 16)).toUpper]

/-- The text with every character coded that is not ASCII or is in the class. -/
def encode (inClass : Char → Bool) (s : List Char) : List Char :=
  s.flatMap fun c =>
    if c.toNat < 0x80 && !inClass c then [c] else (String.utf8EncodeChar c).flatMap encodeByte

end Percent
end OrderDesk.Text
