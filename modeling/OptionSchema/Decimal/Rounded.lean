import OptionSchema.Decimal.Shortest
import OptionSchema.Text.Digit

/-!
# Rounded decimals of a binary number

A binary number is rounded to the nearest point of a decimal grid, the even one of two, and written
with a given number of places or of digits.
-/

namespace OptionSchema.Decimal

/-- The quotient rounded to the nearest whole number, or to the even one of two. -/
def roundedQuotient (value unit : Nat) : Nat :=
  let below := value / unit
  let twice := 2 * (value % unit)
  if twice < unit || (twice == unit && below % 2 == 0) then below else below + 1

def Binary.rounded (b : Binary) (grid : Int) : Nat :=
  let (value, unit) := b.inUnits grid (4 * b.mantissa)
  roundedQuotient value unit

/-- The decimal digits of a number, with zeros in front if there would be too few. -/
def digitsOfLength (length n : Nat) : List Char :=
  let digits := Text.decimalDigits n
  List.replicate (length - digits.length) '0' ++ digits

/-- Digits with a point in front of the last `places`. -/
def pointed (places : Nat) (digits : List Char) : List Char :=
  let (whole, fraction) := digits.splitAt (digits.length - places)
  if fraction.isEmpty then whole else whole ++ '.' :: fraction

def Binary.fixed (b : Binary) (places : Nat) : List Char :=
  pointed places (digitsOfLength (places + 1) (b.rounded (-(places : Int))))

/-- The exponent of the first digit of a number, looked for downwards from one that is not too
small. -/
def Binary.leadingFrom (b : Binary) : Nat → Int → Int
  | 0, exponent => exponent
  | steps + 1, exponent =>
      let (value, unit) := b.inUnits exponent (4 * b.mantissa)
      if value < unit then b.leadingFrom steps (exponent - 1) else exponent

/-- A number rounded to one digit and `places` more: the digits, and the exponent of the first
one. -/
def Binary.scientificParts (b : Binary) (places : Nat) : Nat × Int :=
  if b.mantissa == 0 then (0, 0)
  else
    let exponent := b.leadingFrom 3 b.coarsest
    let digits := b.rounded (exponent - places)
    if digits < Nat.pow 10 (places + 1) then (digits, exponent) else (digits / 10, exponent + 1)

/-- The text of a number with one digit in front of the point and `places` behind it. The exponent
has at least two digits. -/
def Binary.scientific (b : Binary) (places : Nat) : List Char :=
  let (digits, exponent) := b.scientificParts places
  let power := (if exponent < 0 then '-' else '+') :: digitsOfLength 2 exponent.natAbs
  pointed places (digitsOfLength (places + 1) digits) ++ 'e' :: power

/-- A text with a point, without the zeros and the point that it ends with. -/
def withoutTrailingZeros (text : List Char) : List Char :=
  if text.contains '.' then
    ((text.reverse.dropWhile (· == '0')).dropWhile (· == '.')).reverse
  else text

/-- The text of a number with a number of digits, positional or with an exponent, whichever is
shorter, and without trailing zeros. -/
def Binary.general (b : Binary) (digits : Nat) : List Char :=
  let places := digits - 1
  let (_, exponent) := b.scientificParts places
  if exponent < -4 || (digits : Int) ≤ exponent then
    let (mantissa, power) := (b.scientific places).span (· != 'e')
    withoutTrailingZeros mantissa ++ power
  else withoutTrailingZeros (b.fixed ((places : Int) - exponent).toNat)

end OptionSchema.Decimal
