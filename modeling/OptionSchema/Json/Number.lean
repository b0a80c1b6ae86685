import OptionSchema.Decimal.Shortest
import OptionSchema.Json.Tree

/-!
# Numbers

A numeral without fraction and exponent is an integer if it fits into 64 bits, signed or unsigned;
every other numeral is a double-precision number. The digits of a numeral are first gathered into an
unsigned 64-bit significand and a decimal exponent, so a numeral of more than nineteen digits need
not give the double nearest to it. A double is written with the fewest digits that denote it.
-/

namespace OptionSchema.Json

open Text (decimalDigits digitValue digitsValue)

/-- An integer that fits into 64 bits, signed or unsigned. -/
def FitsWord (n : Int) : Prop :=
  -0x8000_0000_0000_0000 ≤ n ∧ n < 0x1_0000_0000_0000_0000

instance (n : Int) : Decidable (FitsWord n) :=
  inferInstanceAs (Decidable (_ ∧ _))

inductive Number where
  | integer (value : Int) (fits : FitsWord value)
  | float (value : Float)

/-- Numbers of one kind are compared by value, so the two zeros are equal; an integer and a double
differ. -/
def Number.beq : Number → Number → Bool
  | .integer a _, .integer b _ => a == b
  | .float a, .float b => a == b
  | _, _ => false

instance : BEq Number := ⟨Number.beq⟩

/-- Appends digits to a significand as long as it fits into 64 bits. Gives the significand and the
digits that found no room. -/
def gather : Nat → List Char → Nat × List Char
  | significand, [] => (significand, [])
  | significand, c :: rest =>
      let next := significand * 10 + digitValue c
      if next < 0x1_0000_0000_0000_0000 then gather next rest else (significand, c :: rest)

def powerOfTen (n : Nat) : Float :=
  Float.ofScientific 1 false n

/-- Divides by `10 ^ 308` until the exponent left is at most 308 or nothing is left. -/
def lowered : Nat → Float → Nat → Float
  | 0, x, _ => x
  | steps + 1, x, exponent =>
      if exponent ≤ 308 then x / powerOfTen exponent
      else if x == 0 then x
      else lowered steps (x / powerOfTen 308) (exponent - 308)

/-- The double for `significand * 10 ^ exponent`; none if it is too large. A significand of 64 bits
is zero after two divisions by `10 ^ 308`. -/
def scaled? (significand : Nat) (exponent : Int) : Option Float :=
  let x := (UInt64.ofNat significand).toFloat
  if exponent < 0 then some (lowered 4 x (-exponent).toNat)
  else if exponent ≤ 308 then
    let product := x * powerOfTen exponent.toNat
    if product.isInf then none else some product
  else if significand == 0 then some x
  else none

/-- The exponents that fit into 32 bits; a larger one leaves nothing or is out of range. -/
def largestExponent : Nat :=
  0x7fff_ffff

def Numeral.magnitude? (n : Numeral) : Option Float :=
  let (whole, beyond) := gather 0 n.whole
  let (significand, ignored) := gather whole n.fraction
  let exponent : Int := (beyond.length : Int) - ((n.fraction.length : Int) - ignored.length)
  match n.exponent with
  | none => scaled? significand exponent
  | some e =>
      let shift := digitsValue 10 e.digits
      if e.sign == some '-' then
        if largestExponent < shift then some 0 else scaled? significand (exponent - shift)
      else if largestExponent < shift then
        if significand == 0 then some 0 else none
      else scaled? significand (exponent + shift)

/-- The integer that a numeral denotes, if it is written as one and fits. Minus zero does not count
as an integer. -/
def Numeral.integer? (n : Numeral) : Option Int :=
  if n.fraction.isEmpty && n.exponent.isNone then
    let magnitude := digitsValue 10 n.whole
    if n.negative then
      if magnitude == 0 || 0x8000_0000_0000_0000 < magnitude then none else some (-magnitude)
    else if magnitude < 0x1_0000_0000_0000_0000 then some magnitude
    else none
  else none

def Numeral.number? (n : Numeral) : Option Number :=
  match n.integer? with
  | some value =>
      if fits : FitsWord value then some (.integer value fits) else none
  | none => n.magnitude?.map fun x => .float (if n.negative then -x else x)

/-- How doubles are written: positionally for a leading digit at `10 ^ least` to `10 ^ greatest`,
else with an exponent. -/
structure FloatFormat where
  least : Int
  greatest : Int

/-- Doubles are written positionally from `0.00001` to below `10 ^ 16`. -/
def floatFormat : FloatFormat :=
  ⟨-5, 15⟩

def positional (negative : Bool) (d : Decimal.Point) : Numeral :=
  let digits := decimalDigits d.digits
  if 0 ≤ d.exponent then
    ⟨negative, digits ++ List.replicate d.exponent.toNat '0', ['0'], none⟩
  else
    let places := (-d.exponent).toNat
    if places < digits.length then
      ⟨negative, digits.take (digits.length - places), digits.drop (digits.length - places), none⟩
    else ⟨negative, ['0'], List.replicate (places - digits.length) '0' ++ digits, none⟩

def scientific (negative : Bool) (d : Decimal.Point) : Numeral :=
  let digits := decimalDigits d.digits
  let exponent := d.exponent + (digits.length - 1 : Nat)
  let sign := if exponent < 0 then '-' else '+'
  ⟨negative, digits.take 1, digits.drop 1, some ⟨'e', some sign, decimalDigits exponent.natAbs⟩⟩

/-- The numeral of a finite double: the fewest digits that denote it. -/
def floatNumeral (x : Float) : Numeral :=
  let negative := x.toBits.toNat / 0x8000_0000_0000_0000 == 1
  if x == 0 then ⟨negative, ['0'], ['0'], none⟩
  else
    let d := (Decimal.Binary.ofFloat x).shortest
    let leading := d.exponent + ((decimalDigits d.digits).length - 1 : Nat)
    if floatFormat.least ≤ leading && leading ≤ floatFormat.greatest then positional negative d
    else scientific negative d

def Number.numeral : Number → Numeral
  | .integer value _ => ⟨value < 0, decimalDigits value.natAbs, [], none⟩
  | .float value => floatNumeral value

end OptionSchema.Json
