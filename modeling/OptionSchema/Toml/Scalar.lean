import OptionSchema.Text.Digit
import OptionSchema.Text.Piece
import OptionSchema.Toml.Value

/-!
# Scalars without quotes

Numbers, truth values and dates. Underscores may stand between the digits of a number. A decimal
integer is told by its first digits and its underscores: the rest of it is looked at by who reads
it, so a text like `1_x` is an integer without a value.
-/

namespace OptionSchema.Toml

open Text (decimalDigits digitsValue isHexDigit isOctalDigit)

/-- The digits of a row of digits with underscores between some of them. -/
def digitRow? (isDigit : Char → Bool) (text : List Char) : Option (List Char) :=
  let rows := Text.cut (· == '_') text
  if rows.all fun row => !row.isEmpty && row.all isDigit then some rows.flatten else none

/-- The digits of a decimal number, which has no leading zeros. -/
def decimalRow? (text : List Char) : Option (List Char) := do
  let digits ← digitRow? Char.isDigit text
  if 1 < digits.length && digits.head? == some '0' then none else some digits

def signed (text : List Char) : Bool × List Char :=
  match text with
  | '+' :: rest => (false, rest)
  | '-' :: rest => (true, rest)
  | rest => (false, rest)

/-- The digits in front of a decimal point or an exponent. One underscore may stand right behind a
sign, and zeros may lead what follows it. -/
def signedRow? (hasSign : Bool) (text : List Char) : Option (List Char) :=
  match hasSign, text with
  | true, '_' :: rest => digitRow? Char.isDigit rest
  | _, text => decimalRow? text

/-- The integers that can be represented, signed or unsigned, with 128 bits. -/
def isRepresentable (n : Int) : Bool :=
  -Int.pow 2 127 ≤ n && n < Int.pow 2 128

def integerValue (n : Int) : Value :=
  if isRepresentable n then .integer n else .unrepresentable

/-- The integer that the digits of a base denote. Without any digit it has no value. -/
def based? (base : Nat) (isDigit : Char → Bool) (text : List Char) : Option Value :=
  if text.isEmpty then some .unrepresentable
  else (digitRow? isDigit text).map fun row => integerValue (digitsValue base row)

/-- Whether the pieces between underscores, which follow a row of digits, belong to an integer. Only
the characters beside an underscore count, and they may be digits of base sixteen. -/
def piecesFit : List (List Char) → Bool
  | [] => true
  | [piece] => piece.head?.any isHexDigit
  | piece :: rest =>
      piece.head?.any isHexDigit && piece.getLast?.any isHexDigit && piecesFit rest

/-- The integer in base ten that a text without its sign denotes. Behind an underscore it may have
more than digits, but then it has no value. -/
def decimal? (hasSign negative : Bool) (text : List Char) : Option Value := do
  let pieces := Text.cut (· == '_') text
  let isOther (c : Char) : Bool := c == '.' || c == 'e' || c == 'E' || c == ' '
  let first := pieces.headD []
  let isAlone := pieces.length == 1
  let mayBeEmpty := hasSign && !isAlone
  if text.any isOther || !first.all Char.isDigit || (first.isEmpty && !mayBeEmpty) then none
  else if first.head? == some '0' && !(isAlone && first.length == 1) then none
  else if !piecesFit pieces.tail then none
  else
    let digits := pieces.flatten
    let size : Int := digitsValue 10 digits
    if digits.all Char.isDigit then some (integerValue (if negative then -size else size))
    else some .unrepresentable

/-- The integer that a text denotes: in base ten with or without a sign, or with the mark of another
base in front. -/
def integer? (text : List Char) : Option Value :=
  match text with
  | '0' :: 'x' :: rest => based? 16 isHexDigit rest
  | '0' :: 'o' :: rest => based? 8 isOctalDigit rest
  | '0' :: 'b' :: rest => based? 2 (fun c => c == '0' || c == '1') rest
  | text =>
      let (negative, rest) := signed text
      decimal? (rest.length < text.length) negative rest

/-- The double for `digits * 10 ^ exponent`; none if it is too large. -/
def double? (digits : Nat) (exponent : Int) : Option Float :=
  if digits == 0 then some 0
  else if 400 < exponent then none
  else if exponent < -400 - (decimalDigits digits).length then some 0
  else
    let x := Float.ofScientific digits (exponent < 0) exponent.natAbs
    if x.isInf then none else some x

def exponent? (text : List Char) : Option Int :=
  let (negative, rest) := signed text
  (digitRow? Char.isDigit rest).map fun row =>
    let size : Int := digitsValue 10 row
    if negative then -size else size

/-- The magnitude of a floating point number with a fraction, an exponent or both; it is missing if
it is too large. -/
def magnitude? (hasSign : Bool) (text : List Char) : Option (Option Float) := do
  let (mantissa, mark) := text.span fun c => c != 'e' && c != 'E'
  let (whole, point) := mantissa.span (· != '.')
  let wholeDigits ← signedRow? hasSign whole
  let fractionDigits ← if point.isEmpty then some [] else digitRow? Char.isDigit (point.drop 1)
  let exponent ← if mark.isEmpty then some 0 else exponent? (mark.drop 1)
  if point.isEmpty && mark.isEmpty then none
  else
    let digits := digitsValue 10 (wholeDigits ++ fractionDigits)
    some (double? digits (exponent - fractionDigits.length))

def float? (text : List Char) : Option Value := do
  let (negative, rest) := signed text
  let magnitude ←
    if rest == "inf".toList then some (some (1.0 / 0.0))
    else if rest == "nan".toList then some (some (0.0 / 0.0))
    else magnitude? (rest.length < text.length) rest
  match magnitude with
  | some x => return .float (if negative then -x else x)
  | none => return .unrepresentable

def scalar? (text : List Char) : Option Value :=
  if text == "true".toList then some (.boolean true)
  else if text == "false".toList then some (.boolean false)
  else
    (integer? text).orElse fun _ => (float? text).orElse fun _ => (datetime? text).map .datetime

end OptionSchema.Toml
