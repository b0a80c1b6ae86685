import OptionSchema.Text.Digit

/-!
# Numbers in arguments

The number that a text starts with, and the characters behind it: a whole number in base eight, ten
or sixteen, or a decimal number with a point and an exponent. Blanks and a sign may stand in front.
-/

namespace OptionSchema.Shell

def isSpace (c : Char) : Bool :=
  c == ' ' || ('\t' ≤ c && c ≤ '\r')

def signed (text : List Char) : Bool × List Char :=
  match text with
  | '-' :: rest => (true, rest)
  | '+' :: rest => (false, rest)
  | rest => (false, rest)

/-- The base of a number without a sign, and the number without the mark of its base: a zero in
front means base eight, and an `x` between it and another digit base sixteen. -/
def based (text : List Char) : Nat × List Char :=
  match text with
  | '0' :: x :: c :: rest =>
      if (x == 'x' || x == 'X') && Text.isHexDigit c then (16, c :: rest) else (8, text)
  | '0' :: _ => (8, text)
  | _ => (10, text)

def isDigitOf (base : Nat) (c : Char) : Bool :=
  if base == 16 then Text.isHexDigit c else if base == 8 then Text.isOctalDigit c else c.isDigit

/-- What is read from a text, and the characters behind it; they are all of the text if it does not
start with a number. -/
structure Reading (α : Type) where
  value : α
  rest : List Char

def readInteger (text : List Char) : Reading Int :=
  let (negative, unsigned) := signed (text.dropWhile isSpace)
  let (base, marked) := based unsigned
  let (digits, rest) := marked.span (isDigitOf base)
  let value : Int := Text.digitsValue base digits
  if digits.isEmpty then ⟨0, text⟩ else ⟨if negative then -value else value, rest⟩

def decimalInteger? (text : String) : Option Int :=
  let (negative, unsigned) := signed (text.toList.dropWhile isSpace)
  let (digits, rest) := unsigned.span Char.isDigit
  let value : Int := Text.digitsValue 10 digits
  if digits.isEmpty || !rest.all isSpace then none else some (if negative then -value else value)

def natural? (text : String) : Option Nat :=
  let digits := text.toList
  if !digits.isEmpty && digits.all Char.isDigit then some (Text.digitsValue 10 digits) else none

/-- The number `digits * 10 ^ exponent` with its sign. -/
structure Real where
  negative : Bool
  digits : Nat
  exponent : Int

def readExponent (text : List Char) : Reading Int :=
  match text with
  | c :: rest =>
      let (negative, unsigned) := signed rest
      let (digits, rest) := unsigned.span Char.isDigit
      let value : Int := Text.digitsValue 10 digits
      if c.toLower != 'e' || digits.isEmpty then ⟨0, text⟩
      else ⟨if negative then -value else value, rest⟩
  | [] => ⟨0, []⟩

def readReal (text : List Char) : Reading Real :=
  let (negative, unsigned) := signed (text.dropWhile isSpace)
  let (whole, behind) := unsigned.span Char.isDigit
  let (fraction, rest) : List Char × List Char :=
    match behind with
    | '.' :: more =>
        if whole.isEmpty && !more.head?.any Char.isDigit then ([], behind)
        else more.span Char.isDigit
    | behind => ([], behind)
  if whole.isEmpty && fraction.isEmpty then ⟨⟨false, 0, 0⟩, text⟩
  else
    let power := readExponent rest
    let digits := Text.digitsValue 10 (whole ++ fraction)
    ⟨⟨negative, digits, power.value - fraction.length⟩, power.rest⟩

end OptionSchema.Shell
