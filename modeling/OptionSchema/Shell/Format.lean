import OptionSchema.Decimal.Rounded
import OptionSchema.Shell.Numeric

/-!
# Formats

A format is a text with directives, each of which prints an argument. The format is used again as
long as arguments are left; an argument that is missing is empty. Texts have one character for each
byte.
-/

namespace OptionSchema.Shell

/-! ## Escapes

A backslash and a letter stand for a control character, a backslash and up to three octal digits for
a byte. In an argument, as opposed to a format, octal digits follow a zero, and `\c` ends the
output. -/

def letterEscape? (c : Char) : Option Char :=
  match c with
  | '\\' => some '\\'
  | 'a' => some '\x07'
  | 'b' => some '\x08'
  | 'f' => some '\x0c'
  | 'n' => some '\n'
  | 'r' => some '\r'
  | 't' => some '\t'
  | 'v' => some '\x0b'
  | _ => none

/-- Reads the escape behind a backslash: the character that it stands for and the number of its
characters. A backslash in front of anything else stands for itself. -/
def escape (text : List Char) : Char × Nat :=
  let digits := (text.take 3).takeWhile Text.isOctalDigit
  match text with
  | [] => ('\\', 0)
  | c :: _ =>
      if digits.isEmpty then
        match letterEscape? c with
        | some meant => (meant, 1)
        | none => ('\\', 0)
      else (Char.ofNat (Text.digitsValue 8 digits % 256), digits.length)

/-- Reads the escape behind a backslash in an argument: there, a zero in front of octal digits is
none of them. -/
def argumentEscape (text : List Char) : Char × Nat :=
  match text with
  | '0' :: c :: rest =>
      if Text.isOctalDigit c then
        let (meant, count) := escape (c :: rest)
        (meant, count + 1)
      else escape text
  | text => escape text

/-- An argument with its escapes replaced, after `skip` characters that have been read already, and
whether the output ends with it. -/
def escapedFrom : Nat → List Char → List Char × Bool
  | _, [] => ([], false)
  | skip + 1, _ :: rest => escapedFrom skip rest
  | 0, '\\' :: 'c' :: _ => ([], true)
  | 0, c :: rest =>
      let (meant, count) := if c == '\\' then argumentEscape rest else (c, 0)
      let (more, ends) := escapedFrom count rest
      (meant :: more, ends)

def escaped (text : List Char) : List Char × Bool :=
  escapedFrom 0 text

/-! ## Directives -/

structure Directive where
  text : List Char
  flags : List Char
  width : Nat
  precision? : Option Nat
  conversion : Char
  deriving DecidableEq

inductive FormatItem where
  | char (c : Char)
  | directive (directive : Directive)
  | unfinished
  deriving DecidableEq

def readDirective? (text : List Char) : Option (Directive × Nat) :=
  let (flags, rest) := text.span "-0+ #".toList.contains
  let (width, rest) := rest.span Char.isDigit
  let (precision?, rest) : Option Nat × List Char :=
    match rest with
    | '.' :: rest =>
        let (precision, rest) := rest.span Char.isDigit
        (some (Text.digitsValue 10 precision), rest)
    | rest => (none, rest)
  match rest with
  | [] => none
  | conversion :: rest =>
      let count := text.length - rest.length
      some (⟨'%' :: text.take count, flags, Text.digitsValue 10 width, precision?, conversion⟩, count)

def formatFrom : Nat → List Char → List FormatItem
  | _, [] => []
  | skip + 1, _ :: rest => formatFrom skip rest
  | 0, c :: rest =>
      if c == '\\' then
        let (meant, count) := escape rest
        .char meant :: formatFrom count rest
      else if c != '%' then .char c :: formatFrom 0 rest
      else if rest.head? == some '%' then .char '%' :: formatFrom 1 rest
      else
        match readDirective? rest with
        | some (directive, count) => .directive directive :: formatFrom count rest
        | none => [.unfinished]

/-! ## Arguments -/

inductive Complaint where
  | notNumeric (arg : String)
  | partlyNumeric (arg : String)
  | outOfRange (arg : String)
  | badDirective (text : String)
  | noConversion
  deriving DecidableEq

def Complaint.message : Complaint → String
  | .notNumeric arg => s!"{arg}: expected numeric value"
  | .partlyNumeric arg => s!"{arg}: not completely converted"
  | .outOfRange arg => s!"{arg}: Numerical result out of range"
  | .badDirective text => s!"{text}: invalid directive"
  | .noConversion => "missing format character"

/-- Whether nothing is printed behind what is complained about. -/
def Complaint.isFatal : Complaint → Bool
  | .badDirective _ => true
  | .noConversion => true
  | _ => false

def conversionComplaints (arg : String) (rest : List Char) : List Complaint :=
  if rest.isEmpty then []
  else if rest.length == arg.length then [.notNumeric arg]
  else [.partlyNumeric arg]

def quotedCode? (arg : String) : Option Nat :=
  match arg.toList with
  | '\'' :: rest => some ((rest.head?.map Char.toNat).getD 0)
  | '"' :: rest => some ((rest.head?.map Char.toNat).getD 0)
  | _ => none

def integerArgument (least greatest : Int) (arg : String) : Int × List Complaint :=
  match quotedCode? arg with
  | some code => (code, [])
  | none =>
      let reading := readInteger arg.toList
      let value := min greatest (max least reading.value)
      let strays := reading.rest.isEmpty && value != reading.value
      (value, conversionComplaints arg reading.rest ++ if strays then [.outOfRange arg] else [])

def realArgument (arg : String) : Real × List Complaint :=
  match quotedCode? arg with
  | some code => (⟨false, code, 0⟩, [])
  | none =>
      let reading := readReal arg.toList
      (reading.value, conversionComplaints arg reading.rest)

/-- The double nearest to the size of a number. Exponents that are out of its reach are cut down. -/
def Real.magnitude (number : Real) : Float :=
  Float.ofScientific number.digits (number.exponent < 0) (min 4000 number.exponent.natAbs)

/-! ## Padding -/

structure Padding where
  flags : List Char
  width : Nat
  precision? : Option Nat

namespace Padding

def has (padding : Padding) (flag : Char) : Bool :=
  padding.flags.contains flag

def blanks (padding : Padding) (text : List Char) : List Char :=
  let missing := List.replicate (padding.width - text.length) ' '
  if padding.has '-' then text ++ missing else missing ++ text

def cut (padding : Padding) (text : List Char) : List Char :=
  padding.blanks ((padding.precision?.map text.take).getD text)

def sign (padding : Padding) (negative : Bool) : List Char :=
  if negative then ['-']
  else if padding.has '+' then ['+']
  else if padding.has ' ' then [' ']
  else []

def zeros (padding : Padding) (sign digits : List Char) : List Char :=
  let missing := padding.width - (sign.length + digits.length)
  if padding.has '0' && !padding.has '-' then sign ++ List.replicate missing '0' ++ digits
  else padding.blanks (sign ++ digits)

def integer (padding : Padding) (sign digits : List Char) : List Char :=
  match padding.precision? with
  | some precision =>
      let digits := if precision == 0 && digits == ['0'] then [] else digits
      padding.blanks (sign ++ List.replicate (precision - digits.length) '0' ++ digits)
  | none => padding.zeros sign digits

def signedInteger (padding : Padding) (value : Int) : List Char :=
  padding.integer (padding.sign (value < 0)) (Text.decimalDigits value.natAbs)

/-- A whole number without a sign. A negative one stands for the number above it by `2 ^ 64`. -/
def unsignedInteger (padding : Padding) (conversion : Char) (value : Int) : List Char :=
  let natural := if value < 0 then (0x1_0000_0000_0000_0000 + value).toNat else value.toNat
  let marked (mark : String) : List Char :=
    if padding.has '#' && natural != 0 then mark.toList else []
  match conversion with
  | 'x' => padding.integer (marked "0x") (Nat.toDigits 16 natural)
  | 'X' => padding.integer (marked "0X") ((Nat.toDigits 16 natural).map Char.toUpper)
  | 'o' => padding.integer [] ((marked "0") ++ Nat.toDigits 8 natural)
  | _ => padding.integer [] (Text.decimalDigits natural)

def real (padding : Padding) (conversion : Char) (number : Real) : List Char :=
  let magnitude := number.magnitude
  let binary := Decimal.Binary.ofFloat magnitude
  let precision := padding.precision?.getD 6
  let sign := padding.sign number.negative
  let text :=
    if magnitude.isInf then padding.blanks (sign ++ ['i', 'n', 'f'])
    else
      padding.zeros sign <|
        match conversion.toLower with
        | 'e' => binary.scientific precision
        | 'g' => binary.general (max 1 precision)
        | _ => binary.fixed precision
  if conversion.isUpper then text.map Char.toUpper else text

end Padding

/-! ## Printing -/

/-- What has been printed, the complaints about it, the arguments that are left, and whether
printing has come to an end. -/
structure Printed where
  text : List Char
  complaints : List Complaint
  args : List String
  ended : Bool

def Directive.print (directive : Directive) (args : List String) : Printed :=
  let padding : Padding := ⟨directive.flags, directive.width, directive.precision?⟩
  let arg := args.headD ""
  let printed (text : List Char) (complaints : List Complaint) : Printed :=
    ⟨text, complaints, args.tail, false⟩
  let conversion := directive.conversion
  if conversion == 's' then printed (padding.cut arg.toList) []
  else if conversion == 'c' then printed (padding.blanks [arg.toList.headD '\x00']) []
  else if conversion == 'b' then
    let (text, ends) := escaped arg.toList
    { printed (padding.cut text) [] with ended := ends }
  else if "di".toList.contains conversion then
    let (value, complaints) := integerArgument (-0x8000_0000_0000_0000) 0x7fff_ffff_ffff_ffff arg
    printed (padding.signedInteger value) complaints
  else if "uoxX".toList.contains conversion then
    let (value, complaints) := integerArgument (-0xffff_ffff_ffff_ffff) 0xffff_ffff_ffff_ffff arg
    printed (padding.unsignedInteger conversion value) complaints
  else if "efgEFG".toList.contains conversion then
    let (value, complaints) := realArgument arg
    printed (padding.real conversion value) complaints
  else ⟨[], [.badDirective (String.ofList directive.text)], args.tail, true⟩

def printItems : List FormatItem → List String → Printed
  | [], args => ⟨[], [], args, false⟩
  | .char c :: items, args =>
      let more := printItems items args
      { more with text := c :: more.text }
  | .unfinished :: _, args => ⟨[], [.noConversion], args, true⟩
  | .directive directive :: items, args =>
      let first := directive.print args
      if first.ended then first
      else
        let more := printItems items first.args
        { more with
          text := first.text ++ more.text
          complaints := first.complaints ++ more.complaints }

def printAll : Nat → List FormatItem → List String → Printed
  | 0, _, args => ⟨[], [], args, false⟩
  | rounds + 1, items, args =>
      let first := printItems items args
      if first.ended || first.args.isEmpty || first.args.length == args.length then first
      else
        let more := printAll rounds items first.args
        { more with
          text := first.text ++ more.text
          complaints := first.complaints ++ more.complaints }

def print (text : String) (args : List String) : Printed :=
  printAll (args.length + 1) (formatFrom 0 text.toList) args

end OptionSchema.Shell
