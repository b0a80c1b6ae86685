import OptionSchema.Json.Tree
import OptionSchema.Text.Utf8

/-!
# Scanning JSON

A scan finds the tree of a text without interpreting it: surrogate escapes need not pair up, numbers
may be of any size, and nesting has no limit. It fails at the first character that cannot continue a
JSON value. Only after the value is the text checked for stray bytes and for a remainder.
-/

namespace OptionSchema.Json

inductive ScanError where
  | valueEnds
  | listEnds
  | objectEnds
  | stringEnds
  | expectedValue
  | expectedIdentifier
  | expectedListCommaOrEnd
  | expectedObjectCommaOrEnd
  | expectedColon
  | keyNotString
  | invalidNumber
  | invalidEscape
  | controlCharacter
  | invalidCodePoint
  | trailingComma
  | trailingCharacters
  deriving DecidableEq

def ScanError.message : ScanError → String
  | .valueEnds => "EOF while parsing a value"
  | .listEnds => "EOF while parsing a list"
  | .objectEnds => "EOF while parsing an object"
  | .stringEnds => "EOF while parsing a string"
  | .expectedValue => "expected value"
  | .expectedIdentifier => "expected ident"
  | .expectedListCommaOrEnd => "expected `,` or `]`"
  | .expectedObjectCommaOrEnd => "expected `,` or `\x7d`"
  | .expectedColon => "expected `:`"
  | .keyNotString => "key must be a string"
  | .invalidNumber => "invalid number"
  | .invalidEscape => "invalid escape"
  | .controlCharacter => "control character (\\u0000-\\u001F) found while parsing a string"
  | .invalidCodePoint => "invalid unicode code point"
  | .trailingComma => "trailing comma"
  | .trailingCharacters => "trailing characters"

/-- A piece of a text and what is left of the text after it. -/
abbrev Scanned (α : Type) :=
  α × List Char

def scanLetters (tree : Tree) : List Char → List Char → Except ScanError (Scanned Tree)
  | [], rest => .ok (tree, rest)
  | _ :: _, [] => .error .valueEnds
  | letter :: letters, c :: rest =>
      if c = letter then scanLetters tree letters rest else .error .expectedIdentifier

def scanExponentDigits (mark : Char) (sign : Option Char) (text : List Char) :
    Except ScanError (Scanned Exponent) :=
  let (digits, rest) := text.span Char.isDigit
  if digits.isEmpty then .error .invalidNumber else .ok (⟨mark, sign, digits⟩, rest)

def scanExponent : List Char → Except ScanError (Scanned (Option Exponent))
  | c :: rest =>
      if c == 'e' || c == 'E' then
        let scanned :=
          match rest with
          | '+' :: rest => scanExponentDigits c (some '+') rest
          | '-' :: rest => scanExponentDigits c (some '-') rest
          | rest => scanExponentDigits c none rest
        scanned.map fun (exponent, rest) => (some exponent, rest)
      else .ok (none, c :: rest)
  | [] => .ok (none, [])

def scanFraction : List Char → Except ScanError (Scanned (List Char))
  | '.' :: rest =>
      let (digits, rest) := rest.span Char.isDigit
      if digits.isEmpty then .error .invalidNumber else .ok (digits, rest)
  | rest => .ok ([], rest)

/-- Scans the digits before the decimal point. A zero cannot be followed by another digit. -/
def scanWhole : List Char → Except ScanError (Scanned (List Char))
  | '0' :: c :: rest => if c.isDigit then .error .invalidNumber else .ok (['0'], c :: rest)
  | c :: rest =>
      if c.isDigit then
        let (digits, rest) := rest.span Char.isDigit
        .ok (c :: digits, rest)
      else .error .invalidNumber
  | [] => .error .invalidNumber

def scanNumeral (negative : Bool) (text : List Char) : Except ScanError (Scanned Numeral) := do
  let (whole, rest) ← scanWhole text
  let (fraction, rest) ← scanFraction rest
  let (exponent, rest) ← scanExponent rest
  return (⟨negative, whole, fraction, exponent⟩, rest)

def byteCount (text : List Char) : Nat :=
  (text.map Char.utf8Size).foldl (· + ·) 0

def scanStringBody : List Char → Except ScanError (Scanned (List Char))
  | [] => .error .stringEnds
  | '"' :: rest => .ok ([], rest)
  | ['\\'] => .error .stringEnds
  | '\\' :: 'u' :: rest =>
      if startsWithFourHexDigits rest then
        (scanStringBody rest).map fun (body, rest) => ('\\' :: 'u' :: body, rest)
      else if byteCount rest < 4 then .error .stringEnds
      else .error .invalidEscape
  | '\\' :: c :: rest =>
      if isShortEscape c then
        (scanStringBody rest).map fun (body, rest) => ('\\' :: c :: body, rest)
      else .error .invalidEscape
  | c :: rest =>
      if c.toNat < 0x20 then .error .controlCharacter
      else (scanStringBody rest).map fun (body, rest) => (c :: body, rest)

mutual

/-- Scans a value that starts at the first character. The fuel bounds the number of calls. -/
def scanValue : Nat → List Char → Except ScanError (Scanned Tree)
  | 0, _ => .error .valueEnds
  | fuel + 1, text =>
      match text with
      | [] => .error .valueEnds
      | 'n' :: rest => scanLetters .null ['u', 'l', 'l'] rest
      | 't' :: rest => scanLetters (.bool true) ['r', 'u', 'e'] rest
      | 'f' :: rest => scanLetters (.bool false) ['a', 'l', 's', 'e'] rest
      | '"' :: rest => (scanStringBody rest).map fun (body, rest) => (.string body, rest)
      | '-' :: rest => (scanNumeral true rest).map fun (numeral, rest) => (.number numeral, rest)
      | '[' :: rest =>
          let (gap, rest) := rest.span isGap
          match rest with
          | [] => .error .listEnds
          | ']' :: rest => .ok (.array gap [], rest)
          | rest => (scanItems fuel gap rest).map fun (items, rest) => (.array [] items, rest)
      | '{' :: rest =>
          let (gap, rest) := rest.span isGap
          match rest with
          | [] => .error .objectEnds
          | '}' :: rest => .ok (.object gap [], rest)
          | rest =>
              (scanMembers fuel gap rest).map fun (members, rest) => (.object [] members, rest)
      | c :: rest =>
          if c.isDigit then
            (scanNumeral false (c :: rest)).map fun (numeral, rest) => (.number numeral, rest)
          else .error .expectedValue

/-- Scans the items of an array up to and with its closing bracket. The blanks before the first item
have been read. -/
def scanItems : Nat → List Char → List Char → Except ScanError (Scanned (List (Padded Tree)))
  | 0, _, _ => .error .valueEnds
  | fuel + 1, before, text => do
      let (tree, rest) ← scanValue fuel text
      let (after, rest) := rest.span isGap
      match rest with
      | ',' :: rest =>
          let (gap, rest) := rest.span isGap
          let (items, rest) ← scanItems fuel gap rest
          return (⟨before, tree, after⟩ :: items, rest)
      | ']' :: rest => return ([⟨before, tree, after⟩], rest)
      | [] => .error .listEnds
      | _ => .error .expectedListCommaOrEnd

/-- Scans the members of an object up to and with its closing brace. The blanks before the first key
have been read. -/
def scanMembers : Nat → List Char → List Char →
    Except ScanError (Scanned (List (Padded (List Char) × Padded Tree)))
  | 0, _, _ => .error .valueEnds
  | fuel + 1, before, text =>
      match text with
      | [] => .error .objectEnds
      | '"' :: rest => do
          let (key, rest) ← scanStringBody rest
          let (afterKey, rest) := rest.span isGap
          match rest with
          | [] => .error .objectEnds
          | ':' :: rest =>
              let (beforeValue, rest) := rest.span isGap
              let (tree, rest) ← scanValue fuel rest
              let (after, rest) := rest.span isGap
              let member := (⟨before, key, afterKey⟩, ⟨beforeValue, tree, after⟩)
              match rest with
              | ',' :: rest =>
                  let (gap, rest) := rest.span isGap
                  let (members, rest) ← scanMembers fuel gap rest
                  return (member :: members, rest)
              | '}' :: rest => return ([member], rest)
              | [] => .error .objectEnds
              | _ => .error .expectedObjectCommaOrEnd
          | _ => .error .expectedColon
      | _ => .error .keyNotString

end

/-- Scans the value that a text starts with after blanks. Every call of the scan reads a character
or is followed by one that does, so twice the length of the text is enough fuel. -/
def scanFirst (text : List Char) : Except ScanError (Scanned Tree) :=
  scanValue (2 * text.length + 2) (text.dropWhile isGap)

def Tree.ofText? (text : List Char) : Except ScanError Tree := do
  let (tree, rest) ← scanFirst text
  if (rest.dropWhile isGap).isEmpty then return tree else .error .trailingCharacters

/-- The tree of bytes that may not be UTF-8. Stray bytes before the end of the value are reported
once the value is scanned; those after it are trailing characters. -/
def Tree.ofCells? (cells : List Text.Cell) : Except ScanError Tree := do
  let (_, rest) ← scanFirst (cells.map Text.Cell.standIn)
  let used := cells.take (cells.length - rest.length)
  if used.any Text.Cell.isStray then .error .invalidCodePoint else .error .trailingCharacters

def Tree.ofBytes? (bytes : ByteArray) : Except ScanError Tree :=
  match String.fromUTF8? bytes with
  | some text => Tree.ofText? text.toList
  | none => Tree.ofCells? (Text.cells bytes)

end OptionSchema.Json
