import OptionSchema.Json.ReadError
import OptionSchema.Json.Value

/-!
# Embedded texts

An object whose first key is `embeddingMark` stands for the value of another JSON text, the string
under that key. Such a text is read straight through: the first thing wrong with it counts, be it
its form or something that cannot be read. It can have embedded texts in turn.
-/

namespace OptionSchema.Json

def embeddingMark : String :=
  "$serde_json::private::RawValue"

/-- The most levels of arrays and objects that a text can have. -/
def textDepthLimit : Nat :=
  127

def malformed {α : Type} (scanned : Except ScanError α) : Except ReadError α :=
  scanned.mapError .malformed

/-- Scans a numeral whose sign has been read. If only more digits are missing at the end of the
text, it is the value that ends. -/
def scanLastNumeral (negative : Bool) (text : List Char) : Except ScanError (Scanned Numeral) :=
  match scanNumeral negative text with
  | .ok scanned => .ok scanned
  | .error cause =>
      match scanNumeral negative (text ++ ['0']) with
      | .ok (_, []) => .error .valueEnds
      | _ => .error cause

def readNumeral (negative : Bool) (text : List Char) : Except ReadError (Value × List Char) := do
  let (numeral, rest) ← malformed (scanLastNumeral negative text)
  let number ← readNumber numeral
  return (.number number, rest)

/-- What is wrong with an escape that should have four hexadecimal digits, given what follows it. -/
def brokenEscape (text : List Char) : ReadError :=
  .malformed (if byteCount text < 4 then .stringEnds else .invalidEscape)

/-- Reads the body of a string up to and with its closing quote. An escape that stands for no
character counts where it stands, whatever follows it. -/
def readBody : List Char → Except ReadError (List Char × List Char)
  | [] => .error (.malformed .stringEnds)
  | '"' :: rest => .ok ([], rest)
  | ['\\'] => .error (.malformed .stringEnds)
  | '\\' :: 'u' :: a :: b :: c :: d :: rest =>
      let unit := codeUnit a b c d
      if !startsWithFourHexDigits [a, b, c, d] then
        .error (brokenEscape (a :: b :: c :: d :: rest))
      else if isTrailingSurrogate unit then .error .loneSurrogate
      else if isLeadingSurrogate unit then
        match rest with
        | '\\' :: 'u' :: e :: f :: g :: h :: rest =>
            let next := codeUnit e f g h
            if !startsWithFourHexDigits [e, f, g, h] then
              .error (brokenEscape (e :: f :: g :: h :: rest))
            else if isTrailingSurrogate next then
              (readBody rest).map fun (text, rest) => (paired unit next :: text, rest)
            else .error .loneSurrogate
        | '\\' :: 'u' :: rest => .error (brokenEscape rest)
        | ['\\'] => .error (.malformed .stringEnds)
        | [] => .error (.malformed .stringEnds)
        | _ => .error .surrogatePairEnds
      else (readBody rest).map fun (text, rest) => (Char.ofNat unit :: text, rest)
  | '\\' :: 'u' :: rest => .error (brokenEscape rest)
  | '\\' :: c :: rest =>
      if isShortEscape c then
        (readBody rest).map fun (text, rest) => (shortEscape c :: text, rest)
      else .error (.malformed .invalidEscape)
  | c :: rest =>
      if c.toNat < 0x20 then .error (.malformed .controlCharacter)
      else (readBody rest).map fun (text, rest) => (c :: text, rest)

def readQuoted (text : List Char) : Except ReadError (String × List Char) :=
  (readBody text).map fun (text, rest) => (String.ofList text, rest)

def readLetters (value : Value) (letters text : List Char) :
    Except ReadError (Value × List Char) := do
  let (_, rest) ← malformed (scanLetters .null letters text)
  return (value, rest)

def readColon (text : List Char) : Except ReadError (List Char) :=
  match text.dropWhile isGap with
  | ':' :: rest => .ok (rest.dropWhile isGap)
  | [] => .error (.malformed .objectEnds)
  | _ => .error (.malformed .expectedColon)

/-- Reads the string of an embedded text; anything else is of the wrong kind. -/
def readEmbeddedString (text : List Char) : Except ReadError (String × List Char) :=
  let wrong (found : Found) : Except ReadError (String × List Char) :=
    .error (.invalidType found .embeddedText)
  let wrongNumber (negative : Bool) (text : List Char) := do
    match ← readNumeral negative text with
    | (.number number, _) => wrong (.number number)
    | _ => .error (.malformed .invalidNumber)
  match text with
  | '"' :: rest => readQuoted rest
  | 'n' :: rest => do
      let _ ← readLetters .null ['u', 'l', 'l'] rest
      wrong .null
  | 't' :: rest => do
      let _ ← readLetters .null ['r', 'u', 'e'] rest
      wrong (.bool true)
  | 'f' :: rest => do
      let _ ← readLetters .null ['a', 'l', 's', 'e'] rest
      wrong (.bool false)
  | '[' :: _ => wrong .sequence
  | '{' :: _ => wrong .map
  | '-' :: rest => wrongNumber true rest
  | c :: rest =>
      if c.isDigit then wrongNumber false (c :: rest) else .error (.malformed .expectedValue)
  | [] => .error (.malformed .valueEnds)

def closeEmbedding (text : List Char) : Except ReadError (List Char) :=
  match text.dropWhile isGap with
  | '}' :: rest => .ok rest
  | ',' :: _ => .error (.malformed .trailingComma)
  | [] => .error (.malformed .objectEnds)
  | _ => .error (.malformed .trailingCharacters)

mutual

/-- Reads a value with at most so many levels. The fuel bounds the number of calls. -/
def readPlain : Nat → Nat → List Char → Except ReadError (Value × List Char)
  | 0, _, _ => .error (.malformed .valueEnds)
  | fuel + 1, levels, text =>
      match text with
      | [] => .error (.malformed .valueEnds)
      | 'n' :: rest => readLetters .null ['u', 'l', 'l'] rest
      | 't' :: rest => readLetters (.bool true) ['r', 'u', 'e'] rest
      | 'f' :: rest => readLetters (.bool false) ['a', 'l', 's', 'e'] rest
      | '"' :: rest => (readQuoted rest).map fun (text, rest) => (.string text, rest)
      | '-' :: rest => readNumeral true rest
      | '[' :: rest =>
          match levels, rest.dropWhile isGap with
          | 0, _ => .error .recursionLimit
          | _ + 1, [] => .error (.malformed .listEnds)
          | _ + 1, ']' :: rest => .ok (.array [], rest)
          | levels + 1, rest =>
              (readPlainItems fuel levels rest).map fun (items, rest) => (.array items, rest)
      | '{' :: rest =>
          match levels, rest.dropWhile isGap with
          | 0, _ => .error .recursionLimit
          | _ + 1, [] => .error (.malformed .objectEnds)
          | _ + 1, '}' :: rest => .ok (.object [], rest)
          | levels + 1, '"' :: rest => do
              let (key, rest) ← readQuoted rest
              let rest ← readColon rest
              if key = embeddingMark then
                let (inner, rest) ← readEmbeddedString rest
                let value ← readWhole fuel inner.toList
                return (value, ← closeEmbedding rest)
              else
                let (members, rest) ← readPlainMember fuel levels key [] rest
                return (.object members, rest)
          | _ + 1, _ => .error (.malformed .keyNotString)
      | c :: rest =>
          if c.isDigit then readNumeral false (c :: rest) else .error (.malformed .expectedValue)

def readPlainItems : Nat → Nat → List Char → Except ReadError (List Value × List Char)
  | 0, _, _ => .error (.malformed .valueEnds)
  | fuel + 1, levels, text => do
      let (item, rest) ← readPlain fuel levels text
      match rest.dropWhile isGap with
      | ']' :: rest => return ([item], rest)
      | ',' :: rest =>
          match rest.dropWhile isGap with
          | ']' :: _ => .error (.malformed .trailingComma)
          | rest =>
              let (items, rest) ← readPlainItems fuel levels rest
              return (item :: items, rest)
      | [] => .error (.malformed .listEnds)
      | _ => .error (.malformed .expectedListCommaOrEnd)

def readPlainMember : Nat → Nat → String → List (String × Value) → List Char →
    Except ReadError (List (String × Value) × List Char)
  | 0, _, _, _, _ => .error (.malformed .valueEnds)
  | fuel + 1, levels, key, dictionary, text => do
      let (value, rest) ← readPlain fuel levels text
      let dictionary := Dictionary.insert key value dictionary
      match rest.dropWhile isGap with
      | '}' :: rest => return (dictionary, rest)
      | ',' :: rest =>
          match rest.dropWhile isGap with
          | '"' :: rest =>
              let (key, rest) ← readQuoted rest
              let rest ← readColon rest
              readPlainMember fuel levels key dictionary rest
          | '}' :: _ => .error (.malformed .trailingComma)
          | [] => .error (.malformed .valueEnds)
          | _ => .error (.malformed .keyNotString)
      | [] => .error (.malformed .objectEnds)
      | _ => .error (.malformed .expectedObjectCommaOrEnd)

def readWhole : Nat → List Char → Except ReadError Value
  | 0, _ => .error (.malformed .valueEnds)
  | fuel + 1, text => do
      let (value, rest) ← readPlain fuel textDepthLimit (text.dropWhile isGap)
      if (rest.dropWhile isGap).isEmpty then return value
      else .error (.malformed .trailingCharacters)

end

/-- The value of a text, read straight through. Every call reads a character or is followed by one
that does, and an embedded text is shorter than its string. -/
def Value.ofText (text : String) : Except ReadError Value :=
  readWhole (3 * text.length + 3) text.toList

end OptionSchema.Json
