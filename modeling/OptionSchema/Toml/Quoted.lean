import OptionSchema.Toml.Scalar

/-!
# Quoted strings

There are four forms. Between double quotes a backslash starts an escape; between single quotes it
does not. The forms with three quotes go over several lines: a line feed right behind the opening
quotes is left out, and so are a backslash at the end of a line and the blanks and lines behind it.
-/

namespace OptionSchema.Toml

open Text (digitsValue isHexDigit)

def isSpace (c : Char) : Bool :=
  c == ' ' || c == '\t'

/-- Whether a character can stand in a comment or quotes as it is: no control character but the
tab. -/
def isPlain (c : Char) : Bool :=
  c == '\t' || (0x20 ≤ c.toNat && c.toNat != 0x7F)

def lineFeed? : List Char → Option (List Char)
  | '\n' :: rest => some rest
  | '\r' :: '\n' :: rest => some rest
  | _ => none

def dropLineFeed (text : List Char) : List Char :=
  (lineFeed? text).getD text

def codePoint? (count : Nat) (text : List Char) : Option (Char × List Char) :=
  let digits := text.take count
  let code := digitsValue 16 digits
  if digits.length == count && digits.all isHexDigit && code.isValidChar then
    some (Char.ofNat code, text.drop count)
  else none

def escaped? : List Char → Option (Char × List Char)
  | 'b' :: rest => some ('\x08', rest)
  | 't' :: rest => some ('\t', rest)
  | 'n' :: rest => some ('\n', rest)
  | 'f' :: rest => some ('\x0c', rest)
  | 'r' :: rest => some ('\r', rest)
  | 'e' :: rest => some ('\x1b', rest)
  | '"' :: rest => some ('"', rest)
  | '\\' :: rest => some ('\\', rest)
  | 'x' :: rest => codePoint? 2 rest
  | 'u' :: rest => codePoint? 4 rest
  | 'U' :: rest => codePoint? 8 rest
  | _ => none

def basic? : Nat → List Char → Option (List Char × List Char)
  | 0, _ => none
  | _ + 1, '"' :: rest => some ([], rest)
  | fuel + 1, '\\' :: rest => do
      let (c, rest) ← escaped? rest
      let (text, rest) ← basic? fuel rest
      return (c :: text, rest)
  | fuel + 1, c :: rest => do
      if isPlain c then
        let (text, rest) ← basic? fuel rest
        return (c :: text, rest)
      else none
  | _ + 1, [] => none

def literal? : List Char → Option (List Char × List Char)
  | [] => none
  | c :: rest =>
      if c == '\'' then some ([], rest)
      else if isPlain c then (literal? rest).map fun (text, rest) => (c :: text, rest)
      else none

def startsTripled (quote : Char) (text : List Char) : Bool :=
  [quote, quote, quote].isPrefixOf text

/-- The quotes that belong to a string before its three closing ones, and the text behind those. Up
to two quotes can stand in front of the closing ones. -/
def closing (quote : Char) (text : List Char) : List Char × List Char :=
  let run := min (text.takeWhile (· == quote)).length 5
  (List.replicate (run - 3) quote, text.drop run)

/-- Whether blanks and a line end follow, as they have to behind a backslash that joins lines. -/
def joinsLines (text : List Char) : Bool :=
  (lineFeed? (text.dropWhile isSpace)).isSome

def dropJoint : List Char → List Char
  | '\r' :: '\n' :: rest => dropJoint rest
  | c :: rest => if isSpace c || c == '\n' then dropJoint rest else c :: rest
  | [] => []

def multilineBasic? : Nat → List Char → Option (List Char × List Char)
  | 0, _ => none
  | fuel + 1, text =>
      if startsTripled '"' text then some (closing '"' text)
      else
        match text with
        | [] => none
        | '\\' :: rest => do
            if joinsLines rest then multilineBasic? fuel (dropJoint rest)
            else
              let (c, rest) ← escaped? rest
              let (text, rest) ← multilineBasic? fuel rest
              return (c :: text, rest)
        | '\r' :: '\n' :: rest => do
            let (text, rest) ← multilineBasic? fuel rest
            return ('\r' :: '\n' :: text, rest)
        | c :: rest => do
            if isPlain c || c == '\n' then
              let (text, rest) ← multilineBasic? fuel rest
              return (c :: text, rest)
            else none

def multilineLiteral? : Nat → List Char → Option (List Char × List Char)
  | 0, _ => none
  | fuel + 1, text =>
      if startsTripled '\'' text then some (closing '\'' text)
      else
        match text with
        | [] => none
        | '\r' :: '\n' :: rest => do
            let (text, rest) ← multilineLiteral? fuel rest
            return ('\r' :: '\n' :: text, rest)
        | c :: rest => do
            if isPlain c || c == '\n' then
              let (text, rest) ← multilineLiteral? fuel rest
              return (c :: text, rest)
            else none

def quoted? (text : List Char) : Option (String × List Char) :=
  let fuel := text.length + 1
  let read :=
    match text with
    | '"' :: '"' :: '"' :: rest => multilineBasic? fuel (dropLineFeed rest)
    | '\'' :: '\'' :: '\'' :: rest => multilineLiteral? fuel (dropLineFeed rest)
    | '"' :: rest => basic? fuel rest
    | '\'' :: rest => literal? rest
    | _ => none
  read.map fun (text, rest) => (String.ofList text, rest)

end OptionSchema.Toml
