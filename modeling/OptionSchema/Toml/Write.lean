import OptionSchema.Text.Quoted
import OptionSchema.Toml.Document

/-!
# Writing TOML

A string is written in the first of its forms that needs no escapes: between double quotes, between
single quotes, between three double quotes, between three single quotes. Only if none of them will
do is it escaped. The forms with three quotes start on a new line if the text has several lines.
-/

namespace OptionSchema.Toml

/-- Whether a character can only be written by an escape: a control character other than the tab and
the line feed. -/
def needsEscape (c : Char) : Bool :=
  c != '\t' && c != '\n' && (c.toNat < 0x20 || c.toNat == 0x7F)

def longestRow (quote : Char) (text : List Char) : Nat :=
  ((Text.cut (· != quote) text).map List.length).foldl max 0

def escapedChar (c : Char) : List Char :=
  match c with
  | '\x08' => ['\\', 'b']
  | '\t' => ['\\', 't']
  | '\n' => ['\\', 'n']
  | '\x0c' => ['\\', 'f']
  | '\r' => ['\\', 'r']
  | '"' => ['\\', '"']
  | '\\' => ['\\', '\\']
  | c =>
      if needsEscape c then
        let digits := (Text.hexadecimal c.toNat).map Char.toUpper
        ['\\', 'u'] ++ List.replicate (4 - digits.length) '0' ++ digits
      else [c]

/-- The text of a string between three double quotes. A line feed stays as it is, and so do two
quotes in a row. -/
def escapedLines (quotes : Nat) : List Char → List Char
  | [] => []
  | c :: rest =>
      if c == '\n' then '\n' :: escapedLines 0 rest
      else if c == '"' && quotes < 2 then '"' :: escapedLines (quotes + 1) rest
      else escapedChar c ++ escapedLines 0 rest

def tripled (quote : Char) : List Char :=
  [quote, quote, quote]

/-- A text between three quotes on each side, on a new line if it has several lines. -/
def betweenTripled (quote : Char) (text written : List Char) : List Char :=
  tripled quote ++ (if text.contains '\n' then ['\n'] else []) ++ written ++ tripled quote

def basicString (text : List Char) : List Char :=
  '"' :: text.flatMap escapedChar ++ ['"']

def literalString (text : List Char) : List Char :=
  '\'' :: text ++ ['\'']

def stringText (text : List Char) : List Char :=
  let controls := text.any needsEscape
  let backslash := text.contains '\\'
  let severalLines := text.contains '\n'
  if !text.contains '"' && !backslash && !severalLines && !controls then basicString text
  else if !text.contains '\'' && !severalLines && !controls then literalString text
  else if !backslash && longestRow '"' text ≤ 2 && !controls then
    betweenTripled '"' text (escapedLines 0 text)
  else if longestRow '\'' text ≤ 2 && !controls then betweenTripled '\'' text text
  else if severalLines then betweenTripled '"' text (escapedLines 0 text)
  else basicString text

def keyText (key : List Char) : List Char :=
  let controls := key.any fun c => needsEscape c || c == '\n'
  if !key.isEmpty && key.all isBareKeyChar then key
  else if !key.contains '"' && !key.contains '\\' && !controls then basicString key
  else if !key.contains '\'' && !controls then literalString key
  else basicString key

def writeString (text : String) : String :=
  String.ofList (stringText text.toList)

def writeBool (value : Bool) : String :=
  if value then "true" else "false"

/-- The array of some texts; from two items on each has a line of its own. -/
def writeStrings (items : List String) : String :=
  match items with
  | [] => "[]"
  | [item] => s!"[{writeString item}]"
  | items => "[\n" ++ String.join (items.map fun item => s!"    {writeString item},\n") ++ "]"

def writeEntry (key value : String) : String :=
  s!"{String.ofList (keyText key.toList)} = {value}\n"

def writeHeader (path : List String) : String :=
  let dotted := ".".intercalate path
  s!"[{dotted}]\n"

end OptionSchema.Toml
