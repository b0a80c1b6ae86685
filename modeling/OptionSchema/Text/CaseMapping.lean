import OptionSchema.Text.Letter
import OptionSchema.Text.Table.CaseMapping

/-!
# Capital and small forms

The form of a character can have several characters: the capital form of `ß` is `SS`, the small
form of `İ` is an `i` and a combining dot. Forms are taken character by character, with one
exception: in `smallText` a capital sigma that ends a word becomes a final sigma.
-/

namespace OptionSchema.Text

def capitalForm (c : Char) : List Char :=
  if isAscii c then [c.toUpper]
  else
    match Table.capitalSequences.lookup c.toNat with
    | some codes => codes.map Char.ofNat
    | none => [(shifted? Table.capitalShifts c).getD c]

def smallForm (c : Char) : List Char :=
  if isAscii c then [c.toLower]
  else
    match Table.smallSequences.lookup c.toNat with
    | some codes => codes.map Char.ofNat
    | none => [(shifted? Table.smallShifts c).getD c]

/-- Whether the first character that is not case-ignorable is a cased letter. -/
def meetsCased (text : List Char) : Bool :=
  match text.dropWhile isCaseIgnorable with
  | [] => false
  | c :: _ => isCased c

/-- The small form of a text that follows `before`, whose characters are given last first. A capital
sigma is final if a cased letter comes before it and none after it. -/
def smallTextAfter : List Char → List Char → List Char
  | _, [] => []
  | before, c :: rest =>
      (if c == 'Σ' then
        if meetsCased before && !meetsCased rest then ['ς'] else ['σ']
      else smallForm c) ++ smallTextAfter (c :: before) rest

def smallText (text : String) : String :=
  String.ofList (smallTextAfter [] text.toList)

def capitalText (text : List Char) : List Char :=
  text.flatMap capitalForm

def equalIgnoringAsciiCase (first second : List Char) : Bool :=
  first.map Char.toLower == second.map Char.toLower

end OptionSchema.Text
