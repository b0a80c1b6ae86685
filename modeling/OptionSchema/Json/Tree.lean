import OptionSchema.Text.Digit

/-!
# Lossless JSON trees

A tree keeps everything its text says: blanks, the spelling of numbers and strings, the order of
members and repeated keys. `Tree.text` gives the text back character by character. `Tree.WellFormed`
is the grammar: it states which parts a tree may have, so that its text is a JSON value.
-/

namespace OptionSchema.Json

open Text (isHexDigit)

structure Exponent where
  mark : Char
  sign : Option Char
  digits : List Char
  deriving DecidableEq

/-- A number as it is written. No fraction digits means no decimal point. -/
structure Numeral where
  negative : Bool
  whole : List Char
  fraction : List Char
  exponent : Option Exponent
  deriving DecidableEq

structure Padded (α : Type) where
  before : List Char
  content : α
  after : List Char

/-- A JSON value as it is written. A string is the text between its quotes, escapes included. An
empty array or object has the blanks between its brackets as `gap`. -/
inductive Tree where
  | null
  | bool (value : Bool)
  | number (numeral : Numeral)
  | string (body : List Char)
  | array (gap : List Char) (items : List (Padded Tree))
  | object (gap : List Char) (members : List (Padded (List Char) × Padded Tree))

def Exponent.text (e : Exponent) : List Char :=
  e.mark :: e.sign.toList ++ e.digits

def Numeral.text (n : Numeral) : List Char :=
  (if n.negative then ['-'] else []) ++ n.whole ++
    (if n.fraction.isEmpty then [] else '.' :: n.fraction) ++
    (n.exponent.map Exponent.text).getD []

def stringText (body : List Char) : List Char :=
  '"' :: body ++ ['"']

mutual

def Tree.text : Tree → List Char
  | .null => ['n', 'u', 'l', 'l']
  | .bool true => ['t', 'r', 'u', 'e']
  | .bool false => ['f', 'a', 'l', 's', 'e']
  | .number numeral => numeral.text
  | .string body => stringText body
  | .array gap items => '[' :: gap ++ itemsText items ++ [']']
  | .object gap members => '{' :: gap ++ membersText members ++ ['}']

def itemsText : List (Padded Tree) → List Char
  | [] => []
  | ⟨before, tree, after⟩ :: rest =>
      before ++ tree.text ++ after ++
        match rest with
        | [] => []
        | _ => ',' :: itemsText rest

def membersText : List (Padded (List Char) × Padded Tree) → List Char
  | [] => []
  | (key, ⟨before, tree, after⟩) :: rest =>
      key.before ++ stringText key.content ++ key.after ++ ':' :: before ++ tree.text ++ after ++
        match rest with
        | [] => []
        | _ => ',' :: membersText rest

end

/-- Two trees are equal if they have the same text. -/
instance : BEq Tree where
  beq first second := first.text == second.text

def isGap (c : Char) : Bool :=
  c == ' ' || c == '\t' || c == '\n' || c == '\r'

def isShortEscape (c : Char) : Bool :=
  c == '"' || c == '\\' || c == '/' || c == 'b' || c == 'f' || c == 'n' || c == 'r' || c == 't'

def startsWithFourHexDigits : List Char → Bool
  | a :: b :: c :: d :: _ => isHexDigit a && isHexDigit b && isHexDigit c && isHexDigit d
  | _ => false

/-- Whether a text can stand between the quotes of a string: no control characters, no lone quote,
and only known escapes. -/
def isStringBody : List Char → Bool
  | [] => true
  | '"' :: _ => false
  | '\\' :: 'u' :: rest => startsWithFourHexDigits rest && isStringBody rest
  | '\\' :: c :: rest => isShortEscape c && isStringBody rest
  | c :: rest => c != '\\' && 0x20 ≤ c.toNat && isStringBody rest

/-- Digits as a numeral's whole part: a single zero, or digits that start with another one. -/
def isWhole : List Char → Bool
  | [] => false
  | ['0'] => true
  | c :: rest => c != '0' && c.isDigit && rest.all Char.isDigit

def Exponent.wellFormed (e : Exponent) : Bool :=
  (e.mark == 'e' || e.mark == 'E') && (e.sign.all fun c => c == '+' || c == '-') &&
    !e.digits.isEmpty && e.digits.all Char.isDigit

def Numeral.wellFormed (n : Numeral) : Bool :=
  isWhole n.whole && n.fraction.all Char.isDigit && n.exponent.all Exponent.wellFormed

mutual

/-- Whether a tree is one of the grammar, so that its text is a JSON value. -/
def Tree.wellFormed : Tree → Bool
  | .null | .bool _ => true
  | .number numeral => numeral.wellFormed
  | .string body => isStringBody body
  | .array gap items => gap.all isGap && (items.isEmpty || gap.isEmpty) && itemsWellFormed items
  | .object gap members =>
      gap.all isGap && (members.isEmpty || gap.isEmpty) && membersWellFormed members

def itemsWellFormed : List (Padded Tree) → Bool
  | [] => true
  | ⟨before, tree, after⟩ :: rest =>
      before.all isGap && tree.wellFormed && after.all isGap && itemsWellFormed rest

def membersWellFormed : List (Padded (List Char) × Padded Tree) → Bool
  | [] => true
  | (key, ⟨before, tree, after⟩) :: rest =>
      key.before.all isGap && isStringBody key.content && key.after.all isGap &&
        before.all isGap && tree.wellFormed && after.all isGap && membersWellFormed rest

end

end OptionSchema.Json
