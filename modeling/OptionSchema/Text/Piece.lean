import OptionSchema.Text.Letter

/-!
# Pieces of a text

Cutting a text at separators, into words and into lines, and replacing parts of it. Texts are lists
of characters.
-/

namespace OptionSchema.Text

/-- The pieces between the items that satisfy `p`: one more than there are such items. -/
def cut {α : Type} (p : α → Bool) : List α → List (List α)
  | [] => [[]]
  | c :: rest =>
      if p c then [] :: cut p rest
      else
        match cut p rest with
        | [] => [[c]]
        | piece :: pieces => (c :: piece) :: pieces

/-- The maximal runs of characters that are not blank. -/
def words (text : List Char) : List (List Char) :=
  (cut isBlank text).filter (!·.isEmpty)

/-- The lines of a text. A line ends with a line feed, or with a carriage return and a line feed;
the last one may end with the text. -/
def lines : List Char → List (List Char)
  | [] => []
  | '\n' :: rest => [] :: lines rest
  | '\r' :: '\n' :: rest => [] :: lines rest
  | c :: rest =>
      match lines rest with
      | [] => [[c]]
      | line :: others => (c :: line) :: others

def trimStart (text : List Char) : List Char :=
  text.dropWhile isBlank

def trimEnd (text : List Char) : List Char :=
  (text.reverse.dropWhile isBlank).reverse

def trim (text : List Char) : List Char :=
  trimEnd (trimStart text)

/-- Replaces the occurrences of a part of a text, found from left to right without overlap, after
`skip` characters that belong to the occurrence found last. -/
def replaceFrom (part replacement : List Char) : Nat → List Char → List Char
  | _, [] => []
  | skip + 1, _ :: rest => replaceFrom part replacement skip rest
  | 0, c :: rest =>
      if part.isPrefixOf (c :: rest) then
        replacement ++ replaceFrom part replacement (part.length - 1) rest
      else c :: replaceFrom part replacement 0 rest

/-- Replaces every occurrence of a part of a text that is not empty. -/
def replaceAll (part replacement text : List Char) : List Char :=
  if part.isEmpty then text else replaceFrom part replacement 0 text

end OptionSchema.Text
