import OptionSchema.Comment.Block

/-!
# Documentation comments

A description is written as a comment whose lines start with three slashes. Paragraphs are wrapped
greedily: a line takes words as long as they fit, and a word that is too long has a line of its own.
-/

namespace OptionSchema.Comment

/-- The lines of a paragraph whose first line starts with `line` and goes on with `words`. -/
def fill (width : Nat) (line : List Char) : List (List Char) → List (List Char)
  | [] => if line.isEmpty then [] else [line]
  | word :: rest =>
      if line.isEmpty then fill width word rest
      else if width < line.length + 1 + word.length then line :: fill width word rest
      else fill width (line ++ ' ' :: word) rest

def wrap (width : Nat) (text : List Char) : List (List Char) :=
  fill width [] (Text.words text)

def Block.lines (width : Nat) : Block → List (List Char)
  | .paragraph text => wrap width text
  | .verbatim lines => lines
  | .gap => [[]]

def leastWidth : Nat :=
  20

/-- The lines of a description whose paragraphs are wrapped to the given width. -/
def reflow (width : Nat) (description : List Char) : List (List Char) :=
  (blocksOf description).flatMap (Block.lines (max width leastWidth))

def commentLine (indent text : List Char) : List Char :=
  let text := sanitize text
  indent ++ ['/', '/', '/'] ++ (if text.isEmpty then [] else ' ' :: text)

def columns : Nat :=
  80

/-- The comment for a description. The slashes, the space after them and the bytes of the indent
leave the rest of the columns for the text. -/
def comment (indent : String) (description : String) : List (List Char) :=
  (reflow (columns - (indent.utf8ByteSize + 4)) description.toList).map
    (commentLine indent.toList)

end OptionSchema.Comment
