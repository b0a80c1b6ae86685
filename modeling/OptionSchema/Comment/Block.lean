import OptionSchema.Text.Piece

/-!
# Blocks of a description

A description is free-form markdown. It is divided into paragraphs, fenced blocks and breaks between
them: every list item starts a paragraph, a fenced block keeps its lines as they are, and blank
lines leave at most one break between blocks and none at either end.
-/

namespace OptionSchema.Comment

/-- A part of a description: text to be wrapped, lines to be kept, or a break. -/
inductive Block where
  | paragraph (text : List Char)
  | verbatim (lines : List (List Char))
  | gap
  deriving DecidableEq

/-- A line with four spaces for each tab and no blanks at its end. -/
def sanitize (line : List Char) : List Char :=
  Text.trimEnd (line.flatMap fun c => if c == '\t' then [' ', ' ', ' ', ' '] else [c])

def isFence (line : List Char) : Bool :=
  ['\x60', '\x60', '\x60'].isPrefixOf line

/-- Whether a line starts a list item: a hyphen or an asterisk and a space, or digits, a point and a
space. -/
def isListItem (line : List Char) : Bool :=
  let line := Text.trimStart line
  let (digits, rest) := line.span Char.isDigit
  ['-', ' '].isPrefixOf line || ['*', ' '].isPrefixOf line ||
    (!digits.isEmpty && ['.', ' '].isPrefixOf rest)

/-- A description that is being divided: the blocks found so far, the last one first, the paragraph
that is open, and the lines of the fenced block that is open, if any, the last one first. -/
structure Division where
  blocks : List Block
  paragraph : List Char
  fence : Option (List (List Char))

namespace Division

def start : Division :=
  ⟨[], [], none⟩

def flush (division : Division) : Division :=
  if division.paragraph.isEmpty then division
  else { division with blocks := .paragraph division.paragraph :: division.blocks, paragraph := [] }

/-- Adds a break behind a block that is none. -/
def separate (division : Division) : Division :=
  match division.blocks with
  | [] | .gap :: _ => division
  | blocks => { division with blocks := .gap :: blocks }

def extend (division : Division) (text : List Char) : Division :=
  { division with
    paragraph :=
      if division.paragraph.isEmpty then text else division.paragraph ++ ' ' :: text }

/-- Reads a line outside of fenced blocks, without the blanks around it. -/
def readProse (division : Division) (line : List Char) : Division :=
  if isFence line then { division.flush with fence := some [line] }
  else if line.isEmpty then division.flush.separate
  else if isListItem line then division.flush.extend line
  else division.extend line

def readCode (division : Division) (code : List (List Char)) (line : List Char) : Division :=
  let code := line :: code
  if isFence (Text.trimStart line) then
    { division with blocks := .verbatim code.reverse :: division.blocks, fence := none }
  else { division with fence := some code }

def readLine (division : Division) (line : List Char) : Division :=
  let line := sanitize line
  match division.fence with
  | some code => division.readCode code line
  | none => division.readProse (Text.trimStart line)

/-- The blocks in order. A fenced block that is still open is kept; breaks at the end are not. -/
def finish (division : Division) : List Block :=
  let division := division.flush
  let blocks : List Block :=
    match division.fence with
    | some code => .verbatim code.reverse :: division.blocks
    | none => division.blocks
  (blocks.dropWhile (· == .gap)).reverse

end Division

def blocksOf (description : List Char) : List Block :=
  ((Text.lines description).foldl Division.readLine .start).finish

end OptionSchema.Comment
