import OptionSchema.Dictionary
import OptionSchema.Text.CaseMapping
import OptionSchema.Text.Piece

/-!
# Exported names

Option names come in any convention: `listen-address`, `extra_config`, `openFirewall`. Each is first
rendered as an exported name, the capitalized words of the option name in one row; the identifiers
of generated code are derived from that rendering.
-/

namespace OptionSchema.Naming

/-- The rules a caller gives for the rendering of names. An initialism is a word that is written in
capitals throughout. An override replaces a part of every rendered name. -/
structure Rules where
  initialisms : List String
  overrides : List (String × String)

def Rules.plain : Rules :=
  ⟨[], []⟩

/-- Rules with the small forms of the given initialisms and no overrides. -/
def Rules.ofInitialisms (initialisms : List String) : Rules :=
  ⟨(NameSet.ofList (initialisms.map Text.smallText)).names, []⟩

/-- Whether a word is an initialism, in any ASCII case. -/
def Rules.isInitialism (rules : Rules) (word : List Char) : Bool :=
  rules.initialisms.any fun known => Text.equalIgnoringAsciiCase known.toList word

/-- A word as a list with one entry, unless it is empty. -/
def someWord (word : List Char) : List (List Char) :=
  if word.isEmpty then [] else [word]

/-- The words of a text that goes on after the start `current` of a word. A word ends at a character
that is neither letter nor number, and between a small letter and a capital one. -/
def wordsAfter (current : List Char) : List Char → List (List Char)
  | [] => someWord current
  | c :: rest =>
      if !Text.isAlphanumeric c then someWord current ++ wordsAfter [] rest
      else if Text.isCapital c && current.getLast?.any Text.isSmall then
        current :: wordsAfter [c] rest
      else wordsAfter (current ++ [c]) rest

def splitWords (part : List Char) : List (List Char) :=
  wordsAfter [] part

def capitalize : List Char → List Char
  | [] => []
  | c :: rest => Text.capitalForm c ++ rest

def Rules.renderWord (rules : Rules) (word : List Char) : List Char :=
  if rules.isInitialism word then Text.capitalText word else capitalize word

/-- The character that separates the parts of a name: a name with a hyphen is in kebab case, any
other in snake case. -/
def separator (name : List Char) : Char :=
  if name.contains '-' then '-' else '_'

def Rules.joined (rules : Rules) (name : List Char) : List Char :=
  (Text.cut (· == separator name) name).flatMap fun part =>
    (splitWords part).flatMap rules.renderWord

/-- Applies the overrides in the order of their keys; an empty key replaces nothing. -/
def Rules.overridden (rules : Rules) (target : List Char) : List Char :=
  rules.overrides.foldl
    (fun text (part, replacement) => Text.replaceAll part.toList replacement.toList text) target

/-- Makes a rendering start like an identifier: an empty one becomes `Unnamed`, and one that starts
with a digit gets an underscore in front. -/
def startIdentifier : List Char → List Char
  | [] => "Unnamed".toList
  | c :: rest => if c.isDigit then '_' :: c :: rest else c :: rest

def Rules.exported (rules : Rules) (name : String) : String :=
  String.ofList (startIdentifier (rules.overridden (rules.joined name.toList)))

end OptionSchema.Naming
