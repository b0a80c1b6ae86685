/-!
# Fields

Before a command runs, its words become fields. What a word is replaced by is a row of atoms; the
ones that were neither written nor quoted are cut at separators. A blank separator counts only
between fields, any other one ends a field even if that is empty.
-/

namespace OptionSchema.Shell

/-- An atom of a replaced word: a character, which may be quoted and may separate fields, a place
where a field ends, or the mark that there is a field even if it has no characters. -/
inductive Atom where
  | char (c : Char) (quoted separates : Bool)
  | gap
  | mark
  deriving DecidableEq

/-- The atoms of a value that takes the place of a part of a word. A quoted value is a field even if
it is empty. -/
def valueAtoms (quoted : Bool) (value : List Char) : List Atom :=
  let atoms := value.map fun c => Atom.char c quoted (!quoted)
  if quoted then .mark :: atoms else atoms

/-- The characters of atoms that are not cut, and whether they are quoted. The first separator
stands where a field would end. -/
def atomsText (separators : List Char) (atoms : List Atom) : List (Char × Bool) :=
  atoms.flatMap fun
    | .char c quoted _ => [(c, quoted)]
    | .gap => (separators.take 1).map (·, false)
    | .mark => []

def isBlankSeparator (c : Char) : Bool :=
  c == ' ' || c == '\t' || c == '\n'

/-- The fields that are complete, the last one first, the characters of the one that is not, the
last one first, and whether the last complete one was ended by a blank. -/
structure Cutting where
  fields : List String
  current? : Option (List Char)
  endedByBlank : Bool

namespace Cutting

def complete (cutting : Cutting) (byBlank : Bool) : Cutting :=
  match cutting.current? with
  | none => cutting
  | some characters => ⟨String.ofList characters.reverse :: cutting.fields, none, byBlank⟩

def step (separators : List Char) (cutting : Cutting) (atom : Atom) : Cutting :=
  match atom with
  | .mark => { cutting with current? := some (cutting.current?.getD []) }
  | .gap => cutting.complete false
  | .char c _ separates =>
      if !separates || !separators.contains c then
        { cutting with current? := some (c :: cutting.current?.getD []) }
      else if isBlankSeparator c then cutting.complete true
      else if cutting.current?.isSome then cutting.complete false
      else if cutting.endedByBlank then { cutting with endedByBlank := false }
      else { cutting with fields := "" :: cutting.fields }

end Cutting

def cutFields (separators : List Char) (atoms : List Atom) : List String :=
  let cutting := atoms.foldl (Cutting.step separators) ⟨[], none, false⟩
  (cutting.complete false).fields.reverse

/-! ## Lines

A line that is read is cut into a number of fields, the last of which is all that is left. -/

/-- How far a line has been cut: the complete fields, the last one first, the characters behind
them, the last one first, how many of these are left of the last field if it ends here, how many
more separators end a field, and whether the last field was ended by a blank. -/
structure LineCutting where
  fields : List String
  current : List Char
  kept? : Option Nat
  left : Nat
  endedByBlank : Bool

namespace LineCutting

def push (cutting : LineCutting) (c : Char) : LineCutting :=
  { cutting with current := c :: cutting.current }

/-- Takes a character of the last field. Separators at its end are dropped if they could end only
one field. -/
def stepLast (cutting : LineCutting) (c : Char) (isSeparator : Bool) : LineCutting :=
  if isSeparator && isBlankSeparator c then
    { cutting with kept? := cutting.kept? <|> some cutting.current.length }.push c
  else
    let kept? := if isSeparator && cutting.endedByBlank then cutting.kept? else none
    { cutting with kept?, endedByBlank := false }.push c

def step (separators : List Char) (cutting : LineCutting) (character : Char × Bool) : LineCutting :=
  let (c, isProtected) := character
  let isSeparator := separators.contains c
  let isBlank := isSeparator && isBlankSeparator c
  if isProtected then { cutting with endedByBlank := false }.push c
  else if cutting.left == 0 then cutting.stepLast c isSeparator
  else if cutting.endedByBlank then
    { cutting with current := if isSeparator then [] else [c], endedByBlank := isBlank }
  else if !isSeparator then cutting.push c
  else if isBlank && cutting.current.isEmpty then cutting
  else if cutting.left == 1 then
    let kept? := some cutting.current.length
    { cutting with kept?, left := 0, endedByBlank := isBlank }.push c
  else
    { cutting with
      fields := String.ofList cutting.current.reverse :: cutting.fields
      current := []
      left := cutting.left - 1
      endedByBlank := isBlank }

end LineCutting

/-- Cuts a line into at most a number of fields. A character that is protected separates nothing. -/
def cutLine (separators : List Char) (count : Nat) (line : List (Char × Bool)) : List String :=
  let cutting := line.foldl (LineCutting.step separators) ⟨[], [], none, count, false⟩
  let last := cutting.current.reverse
  let last := (cutting.kept?.map last.take).getD last
  (String.ofList last :: cutting.fields).reverse

end OptionSchema.Shell
