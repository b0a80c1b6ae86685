import OptionSchema.Json.Embedded

/-!
# Reading trees

The value of a tree, and trees that should be of some kind. Reading fails at the first string,
number or bracket of the text that cannot be read.
-/

namespace OptionSchema.Json

/-- The most levels of arrays and objects that a value inside an object can have. -/
def depthLimit : Nat :=
  126

/-- What is reported of a tree of the wrong kind. Strings and numbers are read for the report, and
the first thing in them that cannot be read is reported instead. -/
def Tree.found : Tree → Except ReadError Found
  | .null => .ok .null
  | .bool value => .ok (.bool value)
  | .number numeral => (readNumber numeral).map .number
  | .string body => (readString body).map .string
  | .array _ _ => .ok .sequence
  | .object _ _ => .ok .map

def Tree.mismatch {α : Type} (tree : Tree) (expected : Expected) : Except ReadError α := do
  let found ← tree.found
  .error (.invalidType found expected)

/-- The tree under the key of an embedded text, if that key is the first one. -/
def embeddedTree? : List (Padded (List Char) × Padded Tree) → Option Tree
  | (key, value) :: _ =>
      match readString key.content with
      | .ok name => if name = embeddingMark then some value.content else none
      | .error _ => none
  | [] => none

/-- The value of the text embedded under its key, which has to be the only one of its object. -/
def readEmbedded (tree : Tree) (alone : Bool) : Except ReadError Value :=
  match tree with
  | .string body => do
      let text ← readString body
      let value ← Value.ofText text
      if alone then return value else .error (.malformed .trailingComma)
  | tree => tree.mismatch .embeddedText

mutual

def readValue : Nat → Tree → Except ReadError Value
  | _, .null => .ok .null
  | _, .bool value => .ok (.bool value)
  | _, .number numeral => (readNumber numeral).map .number
  | _, .string body => (readString body).map .string
  | 0, .array _ _ => .error .recursionLimit
  | levels + 1, .array _ items => (readItems levels items).map .array
  | 0, .object _ _ => .error .recursionLimit
  | levels + 1, .object _ members =>
      match embeddedTree? members with
      | some tree => readEmbedded tree (members.length == 1)
      | none => (readMembers levels [] members).map .object

def readItems : Nat → List (Padded Tree) → Except ReadError (List Value)
  | _, [] => .ok []
  | levels, ⟨_, tree, _⟩ :: rest => do
      let value ← readValue levels tree
      let values ← readItems levels rest
      return value :: values

/-- The dictionary of the members of an object and of those read before; of several members with one
key the last one counts. -/
def readMembers : Nat → List (String × Value) → List (Padded (List Char) × Padded Tree) →
    Except ReadError (List (String × Value))
  | _, dictionary, [] => .ok dictionary
  | levels, dictionary, (key, ⟨_, tree, _⟩) :: rest => do
      let name ← readString key.content
      let value ← readValue levels tree
      readMembers levels (Dictionary.insert name value dictionary) rest

end

def Tree.readText : Tree → Except ReadError String
  | .string body => readString body
  | tree => tree.mismatch .string

def Tree.readBool : Tree → Except ReadError Bool
  | .bool value => .ok value
  | tree => tree.mismatch .bool

def Tree.readOptionalText : Tree → Except ReadError (Option String)
  | .null => .ok none
  | tree => tree.readText.map some

/-- The value of a tree, where null means that there is none. -/
def Tree.readOptionalValue : Tree → Except ReadError (Option Value)
  | .null => .ok none
  | tree => (readValue depthLimit tree).map some

def Tree.readArray : Tree → Except ReadError (List Tree)
  | .array _ items => .ok (items.map Padded.content)
  | tree => tree.mismatch .sequence

def Tree.readTexts (tree : Tree) : Except ReadError (List String) := do
  let items ← tree.readArray
  items.mapM Tree.readText

end OptionSchema.Json
