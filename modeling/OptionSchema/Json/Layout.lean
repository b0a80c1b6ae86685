import OptionSchema.Json.Escape
import OptionSchema.Json.Value

/-!
# Layouts

Values are written in one of two layouts. The compact one has no blanks. The indented one puts every
item and member on a line of its own, two spaces deeper than the brackets around it, and a space
after each colon; empty arrays and objects stay on one line.
-/

namespace OptionSchema.Json

inductive Layout where
  | compact
  | indented
  deriving DecidableEq

namespace Layout

def lineBreak (layout : Layout) (depth : Nat) : List Char :=
  match layout with
  | .compact => []
  | .indented => '\n' :: List.replicate (2 * depth) ' '

def afterColon : Layout → List Char
  | .compact => []
  | .indented => [' ']

def padItems (layout : Layout) (depth : Nat) : List Tree → List (Padded Tree)
  | [] => []
  | [item] => [⟨layout.lineBreak (depth + 1), item, layout.lineBreak depth⟩]
  | item :: rest => ⟨layout.lineBreak (depth + 1), item, []⟩ :: padItems layout depth rest

def array (layout : Layout) (depth : Nat) (items : List Tree) : Tree :=
  .array [] (layout.padItems depth items)

def padMembers (layout : Layout) (depth : Nat) :
    List (String × Tree) → List (Padded (List Char) × Padded Tree)
  | [] => []
  | (key, tree) :: rest =>
      (⟨layout.lineBreak (depth + 1), escape key.toList, []⟩,
        ⟨layout.afterColon, tree, if rest.isEmpty then layout.lineBreak depth else []⟩) ::
        padMembers layout depth rest

def object (layout : Layout) (depth : Nat) (members : List (String × Tree)) : Tree :=
  .object [] (layout.padMembers depth members)

def string (text : String) : Tree :=
  .string (escape text.toList)

end Layout

/-- The tree of a number. A double that is no number has none and is written as null. -/
def Number.tree : Number → Tree
  | .float value => if value.isFinite then .number (floatNumeral value) else .null
  | number => .number number.numeral

mutual

def Value.tree (layout : Layout) (depth : Nat) : Value → Tree
  | .null => .null
  | .bool value => .bool value
  | .number value => value.tree
  | .string value => Layout.string value
  | .array items => layout.array depth (itemTrees layout (depth + 1) items)
  | .object members => layout.object depth (memberTrees layout (depth + 1) members)

def itemTrees (layout : Layout) (depth : Nat) : List Value → List Tree
  | [] => []
  | item :: rest => item.tree layout depth :: itemTrees layout depth rest

def memberTrees (layout : Layout) (depth : Nat) : List (String × Value) → List (String × Tree)
  | [] => []
  | (key, value) :: rest => (key, value.tree layout depth) :: memberTrees layout depth rest

end

def Value.text (value : Value) : String :=
  String.ofList (value.tree .compact 0).text

end OptionSchema.Json
