import OptionSchema.Schema.Node
import OptionSchema.Text.Piece

/-!
# Paths

A path is a list of member names. `Module.byPath?` follows it through modules and submodule options,
one member at a time. In text the names are joined by dots; splitting a dotted text gives back the
names only if none of them has a dot.
-/

namespace OptionSchema

namespace Path

def dotted (path : List String) : String :=
  ".".intercalate path

/-- The path that a dotted text denotes. The empty text denotes the empty path. -/
def parse (text : String) : List String :=
  if text.isEmpty then [] else (Text.cut (· == '.') text.toList).map String.ofList

def display (path : List String) : String :=
  if path.isEmpty then "<root>" else dotted path

end Path

/-- The node that a path leads to. The empty path leads to the module itself, and nothing lies
behind an option that is not a submodule. -/
def Module.byPath? : List String → Module → Option Node
  | [], module => some (.module module)
  | name :: rest, module =>
      match module.get? name with
      | none => none
      | some node =>
          if rest.isEmpty then some node
          else
            match node.contents? with
            | some contents => contents.byPath? rest
            | none => none

end OptionSchema
