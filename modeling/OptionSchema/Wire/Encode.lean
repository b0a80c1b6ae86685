import OptionSchema.Wire.Error
import OptionSchema.Wire.Field

/-!
# Encoding the wire form

A module becomes the object of its members, an option the object of its envelope, documentation and
payload fields: `_option` and `_type` first, then the others in ascending order of their names. A
kind outside the vocabulary is written as the tree it was kept as. Nothing is written of a module
with any other option whose tag the vocabulary does not have.
-/

namespace OptionSchema.Wire

mutual

def nodeTree (layout : Json.Layout) (depth : Nat) : Node → Json.Tree
  | .module contents => moduleTree layout depth contents
  | .option _ (.unspecified source) => source
  | .option doc kind =>
      layout.object depth <|
        ("_option", .bool true) :: ("_type", Json.Layout.string kind.tag.name) ::
          Dictionary.ofPairs
            (docTrees layout (depth + 1) doc ++ payloadTrees layout (depth + 1) kind)

def payloadTrees (layout : Json.Layout) (depth : Nat) : Kind → List (String × Json.Tree)
  | .scalar _ | .unspecified _ => []
  | .enumeration values => [("enum", layout.array depth (values.map Json.Layout.string))]
  | .separatedString separator => [("separator", Json.Layout.string separator)]
  | .wrapped wrapper inner => [(wrapper.name, nodeTree layout depth inner)]
  | .either alternatives =>
      [("either", layout.array depth (alternativeTrees layout (depth + 1) alternatives))]
  | .submodule contents => [("submodule", moduleTree layout depth contents)]

def moduleTree (layout : Json.Layout) (depth : Nat) : Module → Json.Tree
  | ⟨members⟩ => layout.object depth (memberTrees layout (depth + 1) members)

def alternativeTrees (layout : Json.Layout) (depth : Nat) : List Node → List Json.Tree
  | [] => []
  | node :: rest => nodeTree layout depth node :: alternativeTrees layout depth rest

def memberTrees (layout : Json.Layout) (depth : Nat) :
    List (String × Node) → List (String × Json.Tree)
  | [] => []
  | (name, node) :: rest => (name, nodeTree layout depth node) :: memberTrees layout depth rest

end

mutual

/-- Refuses a node with an option whose tag is none of the vocabulary. Of several such options the one
that would be written first counts. What is kept as a tree says by itself what it is. -/
def checkNode : Node → Except EncodeError Unit
  | .module contents => checkModule contents
  | .option _ (.unspecified _) => .ok ()
  | .option _ kind =>
      if Tag.isRegistered kind.tag.name then checkPayload kind
      else .error (.unreachableVariant kind.tag.name)

def checkPayload : Kind → Except EncodeError Unit
  | .wrapped _ inner => checkNode inner
  | .either alternatives => checkAlternatives alternatives
  | .submodule contents => checkModule contents
  | _ => .ok ()

def checkModule : Module → Except EncodeError Unit
  | ⟨members⟩ => checkMembers members

def checkAlternatives : List Node → Except EncodeError Unit
  | [] => .ok ()
  | node :: rest => do
      checkNode node
      checkAlternatives rest

def checkMembers : List (String × Node) → Except EncodeError Unit
  | [] => .ok ()
  | (_, node) :: rest => do
      checkNode node
      checkMembers rest

end

def document (tree : Json.Tree) : String :=
  String.ofList tree.text

def encode (module : Module) : String :=
  document (moduleTree .compact 0 module)

def encodePretty (module : Module) : String :=
  document (moduleTree .indented 0 module)

def encodeNode (node : Node) : String :=
  document (nodeTree .compact 0 node)

/-- The document of a module in a layout, unless the module is refused. -/
def tryEncode (layout : Json.Layout) (module : Module) : Except EncodeError String := do
  checkModule module
  return document (moduleTree layout 0 module)

def tryEncodeNode (node : Node) : Except EncodeError String := do
  checkNode node
  return encodeNode node

end OptionSchema.Wire
