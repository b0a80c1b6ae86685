import OptionSchema.Wire.Error
import OptionSchema.Wire.Field

/-!
# Decoding the wire form

A document is scanned as a whole and then read from its root. An object is an option if its envelope
says so, and a module otherwise. Of an option with a tag outside the vocabulary the whole tree is
kept; its documentation is empty if it cannot be read. Members and payload fields may be repeated:
the last occurrence counts. Members are read in ascending order of their names, so the first error
in that order is reported.
-/

namespace OptionSchema.Wire

def payloadField? : Tag → Option String
  | .scalar _ | .unspecified => none
  | .enumeration => some "enum"
  | .separatedString => some "separator"
  | .wrapped wrapper => some wrapper.name
  | .either => some "either"
  | .submodule => some "submodule"

def located {α : Type} (path : List String) (result : Except Json.ReadError α) :
    Except DecodeError α :=
  result.mapError (.shape path)

/-- The module of the members that have been read, or the first error among them. -/
def collect (entries : List (String × Except DecodeError Node)) : Except DecodeError Module := do
  let members ← entries.mapM fun (name, result) => result.map (name, ·)
  return ⟨members⟩

mutual

def readNode (path : List String) : Json.Tree → Except DecodeError Node
  | .object gap members => do
      let envelope ← located path (readEnvelope members)
      if envelope.isOption = some true then
        match Tag.ofName? (envelope.tag.join.getD "") with
        | none =>
            let doc := (readDoc members).toOption.getD .empty
            return .option doc (.unspecified (.object gap members))
        | some tag =>
            let kind ←
              match tag with
              | .scalar scalar => .ok (.scalar scalar)
              | .unspecified => .ok (.unspecified (.object gap members))
              | tag =>
                  match readPayload path tag members with
                  | some result => result
                  | none => .error (.missingField path tag ((payloadField? tag).getD ""))
            if kind.tag.name ≠ tag.name then .error (.unreachableVariant tag.name)
            else
              let doc ← located path (readDoc members)
              return .option doc kind
      else (collect (readMembers path members)).map .module
  | _ => .error (.notAnObject path)

/-- Reads a tree as a module, whatever its envelope says. -/
def readModule (path : List String) : Json.Tree → Except DecodeError Module
  | .object _ members => do
      let _ ← located path (readKeys members)
      collect (readMembers path members)
  | _ => .error (.notAnObject path)

def readAlternatives (path : List String) : Json.Tree → Except DecodeError (List Node)
  | .array _ items => readItems path 0 items
  | tree => located path (tree.mismatch .sequence)

/-- Reads the items of an array as nodes; the index of an item is a name of its path. -/
def readItems (path : List String) (index : Nat) :
    List (Json.Padded Json.Tree) → Except DecodeError (List Node)
  | [] => .ok []
  | ⟨_, tree, _⟩ :: rest => do
      let node ← readNode (path ++ [Text.decimal index]) tree
      let nodes ← readItems path (index + 1) rest
      return node :: nodes

/-- Reads the members of an object as nodes, without looking at those that come again later. -/
def readMembers (path : List String) : Members → List (String × Except DecodeError Node)
  | [] => []
  | (key, ⟨_, tree, _⟩) :: rest =>
      let others := readMembers path rest
      match Json.readString key.content with
      | .error _ => others
      | .ok name =>
          if Dictionary.contains name others then others
          else Dictionary.insert name (readNode (path ++ [name]) tree) others

/-- Reads the kind with the given tag from the last member that is its payload field, if there is
one. -/
def readPayload (path : List String) (tag : Tag) : Members → Option (Except DecodeError Kind)
  | [] => none
  | (key, ⟨_, tree, _⟩) :: rest =>
      match readPayload path tag rest with
      | some result => some result
      | none =>
          let name := (Json.readString key.content).toOption
          if name = none ∨ name ≠ payloadField? tag then none
          else
            let path := path ++ name.toList
            match tag with
            | .scalar _ | .unspecified => none
            | .enumeration => some ((located path tree.readTexts).map .enumeration)
            | .separatedString => some ((located path tree.readText).map .separatedString)
            | .wrapped wrapper => some ((readNode path tree).map (.wrapped wrapper))
            | .either => some ((readAlternatives path tree).map .either)
            | .submodule => some ((readModule path tree).map .submodule)

end

def decode (bytes : ByteArray) : Except DecodeError Module := do
  let tree ← (Json.Tree.ofBytes? bytes).mapError .json
  readModule [] tree

def decodeNode (bytes : ByteArray) : Except DecodeError Node := do
  let tree ← (Json.Tree.ofBytes? bytes).mapError .json
  readNode [] tree

end OptionSchema.Wire
