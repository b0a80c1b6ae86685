import OptionSchema.Json.Layout
import OptionSchema.Json.Read
import OptionSchema.Schema.Node

/-!
# Fields of a wire object

A tagged object has an envelope, which says that it is an option and of which kind, documentation
fields, and at most one payload field. Envelope and documentation fields may not be repeated; what
other members an object has does not matter here.
-/

namespace OptionSchema.Wire

abbrev Members :=
  List (Json.Padded (List Char) × Json.Padded Json.Tree)

/-- What an object says about itself: whether it is an option, and its tag. -/
structure Envelope where
  isOption : Option Bool
  tag : Option (Option String)

def Envelope.readMember (envelope : Envelope) (name : String) (tree : Json.Tree) :
    Except Json.ReadError Envelope :=
  if name = "_option" then
    if envelope.isOption.isSome then .error (.duplicateField name)
    else tree.readBool.map fun value => ⟨some value, envelope.tag⟩
  else if name = "_type" then
    if envelope.tag.isSome then .error (.duplicateField name)
    else tree.readOptionalText.map fun value => ⟨envelope.isOption, some value⟩
  else .ok envelope

/-- Reads the members of an object one by one into a record. Every key is read, the values only as
the record asks for. -/
def readRecord {α : Type} (readMember : α → String → Json.Tree → Except Json.ReadError α) :
    α → Members → Except Json.ReadError α
  | record, [] => .ok record
  | record, (key, value) :: rest => do
      let name ← Json.readString key.content
      let record ← readMember record name value.content
      readRecord readMember record rest

def readEnvelope (members : Members) : Except Json.ReadError Envelope :=
  readRecord Envelope.readMember ⟨none, none⟩ members

inductive DocField where
  | example
  | default
  | defaultText
  | description
  | descriptionClass
  | visible
  | internal
  | readOnly
  deriving DecidableEq

namespace DocField

def name : DocField → String
  | .example => "example"
  | .default => "default"
  | .defaultText => "defaultText"
  | .description => "description"
  | .descriptionClass => "descriptionClass"
  | .visible => "visible"
  | .internal => "internal"
  | .readOnly => "readOnly"

def all : List DocField :=
  [.example, .default, .defaultText, .description, .descriptionClass, .visible, .internal,
    .readOnly]

def ofName? (name : String) : Option DocField :=
  all.find? fun field => field.name == name

def read (field : DocField) (tree : Json.Tree) (doc : Doc) : Except Json.ReadError Doc :=
  match field with
  | .example => tree.readOptionalValue.map fun value => { doc with example? := value }
  | .default => tree.readOptionalValue.map fun value => { doc with default? := value }
  | .defaultText => tree.readText.map fun text => { doc with defaultText := text }
  | .description => tree.readText.map fun text => { doc with description := text }
  | .descriptionClass => tree.readText.map fun text => { doc with descriptionClass := text }
  | .visible => tree.readBool.map fun flag => { doc with visible := flag }
  | .internal => tree.readBool.map fun flag => { doc with internal := flag }
  | .readOnly => tree.readBool.map fun flag => { doc with readOnly := flag }

/-- The tree of a documentation field, unless it has its zero value. -/
def tree? (field : DocField) (layout : Json.Layout) (depth : Nat) (doc : Doc) : Option Json.Tree :=
  match field with
  | .example => value? doc.example?
  | .default => value? doc.default?
  | .defaultText => text? doc.defaultText
  | .description => text? doc.description
  | .descriptionClass => text? doc.descriptionClass
  | .visible => flag? doc.visible
  | .internal => flag? doc.internal
  | .readOnly => flag? doc.readOnly
where
  value? : Option Json.Value → Option Json.Tree
    | none | some .null => none
    | some value => some (value.tree layout depth)
  text? (text : String) : Option Json.Tree :=
    if text.isEmpty then none else some (Json.Layout.string text)
  flag? (flag : Bool) : Option Json.Tree :=
    if flag then some (.bool true) else none

end DocField

structure DocDraft where
  found : List DocField
  doc : Doc

def DocDraft.readMember (draft : DocDraft) (name : String) (tree : Json.Tree) :
    Except Json.ReadError DocDraft :=
  match DocField.ofName? name with
  | none => .ok draft
  | some field =>
      if field ∈ draft.found then .error (.duplicateField name)
      else (field.read tree draft.doc).map fun doc => ⟨field :: draft.found, doc⟩

def readDoc (members : Members) : Except Json.ReadError Doc :=
  (readRecord DocDraft.readMember ⟨[], .empty⟩ members).map DocDraft.doc

def docTrees (layout : Json.Layout) (depth : Nat) (doc : Doc) : List (String × Json.Tree) :=
  DocField.all.filterMap fun field => (field.tree? layout depth doc).map (field.name, ·)

/-- Whether the keys of an object can all be read; the first that cannot is reported. -/
def readKeys (members : Members) : Except Json.ReadError (List String) :=
  members.mapM fun member => Json.readString member.1.content

end OptionSchema.Wire
