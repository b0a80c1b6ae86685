import OptionSchema.Codegen.Declaration
import OptionSchema.Codegen.Dependencies
import OptionSchema.Naming.Identifier
import OptionSchema.Schema.Order
import OptionSchema.Schema.Path

/-!
# Emitting declarations

One walk over an option tree, in canonical order, emits the declarations of a file. A struct or sum
type reserves its place before the types of its members are emitted, so it stands in front of them,
and fills the place once they are known. Every identifier is claimed when it is met; the walk stops
at the first collision, and at an option whose tag is none of the vocabulary.
-/

namespace OptionSchema.Codegen

/-! ## Scopes

Within a scope every identifier can be claimed once. A second claim is a collision, which names the
source of both claims. -/

/-- Where identifiers have to differ: among the types of a file or among the fields of a struct. -/
inductive ScopeName where
  | types
  | fields (identifier : String)
  deriving DecidableEq

def ScopeName.describe : ScopeName → String
  | .types => "the type namespace"
  | .fields identifier => s!"the fields of `{identifier}`"

/-- Two sources that claim one identifier of a scope. -/
structure Collision where
  scope : ScopeName
  target : String
  first : String
  second : String
  deriving DecidableEq

def Collision.message (c : Collision) : String :=
  s!"naming collision in {c.scope.describe}: " ++
    s!"`{c.first}` and `{c.second}` both render as `{c.target}`"

inductive CodegenError where
  | collision (cause : Collision)
  | unreachableVariant (tag : String)
  | format
  deriving DecidableEq

def CodegenError.message : CodegenError → String
  | .collision cause => cause.message
  | .unreachableVariant tag =>
      s!"unreachable option variant `{tag}`: registry and model disagree"
  | .format => "an error occurred when formatting an argument"

structure Scope where
  name : ScopeName
  claimed : List (String × String)

def Scope.start (name : ScopeName) : Scope :=
  ⟨name, []⟩

def Scope.claim (scope : Scope) (target source : String) : Except CodegenError Scope :=
  match scope.claimed.lookup target with
  | some first => .error (.collision ⟨scope.name, target, first, source⟩)
  | none => .ok { scope with claimed := (target, source) :: scope.claimed }

/-! ## The walk -/

/-- What has been emitted so far. A place that is reserved and not yet filled holds nothing. -/
structure Emitter where
  types : Scope
  items : Array (Option Declaration)
  imports : Imports
  dependencies : Dependencies

abbrev Emit :=
  StateT Emitter (Except CodegenError)

namespace Emitter

/-- Before the walk only the serialization crate is needed. -/
def start : Emitter :=
  { types := .start .types
    items := #[]
    imports := ⟨false, false⟩
    dependencies := Dependencies.empty.require "serde" ["derive"] }

def declarations (emitter : Emitter) : List Declaration :=
  emitter.items.toList.filterMap id

end Emitter

def claimType (identifier source : String) : Emit Unit := fun emitter => do
  let types ← emitter.types.claim identifier source
  return ((), { emitter with types })

def reserve : Emit Nat := fun emitter =>
  .ok (emitter.items.size, { emitter with items := emitter.items.push none })

def fill (place : Nat) (declaration : Declaration) : Emit Unit :=
  modify fun emitter => { emitter with items := emitter.items.setIfInBounds place declaration }

def push (declaration : Declaration) : Emit Unit :=
  modify fun emitter => { emitter with items := emitter.items.push declaration }

def requireCrate (crate : String) (features : List String) : Emit Unit :=
  modify fun emitter =>
    { emitter with dependencies := emitter.dependencies.require crate features }

def useBuiltin (builtin : Builtin) : Emit TypeExpr := do
  match builtin.requirement? with
  | some (crate, features) => requireCrate crate features
  | none => pure ()
  return .builtin builtin

def importCow : Emit Unit :=
  modify fun emitter => { emitter with imports := { emitter.imports with cow := true } }

def importMap : Emit Unit :=
  modify fun emitter => { emitter with imports := { emitter.imports with map := true } }

/-- What is left to do for a member: its description, its exported name, and the emission of its
type. -/
structure MemberTask where
  description : String
  target : String
  emitType : Emit TypeExpr

/-- Emits the fields of a struct. A field is claimed before the type of its member is emitted. -/
def emitFields : Scope → List (String × MemberTask) → Emit (List Field)
  | _, [] => return []
  | scope, (member, task) :: rest => do
      let identifier := Naming.fieldIdentifier task.target
      let scope ← scope.claim identifier member
      let type ← task.emitType
      let fields ← emitFields scope rest
      return ⟨member, identifier, task.description, type⟩ :: fields

def emitConstants (rules : Naming.Rules) (path : List String) (identifier : String) :
    List String → Emit (List Constant)
  | [] => return []
  | value :: rest => do
      let constant := identifier ++ rules.exported value
      claimType constant s!"{Path.display path} = {Text.quotedText value}"
      let constants ← emitConstants rules path identifier rest
      return ⟨constant, value⟩ :: constants

def emitEnumeration (rules : Naming.Rules) (name : String) (path values : List String) :
    Emit TypeExpr := do
  let identifier := Naming.typeIdentifier name
  claimType identifier (Path.display path)
  importCow
  let constants ← emitConstants rules path identifier values
  push (.enumeration identifier path constants)
  return .named identifier

mutual

/-- Whether a node declares a named type that can stand for an alternative by itself. -/
def declaresType : Node → Bool
  | .module _ => true
  | .option _ kind => kindDeclaresType kind

def kindDeclaresType : Kind → Bool
  | .submodule _ | .enumeration _ => true
  | .either alternatives => !isNumber alternatives
  | .wrapped .unique inner => declaresType inner
  | _ => false

end

/-- The tag of an alternative; a module counts as a submodule. -/
def alternativeTag (node : Node) : String :=
  (node.tag?.getD .submodule).name

mutual

/-- Emits the types of a node that has the given exported name. An option is refused if its tag is
none of the vocabulary. -/
def emitNode (rules : Naming.Rules) (name : String) (path : List String) : Node → Emit TypeExpr
  | .module contents => emitModule rules name path contents
  | .option _ kind =>
      if Tag.isRegistered kind.tag.name then emitKind rules name path kind
      else throw (.unreachableVariant kind.tag.name)

def emitKind (rules : Naming.Rules) (name : String) (path : List String) : Kind → Emit TypeExpr
  | .scalar kind => useBuiltin (scalarType kind)
  | .unspecified _ => useBuiltin .rawJson
  | .enumeration values => emitEnumeration rules name path values
  | .separatedString _ => useBuiltin .string
  | .wrapped .unique inner => emitNode rules name path inner
  | .wrapped .nullOr inner => do return .optional (← emitNode rules name path inner)
  | .wrapped .listOf inner => do return .list (← emitNode rules name path inner)
  | .wrapped .attrsOf inner => do
      importMap
      return .map (← emitNode rules name path inner)
  | .either alternatives =>
      if isNumber alternatives then useBuiltin .jsonNumber
      else do
        let identifier := Naming.typeIdentifier name
        claimType identifier (Path.display path)
        requireCrate "serde_json" ["raw_value"]
        let place ← reserve
        let variants ← emitAlternatives rules path identifier alternatives
        fill place (.sum identifier path variants)
        return .named identifier
  | .submodule contents => emitModule rules name path contents

def emitModule (rules : Naming.Rules) (name : String) (path : List String) :
    Module → Emit TypeExpr
  | ⟨members⟩ => do
      let identifier := Naming.typeIdentifier name
      claimType identifier (Path.display path)
      let place ← reserve
      let fields ← emitFields (.start (.fields identifier))
        (canonicalOrder (memberTasks rules path members))
      fill place (.struct identifier path fields)
      return .named identifier

def memberTasks (rules : Naming.Rules) (path : List String) :
    List (String × Node) → List (String × MemberTask)
  | [] => []
  | (member, node) :: rest =>
      let target := rules.exported member
      (member, ⟨node.doc.description, target, emitNode rules target (path ++ [member]) node⟩) ::
        memberTasks rules path rest

/-- Emits the types of the alternatives of a sum type. An alternative that declares no type of its
own gets a wrapper, behind the types inside it. -/
def emitAlternatives (rules : Naming.Rules) (path : List String) (identifier : String) :
    List Node → Emit (List Variant)
  | [] => return []
  | node :: rest => do
      let tag := alternativeTag node
      let variant := Naming.typeIdentifier (rules.exported tag)
      let wrapper := identifier ++ variant
      let payload ←
        if declaresType node then emitNode rules wrapper path node
        else do
          let wrapperIdentifier := Naming.typeIdentifier wrapper
          claimType wrapperIdentifier s!"{Path.display path} ({tag} alternative)"
          let inner ← emitNode rules (wrapper ++ "Item") path node
          push (.wrapper wrapperIdentifier identifier inner)
          pure (TypeExpr.named wrapperIdentifier)
      let variants ← emitAlternatives rules path identifier rest
      return ⟨variant, tag, payload⟩ :: variants

end

end OptionSchema.Codegen
