import OptionSchema.Codegen.Emitter
import OptionSchema.Proofs.Codegen.Claim
import OptionSchema.Proofs.Schema.Node
import OptionSchema.Proofs.Schema.Order

/-!
# What a tree of options is turned into

`nodeListing` lists, by recursion over a node, all that the node adds to a generated file: the
identifiers it claims, its declarations, its imports and the crates it requires, each in order.
Nothing is reserved or filled here. The declaration of a module stands in front of those of its
members, that of a sum type in front of those of its alternatives, and a wrapper behind those of the
alternative it is for. `nodeType` is the type that stands for the values of a node.
-/

namespace OptionSchema.Codegen

structure Listing where
  claims : List Claim
  declarations : List Declaration
  imports : Imports
  requirements : List (String × List String)

namespace Listing

def empty : Listing :=
  ⟨[], [], ⟨false, false⟩, []⟩

def append (first second : Listing) : Listing :=
  { claims := first.claims ++ second.claims
    declarations := first.declarations ++ second.declarations
    imports :=
      ⟨first.imports.cow || second.imports.cow, first.imports.map || second.imports.map⟩
    requirements := first.requirements ++ second.requirements }

instance : Append Listing := ⟨append⟩

def join : List Listing → Listing
  | [] => empty
  | first :: rest => first ++ join rest

def claim (scope : ScopeName) (identifier source : String) : Listing :=
  { empty with claims := [⟨scope, identifier, source⟩] }

def declare (declaration : Declaration) : Listing :=
  { empty with declarations := [declaration] }

def require (crate : String) (features : List String) : Listing :=
  { empty with requirements := [(crate, features)] }

def importCow : Listing :=
  { empty with imports := ⟨true, false⟩ }

def importMap : Listing :=
  { empty with imports := ⟨false, true⟩ }

def use (builtin : Builtin) : Listing :=
  { empty with requirements := builtin.requirement?.toList }

variable (first second third listing : Listing) (listings : List Listing)

@[simp] theorem claims_append : (first ++ second).claims = first.claims ++ second.claims :=
  rfl

@[simp] theorem declarations_append :
    (first ++ second).declarations = first.declarations ++ second.declarations :=
  rfl

@[simp] theorem requirements_append :
    (first ++ second).requirements = first.requirements ++ second.requirements :=
  rfl

@[simp] theorem imports_append :
    (first ++ second).imports =
      ⟨first.imports.cow || second.imports.cow, first.imports.map || second.imports.map⟩ :=
  rfl

@[ext] theorem ext {first second : Listing} (claims : first.claims = second.claims)
    (declarations : first.declarations = second.declarations)
    (imports : first.imports = second.imports)
    (requirements : first.requirements = second.requirements) : first = second := by
  cases first
  cases second
  simp_all

theorem append_assoc : first ++ second ++ third = first ++ (second ++ third) := by
  ext <;> simp [Bool.or_assoc]

@[simp] theorem empty_append : empty ++ listing = listing := by
  ext <;> simp [empty]

@[simp] theorem append_empty : listing ++ empty = listing := by
  ext <;> simp [empty]

@[simp] theorem join_nil : join [] = empty :=
  rfl

@[simp] theorem join_cons : join (listing :: listings) = listing ++ join listings :=
  rfl

@[simp] theorem claims_join : (join listings).claims = listings.flatMap (·.claims) := by
  induction listings with
  | nil => rfl
  | cons listing rest ih => simp [ih]

@[simp] theorem declarations_join :
    (join listings).declarations = listings.flatMap (·.declarations) := by
  induction listings with
  | nil => rfl
  | cons listing rest ih => simp [ih]

@[simp] theorem claims_empty : empty.claims = [] :=
  rfl

@[simp] theorem declarations_empty : empty.declarations = [] :=
  rfl

@[simp] theorem claims_claim (scope : ScopeName) (identifier source : String) :
    (claim scope identifier source).claims = [⟨scope, identifier, source⟩] :=
  rfl

@[simp] theorem declarations_claim (scope : ScopeName) (identifier source : String) :
    (claim scope identifier source).declarations = [] :=
  rfl

@[simp] theorem claims_declare (declaration : Declaration) : (declare declaration).claims = [] :=
  rfl

@[simp] theorem declarations_declare (declaration : Declaration) :
    (declare declaration).declarations = [declaration] :=
  rfl

@[simp] theorem claims_require (crate : String) (features : List String) :
    (require crate features).claims = [] :=
  rfl

@[simp] theorem declarations_require (crate : String) (features : List String) :
    (require crate features).declarations = [] :=
  rfl

@[simp] theorem claims_importCow : importCow.claims = [] :=
  rfl

@[simp] theorem declarations_importCow : importCow.declarations = [] :=
  rfl

@[simp] theorem claims_importMap : importMap.claims = [] :=
  rfl

@[simp] theorem declarations_importMap : importMap.declarations = [] :=
  rfl

@[simp] theorem claims_use (builtin : Builtin) : (use builtin).claims = [] :=
  rfl

@[simp] theorem declarations_use (builtin : Builtin) : (use builtin).declarations = [] :=
  rfl

end Listing

open Naming (Rules typeIdentifier fieldIdentifier)

/-! ## Types, fields, constants and variants -/

mutual

/-- The type of the values of a node that has the given exported name. -/
def nodeType (name : String) : Node → TypeExpr
  | .module _ => .named (typeIdentifier name)
  | .option _ kind => kindType name kind

def kindType (name : String) : Kind → TypeExpr
  | .scalar kind => .builtin (scalarType kind)
  | .unspecified _ => .builtin .rawJson
  | .enumeration _ => .named (typeIdentifier name)
  | .separatedString _ => .builtin .string
  | .wrapped .unique inner => nodeType name inner
  | .wrapped .nullOr inner => .optional (nodeType name inner)
  | .wrapped .listOf inner => .list (nodeType name inner)
  | .wrapped .attrsOf inner => .map (nodeType name inner)
  | .either alternatives =>
      if isNumber alternatives then .builtin .jsonNumber else .named (typeIdentifier name)
  | .submodule _ => .named (typeIdentifier name)

end

def memberField (rules : Rules) (member : String × Node) : Field :=
  let target := rules.exported member.1
  ⟨member.1, fieldIdentifier target, member.2.doc.description, nodeType target member.2⟩

/-- The struct for a module: a field for each member, in canonical order. -/
def structOf (rules : Rules) (name : String) (path : List String) (contents : Module) :
    Declaration :=
  .struct (typeIdentifier name) path (contents.sorted.map (memberField rules))

def valueConstant (rules : Rules) (identifier value : String) : Constant :=
  ⟨identifier ++ rules.exported value, value⟩

def enumerationOf (rules : Rules) (name : String) (path values : List String) : Declaration :=
  .enumeration (typeIdentifier name) path (values.map (valueConstant rules (typeIdentifier name)))

def variantName (rules : Rules) (alternative : Node) : String :=
  typeIdentifier (rules.exported (alternativeTag alternative))

def alternativeName (rules : Rules) (sum : String) (alternative : Node) : String :=
  sum ++ variantName rules alternative

def alternativeVariant (rules : Rules) (sum : String) (alternative : Node) : Variant :=
  ⟨variantName rules alternative, alternativeTag alternative,
    .named (typeIdentifier (alternativeName rules sum alternative))⟩

def sumOf (rules : Rules) (name : String) (path : List String) (alternatives : List Node) :
    Declaration :=
  .sum (typeIdentifier name) path
    (alternatives.map (alternativeVariant rules (typeIdentifier name)))

/-- The exported name under which an alternative itself is walked: its wrapper, if it has one, keeps
the name of the alternative to itself. -/
def innerName (rules : Rules) (sum : String) (alternative : Node) : String :=
  if declaresType alternative then alternativeName rules sum alternative
  else alternativeName rules sum alternative ++ "Item"

def wrapperOf (rules : Rules) (sum : String) (alternative : Node) : Declaration :=
  .wrapper (typeIdentifier (alternativeName rules sum alternative)) sum
    (nodeType (innerName rules sum alternative) alternative)

/-! ## Listings -/

def typeClaim (name source : String) : Listing :=
  .claim .types (typeIdentifier name) source

def enumerationListing (rules : Rules) (name : String) (path values : List String) : Listing :=
  let identifier := typeIdentifier name
  typeClaim name (Path.display path) ++ .importCow ++
    .join (values.map fun value =>
      .claim .types (identifier ++ rules.exported value)
        s!"{Path.display path} = {Text.quotedText value}") ++
    .declare (enumerationOf rules name path values)

def structListing (rules : Rules) (name : String) (path : List String) (contents : Module)
    (members : List Listing) : Listing :=
  typeClaim name (Path.display path) ++ .declare (structOf rules name path contents) ++
    .join members

/-- The listing of a member of a struct: its field is claimed before the types of the member. -/
def memberListing (rules : Rules) (struct member : String) (inner : Listing) : Listing :=
  .claim (.fields struct) (fieldIdentifier (rules.exported member)) member ++ inner

def sumListing (rules : Rules) (name : String) (path : List String) (alternatives : List Node)
    (inner : Listing) : Listing :=
  typeClaim name (Path.display path) ++ .require "serde_json" ["raw_value"] ++
    .declare (sumOf rules name path alternatives) ++ inner

/-- The listing of an alternative of a sum type: the wrapper, if there is one, is claimed in front
of the types of the alternative and declared behind them. -/
def alternativeListing (rules : Rules) (path : List String) (sum : String) (alternative : Node)
    (inner : Listing) : Listing :=
  if declaresType alternative then inner
  else
    typeClaim (alternativeName rules sum alternative)
        s!"{Path.display path} ({alternativeTag alternative} alternative)" ++
      inner ++ .declare (wrapperOf rules sum alternative)

mutual

def nodeListing (rules : Rules) (name : String) (path : List String) : Node → Listing
  | .module contents => moduleListing rules name path contents
  | .option _ kind => kindListing rules name path kind

def kindListing (rules : Rules) (name : String) (path : List String) : Kind → Listing
  | .scalar kind => .use (scalarType kind)
  | .unspecified _ => .use .rawJson
  | .enumeration values => enumerationListing rules name path values
  | .separatedString _ => .use .string
  | .wrapped .unique inner => nodeListing rules name path inner
  | .wrapped .nullOr inner => nodeListing rules name path inner
  | .wrapped .listOf inner => nodeListing rules name path inner
  | .wrapped .attrsOf inner => .importMap ++ nodeListing rules name path inner
  | .either alternatives =>
      if isNumber alternatives then .use .jsonNumber
      else
        sumListing rules name path alternatives
          (alternativesListing rules path (typeIdentifier name) alternatives)
  | .submodule contents => moduleListing rules name path contents

def moduleListing (rules : Rules) (name : String) (path : List String) : Module → Listing
  | ⟨members⟩ =>
      structListing rules name path ⟨members⟩
        ((canonicalOrder (memberListings rules (typeIdentifier name) path members)).map Prod.snd)

def memberListings (rules : Rules) (struct : String) (path : List String) :
    List (String × Node) → List (String × Listing)
  | [] => []
  | (member, node) :: rest =>
      (member, memberListing rules struct member
        (nodeListing rules (rules.exported member) (path ++ [member]) node)) ::
        memberListings rules struct path rest

def alternativesListing (rules : Rules) (path : List String) (sum : String) :
    List Node → Listing
  | [] => .empty
  | node :: rest =>
      alternativeListing rules path sum node
          (nodeListing rules (innerName rules sum node) path node) ++
        alternativesListing rules path sum rest

end

variable {rules : Rules} {name sum : String} {path : List String}

theorem memberListings_eq (struct : String) (members : List (String × Node)) :
    memberListings rules struct path members =
      members.map fun member =>
        (member.1, memberListing rules struct member.1
          (nodeListing rules (rules.exported member.1) (path ++ [member.1]) member.2)) := by
  induction members with
  | nil => rfl
  | cons member rest ih => rw [memberListings, ih, List.map_cons]

theorem claims_enumerationListing {values : List String} :
    (enumerationListing rules name path values).claims =
      ⟨.types, typeIdentifier name, Path.display path⟩ :: values.map fun value =>
        ⟨.types, typeIdentifier name ++ rules.exported value,
          s!"{Path.display path} = {Text.quotedText value}"⟩ := by
  simp [enumerationListing, typeClaim, List.flatMap_map, ← List.map_eq_flatMap]

theorem declarations_enumerationListing {values : List String} :
    (enumerationListing rules name path values).declarations =
      [enumerationOf rules name path values] := by
  have noDeclaration : (values.flatMap fun _ => ([] : List Declaration)) = [] := by simp
  simp [enumerationListing, typeClaim, List.flatMap_map, noDeclaration]

/-- A module is turned into its struct and what its members are turned into, in canonical order. -/
theorem moduleListing_eq (contents : Module) :
    moduleListing rules name path contents =
      structListing rules name path contents (contents.sorted.map fun member =>
        memberListing rules (typeIdentifier name) member.1
          (nodeListing rules (rules.exported member.1) (path ++ [member.1]) member.2)) := by
  obtain ⟨members⟩ := contents
  rw [moduleListing, memberListings_eq, canonicalOrder_map, List.map_map]
  rfl

theorem alternativesListing_eq (alternatives : List Node) :
    alternativesListing rules path sum alternatives =
      .join (alternatives.map fun node => alternativeListing rules path sum node
        (nodeListing rules (innerName rules sum node) path node)) := by
  induction alternatives with
  | nil => rfl
  | cons node rest ih => rw [alternativesListing, ih, List.map_cons, Listing.join_cons]

/-- A module and a submodule are turned into the same. -/
theorem nodeListing_of_contents {node : Node} {contents : Module}
    (holds : node.contents? = some contents) :
    nodeListing rules name path node = moduleListing rules name path contents := by
  unfold Node.contents? at holds
  split at holds <;> cases holds <;> rfl

/-- A wrapping kind adds at most an import. -/
theorem nodeListing_wrapped {doc : Doc} {wrapper : Wrapper} {inner : Node} :
    nodeListing rules name path (.option doc (.wrapped wrapper inner)) =
      (if wrapper = .attrsOf then .importMap else .empty) ++ nodeListing rules name path inner := by
  rw [nodeListing]
  cases wrapper <;> simp [kindListing]

theorem nodeListing_either {doc : Doc} {alternatives : List Node}
    (several : isNumber alternatives = false) :
    nodeListing rules name path (.option doc (.either alternatives)) =
      sumListing rules name path alternatives
        (alternativesListing rules path (typeIdentifier name) alternatives) := by
  rw [nodeListing, kindListing, several]
  rfl

/-- A node that declares a type has that type. -/
theorem nodeType_of_declaresType {node : Node} (declares : declaresType node = true) :
    nodeType name node = .named (typeIdentifier name) := by
  induction node using Node.induction with
  | step node ih =>
      cases node with
      | module contents => rfl
      | option doc kind =>
          rw [declaresType] at declares
          rw [nodeType]
          cases kind with
          | scalar | unspecified | separatedString => cases declares
          | enumeration | submodule => rfl
          | either alternatives =>
              rw [kindDeclaresType, Bool.not_eq_true'] at declares
              rw [kindType, declares]
              rfl
          | wrapped wrapper inner =>
              cases wrapper with
              | unique => exact ih inner (List.mem_singleton.mpr rfl) declares
              | nullOr | listOf | attrsOf => cases declares

/-! ## Induction over listings -/

/-- A property of listings that is kept by putting them in a row. -/
structure Listing.Compositional (property : Listing → Prop) : Prop where
  empty : property .empty
  append {first second : Listing} : property first → property second → property (first ++ second)

theorem Listing.Compositional.join {property : Listing → Prop} (holds : Compositional property)
    {listings : List Listing} (each : ∀ listing ∈ listings, property listing) :
    property (.join listings) := by
  induction listings with
  | nil => exact holds.empty
  | cons listing rest ih =>
      rw [List.forall_mem_cons] at each
      exact holds.append each.1 (ih each.2)

/-- What holds of the listings of all nodes: it is kept in a row, and it holds of a struct, an
enumeration, a sum type and a wrapper if it holds of what they are made of. -/
theorem nodeListing_induction {rules : Rules} {property : Listing → Prop}
    (compositional : Listing.Compositional property) (use : ∀ builtin, property (.use builtin))
    (importMap : property .importMap)
    (enumeration : ∀ name path values, property (enumerationListing rules name path values))
    (struct : ∀ name path contents (inner : String × Node → Listing),
      (∀ member ∈ contents.sorted, property (inner member)) →
        property (structListing rules name path contents (contents.sorted.map fun member =>
          memberListing rules (typeIdentifier name) member.1 (inner member))))
    (sum : ∀ name path alternatives inner, property inner →
      property (sumListing rules name path alternatives inner))
    (alternative : ∀ path sum node inner, property inner →
      property (alternativeListing rules path sum node inner)) (node : Node) :
    ∀ name path, property (nodeListing rules name path node) := by
  induction node using Node.induction with
  | step node ih =>
      intro name path
      have module (contents : Module) (each : ∀ node ∈ contents.nodes, ∀ name path,
          property (nodeListing rules name path node)) :
          property (moduleListing rules name path contents) := by
        rw [moduleListing_eq]
        refine struct name path contents _ fun member isMember => ?_
        exact each member.2 (List.mem_map_of_mem (mem_canonicalOrder.mp isMember)) _ _
      cases node with
      | module contents => exact module contents ih
      | option doc kind =>
          rw [nodeListing]
          cases kind with
          | scalar scalar => exact use _
          | unspecified source => exact use _
          | enumeration values => exact enumeration name path values
          | separatedString separator => exact use _
          | submodule contents => exact module contents ih
          | wrapped wrapper inner =>
              have holds := ih inner (List.mem_singleton.mpr rfl) name path
              cases wrapper with
              | unique => exact holds
              | nullOr => exact holds
              | listOf => exact holds
              | attrsOf => exact compositional.append importMap holds
          | either alternatives =>
              rw [kindListing]
              split
              · exact use _
              · rw [alternativesListing_eq]
                refine sum name path alternatives _ (compositional.join ?_)
                refine List.forall_mem_map.mpr fun node member => alternative _ _ node _ ?_
                exact ih node member _ _

end OptionSchema.Codegen
