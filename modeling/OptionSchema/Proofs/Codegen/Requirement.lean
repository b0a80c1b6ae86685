import Mathlib.Logic.Relation
import OptionSchema.Proofs.Codegen.Collision
import OptionSchema.Proofs.Codegen.Source

/-!
# Imports and dependencies

What a generated file imports and the crates that it depends on are exactly what the options ask for
that the walk over the tree reaches (`generate_requirements`). The alternatives of a number are not
reached: a number has a type from elsewhere.
-/

namespace OptionSchema

/-- The nodes that are entered from a node: those right inside it, unless it is a number. -/
def Node.entered : Node → List Node
  | .option _ (.either alternatives) => if isNumber alternatives then [] else alternatives
  | node => node.children

def Node.Reaches : Node → Node → Prop :=
  Relation.ReflTransGen fun node next => next ∈ node.entered

def Node.ReachesKind (node : Node) (property : Kind → Prop) : Prop :=
  ∃ doc kind, node.Reaches (.option doc kind) ∧ property kind

/-- The kinds whose types are from the crate for JSON, sum types included, which are read from
JSON. -/
def Kind.IsJson : Kind → Prop
  | .scalar name => name = .attrs ∨ name = .anything
  | .unspecified _ | .either _ => True
  | _ => False

/-- The kinds whose values are kept as JSON text, be it until an alternative is found. -/
def Kind.IsRawJson : Kind → Prop
  | .unspecified _ => True
  | .either alternatives => isNumber alternatives = false
  | _ => False

def Kind.IsEnumeration : Kind → Prop
  | .enumeration _ => True
  | _ => False

def Kind.IsAttrsOf : Kind → Prop
  | .wrapped .attrsOf _ => True
  | _ => False

/-- Either a node is such an option itself, or a node that is entered from it reaches one. -/
theorem Node.reachesKind_iff {property : Kind → Prop} {node : Node} :
    node.ReachesKind property ↔
      (∃ doc kind, node = .option doc kind ∧ property kind) ∨
        ∃ next ∈ node.entered, next.ReachesKind property := by
  constructor
  · rintro ⟨doc, kind, reaches, holds⟩
    rcases Relation.ReflTransGen.cases_head reaches with rfl | ⟨next, entered, reaches⟩
    · exact .inl ⟨doc, kind, rfl, holds⟩
    · exact .inr ⟨next, entered, doc, kind, reaches, holds⟩
  · rintro (⟨doc, kind, rfl, holds⟩ | ⟨next, entered, doc, kind, reaches, holds⟩)
    · exact ⟨doc, kind, .refl, holds⟩
    · exact ⟨doc, kind, .head entered reaches, holds⟩

theorem Node.reachesKind_congr {property property' : Kind → Prop} {node : Node}
    (same : ∀ kind, property kind ↔ property' kind) :
    node.ReachesKind property ↔ node.ReachesKind property' := by
  simp only [Node.ReachesKind, same]

end OptionSchema

namespace OptionSchema.Codegen

open Naming (Rules typeIdentifier)

variable {rules : Rules} {name : String} {path : List String} {node : Node}

/-! ## What options ask for -/

/-- What an option of a kind asks for by itself, whatever is inside it. -/
def ownListing : Kind → Listing
  | .scalar scalar => .use (scalarType scalar)
  | .unspecified _ => .use .rawJson
  | .enumeration _ => .importCow
  | .separatedString _ => .use .string
  | .wrapped wrapper _ => if wrapper = .attrsOf then .importMap else .empty
  | .either alternatives =>
      if isNumber alternatives then .use .jsonNumber else .require "serde_json" ["raw_value"]
  | .submodule _ => .empty

/-- A mark that a listing has if one of its parts has it, and that neither claims nor declarations
have. -/
structure Listing.IsMark (mark : Listing → Prop) : Prop where
  empty : ¬ mark .empty
  append {first second : Listing} : mark (first ++ second) ↔ mark first ∨ mark second
  claim {scope : ScopeName} {identifier source : String} : ¬ mark (.claim scope identifier source)
  declare {declaration : Declaration} : ¬ mark (.declare declaration)

section

variable {mark : Listing → Prop} (isMark : Listing.IsMark mark)

include isMark

theorem Listing.IsMark.join {listings : List Listing} :
    mark (.join listings) ↔ ∃ listing ∈ listings, mark listing := by
  induction listings with
  | nil => simp [isMark.empty]
  | cons listing rest ih => simp [isMark.append, ih]

theorem Listing.IsMark.enumeration {values : List String} :
    mark (enumerationListing rules name path values) ↔ mark .importCow := by
  simp [enumerationListing, typeClaim, isMark.append, isMark.claim, isMark.declare, isMark.join]

theorem Listing.IsMark.struct {contents : Module} :
    mark (moduleListing rules name path contents) ↔ ∃ member ∈ contents.members,
      mark (nodeListing rules (rules.exported member.1) (path ++ [member.1]) member.2) := by
  simp [moduleListing_eq, structListing, memberListing, typeClaim, isMark.append, isMark.claim,
    isMark.declare, isMark.join, Module.sorted]

theorem Listing.IsMark.sum {alternatives : List Node} (several : isNumber alternatives = false)
    {doc : Doc} :
    mark (nodeListing rules name path (.option doc (.either alternatives))) ↔
      mark (.require "serde_json" ["raw_value"]) ∨ ∃ inner ∈ alternatives,
        mark (nodeListing rules (innerName rules (typeIdentifier name) inner) path inner) := by
  have alternative (inner : Node) (listing : Listing) :
      mark (alternativeListing rules path (typeIdentifier name) inner listing) ↔ mark listing := by
    rw [alternativeListing]
    split
    · rfl
    · simp [typeClaim, isMark.append, isMark.claim, isMark.declare]
  simp [nodeListing_either several, sumListing, alternativesListing_eq, typeClaim, isMark.append,
    isMark.claim, isMark.declare, isMark.join, alternative]

/-- A node is turned into a listing with a mark exactly if it reaches an option that asks for it; by
induction on the node, whatever names and paths the walk gives to the nodes inside. -/
theorem Listing.IsMark.nodeListing_iff (node : Node) : ∀ name path,
    mark (nodeListing rules name path node) ↔
      node.ReachesKind fun kind => mark (ownListing kind) := by
  induction node using Node.induction with
  | step node ih =>
      intro name path
      have struct (contents : Module) (each : ∀ next ∈ contents.nodes, ∀ name path,
          mark (nodeListing rules name path next) ↔
            next.ReachesKind fun kind => mark (ownListing kind)) :
          mark (moduleListing rules name path contents) ↔
            ∃ next ∈ contents.nodes, next.ReachesKind fun kind => mark (ownListing kind) := by
        constructor
        · intro marked
          obtain ⟨member, isMember, marked⟩ := isMark.struct.mp marked
          have isNode : member.2 ∈ contents.nodes := List.mem_map_of_mem isMember
          exact ⟨member.2, isNode, (each member.2 isNode _ _).mp marked⟩
        · rintro ⟨next, isNode, reaches⟩
          obtain ⟨member, isMember, rfl⟩ := List.mem_map.mp isNode
          exact isMark.struct.mpr ⟨member, isMember, (each member.2 isNode _ _).mpr reaches⟩
      rw [Node.reachesKind_iff]
      cases node with
      | module contents => simpa [nodeListing, Node.entered, Node.children] using struct contents ih
      | option doc kind =>
          have own (kind : Kind) : (∃ doc' kind', Node.option doc kind = .option doc' kind' ∧
              mark (ownListing kind')) ↔ mark (ownListing kind) := by
            simp
          rw [own]
          cases kind with
          | scalar | unspecified | separatedString =>
              simp [nodeListing, kindListing, ownListing, Node.entered, Node.children,
                Kind.children]
          | enumeration values =>
              simp [nodeListing, kindListing, isMark.enumeration, ownListing, Node.entered,
                Node.children, Kind.children]
          | submodule contents =>
              simpa [nodeListing, kindListing, ownListing, isMark.empty, Node.entered,
                Node.children, Kind.children] using struct contents ih
          | wrapped wrapper inner =>
              have inside := ih inner (List.mem_singleton.mpr rfl) name path
              simp [nodeListing_wrapped, isMark.append, ownListing, inside, Node.entered,
                Node.children, Kind.children]
          | either alternatives =>
              cases several : isNumber alternatives with
              | true => simp [nodeListing, kindListing, ownListing, several, Node.entered]
              | false =>
                  simp only [isMark.sum several, ownListing, several, Node.entered,
                    Bool.false_eq_true, if_false]
                  refine or_congr_right (exists_congr fun inner => and_congr_right fun member => ?_)
                  exact ih inner member _ _

end

theorem isMark_cow : Listing.IsMark (·.imports.cow = true) where
  empty := Bool.false_ne_true
  append := by simp
  claim := Bool.false_ne_true
  declare := Bool.false_ne_true

theorem isMark_map : Listing.IsMark (·.imports.map = true) where
  empty := Bool.false_ne_true
  append := by simp
  claim := Bool.false_ne_true
  declare := Bool.false_ne_true

/-- A requirement with a property. -/
theorem isMark_requirement (property : String × List String → Prop) :
    Listing.IsMark fun listing => ∃ requirement ∈ listing.requirements, property requirement where
  empty := by simp [Listing.empty]
  append {first second} := by simp [or_and_right, exists_or]
  claim := by simp [Listing.claim, Listing.empty]
  declare := by simp [Listing.declare, Listing.empty]

/-! ## Crates -/

def jsonRequirement : String × List String :=
  ("serde_json", [])

def rawJsonRequirement : String × List String :=
  ("serde_json", ["raw_value"])

/-- The crates of a file in which the crate for JSON is required, with or without its feature. -/
def cratesWith (json raw : Bool) : Dependencies :=
  .requireAll <| ("serde", ["derive"]) ::
    if raw then [rawJsonRequirement] else if json then [jsonRequirement] else []

theorem require_jsonRequirement (json raw : Bool) :
    (cratesWith json raw).require jsonRequirement.1 jsonRequirement.2 = cratesWith true raw := by
  cases json <;> cases raw <;> decide

theorem require_rawJsonRequirement (json raw : Bool) :
    (cratesWith json raw).require rawJsonRequirement.1 rawJsonRequirement.2 =
      cratesWith true true := by
  cases json <;> cases raw <;> decide

theorem list_cratesWith (json raw : Bool) :
    (cratesWith json raw).list =
      ("serde", ["derive"]) ::
        if raw then [rawJsonRequirement] else if json then [jsonRequirement] else [] := by
  cases json <;> cases raw <;> decide

/-- Requirements of the crate for JSON add up. -/
theorem foldl_require {requirements : List (String × List String)}
    (known : ∀ requirement ∈ requirements,
      requirement = jsonRequirement ∨ requirement = rawJsonRequirement) (json raw : Bool) :
    requirements.foldl (fun (dependencies : Dependencies) requirement =>
        dependencies.require requirement.1 requirement.2) (cratesWith json raw) =
      cratesWith (json || !requirements.isEmpty)
        (raw || requirements.contains rawJsonRequirement) := by
  induction requirements generalizing json raw with
  | nil => simp
  | cons requirement rest ih =>
      rw [List.forall_mem_cons] at known
      rw [List.foldl_cons]
      rcases known.1 with rfl | rfl
      · rw [require_jsonRequirement, ih known.2]
        simp [jsonRequirement, rawJsonRequirement]
      · rw [require_rawJsonRequirement, ih known.2]
        simp

theorem isJson_of_isRawJson {kind : Kind} (raw : kind.IsRawJson) : kind.IsJson := by
  cases kind with
  | unspecified | either => trivial
  | scalar | enumeration | separatedString | wrapped | submodule => cases raw

theorem mem_ownListing_iff {kind : Kind} {requirement : String × List String} :
    requirement ∈ (ownListing kind).requirements ↔
      (requirement = jsonRequirement ∧ kind.IsJson ∧ ¬ kind.IsRawJson) ∨
        (requirement = rawJsonRequirement ∧ kind.IsRawJson) := by
  cases kind with
  | scalar scalar =>
      cases scalar <;> simp [ownListing, Listing.use, scalarType, Builtin.requirement?,
        jsonRequirement, Kind.IsJson, Kind.IsRawJson]
  | unspecified source =>
      simp [ownListing, Listing.use, Builtin.requirement?, rawJsonRequirement, Kind.IsRawJson]
  | enumeration | separatedString | submodule =>
      simp [ownListing, Listing.importCow, Listing.use, Listing.empty, Builtin.requirement?,
        Kind.IsJson, Kind.IsRawJson]
  | wrapped wrapper inner =>
      cases wrapper <;> simp [ownListing, Listing.importMap, Listing.empty, Kind.IsJson,
        Kind.IsRawJson]
  | either alternatives =>
      cases several : isNumber alternatives <;> simp [ownListing, several, Listing.use,
        Listing.require, Listing.empty, Builtin.requirement?, jsonRequirement, rawJsonRequirement,
        Kind.IsJson, Kind.IsRawJson]

theorem exists_mem_requirements_iff (rules : Rules) (name : String) (path : List String)
    (node : Node) (property : String × List String → Prop) :
    (∃ requirement ∈ (nodeListing rules name path node).requirements, property requirement) ↔
      node.ReachesKind fun kind =>
        ∃ requirement ∈ (ownListing kind).requirements, property requirement :=
  (isMark_requirement property).nodeListing_iff node name path

/-- The requirements of a node are all of the crate for JSON. -/
theorem known_of_mem_requirements (rules : Rules) (name : String) (path : List String)
    (node : Node) :
    ∀ requirement ∈ (nodeListing rules name path node).requirements,
      requirement = jsonRequirement ∨ requirement = rawJsonRequirement := by
  intro requirement member
  obtain ⟨_, kind, -, _, asked, rfl⟩ := (exists_mem_requirements_iff rules name path node
    (requirement = ·)).mp ⟨requirement, member, rfl⟩
  exact (mem_ownListing_iff.mp asked).imp And.left And.left

theorem requirements_ne_nil_iff (rules : Rules) (name : String) (path : List String)
    (node : Node) :
    (nodeListing rules name path node).requirements ≠ [] ↔ node.ReachesKind Kind.IsJson := by
  have own (kind : Kind) :
      (∃ requirement ∈ (ownListing kind).requirements, True) ↔ kind.IsJson := by
    simp only [mem_ownListing_iff, and_true]
    constructor
    · rintro ⟨_, ⟨-, json, -⟩ | ⟨-, raw⟩⟩
      · exact json
      · exact isJson_of_isRawJson raw
    · intro json
      by_cases raw : kind.IsRawJson
      · exact ⟨_, .inr ⟨rfl, raw⟩⟩
      · exact ⟨_, .inl ⟨rfl, json, raw⟩⟩
  have marked := exists_mem_requirements_iff rules name path node fun _ => True
  rw [Node.reachesKind_congr own] at marked
  rw [← marked]
  exact ⟨fun some => (List.exists_mem_of_ne_nil _ some).imp fun _ member => ⟨member, trivial⟩,
    fun ⟨_, member, _⟩ => List.ne_nil_of_mem member⟩

theorem rawJson_mem_requirements_iff (rules : Rules) (name : String) (path : List String)
    (node : Node) :
    rawJsonRequirement ∈ (nodeListing rules name path node).requirements ↔
      node.ReachesKind Kind.IsRawJson := by
  have own (kind : Kind) :
      (∃ requirement ∈ (ownListing kind).requirements, requirement = rawJsonRequirement) ↔
        kind.IsRawJson := by
    simp [mem_ownListing_iff, jsonRequirement, rawJsonRequirement]
  have marked := exists_mem_requirements_iff rules name path node (· = rawJsonRequirement)
  rw [Node.reachesKind_congr own] at marked
  simpa using marked

/-! ## Files -/

theorem cow_iff (rules : Rules) (name : String) (path : List String) (node : Node) :
    (nodeListing rules name path node).imports.cow = true ↔
      node.ReachesKind Kind.IsEnumeration := by
  rw [isMark_cow.nodeListing_iff]
  refine Node.reachesKind_congr fun kind => ?_
  cases kind with
  | enumeration => exact iff_of_true rfl trivial
  | scalar | unspecified | separatedString | submodule =>
      exact iff_of_false Bool.false_ne_true id
  | wrapped wrapper => cases wrapper <;> exact iff_of_false Bool.false_ne_true id
  | either alternatives =>
      cases several : isNumber alternatives <;>
        simp [ownListing, several, Listing.use, Listing.require, Listing.empty,
          Kind.IsEnumeration]

theorem map_iff (rules : Rules) (name : String) (path : List String) (node : Node) :
    (nodeListing rules name path node).imports.map = true ↔ node.ReachesKind Kind.IsAttrsOf := by
  rw [isMark_map.nodeListing_iff]
  refine Node.reachesKind_congr fun kind => ?_
  cases kind with
  | scalar | unspecified | enumeration | separatedString | submodule =>
      exact iff_of_false Bool.false_ne_true id
  | wrapped wrapper =>
      cases wrapper with
      | attrsOf => exact iff_of_true rfl trivial
      | unique | nullOr | listOf => exact iff_of_false Bool.false_ne_true id
  | either alternatives =>
      cases several : isNumber alternatives <;>
        simp [ownListing, several, Listing.use, Listing.require, Listing.empty, Kind.IsAttrsOf]

theorem mem_lines_iff_imports (file : SourceFile) {line : String} (isUse : IsUse line) :
    line ∈ file.lines ↔
      line = "use serde::{Deserialize, Serialize};" ∨
        (line = "use std::borrow::Cow;" ∧ file.imports.cow = true) ∨
        (line = "use std::collections::BTreeMap;" ∧ file.imports.map = true) := by
  have nonempty : line ≠ "" := by
    rintro rfl
    exact not_isUse_empty isUse
  rw [SourceFile.mem_lines_iff isUse, List.mem_append, List.mem_singleton, or_comm]
  refine or_congr_right ?_
  cases cow : file.imports.cow <;> cases map : file.imports.map <;>
    simp [Imports.lines, cow, map, nonempty]

@[simp]
theorem Listing.file_imports (listing : Listing) (package : String) :
    (listing.file package).imports = listing.imports :=
  rfl

theorem crates_file (options : GenerateOptions) (rules : Rules) (module : Module) :
    ((moduleListing rules options.rootType [] module).file options.package).dependencies =
      cratesWith
        (!(moduleListing rules options.rootType [] module).requirements.isEmpty)
        ((moduleListing rules options.rootType [] module).requirements.contains
          rawJsonRequirement) := by
  have known := known_of_mem_requirements rules options.rootType [] (.module module)
  rw [nodeListing] at known
  have start : Emitter.start.dependencies = cratesWith false false := by decide
  rw [Listing.file, start, foldl_require known, Bool.false_or, Bool.false_or]

/-- Exactly what a tree reaches is imported. A line of the file is a use of what is derived for
every type, or of the type of enumerated texts and an enumeration is reached, or of the type of
dictionaries and a dictionary is reached. The crates are the one that values are derived with, and the
one for JSON if an option for it is reached, which has its feature if text is kept. -/
theorem generate_requirements {options : GenerateOptions} {rules : Rules} {module : Module}
    {file : SourceFile} (generated : generate options rules module = .ok file) :
    file.source = textOfLines file.lines ∧
      (∀ line, IsUse line →
        (line ∈ file.lines ↔
          line = "use serde::{Deserialize, Serialize};" ∨
            (line = "use std::borrow::Cow;" ∧
              (Node.module module).ReachesKind Kind.IsEnumeration) ∨
            (line = "use std::collections::BTreeMap;" ∧
              (Node.module module).ReachesKind Kind.IsAttrsOf))) ∧
      ("use std::borrow::Cow;" ∈ file.lines ↔
        (Node.module module).ReachesKind Kind.IsEnumeration) ∧
      ("use std::collections::BTreeMap;" ∈ file.lines ↔
        (Node.module module).ReachesKind Kind.IsAttrsOf) ∧
      (¬ (Node.module module).ReachesKind Kind.IsJson →
        file.dependencies.list = [("serde", ["derive"])]) ∧
      ((Node.module module).ReachesKind Kind.IsJson →
        ¬ (Node.module module).ReachesKind Kind.IsRawJson →
        file.dependencies.list = [("serde", ["derive"]), ("serde_json", [])]) ∧
      ((Node.module module).ReachesKind Kind.IsRawJson →
        file.dependencies.list = [("serde", ["derive"]), ("serde_json", ["raw_value"])]) := by
  obtain ⟨-, rfl⟩ := generate_eq_ok_iff.mp generated
  have cow := cow_iff rules options.rootType [] (.module module)
  have map := map_iff rules options.rootType [] (.module module)
  have json := requirements_ne_nil_iff rules options.rootType [] (.module module)
  have raw := rawJson_mem_requirements_iff rules options.rootType [] (.module module)
  rw [nodeListing] at cow map json raw
  have uses (line : String) (isUse : IsUse line) :=
    mem_lines_iff_imports ((moduleListing rules options.rootType [] module).file options.package)
      isUse
  simp only [Listing.file_imports, cow, map] at uses
  simp only [crates_file, list_cratesWith]
  refine ⟨rfl, uses, (uses _ (isUse_literal _)).trans (by simp),
    (uses _ (isUse_literal _)).trans (by simp), fun noJson => ?_, fun hasJson noRaw => ?_,
    fun hasRaw => ?_⟩
  · have none := not_not.mp (mt json.mp noJson)
    simp [none]
  · have some := json.mpr hasJson
    have others := mt raw.mp noRaw
    simp [some, others, jsonRequirement]
  · have some := raw.mpr hasRaw
    rw [if_pos (List.contains_iff_mem.mpr some), rawJsonRequirement]

/-- The file for `service`, in which the member `backend` has an alternative with an enumeration
inside. -/
theorem generate_requirements_service :
    ∃ file, generate .standard .plain service = .ok file ∧
      "use std::borrow::Cow;" ∈ file.lines ∧
      file.dependencies.list = [("serde", ["derive"]), ("serde_json", ["raw_value"])] := by
  obtain ⟨file, generated, -⟩ := Outcome.map_eq_ok.mp generate_service
  obtain ⟨-, -, cow, -, -, -, raw⟩ := generate_requirements generated
  have member : (Node.module service).Reaches (.option .empty (.either backends)) :=
    .single (List.mem_cons_self ..)
  have alternative : (Node.module service).Reaches
      (.option .empty (.wrapped .listOf (.option .empty (.enumeration ["tcp", "udp\\"])))) :=
    member.tail (List.mem_cons_of_mem _ (List.mem_cons_of_mem _ (List.mem_cons_self ..)))
  have values := alternative.tail (List.mem_singleton.mpr rfl)
  exact ⟨file, generated, cow.mpr ⟨_, _, values, trivial⟩, raw ⟨_, _, member, rfl⟩⟩

end OptionSchema.Codegen
