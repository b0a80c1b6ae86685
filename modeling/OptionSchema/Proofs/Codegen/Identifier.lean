import OptionSchema.Proofs.Codegen.Reference
import OptionSchema.Proofs.Codegen.Collision
import OptionSchema.Proofs.Naming.Identifier

/-!
# Legal declarations

If the names and enumerated values of a module are ASCII texts, all that is declared for it has a
legal identifier (`generate_identifiers`). Only the struct of the module itself has a name that comes
from elsewhere.
-/

namespace OptionSchema

open Naming (IsAsciiText)

/-- The names that a node gives to what is right inside it, and the values of an enumeration. -/
def Node.names : Node → List String
  | .module contents | .option _ (.submodule contents) => contents.members.map Prod.fst
  | .option _ (.enumeration values) => values
  | _ => []

def Node.HasAsciiNames (node : Node) : Prop :=
  ∀ name ∈ node.names, IsAsciiText name

instance : DecidablePred Node.HasAsciiNames := fun node =>
  inferInstanceAs (Decidable (∀ name ∈ node.names, IsAsciiText name))

theorem Node.HasAsciiNames.member {node : Node} (ascii : node.HasAsciiNames) {contents : Module}
    (holds : node.contents? = some contents) :
    ∀ member ∈ contents.members, IsAsciiText member.1 := by
  intro member isMember
  refine ascii member.1 ?_
  unfold Node.contents? at holds
  split at holds <;> cases holds <;> exact List.mem_map_of_mem isMember

namespace Codegen

open Naming

variable {options : GenerateOptions} {rules : Rules} {module : Module} {file : SourceFile}
  {name : String} {path : List String} {node : Node} {declaration : Declaration}
  {start site next : Site}

/-- What a declaration declares has legal identifiers. -/
def Declaration.IsLegal : Declaration → Prop
  | .struct identifier _ fields =>
      IsTypeIdentifier identifier ∧ ∀ field ∈ fields, IsFieldIdentifier field.identifier
  | .enumeration identifier _ constants =>
      IsTypeIdentifier identifier ∧ ∀ constant ∈ constants, IsIdentifier constant.identifier
  | .sum identifier _ variants =>
      IsTypeIdentifier identifier ∧ ∀ variant ∈ variants, IsIdentifier variant.name
  | .wrapper identifier _ _ => IsTypeIdentifier identifier

/-! ## Names of the walk -/

theorem mem_children_of_contents {contents : Module} {member : String} {inner : Node}
    (holds : node.contents? = some contents) (isMember : (member, inner) ∈ contents.members) :
    inner ∈ node.children := by
  rw [Node.children_of_contents? holds]
  exact List.mem_map_of_mem isMember

theorem Enters.mem_children (enters : Enters rules site next) : next.node ∈ site.node.children := by
  cases enters with
  | member holds isMember => exact mem_children_of_contents holds isMember
  | wrapped => exact List.mem_singleton.mpr rfl
  | alternative _ isAlternative => exact isAlternative

theorem isAsciiText_alternativeTag (node : Node) : IsAsciiText (alternativeTag node) := by
  have tags : ∀ tag ∈ Tag.all, IsAsciiText tag.name := by decide +kernel
  exact tags _ (List.mem_of_find?_eq_some (Tag.ofName?_name _))

section

variable (plain : rules.overrides = [])

include plain

theorem hasStart_variantName (node : Node) :
    HasStart Char.isUpper (variantName rules node).toList := by
  rw [variantName]
  exact hasStart_typeIdentifier (hasStart_exported plain (isAsciiText_alternativeTag node))

/-- The name of an alternative starts like that of its sum type. -/
theorem hasStart_alternativeName {sum : String} (starts : HasStart Char.isUpper sum.toList)
    (node : Node) : HasStart Char.isUpper (alternativeName rules sum node).toList := by
  rw [alternativeName, String.toList_append]
  exact starts.append ((hasStart_variantName plain node).forall_mem isAlpha_of_isUpper)

theorem hasStart_innerName {sum : String} (starts : HasStart Char.isUpper sum.toList)
    (node : Node) : HasStart Char.isUpper (innerName rules sum node).toList := by
  have alternative := hasStart_alternativeName plain starts node
  rw [innerName]
  split
  · exact alternative
  · rw [String.toList_append]
    exact alternative.append (List.all_iff_forall_prop.mp (by decide))

/-- If a site has a name that starts like a type, so have all that are visited from it; by induction
on the walk, which keeps to ASCII names. -/
theorem hasStart_of_visits (visits : Visits rules start site)
    (starts : HasStart Char.isUpper start.name.toList)
    (ascii : start.node.Everywhere Node.HasAsciiNames) :
    HasStart Char.isUpper site.name.toList ∧ site.node.Everywhere Node.HasAsciiNames := by
  induction visits with
  | refl => exact ⟨starts, ascii⟩
  | @tail site next visits enters ih =>
      obtain ⟨names, inside⟩ := Node.everywhere_iff.mp ih.2
      refine ⟨?_, inside _ enters.mem_children⟩
      cases enters with
      | member holds isMember => exact hasStart_exported plain (names.member holds _ isMember)
      | wrapped => exact ih.1
      | alternative => exact hasStart_innerName plain (hasStart_typeIdentifier ih.1) _

/-! ## Declarations -/

theorem isFieldIdentifier_of_mem {contents : Module}
    (ascii : ∀ member ∈ contents.members, IsAsciiText member.1) :
    ∀ field ∈ contents.sorted.map (memberField rules), IsFieldIdentifier field.identifier := by
  rw [List.forall_mem_map]
  intro member isMember
  simp only [memberField]
  exact isFieldIdentifier_fieldIdentifier
    (hasStart_exported plain (ascii member (mem_canonicalOrder.mp isMember)))

/-- The constant for a value is not `Self`, since what stands behind the name of its type does not
start with a small letter. -/
theorem isIdentifier_constant {target value : String} (starts : HasStart Char.isUpper target.toList)
    (ascii : IsAsciiText value) :
    IsIdentifier (typeIdentifier target ++ rules.exported value) := by
  have exported := hasStart_exported plain ascii
  have word : HasStart Char.isUpper (typeIdentifier target ++ rules.exported value).toList := by
    rw [String.toList_append]
    exact (hasStart_typeIdentifier starts).append (exported.forall_mem isAlpha_of_isUpper)
  refine word.isIdentifier isAlpha_of_isUpper (word.not_mem_keywords fun same => ?_)
  obtain ⟨first, rest, chars, -⟩ := hasStart_typeIdentifier starts
  obtain ⟨c, more, chars', -, start⟩ := exported
  have spelled : first :: (rest ++ c :: more) = ['S', 'e', 'l', 'f'] := by
    rw [← List.cons_append, ← chars, ← chars', ← String.toList_append, same]
    decide
  have small : c ∈ ['e', 'l', 'f'] :=
    (List.cons.inj spelled).2 ▸ List.mem_append_right _ (List.mem_cons_self ..)
  have neither : ∀ c ∈ ['e', 'l', 'f'], c.isUpper = false ∧ c ≠ '_' :=
    List.all_iff_forall_prop.mp (by decide)
  rcases start with upper | ⟨underscore, -⟩
  · exact Bool.false_ne_true ((neither c small).1.symm.trans upper)
  · exact (neither c small).2 underscore

theorem isLegal_of_declares (starts : HasStart Char.isUpper name.toList)
    (ascii : node.Everywhere Node.HasAsciiNames)
    (declares : Declares rules name path node declaration) : declaration.IsLegal := by
  have type := isTypeIdentifier_typeIdentifier starts
  induction declares with
  | struct holds =>
      have names := (Node.everywhere_iff.mp ascii).1.member holds
      exact ⟨type, isFieldIdentifier_of_mem plain names⟩
  | enumeration =>
      have values := (Node.everywhere_iff.mp ascii).1
      refine ⟨type, List.forall_mem_map.mpr fun value member => ?_⟩
      rw [valueConstant]
      exact isIdentifier_constant plain starts (values value member)
  | sum _ =>
      refine ⟨type, List.forall_mem_map.mpr fun alternative _ => ?_⟩
      rw [alternativeVariant, variantName]
      exact (isTypeIdentifier_typeIdentifier
        (hasStart_exported plain (isAsciiText_alternativeTag alternative))).toIsIdentifier
  | unique _ ih =>
      exact ih ((Node.everywhere_iff.mp ascii).2 _ (List.mem_singleton.mpr rfl))

theorem isLegal_of_introduces (starts : HasStart Char.isUpper site.name.toList)
    (ascii : site.node.Everywhere Node.HasAsciiNames)
    (introduces : Introduces rules site declaration) : declaration.IsLegal := by
  cases introduces with
  | own declares => exact isLegal_of_declares plain starts ascii declares
  | wrapper =>
      exact isTypeIdentifier_typeIdentifier
        (hasStart_alternativeName plain (hasStart_typeIdentifier starts) _)

end

/-- All that is declared for a module has a legal identifier if the names and the enumerated values
within it are ASCII texts, whatever the initialisms. Only the struct of the module itself has a name
from elsewhere, that of the root type, which steps aside if it is that of a type from elsewhere; it
is legal if the name of the root type is. -/
theorem generate_identifiers (generated : generate options rules module = .ok file)
    (plain : rules.overrides = [])
    (ascii : (Node.module module).Everywhere Node.HasAsciiNames) :
    (∃ fields others,
      file.declarations = .struct (typeIdentifier options.rootType) [] fields :: others ∧
        typeIdentifier options.rootType ∉ foreignTypes ∧
        (∀ field ∈ fields, IsFieldIdentifier field.identifier) ∧
        ∀ declaration ∈ others, declaration.IsLegal) ∧
      (IsIdentifier options.rootType → ∀ declaration ∈ file.declarations, declaration.IsLegal) := by
  have declarations : file.declarations =
      structOf rules options.rootType [] module :: memberDeclarations rules [] module := by
    have holds : (Node.module module).contents? = some module := rfl
    rw [declarations_of_generate generated, ← nodeListing_of_contents holds]
    exact declarations_of_contents holds
  obtain ⟨names, inside⟩ := Node.everywhere_iff.mp ascii
  have members := names.member rfl
  have fields := isFieldIdentifier_of_mem plain members
  have others : ∀ declaration ∈ memberDeclarations rules [] module, declaration.IsLegal := by
    intro declaration member
    obtain ⟨entry, isMember, member⟩ := mem_memberDeclarations.mp member
    obtain ⟨site, visits, introduces⟩ := exists_introduces entry.2 member
    obtain ⟨starts, ascii⟩ := hasStart_of_visits plain visits
      (hasStart_exported plain (members entry isMember))
      (inside _ (mem_children_of_contents rfl isMember))
    exact isLegal_of_introduces plain starts ascii introduces
  refine ⟨⟨_, _, declarations, typeIdentifier_not_mem _, fields, others⟩, fun legal => ?_⟩
  rw [declarations, List.forall_mem_cons]
  exact ⟨⟨legal.isTypeIdentifier, fields⟩, others⟩

/-- A module with names that are keywords or types, that start with a digit, or that have no letter
or digit at all. -/
def awkward : Module :=
  ⟨[("", .option .empty (.scalar .str)), ("1st", .option .empty (.scalar .bool)),
    ("option", .option .empty (.either [.module ⟨[]⟩, .option .empty (.scalar .int)])),
    ("self", .option .empty (.enumeration ["#", "8bit", "lf"])),
    ("type", .option .empty (.submodule ⟨[]⟩))]⟩

/-- What is declared for `awkward`, apart from fields and variants. -/
theorem generate_awkward :
    (generate .standard .plain awkward).map (fun file => file.declarations.flatMap (·.names)) =
      .ok ["Config", "Option_", "Option_Submodule", "Option_Int", "Self_", "Self_Unnamed",
        "Self__8bit", "Self_Lf", "Type"] := by
  decide +kernel

theorem hasAsciiNames_awkward : (Node.module awkward).Everywhere Node.HasAsciiNames := by
  have leaf {node : Node} (names : node.HasAsciiNames) (leaf : node.children = []) :=
    Node.everywhere_of_children_eq_nil names leaf
  refine Node.everywhere_iff.mpr ⟨by decide, List.forall_mem_map.mpr ?_⟩
  simp only [awkward, List.forall_mem_cons]
  refine ⟨leaf (by decide) rfl, leaf (by decide) rfl, Node.everywhere_iff.mpr ⟨by decide, ?_⟩,
    leaf (by decide) rfl, leaf (by decide) rfl, List.forall_mem_nil _⟩
  exact List.forall_mem_cons.mpr ⟨leaf (by decide) rfl,
    List.forall_mem_singleton.mpr (leaf (by decide) rfl)⟩

/-- All of the identifiers for `awkward` are legal. -/
theorem generate_identifiers_awkward :
    ∃ file, generate .standard .plain awkward = .ok file ∧
      file.declarations.flatMap (·.names) =
        ["Config", "Option_", "Option_Submodule", "Option_Int", "Self_", "Self_Unnamed",
          "Self__8bit", "Self_Lf", "Type"] ∧
      ∀ declaration ∈ file.declarations, declaration.IsLegal := by
  obtain ⟨file, generated, names⟩ := Outcome.map_eq_ok.mp generate_awkward
  have config : IsIdentifier "Config" := by
    have chars : "Config".toList = 'C' :: ['o', 'n', 'f', 'i', 'g'] := by decide
    have starts : HasStart Char.isUpper "Config".toList := 
      ⟨_, _, chars, List.all_iff_forall_prop.mp (by decide), .inl rfl⟩
    exact starts.isIdentifier isAlpha_of_isUpper (by decide)
  exact ⟨file, generated, names,
    (generate_identifiers generated rfl hasAsciiNames_awkward).2 config⟩

end Codegen

end OptionSchema
