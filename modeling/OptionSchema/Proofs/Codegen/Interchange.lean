import OptionSchema.Proofs.Codegen.Emission

/-!
# Nodes that can be put in each other's place

Two nodes are interchangeable if the same is generated for them under every name and path. Where a
node is a member of a module its description is read as well, and where it is an alternative its tag
and whether it is part of a number. Main statement: `Interchangeable.generate_eq`. Putting
interchangeable nodes into a node, at any depth, gives interchangeable nodes, and in the end the same
file or the same collision.
-/

namespace OptionSchema.Codegen

open Naming (Rules typeIdentifier)

variable {first second : Node} {contents other : Module} {alternatives others : List Node}
  {rules : Rules} {name sum : String} {path : List String}

/-- The same is generated for two nodes. -/
structure Interchangeable (first second : Node) : Prop where
  declares : declaresType first = declaresType second
  type : ∀ name, nodeType name first = nodeType name second
  listing : ∀ rules name path,
    nodeListing rules name path first = nodeListing rules name path second

structure InterchangeableMembers (first second : String × Node) : Prop where
  name : first.1 = second.1
  description : first.2.doc.description = second.2.doc.description
  node : Interchangeable first.2 second.2

structure InterchangeableAlternatives (first second : Node) : Prop where
  tag : alternativeTag first = alternativeTag second
  isScalar : ∀ scalar, first.isScalar scalar = second.isScalar scalar
  node : Interchangeable first second

theorem Interchangeable.refl (node : Node) : Interchangeable node node :=
  ⟨rfl, fun _ => rfl, fun _ _ _ => rfl⟩

theorem InterchangeableMembers.refl (member : String × Node) : InterchangeableMembers member member :=
  ⟨rfl, rfl, .refl member.2⟩

theorem InterchangeableAlternatives.refl (node : Node) : InterchangeableAlternatives node node :=
  ⟨rfl, fun _ => rfl, .refl node⟩

/-- What a node is turned into is a matter of its kind, and bare modules are like submodules. -/
theorem interchangeable_submodule (doc : Doc) (contents : Module) :
    Interchangeable (.module contents) (.option doc (.submodule contents)) :=
  ⟨rfl, fun _ => rfl, fun _ _ _ => rfl⟩

theorem interchangeable_option (doc doc' : Doc) (kind : Kind) :
    Interchangeable (.option doc kind) (.option doc' kind) :=
  ⟨rfl, fun _ => rfl, fun _ _ _ => rfl⟩

/-! ## Members of a module -/

section

variable (matched : List.Forall₂ InterchangeableMembers contents.members other.members)

include matched

theorem forall₂_sorted : List.Forall₂ InterchangeableMembers contents.sorted other.sorted :=
  forall₂_canonicalOrder (fun _ _ same => same.name) matched

theorem structOf_congr : structOf rules name path contents = structOf rules name path other := by
  rw [structOf, structOf]
  refine congrArg _ (Outcome.map_results_eq (forall₂_sorted matched) fun member _ member' same => ?_).symm
  rw [memberField, memberField, same.name, same.description, same.node.type]

/-- The same is generated for modules with interchangeable members. -/
theorem moduleListing_congr :
    moduleListing rules name path contents = moduleListing rules name path other := by
  rw [moduleListing_eq, moduleListing_eq, structListing, structListing, structOf_congr matched]
  refine congrArg _ (congrArg Listing.join
    (Outcome.map_results_eq (forall₂_sorted matched) fun member _ member' same => ?_).symm)
  rw [same.name, same.node.listing]

theorem Interchangeable.module : Interchangeable (.module contents) (.module other) :=
  ⟨rfl, fun _ => rfl, fun _ _ _ => moduleListing_congr matched⟩

theorem Interchangeable.submodule (doc doc' : Doc) :
    Interchangeable (.option doc (.submodule contents)) (.option doc' (.submodule other)) :=
  ⟨rfl, fun _ => rfl, fun _ _ _ => moduleListing_congr matched⟩

/-- The same file is generated for modules with interchangeable members, or the same collision is
found. -/
theorem Interchangeable.generate_eq (options : GenerateOptions) (rules : Rules) :
    generate options rules contents = generate options rules other := by
  rw [Codegen.generate_eq, Codegen.generate_eq, moduleListing_congr matched]

end

/-! ## What is wrapped -/

theorem Interchangeable.wrapped (same : Interchangeable first second) (wrapper : Wrapper)
    (doc doc' : Doc) :
    Interchangeable (.option doc (.wrapped wrapper first))
      (.option doc' (.wrapped wrapper second)) := by
  refine ⟨?_, fun name => ?_, fun rules name path => ?_⟩
  · cases wrapper with
    | unique => exact same.declares
    | nullOr | listOf | attrsOf => rfl
  · cases wrapper with
    | unique => exact same.type name
    | nullOr => exact congrArg TypeExpr.optional (same.type name)
    | listOf => exact congrArg TypeExpr.list (same.type name)
    | attrsOf => exact congrArg TypeExpr.map (same.type name)
  · rw [nodeListing_wrapped, nodeListing_wrapped, same.listing]

/-! ## Alternatives -/

theorem alternativeVariant_congr (sameTag : alternativeTag first = alternativeTag second) :
    alternativeVariant rules sum first = alternativeVariant rules sum second := by
  simp only [alternativeVariant, alternativeName, variantName, sameTag]

/-- The same is generated for an alternative, its wrapper included. -/
theorem InterchangeableAlternatives.alternativeListing_eq
    (same : InterchangeableAlternatives first second) :
    alternativeListing rules path sum first
        (nodeListing rules (innerName rules sum first) path first) =
      alternativeListing rules path sum second
        (nodeListing rules (innerName rules sum second) path second) := by
  simp only [alternativeListing, wrapperOf, innerName, alternativeName, variantName, same.tag,
    same.node.declares, same.node.type, same.node.listing]

section

variable (matched : List.Forall₂ InterchangeableAlternatives alternatives others)

include matched

theorem isNumber_congr : isNumber alternatives = isNumber others := by
  match matched with
  | .nil => rfl
  | .cons _ .nil => rfl
  | .cons first (.cons second .nil) => rw [isNumber, isNumber, first.isScalar, second.isScalar]
  | .cons _ (.cons _ (.cons _ _)) => rfl

theorem sumOf_congr :
    sumOf rules name path alternatives = sumOf rules name path others := by
  rw [sumOf, sumOf]
  exact congrArg _ (Outcome.map_results_eq matched fun _ _ _ same =>
    (alternativeVariant_congr same.tag).symm).symm

theorem alternativesListing_congr :
    alternativesListing rules path sum alternatives = alternativesListing rules path sum others := by
  rw [alternativesListing_eq, alternativesListing_eq]
  exact congrArg _ (Outcome.map_results_eq matched fun _ _ _ same =>
    same.alternativeListing_eq.symm).symm

/-- Interchangeable alternatives make interchangeable options: both are the number, or both are sum
types with the same variants. -/
theorem Interchangeable.either (doc doc' : Doc) :
    Interchangeable (.option doc (.either alternatives)) (.option doc' (.either others)) := by
  have sameNumber := isNumber_congr matched
  refine ⟨?_, fun name => ?_, fun rules name path => ?_⟩
  · simp only [declaresType, kindDeclaresType, sameNumber]
  · simp only [nodeType, kindType, sameNumber]
  · simp only [nodeListing, kindListing, sumListing, sameNumber, sumOf_congr matched,
      alternativesListing_congr matched]

end

end OptionSchema.Codegen
