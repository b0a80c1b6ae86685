import Mathlib.Logic.Relation
import OptionSchema.Codegen.Generate
import OptionSchema.Proofs.Codegen.Names

/-!
# The sites of a walk

The walk over a tree visits nodes, each under an exported name and a path of member names. `Enters`
is one step inwards: to a member of a module or submodule, to what a wrapper wraps, and to an
alternative of a sum type. What a site is turned into is a part of what the sites it is visited from
are turned into (`part_of_visits`).
-/

namespace OptionSchema.Codegen

open Naming (Rules typeIdentifier)

structure Site where
  name : String
  path : List String
  node : Node

def Site.root (options : GenerateOptions) (module : Module) : Site :=
  ⟨options.rootType, [], .module module⟩

def Site.listing (rules : Rules) (site : Site) : Listing :=
  nodeListing rules site.name site.path site.node

/-- The walk goes from a site right to another one. -/
inductive Enters (rules : Rules) : Site → Site → Prop where
  | member {name : String} {path : List String} {node inner : Node} {contents : Module}
      {member : String} :
      node.contents? = some contents → (member, inner) ∈ contents.members →
        Enters rules ⟨name, path, node⟩ ⟨rules.exported member, path ++ [member], inner⟩
  | wrapped {name : String} {path : List String} {doc : Doc} {wrapper : Wrapper} {inner : Node} :
      Enters rules ⟨name, path, .option doc (.wrapped wrapper inner)⟩ ⟨name, path, inner⟩
  | alternative {name : String} {path : List String} {doc : Doc} {alternatives : List Node}
      {inner : Node} :
      isNumber alternatives = false → inner ∈ alternatives →
        Enters rules ⟨name, path, .option doc (.either alternatives)⟩
          ⟨innerName rules (typeIdentifier name) inner, path, inner⟩

def Visits (rules : Rules) : Site → Site → Prop :=
  Relation.ReflTransGen (Enters rules)

namespace Listing

/-- A listing stands as it is within another one. -/
def Part (part whole : Listing) : Prop :=
  ∃ front back, front ++ part ++ back = whole

variable {first second third listing : Listing} {listings : List Listing}

theorem Part.refl (listing : Listing) : Part listing listing :=
  ⟨.empty, .empty, by simp⟩

theorem Part.trans (part : Part first second) (part' : Part second third) : Part first third := by
  obtain ⟨front, back, rfl⟩ := part
  obtain ⟨front', back', rfl⟩ := part'
  exact ⟨front' ++ front, back ++ back', by simp only [append_assoc]⟩

theorem part_append_left (first second : Listing) : Part first (first ++ second) :=
  ⟨.empty, second, by simp⟩

theorem part_append_right (first second : Listing) : Part second (first ++ second) :=
  ⟨first, .empty, by simp⟩

theorem part_join (member : listing ∈ listings) : Part listing (.join listings) := by
  induction listings with
  | nil => cases member
  | cons head rest ih =>
      rcases List.mem_cons.mp member with rfl | later
      · exact part_append_left _ _
      · exact (ih later).trans (part_append_right _ _)

theorem Part.declarations (part : Part first second) :
    first.declarations <:+: second.declarations := by
  obtain ⟨front, back, rfl⟩ := part
  exact ⟨front.declarations, back.declarations, rfl⟩

end Listing

variable {rules : Rules} {site next start : Site}

theorem part_memberListing {name : String} {path : List String} {contents : Module}
    {member : String} {inner : Node} (isMember : (member, inner) ∈ contents.members) :
    Listing.Part (nodeListing rules (rules.exported member) (path ++ [member]) inner)
      (moduleListing rules name path contents) := by
  have inMember := Listing.part_append_right
    (.claim (.fields (typeIdentifier name)) (Naming.fieldIdentifier (rules.exported member)) member)
    (nodeListing rules (rules.exported member) (path ++ [member]) inner)
  rw [moduleListing_eq]
  refine inMember.trans (.trans (Listing.part_join ?_) (Listing.part_append_right _ _))
  exact List.mem_map.mpr ⟨(member, inner), mem_canonicalOrder.mpr isMember, rfl⟩

theorem part_alternativeListing {path : List String} {sum : String} {alternatives : List Node}
    {node : Node} (member : node ∈ alternatives) :
    Listing.Part (alternativeListing rules path sum node
        (nodeListing rules (innerName rules sum node) path node))
      (alternativesListing rules path sum alternatives) := by
  rw [alternativesListing_eq]
  exact Listing.part_join (List.mem_map_of_mem member)

theorem part_inner (path : List String) (sum : String) (node : Node) (inner : Listing) :
    Listing.Part inner (alternativeListing rules path sum node inner) := by
  rw [alternativeListing]
  split
  · exact .refl inner
  · exact .trans (Listing.part_append_right _ _) (Listing.part_append_left _ _)

/-- What a site is turned into contains what the next one is turned into. -/
theorem part_of_enters (enters : Enters rules site next) :
    Listing.Part (next.listing rules) (site.listing rules) := by
  cases enters with
  | member holds isMember =>
      simp only [Site.listing, nodeListing_of_contents holds]
      exact part_memberListing isMember
  | wrapped =>
      simp only [Site.listing, nodeListing_wrapped]
      exact Listing.part_append_right _ _
  | alternative several isAlternative =>
      simp only [Site.listing, nodeListing_either several]
      refine .trans ?_ (Listing.part_append_right _ _)
      exact (part_inner _ _ _ _).trans (part_alternativeListing isAlternative)

/-- What a site is turned into contains what all sites visited from it are turned into. -/
theorem part_of_visits (visits : Visits rules start site) :
    Listing.Part (site.listing rules) (start.listing rules) := by
  induction visits with
  | refl => exact .refl _
  | tail _ enters ih => exact (part_of_enters enters).trans ih

/-! ## The declaration of a site -/

/-- A site declares a type of its own: a module its struct, an enumeration itself, alternatives
their sum type, and what is unique the type of what it wraps. -/
inductive Declares (rules : Rules) (name : String) (path : List String) : Node → Declaration → Prop
    where
  | struct {node : Node} {contents : Module} : node.contents? = some contents →
      Declares rules name path node (structOf rules name path contents)
  | enumeration {doc : Doc} {values : List String} :
      Declares rules name path (.option doc (.enumeration values))
        (enumerationOf rules name path values)
  | sum {doc : Doc} {alternatives : List Node} : isNumber alternatives = false →
      Declares rules name path (.option doc (.either alternatives))
        (sumOf rules name path alternatives)
  | unique {doc : Doc} {inner : Node} {declaration : Declaration} :
      Declares rules name path inner declaration →
        Declares rules name path (.option doc (.wrapped .unique inner)) declaration

def memberDeclarations (rules : Rules) (path : List String) (contents : Module) :
    List Declaration :=
  contents.sorted.flatMap fun member =>
    (nodeListing rules (rules.exported member.1) (path ++ [member.1]) member.2).declarations

/-- The declarations that alternatives introduce, in their order, each followed by its wrapper if it
has one. -/
def alternativeDeclarations (rules : Rules) (path : List String) (sum : String)
    (alternatives : List Node) : List Declaration :=
  alternatives.flatMap fun node =>
    (nodeListing rules (innerName rules sum node) path node).declarations ++
      if declaresType node then [] else [wrapperOf rules sum node]

variable {name : String} {path : List String} {node : Node} {declaration : Declaration}

theorem declarations_memberListings (struct : String) (contents : Module) :
    (Listing.join (contents.sorted.map fun member => memberListing rules struct member.1
      (nodeListing rules (rules.exported member.1) (path ++ [member.1]) member.2))).declarations =
        memberDeclarations rules path contents := by
  simp [memberListing, memberDeclarations, List.flatMap_map]

theorem declarations_alternativesListing (sum : String) (alternatives : List Node) :
    (alternativesListing rules path sum alternatives).declarations =
      alternativeDeclarations rules path sum alternatives := by
  have each (node : Node) (inner : Listing) :
      (alternativeListing rules path sum node inner).declarations =
        inner.declarations ++ if declaresType node then [] else [wrapperOf rules sum node] := by
    rw [alternativeListing]
    split <;> simp [typeClaim]
  rw [alternativesListing_eq, alternativeDeclarations]
  simp [List.flatMap_map, each]

theorem declarations_of_contents {contents : Module} (holds : node.contents? = some contents) :
    (nodeListing rules name path node).declarations =
      structOf rules name path contents :: memberDeclarations rules path contents := by
  rw [nodeListing_of_contents holds, moduleListing_eq, structListing, Listing.declarations_append,
    declarations_memberListings]
  rfl

theorem declarations_either {doc : Doc} {alternatives : List Node}
    (several : isNumber alternatives = false) :
    (nodeListing rules name path (.option doc (.either alternatives))).declarations =
      sumOf rules name path alternatives ::
        alternativeDeclarations rules path (typeIdentifier name) alternatives := by
  rw [nodeListing_either several, sumListing, Listing.declarations_append,
    declarations_alternativesListing]
  rfl

theorem declarations_enumeration {doc : Doc} {values : List String} :
    (nodeListing rules name path (.option doc (.enumeration values))).declarations =
      [enumerationOf rules name path values] := by
  rw [nodeListing, kindListing, declarations_enumerationListing]

theorem declarations_wrapped {doc : Doc} {wrapper : Wrapper} {inner : Node} :
    (nodeListing rules name path (.option doc (.wrapped wrapper inner))).declarations =
      (nodeListing rules name path inner).declarations := by
  rw [nodeListing_wrapped]
  split <;> simp

namespace Declares

theorem identifier_eq (declares : Declares rules name path node declaration) :
    declaration.identifier = typeIdentifier name := by
  induction declares with
  | struct => rfl
  | enumeration => rfl
  | sum => rfl
  | unique _ ih => exact ih

theorem mem_declarations (declares : Declares rules name path node declaration) :
    declaration ∈ (nodeListing rules name path node).declarations := by
  induction declares with
  | struct holds =>
      rw [declarations_of_contents holds]
      exact List.mem_cons_self ..
  | enumeration =>
      rw [declarations_enumeration]
      exact List.mem_singleton.mpr rfl
  | sum several =>
      rw [declarations_either several]
      exact List.mem_cons_self ..
  | unique _ ih =>
      rw [declarations_wrapped]
      exact ih

end Declares

/-- A node declares a type exactly if it has a declaration of its own. -/
theorem exists_declares_iff :
    (∃ declaration, Declares rules name path node declaration) ↔ declaresType node = true := by
  constructor
  · rintro ⟨declaration, declares⟩
    induction declares with
    | @struct node contents holds =>
        unfold Node.contents? at holds
        split at holds
        · rfl
        · rfl
        · cases holds
    | enumeration => rfl
    | sum several => rw [declaresType, kindDeclaresType, several, Bool.not_false]
    | unique _ ih => exact ih
  · intro declares
    induction node using Node.induction with
    | step node ih =>
        cases node with
        | module contents => exact ⟨_, .struct rfl⟩
        | option doc kind =>
            rw [declaresType] at declares
            cases kind with
            | scalar | unspecified | separatedString => cases declares
            | enumeration => exact ⟨_, .enumeration⟩
            | submodule => exact ⟨_, .struct rfl⟩
            | either alternatives =>
                rw [kindDeclaresType, Bool.not_eq_true'] at declares
                exact ⟨_, .sum declares⟩
            | wrapped wrapper inner =>
                cases wrapper with
                | unique =>
                    obtain ⟨declaration, own⟩ := ih inner (List.mem_singleton.mpr rfl) declares
                    exact ⟨declaration, .unique own⟩
                | nullOr | listOf | attrsOf => cases declares

end OptionSchema.Codegen
