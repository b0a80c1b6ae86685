import OptionSchema.Proofs.Codegen.Collision
import OptionSchema.Proofs.Naming.Letters

/-!
# Fields that look alike

A field is claimed for the member whose name it renders. Main statement: `generate_lookAlike`. As
rendering an ASCII name keeps its letters and digits, two members of a struct with ASCII names can
collide only if their names look alike.
-/

namespace OptionSchema.Codegen

open Naming (IsAsciiText LookAlike Rules fieldIdentifier letters typeIdentifier)
open Text (smallText)

variable {options : GenerateOptions} {rules : Rules} {module : Module} {collision : Collision}
  {struct : String}

/-- Every field that is claimed renders the name of the member that it is claimed for. -/
def Listing.ClaimsFields (rules : Rules) (listing : Listing) : Prop :=
  ∀ claim ∈ listing.claims, ∀ struct, claim.scope = .fields struct →
    claim.identifier = fieldIdentifier (rules.exported claim.source)

theorem compositional_claimsFields : Listing.Compositional (Listing.ClaimsFields rules) where
  empty _ member := nomatch member
  append holds holds' := by
    rw [Listing.ClaimsFields, Listing.claims_append, List.forall_mem_append]
    exact ⟨holds, holds'⟩

theorem claimsFields_typeClaim (name source : String) :
    (typeClaim name source).ClaimsFields rules := by
  refine List.forall_mem_singleton.mpr ?_
  rintro struct ⟨⟩

theorem claimsFields_fieldClaim (member : String) :
    (Listing.claim (.fields struct) (fieldIdentifier (rules.exported member)) member).ClaimsFields
      rules := by
  refine List.forall_mem_singleton.mpr fun _ _ => ?_
  dsimp only

theorem claimsFields_of_claims_eq_nil {listing : Listing} (none : listing.claims = []) :
    listing.ClaimsFields rules := by
  rw [Listing.ClaimsFields, none]
  exact List.forall_mem_nil _

/-- Only a struct claims fields, one in front of what each of its members is turned into. -/
theorem claimsFields_nodeListing (rules : Rules) (name : String) (path : List String)
    (node : Node) : (nodeListing rules name path node).ClaimsFields rules := by
  have append {first second : Listing} (holds : first.ClaimsFields rules)
      (holds' : second.ClaimsFields rules) : (first ++ second).ClaimsFields rules :=
    compositional_claimsFields.append holds holds'
  refine nodeListing_induction compositional_claimsFields ?use ?importMap ?enumeration ?struct ?sum
    ?alternative node name path
  case use => exact fun _ => claimsFields_of_claims_eq_nil rfl
  case importMap => exact claimsFields_of_claims_eq_nil rfl
  case enumeration =>
    intro name path values
    rw [Listing.ClaimsFields, claims_enumerationListing, List.forall_mem_cons,
      List.forall_mem_map]
    constructor
    · rintro struct ⟨⟩
    · rintro value _ struct ⟨⟩
  case struct =>
    intro name path contents inner holds
    rw [structListing]
    refine append (append (claimsFields_typeClaim _ _) (claimsFields_of_claims_eq_nil rfl))
      (compositional_claimsFields.join (List.forall_mem_map.mpr fun member isMember => ?_))
    exact append (claimsFields_fieldClaim member.1) (holds member isMember)
  case sum =>
    intro name path alternatives inner holds
    rw [sumListing]
    exact append (append (append (claimsFields_typeClaim _ _) (claimsFields_of_claims_eq_nil rfl))
      (claimsFields_of_claims_eq_nil rfl)) holds
  case alternative =>
    intro path sum node inner holds
    rw [alternativeListing]
    split
    · exact holds
    · exact append (append (claimsFields_typeClaim _ _) holds) (claimsFields_of_claims_eq_nil rfl)

/-- Fields that collide have one field identifier. -/
theorem fieldIdentifier_eq_of_collision (fails : generate options rules module = .error (.collision collision))
    (isField : collision.scope = .fields struct) :
    fieldIdentifier (rules.exported collision.first) =
      fieldIdentifier (rules.exported collision.second) := by
  obtain ⟨before, claim, after, first, claims, -, member, same, rfl⟩ :=
    collision?_nil_eq_some_iff.mp (generate_eq_collision_iff.mp fails)
  have renders : Listing.ClaimsFields rules (moduleListing rules options.rootType [] module) :=
    claimsFields_nodeListing rules options.rootType [] (.module module)
  rw [Listing.ClaimsFields, ← walkClaims, claims, List.forall_mem_append,
    List.forall_mem_cons] at renders
  obtain ⟨sameScope, sameIdentifier⟩ := Prod.ext_iff.mp same
  have own := renders.1 first member struct (sameScope.trans isField)
  have other := renders.2.1 struct isField
  exact own.symm.trans (sameIdentifier.trans other)

/-- Without overrides, rendering an ASCII name neither loses nor adds letters and digits, whatever
the initialisms. So two members with ASCII names have one field identifier only if their names have
the same letters and digits, or one has none and the other those of `unnamed`; and only such names
make the fields of a struct collide. -/
theorem generate_lookAlike (rules : Rules) (plain : rules.overrides = []) :
    (∀ name, IsAsciiText name →
      smallText (rules.exported name) =
        if letters name = [] then "unnamed"
        else if (letters name).head?.any Char.isDigit then "_" ++ String.ofList (letters name)
        else String.ofList (letters name)) ∧
    (∀ first second : String × Node, IsAsciiText first.1 → IsAsciiText second.1 →
      (memberField rules first).identifier = (memberField rules second).identifier →
        LookAlike first.1 second.1) ∧
    ∀ options module collision struct, generate options rules module = .error (.collision collision) →
      collision.scope = .fields struct → IsAsciiText collision.first →
        IsAsciiText collision.second → LookAlike collision.first collision.second := by
  refine ⟨fun name ascii => Naming.smallText_exported plain ascii,
    fun first second ascii ascii' same => ?_,
    fun options module collision struct fails isField ascii ascii' => ?_⟩
  · simp only [memberField] at same
    exact Naming.lookAlike_of_fieldIdentifier_eq plain ascii ascii' same
  · exact Naming.lookAlike_of_fieldIdentifier_eq plain ascii ascii'
      (fieldIdentifier_eq_of_collision fails isField)

/-- A module with two members that differ in case and separator only. -/
def twins : Module :=
  ⟨[("http-Port", .option .empty (.scalar .int)), ("http_port", .option .empty (.scalar .int))]⟩

theorem generate_lookAlike_twins :
    generate .standard ⟨["http"], []⟩ twins =
        .error (.collision ⟨.fields "Config", "http_port", "http-Port", "http_port"⟩) ∧
      LookAlike "http-Port" "http_port" ∧
      smallText (Rules.exported ⟨["http"], []⟩ "9.http-Port") = "_9httpport" := by
  have fails : generate .standard ⟨["http"], []⟩ twins =
      .error (.collision ⟨.fields "Config", "http_port", "http-Port", "http_port"⟩) := by
    decide +kernel
  obtain ⟨rendered, -, collides⟩ := generate_lookAlike ⟨["http"], []⟩ rfl
  refine ⟨fails, collides _ _ _ _ fails rfl (by decide) (by decide), ?_⟩
  rw [rendered "9.http-Port" (by decide)]
  decide +kernel

end OptionSchema.Codegen
