import Mathlib.Data.List.Nodup
import Mathlib.Data.List.Perm.Basic
import OptionSchema.Proofs.Codegen.Listing

/-!
# Declared names

A declaration declares a name for its type, one for each of its constants, and, in a scope of their
own, names for the fields of a struct. A tree claims in each scope just the names that its
declarations declare there (`declares_nodeListing`). Hence no target is claimed twice exactly if the
names of the types and constants are distinct and the fields of every single struct are
(`nodup_targets_iff`).
-/

namespace OptionSchema.Codegen

open Naming (Rules typeIdentifier fieldIdentifier)

namespace Declaration

def identifier : Declaration → String
  | .struct identifier _ _ => identifier
  | .enumeration identifier _ _ => identifier
  | .sum identifier _ _ => identifier
  | .wrapper identifier _ _ => identifier

/-- The identifiers that are declared beside the fields: that of the type and those of constants. -/
def names : Declaration → List String
  | .enumeration identifier _ constants => identifier :: constants.map (·.identifier)
  | declaration => [declaration.identifier]

def namesIn (scope : ScopeName) (declaration : Declaration) : List String :=
  match scope, declaration with
  | .types, declaration => declaration.names
  | .fields owner, .struct identifier _ fields =>
      if identifier = owner then fields.map (·.identifier) else []
  | .fields _, _ => []

@[simp] theorem namesIn_types (declaration : Declaration) :
    declaration.namesIn .types = declaration.names := by
  cases declaration <;> rfl

@[simp] theorem namesIn_fields_struct (owner identifier : String) (path : List String)
    (fields : List Field) :
    (Declaration.struct identifier path fields).namesIn (.fields owner) =
      if identifier = owner then fields.map (·.identifier) else [] :=
  rfl

@[simp] theorem namesIn_fields_enumeration (owner identifier : String) (path : List String)
    (constants : List Constant) :
    (Declaration.enumeration identifier path constants).namesIn (.fields owner) = [] :=
  rfl

@[simp] theorem namesIn_fields_sum (owner identifier : String) (path : List String)
    (variants : List Variant) :
    (Declaration.sum identifier path variants).namesIn (.fields owner) = [] :=
  rfl

@[simp] theorem namesIn_fields_wrapper (owner identifier around : String) (inner : TypeExpr) :
    (Declaration.wrapper identifier around inner).namesIn (.fields owner) = [] :=
  rfl

theorem identifier_mem_names (declaration : Declaration) :
    declaration.identifier ∈ declaration.names := by
  cases declaration <;> exact List.mem_cons_self ..

/-- Only the struct that a scope of fields belongs to declares names in it. -/
theorem identifier_of_mem_namesIn {declaration : Declaration} {owner name : String}
    (member : name ∈ declaration.namesIn (.fields owner)) : declaration.identifier = owner := by
  cases declaration with
  | struct identifier path fields =>
      rw [namesIn] at member
      split at member
      · next same => exact same
      · cases member
  | enumeration => cases member
  | sum => cases member
  | wrapper => cases member

end Declaration

def identifiersOf (scope : ScopeName) (claims : List Claim) : List String :=
  (claims.filter (·.scope = scope)).map (·.identifier)

section

variable {scope : ScopeName} {first second claims : List Claim}

@[simp] theorem identifiersOf_nil : identifiersOf scope [] = [] :=
  rfl

@[simp] theorem identifiersOf_cons {claim : Claim} :
    identifiersOf scope (claim :: claims) =
      (if claim.scope = scope then [claim.identifier] else []) ++ identifiersOf scope claims := by
  by_cases same : claim.scope = scope <;> simp [identifiersOf, same]

@[simp] theorem identifiersOf_append :
    identifiersOf scope (first ++ second) =
      identifiersOf scope first ++ identifiersOf scope second := by
  simp [identifiersOf]

@[simp] theorem identifiersOf_flatMap {α : Type} {items : List α} {f : α → List Claim} :
    identifiersOf scope (items.flatMap f) =
      items.flatMap fun item => identifiersOf scope (f item) := by
  induction items with
  | nil => rfl
  | cons item rest ih => simp [ih]

theorem mem_identifiersOf {identifier : String} :
    identifier ∈ identifiersOf scope claims ↔ (scope, identifier) ∈ targets claims := by
  simp only [identifiersOf, targets, Claim.target, List.mem_map, List.mem_filter, decide_eq_true_eq,
    Prod.mk.injEq]
  grind

/-- Targets are distinct if the identifiers of each scope are. -/
theorem nodup_targets_iff_identifiersOf :
    (targets claims).Nodup ↔ ∀ scope, (identifiersOf scope claims).Nodup := by
  induction claims with
  | nil => simp
  | cons claim rest ih =>
      rw [targets_cons, List.nodup_cons, ih]
      constructor
      · rintro ⟨fresh, nodup⟩ scope
        rw [identifiersOf_cons]
        split
        · next same =>
            refine List.nodup_cons.mpr ⟨fun again => fresh ?_, nodup scope⟩
            have used := mem_identifiersOf.mp again
            rwa [← same] at used
        · exact nodup scope
      · intro nodup
        constructor
        · intro again
          have here := nodup claim.scope
          rw [identifiersOf_cons, if_pos rfl] at here
          exact (List.nodup_cons.mp here).1 (mem_identifiersOf.mpr again)
        · intro scope
          have here := nodup scope
          rw [identifiersOf_cons] at here
          exact here.of_append_right

end

/-- A listing declares in each scope what it claims there. -/
def Listing.DeclaresClaims (listing : Listing) : Prop :=
  ∀ scope, (listing.declarations.flatMap (·.namesIn scope)).Perm
    (identifiersOf scope listing.claims)

theorem compositional_declaresClaims : Listing.Compositional Listing.DeclaresClaims where
  empty _ := .nil
  append declares declares' scope := by
    simpa using (declares scope).append (declares' scope)

theorem declares_enumerationListing {rules : Rules} {name : String} {path values : List String} :
    (enumerationListing rules name path values).DeclaresClaims := by
  intro scope
  rw [declarations_enumerationListing, claims_enumerationListing]
  refine .of_eq ?_
  cases scope with
  | types =>
      simp [enumerationOf, Declaration.names, identifiersOf, valueConstant, List.filter_map,
        Function.comp_def]
  | fields owner => simp [enumerationOf, identifiersOf]

/-- The fields of a struct are claimed one by one between the claims of the members. -/
theorem declares_structListing {rules : Rules} {name : String} {path : List String}
    {contents : Module} {inner : String × Node → Listing}
    (declares : ∀ member ∈ contents.sorted, (inner member).DeclaresClaims) :
    (structListing rules name path contents (contents.sorted.map fun member =>
      memberListing rules (typeIdentifier name) member.1 (inner member))).DeclaresClaims := by
  intro scope
  have members : (contents.sorted.flatMap fun member =>
      (inner member).declarations.flatMap (·.namesIn scope)).Perm
        (contents.sorted.flatMap fun member => identifiersOf scope (inner member).claims) :=
    List.Perm.flatMap_left _ fun member isMember => declares member isMember scope
  cases scope with
  | types =>
      simpa [structListing, typeClaim, memberListing, structOf, Declaration.names,
        Declaration.identifier, List.flatMap_map, List.flatMap_assoc] using members
  | fields owner =>
      by_cases same : typeIdentifier name = owner
      · subst same
        have claimed : (identifiersOf (.fields (typeIdentifier name))
            (structListing rules name path contents (contents.sorted.map fun member =>
              memberListing rules (typeIdentifier name) member.1 (inner member))).claims) =
            contents.sorted.flatMap fun member => [(memberField rules member).identifier] ++
              identifiersOf (.fields (typeIdentifier name)) (inner member).claims := by
          simp [structListing, typeClaim, memberListing, memberField, List.flatMap_map]
        rw [claimed]
        refine .trans ?_ (List.flatMap_append_perm _ _ _)
        have fields := members.append_left
          (contents.sorted.map fun member => (memberField rules member).identifier)
        simpa [structListing, typeClaim, memberListing, structOf, List.flatMap_map,
          List.flatMap_assoc, ← List.map_eq_flatMap, Function.comp_def] using fields
      · simpa [structListing, typeClaim, memberListing, structOf, same, List.flatMap_map,
          List.flatMap_assoc] using members

/-- A tree declares what it claims, scope by scope. -/
theorem declares_nodeListing (rules : Rules) (name : String) (path : List String) (node : Node) :
    (nodeListing rules name path node).DeclaresClaims := by
  refine nodeListing_induction compositional_declaresClaims ?use ?importMap ?enumeration ?struct
    ?sum ?alternative node name path
  case use => exact fun _ _ => .nil
  case importMap => exact fun _ => .nil
  case enumeration => exact fun _ _ _ => declares_enumerationListing
  case struct => exact fun _ _ _ _ => declares_structListing
  case sum =>
    intro name path alternatives inner declares scope
    cases scope with
    | types =>
        simpa [sumListing, typeClaim, sumOf, Declaration.names, Declaration.identifier] using
          declares .types
    | fields owner => simpa [sumListing, typeClaim, sumOf] using declares (.fields owner)
  case alternative =>
    intro path sum node inner declares scope
    rw [alternativeListing]
    split
    · exact declares scope
    · cases scope with
      | types =>
          have claimed := (List.perm_append_singleton
            (typeIdentifier (alternativeName rules sum node)) _).trans ((declares .types).cons _)
          simpa [typeClaim, wrapperOf, Declaration.names, Declaration.identifier] using claimed
      | fields owner => simpa [typeClaim, wrapperOf] using declares (.fields owner)

/-- No target is claimed twice exactly if the names of types and constants are distinct and so are
the fields of each struct. -/
theorem Listing.DeclaresClaims.nodup_targets_iff {listing : Listing}
    (declares : listing.DeclaresClaims) :
    (targets listing.claims).Nodup ↔
      (listing.declarations.flatMap (·.names)).Nodup ∧
        ∀ identifier path fields, .struct identifier path fields ∈ listing.declarations →
          (fields.map (·.identifier)).Nodup := by
  have namesIn_nodup (scope : ScopeName) :
      (identifiersOf scope listing.claims).Nodup ↔
        (listing.declarations.flatMap (·.namesIn scope)).Nodup :=
    (declares scope).nodup_iff.symm
  simp only [nodup_targets_iff_identifiersOf, namesIn_nodup]
  constructor
  · intro nodup
    refine ⟨by simpa using nodup .types, fun identifier path fields member => ?_⟩
    have own := (List.nodup_flatMap.mp (nodup (.fields identifier))).1 _ member
    simpa using own
  · rintro ⟨names, fields⟩ scope
    cases scope with
    | types => simpa using names
    | fields owner =>
        refine List.nodup_flatMap.mpr ⟨fun declaration member => ?_, ?_⟩
        · cases declaration with
          | struct identifier path fields' =>
              rw [Declaration.namesIn_fields_struct]
              split
              · exact fields identifier path fields' member
              · exact List.nodup_nil
          | enumeration => exact List.nodup_nil
          | sum => exact List.nodup_nil
          | wrapper => exact List.nodup_nil
        · -- Two declarations in one scope of fields would have the same identifier.
          refine (List.nodup_flatMap.mp names).2.imp fun apart name inFirst inSecond => ?_
          have first := Declaration.identifier_of_mem_namesIn inFirst
          have second := Declaration.identifier_of_mem_namesIn inSecond
          refine apart (Declaration.identifier_mem_names _) ?_
          rw [first, ← second]
          exact Declaration.identifier_mem_names _

/-- A name that is declared once belongs to one declaration. -/
theorem filter_names_eq_singleton {declarations : List Declaration} {declaration : Declaration}
    (names : (declarations.flatMap (·.names)).Nodup) (member : declaration ∈ declarations)
    {name : String} (isName : name ∈ declaration.names) :
    declarations.filter (fun other => name ∈ other.names) = [declaration] := by
  induction declarations with
  | nil => cases member
  | cons first rest ih =>
      rw [List.flatMap_cons, List.nodup_append] at names
      obtain ⟨-, namesRest, apart⟩ := names
      rcases List.mem_cons.mp member with rfl | later
      · have others : rest.filter (fun other => name ∈ other.names) = [] := by
          refine List.filter_eq_nil_iff.mpr fun other isOther => ?_
          simp only [decide_eq_true_eq]
          intro again
          exact apart name isName name (List.mem_flatMap.mpr ⟨other, isOther, again⟩) rfl
        rw [List.filter_cons_of_pos (by simpa using isName), others]
      · have absent : name ∉ first.names := fun again =>
          apart name again name (List.mem_flatMap.mpr ⟨declaration, later, isName⟩) rfl
        rw [List.filter_cons_of_neg (by simpa using absent), ih namesRest later]

end OptionSchema.Codegen
