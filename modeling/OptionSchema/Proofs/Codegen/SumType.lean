import Mathlib.Data.List.Flatten
import OptionSchema.Proofs.Codegen.Collision
import OptionSchema.Proofs.Codegen.Lines
import OptionSchema.Proofs.Codegen.Reference

/-!
# Sum types

Every alternative of a sum type has a variant and a type of its own, which the alternative itself
declares or else a wrapper does (`generate_sums`).
-/

namespace OptionSchema.Codegen

open Naming (Rules typeIdentifier)

variable {options : GenerateOptions} {rules : Rules} {module : Module} {file : SourceFile}

/-- No two alternatives have one type, since the declarations that they introduce have no name in
common. -/
theorem nodup_alternativeIdentifiers {path : List String} {sum : String} {alternatives : List Node}
    (names : ((alternativeDeclarations rules path sum alternatives).flatMap (·.names)).Nodup) :
    (alternatives.map fun node => typeIdentifier (alternativeName rules sum node)).Nodup := by
  rw [alternativeDeclarations, List.flatMap_assoc] at names
  obtain ⟨-, disjoint⟩ := List.nodup_flatMap.mp names
  refine List.pairwise_map.mpr (disjoint.imp fun {first second} apart same => ?_)
  have declared (node : Node) : typeIdentifier (alternativeName rules sum node) ∈
      ((alternativeDeclarations rules path sum [node]).flatMap (·.names)) := by
    obtain ⟨declaration, member, same, -⟩ := exists_declaration_of_alternative rules path sum
      (List.mem_singleton.mpr (rfl : node = node))
    exact List.mem_flatMap.mpr ⟨declaration, member, same ▸ declaration.identifier_mem_names⟩
  simp only [alternativeDeclarations, List.flatMap_singleton] at declared
  exact apart (declared first) (same ▸ declared second)

/-- The sum type of alternatives that the walk visits is declared once and has a variant for each of
them, in their order. The payload of a variant is a type that is named after the sum type and the
variant; it is declared once as well, by the alternative itself or as its wrapper. Variants and
payloads are distinct. What is written of the sum type names each variant and its payload, in this
order, three times: in the enumeration, in the conversions, and where the reader tries them. -/
theorem generate_sums {name : String} {path : List String} {doc : Doc} {alternatives : List Node}
    (generated : generate options rules module = .ok file)
    (visits : Visits rules (Site.root options module)
      ⟨name, path, .option doc (.either alternatives)⟩)
    (several : isNumber alternatives = false) :
    let sum := typeIdentifier name
    let payload := fun node => typeIdentifier (sum ++ variantName rules node)
    let variants := alternatives.map fun node =>
      (⟨variantName rules node, alternativeTag node, .named (payload node)⟩ : Variant)
    file.declarations.filter (fun declaration => sum ∈ declaration.names) =
        [.sum sum path variants] ∧
      (∀ node ∈ alternatives, ∃ declared,
        file.declarations.filter (fun declaration => payload node ∈ declaration.names) =
            [declared] ∧
          if declaresType node then
            Declares rules (sum ++ variantName rules node) path node declared
          else
            declared = .wrapper (payload node) sum
              (nodeType (sum ++ variantName rules node ++ "Item") node)) ∧
      (variants.map (·.name)).Nodup ∧ (variants.map (·.payload)).Nodup ∧
      (Declaration.sum sum path variants).lines.splitOn "" =
        sumItem sum path (alternatives.map fun node =>
            variantLines (variantName rules node) (alternativeTag node) (payload node)) ::
          (alternatives.map (fun node =>
              conversionItem sum (variantName rules node) (payload node)) ++
            [readerItem sum (alternatives.map fun node =>
              attemptLines (variantName rules node) (payload node))]) := by
  intro sum payload variants
  have names := (nodup_of_generate generated).1
  have inside : (nodeListing rules name path (.option doc (.either alternatives))).declarations <:+:
      file.declarations := by
    rw [declarations_of_generate generated]
    exact (part_of_visits visits).declarations
  rw [declarations_either several] at inside
  have payloads : (alternatives.map payload).Nodup := by
    have apart : ((alternativeDeclarations rules path sum alternatives).flatMap (·.names)).Nodup :=
      names.sublist (((List.sublist_cons_self _ _).trans inside.sublist).flatMap _)
    exact nodup_alternativeIdentifiers apart
  refine ⟨?sum, ?declared, ?variants, ?payloads, ?lines⟩
  case sum =>
    exact filter_names_of_declares generated visits (.sum several)
  case declared =>
    intro node member
    obtain ⟨declared, isDeclared, same, origin⟩ :=
      exists_declaration_of_alternative rules path sum member
    have isName : payload node ∈ declared.names := by
      have named : declared.identifier = payload node := same
      exact named ▸ declared.identifier_mem_names
    refine ⟨declared, filter_names_eq_singleton names
      (inside.subset (List.mem_cons_of_mem _ isDeclared)) isName, ?_⟩
    cases declares : declaresType node with
    | true =>
        rw [declares] at origin
        exact origin
    | false =>
        rw [declares, wrapperOf, innerName, declares] at origin
        exact origin
  case variants =>
    refine List.Nodup.of_map (fun variant => typeIdentifier (sum ++ variant)) ?_
    simpa [variants, Function.comp_def] using payloads
  case payloads =>
    have distinct := payloads.map (f := TypeExpr.named) fun _ _ => TypeExpr.named.inj
    simpa [variants, Function.comp_def] using distinct
  case lines =>
    rw [Declaration.lines, splitOn_sumLines]
    simp only [variants, List.map_map, Function.comp_def, TypeExpr.text_named]

/-- The walk over `service` visits its alternatives. -/
theorem visits_backends :
    Visits .plain (Site.root .standard service)
      ⟨"Backend", ["backend"], .option .empty (.either backends)⟩ := by
  have exported : Rules.exported .plain "backend" = "Backend" := by decide +kernel
  have enters : Enters .plain (Site.root .standard service)
      ⟨Rules.exported .plain "backend", [] ++ ["backend"], .option .empty (.either backends)⟩ :=
    .member rfl (List.mem_cons_self ..)
  rw [exported] at enters
  exact .single enters

/-- The second backend of `service` declares the payload of its variant itself. -/
theorem generate_sums_service :
    ∃ file, generate .standard .plain service = .ok file ∧
      file.declarations.filter (fun declaration => "BackendUnique" ∈ declaration.names) =
        [structOf .plain "BackendUnique" ["backend"] backend] := by
  obtain ⟨file, generated, -⟩ := Outcome.map_eq_ok.mp generate_service
  obtain ⟨-, declared, -⟩ := generate_sums generated visits_backends rfl
  have named : typeIdentifier "Backend" ++
      variantName .plain (.option .empty (.wrapped .unique (.module backend))) =
        "BackendUnique" := by
    decide +kernel
  obtain ⟨declaration, once, declares⟩ :=
    declared _ (List.mem_cons_of_mem _ (List.mem_cons_self ..))
  have identifier : typeIdentifier "BackendUnique" = "BackendUnique" := by decide +kernel
  have hasType : declaresType (.option .empty (.wrapped .unique (.module backend))) = true := rfl
  rw [if_pos hasType] at declares
  simp only [named, identifier] at once declares
  cases declares with
  | struct holds => cases holds
  | unique declares =>
      cases declares with
      | struct holds =>
          cases holds
          exact ⟨file, generated, once⟩

end OptionSchema.Codegen
