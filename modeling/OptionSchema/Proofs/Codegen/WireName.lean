import OptionSchema.Proofs.Codegen.Collision
import OptionSchema.Proofs.Codegen.Lines

/-!
# Names in data

Data has the names of the option tree and not those of generated code. A struct gives each of its
fields the name of a member, and a constant stands for a value of an enumeration, by literals that
are read as just these names (`generate_wireNames`).
-/

namespace OptionSchema.Codegen

open Naming (Rules typeIdentifier fieldIdentifier)

variable {options : GenerateOptions} {rules : Rules} {module : Module} {file : SourceFile}
  {name : String} {path : List String}

/-- Members of one name would have fields of one name. -/
theorem nodup_members {contents : Module}
    (fields : ((contents.sorted.map (memberField rules)).map (·.identifier)).Nodup) :
    (contents.sorted.map Prod.fst).Nodup := by
  refine List.Nodup.of_map (fun member => fieldIdentifier (rules.exported member)) ?_
  simpa [memberField, Function.comp_def] using fields

/-- Values of one constant would be one value. -/
theorem nodup_values {values : List String}
    (names : (enumerationOf rules name path values).names.Nodup) : values.Nodup := by
  refine List.Nodup.of_map (fun value => typeIdentifier name ++ rules.exported value) ?_
  have constants := (List.nodup_cons.mp names).2
  simpa [valueConstant, Function.comp_def] using constants

/-- Every module that the walk visits has one struct, with one field for each member, in canonical
order. Its lines give each field the name of its member. Every enumeration that the walk visits has
one constant for each value, in order, which stands for that value. Different members and different
values have different literals. -/
theorem generate_wireNames (generated : generate options rules module = .ok file) :
    (∀ name path node contents, Visits rules (Site.root options module) ⟨name, path, node⟩ →
      node.contents? = some contents →
        file.declarations.filter (fun declaration => typeIdentifier name ∈ declaration.names) =
            [.struct (typeIdentifier name) path (contents.sorted.map (memberField rules))] ∧
          contents.sorted.Perm contents.members ∧
          renamedFields (structOf rules name path contents).lines =
            (contents.sorted.map fun member =>
              (member.1, fieldLine (memberField rules member))) ∧
          (contents.sorted.map Prod.fst).Nodup ∧
          (contents.sorted.map fun member => Text.quotedText member.1).Nodup) ∧
      ∀ name path doc values,
        Visits rules (Site.root options module) ⟨name, path, .option doc (.enumeration values)⟩ →
          file.declarations.filter (fun declaration => typeIdentifier name ∈ declaration.names) =
              [enumerationOf rules name path values] ∧
            List.Forall₂ (fun value item => constantValue? (typeIdentifier name)
                (typeIdentifier name ++ rules.exported value) item = some value)
              values ((enumerationOf rules name path values).lines.splitOn "").tail ∧
            values.Nodup ∧ (values.map Text.quotedText).Nodup := by
  obtain ⟨names, fields⟩ := nodup_of_generate generated
  have mem {declaration : Declaration} {name : String}
      (once : file.declarations.filter (fun other => name ∈ other.names) = [declaration]) :
      declaration ∈ file.declarations :=
    List.mem_of_mem_filter (once ▸ List.mem_singleton.mpr rfl)
  constructor
  · intro name path node contents visits holds
    have once := filter_names_of_declares generated visits (.struct holds)
    have members : (contents.sorted.map Prod.fst).Nodup :=
      nodup_members (fields (typeIdentifier name) path _ (mem once))
    have literals := members.map Text.quotedText_injective
    rw [List.map_map] at literals
    refine ⟨once, canonicalOrder_perm _, ?_, members, literals⟩
    rw [structOf, Declaration.lines, renamedFields_structLines, List.map_map]
    rfl
  · intro name path doc values visits
    have once := filter_names_of_declares generated visits .enumeration
    have distinct : values.Nodup :=
      nodup_values ((List.nodup_flatMap.mp names).1 _ (mem once))
    refine ⟨once, ?_, distinct, distinct.map Text.quotedText_injective⟩
    rw [enumerationOf, Declaration.lines, splitOn_enumerationLines, List.tail_cons, List.map_map,
      List.forall₂_map_right_iff, List.forall₂_same]
    exact fun value _ =>
      constantValue?_constantItem _ (valueConstant rules (typeIdentifier name) value)

/-- The names of the members of `service` are kept, however they have to be written. -/
theorem generate_wireNames_service :
    ∃ file, generate .standard .plain service = .ok file ∧
      (renamedFields (structOf .plain "Config" [] service).lines).map Prod.fst =
        ["enable", "package", "backend", "say \"hi\"\n"] := by
  obtain ⟨file, generated, -⟩ := Outcome.map_eq_ok.mp generate_service
  have visits : Visits .plain (Site.root .standard service) ⟨"Config", [], .module service⟩ := .refl
  have holds : (Node.module service).contents? = some service := rfl
  obtain ⟨structs, -⟩ := generate_wireNames generated
  obtain ⟨-, -, renamed, -⟩ := structs _ _ _ _ visits holds
  refine ⟨file, generated, ?_⟩
  rw [renamed, List.map_map]
  rfl

end OptionSchema.Codegen
