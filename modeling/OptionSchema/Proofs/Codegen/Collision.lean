import OptionSchema.Proofs.Codegen.Emission
import OptionSchema.Proofs.Codegen.Names
import OptionSchema.Proofs.Codegen.Site

/-!
# Naming collisions

Generating a file fails if and only if the walk over the tree claims a target twice, and it reports
the first such claim (`generate_collides_iff`). A scope goes by the name of its struct; that merges
no two structs, since the name of a struct is claimed before its fields are.
-/

namespace OptionSchema.Codegen

open Naming (Rules typeIdentifier)

def walkClaims (options : GenerateOptions) (rules : Rules) (module : Module) : List Claim :=
  (moduleListing rules options.rootType [] module).claims

variable {options : GenerateOptions} {rules : Rules} {module : Module} {file : SourceFile}

theorem declares_moduleListing (name : String) (path : List String) :
    (moduleListing rules name path module).DeclaresClaims :=
  declares_nodeListing rules name path (.module module)

/-- Generating a file fails with nothing but a collision. -/
theorem generate_eq_error_iff {error : CodegenError} :
    generate options rules module = .error error ↔
      ∃ collision, collision? [] (walkClaims options rules module) = some collision ∧
        error = .collision collision := by
  rw [generate_eq, walkClaims]
  cases collision? [] (moduleListing rules options.rootType [] module).claims with
  | some found => simp [eq_comm]
  | none => simp

theorem generate_eq_collision_iff {collision : Collision} :
    generate options rules module = .error (.collision collision) ↔
      collision? [] (walkClaims options rules module) = some collision := by
  simp [generate_eq_error_iff]

/-- A file is generated if no target is claimed twice, and then it holds what the module is turned
into. -/
theorem generate_eq_ok_iff :
    generate options rules module = .ok file ↔
      (targets (walkClaims options rules module)).Nodup ∧
        (moduleListing rules options.rootType [] module).file options.package = file := by
  rw [generate_eq, ← collision?_nil_eq_none_iff, walkClaims]
  cases collision? [] (moduleListing rules options.rootType [] module).claims with
  | some found => simp
  | none => simp

theorem declarations_of_generate (generated : generate options rules module = .ok file) :
    file.declarations = (moduleListing rules options.rootType [] module).declarations := by
  obtain ⟨-, rfl⟩ := generate_eq_ok_iff.mp generated
  rfl

theorem source_of_generate (generated : generate options rules module = .ok file) :
    file.source = textOfLines file.lines := by
  obtain ⟨-, rfl⟩ := generate_eq_ok_iff.mp generated
  rfl

/-- The names of a generated file are distinct, and so are the fields of each struct. -/
theorem nodup_of_generate (generated : generate options rules module = .ok file) :
    (file.declarations.flatMap (·.names)).Nodup ∧
      ∀ identifier path fields, .struct identifier path fields ∈ file.declarations →
        (fields.map (·.identifier)).Nodup := by
  rw [declarations_of_generate generated]
  exact (declares_moduleListing options.rootType []).nodup_targets_iff.mp
    (generate_eq_ok_iff.mp generated).1

/-- A visited site declares its type once. -/
theorem filter_names_of_declares {name : String} {path : List String} {node : Node}
    {declaration : Declaration} (generated : generate options rules module = .ok file)
    (visits : Visits rules (Site.root options module) ⟨name, path, node⟩)
    (declares : Declares rules name path node declaration) :
    file.declarations.filter (fun other => typeIdentifier name ∈ other.names) = [declaration] := by
  refine filter_names_eq_singleton (nodup_of_generate generated).1 ?_
    (declares.identifier_eq ▸ declaration.identifier_mem_names)
  rw [declarations_of_generate generated]
  exact (part_of_visits visits).declarations.subset declares.mem_declarations

/-- A module whose member has a combining character at its end. -/
def backend : Module :=
  ⟨[("n\u0301", .option .empty (.scalar .bool))]⟩

/-- Alternatives of which the second one declares a type of its own. -/
def backends : List Node :=
  [.option .empty (.scalar .str), .option .empty (.wrapped .unique (.module backend)),
    .option .empty (.wrapped .listOf (.option .empty (.enumeration ["tcp", "udp\\"])))]

def service : Module :=
  ⟨[("backend", .option .empty (.either backends)), ("enable", .option .empty (.scalar .bool)),
    ("package", .option .empty (.scalar .package)),
    ("say \"hi\"\n", .option .empty (.scalar .str))]⟩

/-- Nothing in `service` collides. -/
theorem generate_service :
    (generate .standard .plain service).map (fun file => file.declarations.map (·.identifier)) =
      .ok ["Config", "Backend", "BackendStr", "BackendUnique", "BackendListOfItem",
        "BackendListOf"] := by
  decide +kernel

/-- Generating fails exactly if a target is claimed twice: that is, if two types or constants of the
tree have one name or two fields of one struct have. The collision is at the first claim whose
target an earlier one has. Nothing else makes it fail: no option is refused, since the tag of every
kind is registered, and every line can be written. What is claimed is what is declared, so a
generated file has no name twice. -/
theorem generate_collides_iff (options : GenerateOptions) (rules : Rules) (module : Module) :
    (∀ error, generate options rules module = .error error ↔
      ∃ before claim after first,
        walkClaims options rules module = before ++ claim :: after ∧ (targets before).Nodup ∧
          first ∈ before ∧ first.target = claim.target ∧
          error = .collision ⟨claim.scope, claim.identifier, first.source, claim.source⟩) ∧
      (∀ tag, generate options rules module ≠ .error (.unreachableVariant tag)) ∧
      generate options rules module ≠ .error .format ∧
      ((∃ error, generate options rules module = .error error) ↔
        ¬ (targets (walkClaims options rules module)).Nodup) ∧
      ((∃ error, generate options rules module = .error error) ↔
        ¬ ((((Site.root options module).listing rules).declarations.flatMap (·.names)).Nodup ∧
          ∀ identifier path fields,
            .struct identifier path fields ∈
                ((Site.root options module).listing rules).declarations →
              (fields.map (·.identifier)).Nodup)) ∧
      (∀ doc kind, module.Contains (.option doc kind) → Tag.isRegistered kind.tag.name = true) ∧
      ∀ file, generate options rules module = .ok file →
        (∀ scope, (file.declarations.flatMap (·.namesIn scope)).Perm
          (identifiersOf scope (walkClaims options rules module))) ∧
        (file.declarations.flatMap (·.names)).Nodup ∧
        ∀ identifier path fields, .struct identifier path fields ∈ file.declarations →
          (fields.map (·.identifier)).Nodup := by
  have collides {error : CodegenError} (failed : generate options rules module = .error error) :
      ∃ collision, error = .collision collision := by
    obtain ⟨collision, -, same⟩ := generate_eq_error_iff.mp failed
    exact ⟨collision, same⟩
  have fails : (∃ error, generate options rules module = .error error) ↔
      ¬ (targets (walkClaims options rules module)).Nodup := by
    rw [← collision?_nil_eq_none_iff, ← ne_eq, Option.ne_none_iff_exists']
    constructor
    · rintro ⟨error, failed⟩
      obtain ⟨collision, found, -⟩ := generate_eq_error_iff.mp failed
      exact ⟨collision, found⟩
    · rintro ⟨collision, found⟩
      exact ⟨_, generate_eq_collision_iff.mpr found⟩
  refine ⟨fun error => ?first, fun tag failed => ?reachable, fun failed => ?written, fails, ?names,
    fun doc kind _ => Tag.isRegistered_name kind.tag, fun file generated => ?distinct⟩
  case first =>
    simp only [generate_eq_error_iff, collision?_nil_eq_some_iff]
    constructor
    · rintro ⟨_, ⟨before, claim, after, first, split, nodup, member, same, rfl⟩, rfl⟩
      exact ⟨before, claim, after, first, split, nodup, member, same, rfl⟩
    · rintro ⟨before, claim, after, first, split, nodup, member, same, rfl⟩
      exact ⟨_, ⟨before, claim, after, first, split, nodup, member, same, rfl⟩, rfl⟩
  case reachable =>
    obtain ⟨collision, same⟩ := collides failed
    cases same
  case written =>
    obtain ⟨collision, same⟩ := collides failed
    cases same
  case names =>
    rw [fails]
    exact not_congr (declares_moduleListing options.rootType []).nodup_targets_iff
  case distinct =>
    refine ⟨fun scope => ?_, nodup_of_generate generated⟩
    rw [declarations_of_generate generated]
    exact declares_moduleListing options.rootType [] scope

end OptionSchema.Codegen
