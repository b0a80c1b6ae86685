import Mathlib.Logic.Relation
import OptionSchema.Proofs.Codegen.Interchange

/-!
# Wrapping that leaves no trace

A bare module means what a submodule option without a description means, and `unique` means what it
wraps; only as an alternative does an option show that it is `unique`, by the name of its variant.
`Node.Rewraps` is one such replacement at any depth. Main statement: `generate_rewraps`. No number of
replacements changes what is generated.
-/

namespace OptionSchema

/-- The kind of an option that holds what a node holds. -/
def Node.heldKind : Node → Kind
  | .module contents => .submodule contents
  | .option _ kind => kind

/-- Whether a node is an alternative of a sum type itself or stands somewhere else. -/
inductive Stand where
  | alternative
  | elsewhere

mutual

/-- One node within a node, or the node itself, is replaced: a bare module by a submodule option
without a description, or a `unique` that is no alternative by what it wraps. -/
inductive Node.Rewraps : Stand → Node → Node → Prop where
  | bare (stand : Stand) (contents : Module) {doc : Doc} : doc.description = "" →
      Node.Rewraps stand (.module contents) (.option doc (.submodule contents))
  | unique (doc : Doc) (inner : Node) :
      Node.Rewraps .elsewhere (.option doc (.wrapped .unique inner)) (.option doc inner.heldKind)
  | module (stand : Stand) {contents other : Module} : Module.Rewraps contents other →
      Node.Rewraps stand (.module contents) (.module other)
  | option (stand : Stand) (doc : Doc) {kind other : Kind} : Kind.Rewraps kind other →
      Node.Rewraps stand (.option doc kind) (.option doc other)

/-- One node within an option is replaced. -/
inductive Kind.Rewraps : Kind → Kind → Prop where
  | wrapped (wrapper : Wrapper) {inner other : Node} : Node.Rewraps .elsewhere inner other →
      Kind.Rewraps (.wrapped wrapper inner) (.wrapped wrapper other)
  | either (before after : List Node) {node other : Node} : Node.Rewraps .alternative node other →
      Kind.Rewraps (.either (before ++ node :: after)) (.either (before ++ other :: after))
  | submodule {contents other : Module} : Module.Rewraps contents other →
      Kind.Rewraps (.submodule contents) (.submodule other)

inductive Module.Rewraps : Module → Module → Prop where
  | member (before after : List (String × Node)) (name : String) {node other : Node} :
      Node.Rewraps .elsewhere node other →
      Module.Rewraps ⟨before ++ (name, node) :: after⟩ ⟨before ++ (name, other) :: after⟩

end

namespace Codegen

variable {stand : Stand} {node other : Node} {contents contents' : Module}

theorem description_of_rewraps (rewraps : Node.Rewraps stand node other) :
    node.doc.description = other.doc.description := by
  cases rewraps with
  | bare _ _ undescribed => exact undescribed.symm
  | unique | module | option => rfl

/-- A node keeps its tag, unless it is a `unique` that is taken off. -/
theorem alternativeTag_of_rewraps (rewraps : Node.Rewraps .alternative node other) :
    alternativeTag node = alternativeTag other := by
  cases rewraps with
  | bare | module => rfl
  | option _ _ inside => cases inside <;> rfl

theorem isScalar_of_rewraps (rewraps : Node.Rewraps .alternative node other) (scalar : Scalar) :
    node.isScalar scalar = other.isScalar scalar := by
  cases rewraps with
  | bare | module => rfl
  | option _ _ inside => cases inside <;> rfl

/-- What is wrapped in `unique` can take its place. -/
theorem interchangeable_heldKind (doc : Doc) (inner : Node) :
    Interchangeable (.option doc (.wrapped .unique inner)) (.option doc inner.heldKind) := by
  cases inner with
  | module | option => exact ⟨rfl, fun _ => rfl, fun _ _ _ => rfl⟩

/-- Two lists that differ in one item are related item by item. -/
theorem forall₂_of_replace {α : Type} {related : α → α → Prop} (refl : ∀ item, related item item)
    (before after : List α) {first second : α} (holds : related first second) :
    List.Forall₂ related (before ++ first :: after) (before ++ second :: after) :=
  List.rel_append (List.forall₂_same.mpr fun item _ => refl item)
    (.cons holds (List.forall₂_same.mpr fun item _ => refl item))

theorem members_of_rewraps (rewraps : Module.Rewraps contents contents')
    (each : ∀ node ∈ contents.nodes, ∀ stand other,
      Node.Rewraps stand node other → Interchangeable node other) :
    List.Forall₂ InterchangeableMembers contents.members contents'.members := by
  cases rewraps with
  | member before after name inside =>
      refine forall₂_of_replace InterchangeableMembers.refl before after ?_
      exact ⟨rfl, description_of_rewraps inside, each _ (by simp [Module.nodes]) _ _ inside⟩

/-- A replacement gives an interchangeable node; by induction on the node in which it is made. -/
theorem interchangeable_of_rewraps (rewraps : Node.Rewraps stand node other) :
    Interchangeable node other := by
  induction node using Node.induction generalizing stand other with
  | step node ih =>
      have each (child : Node) (isChild : child ∈ node.children) (stand : Stand) (child' : Node)
          (inside : Node.Rewraps stand child child') : Interchangeable child child' :=
        ih child isChild inside
      cases rewraps with
      | bare _ contents => exact interchangeable_submodule _ contents
      | unique doc inner => exact interchangeable_heldKind doc inner
      | module _ inside => exact .module (members_of_rewraps inside each)
      | option _ doc inside =>
          cases inside with
          | wrapped wrapper inside =>
              exact (each _ (List.mem_singleton.mpr rfl) _ _ inside).wrapped wrapper doc doc
          | either before after inside =>
              refine .either (forall₂_of_replace InterchangeableAlternatives.refl before after ?_)
                doc doc
              exact ⟨alternativeTag_of_rewraps inside, isScalar_of_rewraps inside,
                each _ (by simp [Node.children, Kind.children]) _ _ inside⟩
          | submodule inside => exact .submodule (members_of_rewraps inside each) doc doc

theorem generate_of_rewraps (options : GenerateOptions) (rules : Naming.Rules)
    (rewraps : Module.Rewraps contents contents') :
    generate options rules contents = generate options rules contents' :=
  Interchangeable.generate_eq
    (members_of_rewraps rewraps fun _ _ _ _ => interchangeable_of_rewraps) options rules

/-- However often bare modules are replaced by submodule options without a description, and `unique`
options that are no alternatives by what they wrap, the same file is generated, or the same collision
is found. -/
theorem generate_rewraps (options : GenerateOptions) (rules : Naming.Rules)
    (rewraps : Relation.ReflTransGen Module.Rewraps contents contents') :
    generate options rules contents = generate options rules contents' := by
  induction rewraps with
  | refl => rfl
  | tail _ last ih => exact ih.trans (generate_of_rewraps options rules last)

/-- A bare module among alternatives, and a number in `unique`, which may be null. -/
def layered : Module :=
  ⟨[("cache", .option .empty (.either [.option .empty (.scalar .str), .module ⟨[]⟩])),
    ("limit", .option .empty (.wrapped .nullOr (.option { Doc.empty with description := "A limit." }
      (.wrapped .unique
        (.option .empty (.either [.option .empty (.scalar .int), .option .empty (.scalar .float)]))))))]⟩

def flat : Module :=
  ⟨[("cache", .option .empty
      (.either [.option .empty (.scalar .str), .option .empty (.submodule ⟨[]⟩)])),
    ("limit", .option .empty (.wrapped .nullOr (.option { Doc.empty with description := "A limit." }
      (.either [.option .empty (.scalar .int), .option .empty (.scalar .float)]))))]⟩

/-- Two replacements lead from `layered` to `flat`, and the same file is generated. -/
theorem generate_rewraps_flat :
    Relation.ReflTransGen Module.Rewraps layered flat ∧
      ∃ file, generate .standard .plain layered = .ok file ∧
        generate .standard .plain flat = .ok file := by
  have rewraps : Relation.ReflTransGen Module.Rewraps layered flat := by
    refine (Relation.ReflTransGen.single
      (.member [] _ "cache" (.option _ _ (.either [_] [] (.bare _ _ ?_))))).tail
        (.member [_] [] "limit" (.option _ _ (.wrapped .nullOr (.unique _ _))))
    rfl
  have generated : (generate .standard .plain layered).map (fun file => file.declarations.length) =
      .ok 4 := by
    decide +kernel
  obtain ⟨file, generated, -⟩ := Outcome.map_eq_ok.mp generated
  exact ⟨rewraps, file, generated, (generate_rewraps .standard .plain rewraps).symm.trans generated⟩

end Codegen

end OptionSchema
