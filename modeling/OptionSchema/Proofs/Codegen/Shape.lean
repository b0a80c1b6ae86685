import OptionSchema.Proofs.Codegen.Interchange

/-!
# Trees of one shape

Two trees have one shape if they have the same members, kinds, values of enumerations and nesting,
and if the members of their modules have the same descriptions. All other documentation may differ,
and so may separators and what is kept of options outside the vocabulary. Main statement:
`generate_sameShape`. What is generated of a module is a matter of its shape.
-/

namespace OptionSchema

mutual

/-- Nodes of one shape. Their own documentation does not matter. -/
inductive Node.SameShape : Node → Node → Prop where
  | module {contents other : Module} :
      Module.SameShape contents other → Node.SameShape (.module contents) (.module other)
  | option {doc doc' : Doc} {kind other : Kind} :
      Kind.SameShape kind other → Node.SameShape (.option doc kind) (.option doc' other)

inductive Kind.SameShape : Kind → Kind → Prop where
  | scalar (scalar : Scalar) : Kind.SameShape (.scalar scalar) (.scalar scalar)
  | unspecified (source other : Json.Tree) : Kind.SameShape (.unspecified source) (.unspecified other)
  | enumeration (values : List String) : Kind.SameShape (.enumeration values) (.enumeration values)
  | separatedString (separator other : String) :
      Kind.SameShape (.separatedString separator) (.separatedString other)
  | wrapped (wrapper : Wrapper) {inner other : Node} :
      Node.SameShape inner other → Kind.SameShape (.wrapped wrapper inner) (.wrapped wrapper other)
  | either {alternatives others : List Node} :
      List.Forall₂ Node.SameShape alternatives others →
      Kind.SameShape (.either alternatives) (.either others)
  | submodule {contents other : Module} :
      Module.SameShape contents other → Kind.SameShape (.submodule contents) (.submodule other)

inductive Module.SameShape : Module → Module → Prop where
  | members {contents other : Module} :
      List.Forall₂ SameMember contents.members other.members → Module.SameShape contents other

/-- Members with one name and one description, and of one shape. -/
inductive SameMember : String × Node → String × Node → Prop where
  | member (name : String) {node other : Node} :
      node.doc.description = other.doc.description → Node.SameShape node other →
      SameMember (name, node) (name, other)

end

namespace Codegen

variable {node other : Node} {contents contents' : Module}

theorem alternativeTag_of_sameShape (same : node.SameShape other) :
    alternativeTag node = alternativeTag other := by
  cases same with
  | module => rfl
  | option sameKind => cases sameKind <;> rfl

theorem isScalar_of_sameShape (same : node.SameShape other) (scalar : Scalar) :
    node.isScalar scalar = other.isScalar scalar := by
  cases same with
  | module => rfl
  | option sameKind => cases sameKind <;> rfl

theorem members_of_sameShape (same : contents.SameShape contents')
    (each : ∀ node ∈ contents.nodes, ∀ other, node.SameShape other → Interchangeable node other) :
    List.Forall₂ InterchangeableMembers contents.members contents'.members := by
  cases same with
  | members matched =>
      refine Outcome.forall₂_imp_of_mem (fun member isMember member' same => ?_) matched
      cases same with
      | member name sameDescription sameNode =>
          exact ⟨rfl, sameDescription, each _ (List.mem_map_of_mem isMember) _ sameNode⟩

/-- Nodes of one shape are interchangeable; by induction on one of them. -/
theorem interchangeable_of_sameShape (same : node.SameShape other) : Interchangeable node other := by
  induction node using Node.induction generalizing other with
  | step node ih =>
      have each (child : Node) (isChild : child ∈ node.children) (child' : Node)
          (same : child.SameShape child') : Interchangeable child child' :=
        ih child isChild same
      cases same with
      | module sameContents => exact .module (members_of_sameShape sameContents each)
      | option sameKind =>
          cases sameKind with
          | scalar | enumeration => exact interchangeable_option _ _ _
          | unspecified | separatedString => exact ⟨rfl, fun _ => rfl, fun _ _ _ => rfl⟩
          | wrapped wrapper sameInner =>
              exact (each _ (List.mem_singleton.mpr rfl) _ sameInner).wrapped wrapper _ _
          | either matched =>
              refine .either (Outcome.forall₂_imp_of_mem (fun node member node' same => ?_) matched) _ _
              exact ⟨alternativeTag_of_sameShape same, isScalar_of_sameShape same,
                each node member node' same⟩
          | submodule sameContents =>
              exact .submodule (members_of_sameShape sameContents each) _ _

/-- Modules of one shape have interchangeable members. -/
theorem interchangeableMembers_of_sameShape (same : contents.SameShape contents') :
    List.Forall₂ InterchangeableMembers contents.members contents'.members :=
  members_of_sameShape same fun _ _ _ => interchangeable_of_sameShape

/-- The same file is generated of modules of one shape, or the same collision is found. -/
theorem generate_sameShape (options : GenerateOptions) (rules : Naming.Rules)
    (same : contents.SameShape contents') :
    generate options rules contents = generate options rules contents' :=
  Interchangeable.generate_eq (interchangeableMembers_of_sameShape same) options rules

def terse : Module :=
  ⟨[("limit", .option { Doc.empty with description := "The limit." }
      (.either [.option .empty (.scalar .int), .option .empty (.scalar .float)])),
    ("plugins", .option .empty (.wrapped .listOf (.option .empty (.unspecified .null)))),
    ("words", .option .empty (.separatedString ","))]⟩

/-- The same options with more documentation, another separator and other plugins. -/
def wordy : Module :=
  ⟨[("limit", .option ⟨none, some (.bool true), "yes", "The limit.", "note", true, true, true⟩
      (.either [.option { Doc.empty with description := "A count." } (.scalar .int),
        .option { Doc.empty with description := "A share." } (.scalar .float)])),
    ("plugins", .option { Doc.empty with readOnly := true }
      (.wrapped .listOf (.option { Doc.empty with description := "A plugin." }
        (.unspecified (.object [] []))))),
    ("words", .option .empty (.separatedString " "))]⟩

/-- What differs between `terse` and `wordy` is not read. -/
theorem generate_sameShape_wordy :
    terse.SameShape wordy ∧
      ∃ file, generate .standard .plain terse = .ok file ∧
        generate .standard .plain wordy = .ok file := by
  have same : terse.SameShape wordy := by
    refine .members (.cons (.member _ rfl (.option ?_)) (.cons (.member _ rfl (.option ?_))
      (.cons (.member _ rfl (.option ?_)) .nil)))
    · exact .either (.cons (.option (.scalar .int)) (.cons (.option (.scalar .float)) .nil))
    · exact .wrapped .listOf (.option (.unspecified _ _))
    · exact .separatedString _ _
  have generated : (generate .standard .plain terse).map (fun file => file.declarations.length) =
      .ok 1 := by
    decide +kernel
  obtain ⟨file, generated, -⟩ := Outcome.map_eq_ok.mp generated
  exact ⟨same, file, generated, (generate_sameShape .standard .plain same).symm.trans generated⟩

end Codegen

end OptionSchema
