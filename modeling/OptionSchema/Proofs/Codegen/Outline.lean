import OptionSchema.Proofs.Codegen.Shape

/-!
# Outlines

What generated code depends on: the names, kinds and values in a tree, and the descriptions of the
members of its modules. An outline of a tree is the tree of its shape that has nothing else, so the
same file is generated from it (`generate_outline`).
-/

namespace OptionSchema

def Doc.described (description : String) : Doc :=
  { Doc.empty with description }

mutual

/-- The outline of a node, with the given documentation if it is an option. -/
def Node.outline (doc : Doc) : Node → Node
  | .module contents => .module contents.outline
  | .option _ kind => .option doc kind.outline

/-- The outline of a kind: kept trees and separators are left out, and so is all documentation of the
nodes right inside. -/
def Kind.outline : Kind → Kind
  | .scalar scalar => .scalar scalar
  | .unspecified _ => .unspecified .null
  | .enumeration values => .enumeration values
  | .separatedString _ => .separatedString ""
  | .wrapped wrapper inner => .wrapped wrapper (inner.outline .empty)
  | .either alternatives => .either (outlineNodes alternatives)
  | .submodule contents => .submodule contents.outline

/-- The outline of a module: its members keep their descriptions. -/
def Module.outline : Module → Module
  | ⟨members⟩ => ⟨outlineMembers members⟩

def outlineNodes : List Node → List Node
  | [] => []
  | node :: rest => node.outline .empty :: outlineNodes rest

def outlineMembers : List (String × Node) → List (String × Node)
  | [] => []
  | (name, node) :: rest =>
      (name, node.outline (.described node.doc.description)) :: outlineMembers rest

end

def Node.memberOutline (node : Node) : Node :=
  node.outline (.described node.doc.description)

theorem outlineNodes_eq_map (nodes : List Node) :
    outlineNodes nodes = nodes.map (Node.outline .empty) := by
  induction nodes with
  | nil => rfl
  | cons node rest ih => rw [outlineNodes, ih, List.map_cons]

theorem Module.eq_of_members_eq {first second : Module} (same : first.members = second.members) :
    first = second := by
  cases first
  cases second
  exact congrArg Module.mk same

theorem Module.members_outline (module : Module) :
    module.outline.members = module.members.map fun member => (member.1, member.2.memberOutline) := by
  obtain ⟨members⟩ := module
  rw [outline]
  induction members with
  | nil => rfl
  | cons member rest ih =>
      obtain ⟨name, node⟩ := member
      rw [outlineMembers, List.map_cons, ← ih, Node.memberOutline]

theorem description_memberOutline (node : Node) :
    node.memberOutline.doc.description = node.doc.description := by
  cases node <;> rfl

/-! ## Shapes -/

theorem Module.sameShape_outline {contents : Module}
    (each : ∀ node ∈ contents.nodes, ∀ doc, (node.outline doc).SameShape node) :
    contents.outline.SameShape contents := by
  have matched : List.Forall₂ SameMember contents.outline.members contents.members := by
    rw [Module.members_outline, List.forall₂_map_left_iff, List.forall₂_same]
    intro member isMember
    exact .member member.1 (description_memberOutline member.2)
      (each member.2 (List.mem_map_of_mem isMember) _)
  exact .members matched

/-- An outline has the shape of its node; by induction on the node. -/
theorem Node.sameShape_outline (node : Node) : ∀ doc, (node.outline doc).SameShape node := by
  induction node using Node.induction with
  | step node ih =>
      intro doc
      cases node with
      | module contents => exact .module (Module.sameShape_outline ih)
      | option doc' kind =>
          refine .option ?_
          cases kind with
          | scalar scalar => exact .scalar scalar
          | unspecified source => exact .unspecified _ source
          | enumeration values => exact .enumeration values
          | separatedString separator => exact .separatedString _ separator
          | wrapped wrapper inner =>
              exact .wrapped wrapper (ih inner (List.mem_singleton.mpr rfl) .empty)
          | either alternatives =>
              rw [Kind.outline, outlineNodes_eq_map]
              exact .either (List.forall₂_map_left_iff.mpr
                (List.forall₂_same.mpr fun node member => ih node member .empty))
          | submodule contents => exact .submodule (Module.sameShape_outline ih)

/-- The same file is generated from the outline of a module, or the same collision is found. -/
theorem Codegen.generate_outline (options : GenerateOptions) (rules : Naming.Rules)
    (module : Module) : generate options rules module.outline = generate options rules module :=
  Interchangeable.generate_eq (interchangeableMembers_of_sameShape
    (Module.sameShape_outline fun node _ => node.sameShape_outline)) options rules

end OptionSchema
