import OptionSchema.Proofs.Codegen.Outline
import OptionSchema.Proofs.Wire.Recode

/-!
# Documents of decoded modules

A document of a decoded module is decoded exactly if the values in the documentation of its options
can be read, be it null (`exists_decode_document_iff`). What it is decoded to has the same outline
and the same documents as the module.
-/

namespace OptionSchema

open Dictionary (Matched valuesOf)
open Json (Layout Tree Value)

/-- A value that can be read where it is written into a document. -/
def Json.Value.Readable (value : Value) : Prop :=
  value.Plain ∧ value.depth ≤ Json.depthLimit

/-- The documentation of a node can be read from where it is written, unless the node is written as
it was read. -/
def Node.IsReadable (node : Node) : Prop :=
  ∀ doc kind, node = .option doc kind → kind.tag ≠ .unspecified →
    ∀ value ∈ doc.values, value.Readable

theorem Module.everywhere_isReadable_iff {module : Module} :
    module.Everywhere Node.IsReadable ↔
      ∀ doc kind, module.Contains (.option doc kind) → kind.tag ≠ .unspecified →
        ∀ value ∈ doc.values, value.Readable := by
  constructor
  · exact fun readable doc kind contained => readable _ contained doc kind rfl
  · rintro readable part contained doc kind rfl
    exact readable doc kind contained

namespace Wire

variable {layout : Layout} {depth : Nat}

/-! ## Documentation -/

/-- Something is read from the field of a value exactly if the value can be read. -/
theorem exists_once_value_iff (layout : Layout) (depth : Nat) {value? : Option Value}
    (proper : ∀ value ∈ value?, value.Proper) (recovers : ∀ value ∈ value?, value.FloatsRecover) :
    (∃ result content, Once Tree.readOptionalValue
        (DocField.tree?.value? layout depth value?).toList content ∧
      result = content.getD none) ↔ ∀ value ∈ value?, value.Readable := by
  cases value? with
  | none => exact iff_of_true ⟨none, (once_value_absent (.inl rfl)).mpr rfl⟩ nofun
  | some value =>
      have proper := proper value rfl
      have recovers := recovers value rfl
      by_cases null : value = .null
      · subst null
        refine iff_of_true ⟨none, (once_value_absent (.inr rfl)).mpr rfl⟩ ?_
        rintro _ ⟨⟩
        exact ⟨Value.everywhere_of_parts_eq_nil id rfl, Nat.zero_le _⟩
      · simp only [once_value null recovers, Option.mem_some_iff, forall_eq']
        constructor
        · rintro ⟨_, found, read, -⟩
          exact (Json.readValue_tree_inv proper recovers read).2
        · rintro ⟨plain, shallow⟩
          exact ⟨_, value, Json.readValue_tree proper.ordered recovers plain shallow, rfl⟩

section

variable {found : List (String × Tree)} {doc : Doc}
  (written : ∀ field : DocField,
    valuesOf field.name found = (field.tree? layout depth doc).toList)

include written

/-- Documentation is read where documentation was written exactly if its values can be read. -/
theorem exists_isDoc_written_iff (proper : ∀ value ∈ doc.values, value.Proper)
    (recovers : ∀ value ∈ doc.values, value.FloatsRecover) :
    (∃ doc', IsDoc found doc') ↔ ∀ value ∈ doc.values, value.Readable := by
  rw [Doc.forall_mem_values_iff] at proper recovers ⊢
  rw [← exists_once_value_iff layout depth proper.1 recovers.1,
    ← exists_once_value_iff layout depth proper.2 recovers.2]
  constructor
  · rintro ⟨doc', isDoc⟩
    obtain ⟨readExample, readDefault, -⟩ := (isDoc_written_iff written).mp isDoc
    exact ⟨⟨_, readExample⟩, _, readDefault⟩
  · rintro ⟨⟨example', readExample⟩, default', readDefault⟩
    refine ⟨{ doc with example? := example', default? := default' }, ?_⟩
    exact (isDoc_written_iff written).mpr
      ⟨readExample, readDefault, rfl, rfl, rfl, rfl, rfl, rfl⟩

end

/-! ## Nodes -/

/-- Something is read from the tree of a module exactly if something is read from that of each
member. -/
theorem exists_isModule_iff {contents : Module} {property : Node → Prop}
    (ascending : Dictionary.Ascending contents.members)
    (each : ∀ node ∈ contents.nodes,
      (∃ node', IsNode (nodeTree layout (depth + 1) node) node') ↔ property node) :
    (∃ contents', IsModule (moduleTree layout depth contents) contents') ↔
      ∀ node ∈ contents.nodes, property node := by
  have ofMembers : (∃ contents', IsModule (moduleTree layout depth contents) contents') ↔
      ∃ members, Matched (fun node node' => IsNode (nodeTree layout (depth + 1) node) node')
        contents.members members := by
    constructor
    · rintro ⟨contents', isModule⟩
      exact ⟨_, (isModule_moduleTree_iff ascending).mp isModule⟩
    · rintro ⟨members, matched⟩
      exact ⟨⟨members⟩, (isModule_moduleTree_iff ascending).mpr matched⟩
  rw [ofMembers, Dictionary.exists_matched_iff, forall_nodes_iff]
  exact forall₂_congr fun member isMember => each member.2 (List.mem_map_of_mem isMember)

/-- Some kind is read of a written one exactly if some node is read of each of its children. -/
theorem exists_kindRereads_iff {kind : Kind} {property : Node → Prop}
    (known : kind.tag ≠ .unspecified)
    (ascending : ∀ contents, kind = .submodule contents → Dictionary.Ascending contents.members)
    (each : ∀ child ∈ kind.children, ∀ depth,
      (∃ child', IsNode (nodeTree layout depth child) child') ↔ property child) :
    (∃ kind', KindRereads layout depth kind kind') ↔ ∀ child ∈ kind.children, property child := by
  cases kind with
  | unspecified => exact absurd rfl known
  | scalar scalar => exact iff_of_true ⟨_, .scalar scalar⟩ fun _ member => nomatch member
  | enumeration values => exact iff_of_true ⟨_, .enumeration values⟩ fun _ member => nomatch member
  | separatedString separator =>
      exact iff_of_true ⟨_, .separatedString separator⟩ fun _ member => nomatch member
  | wrapped wrapper inner =>
      rw [Kind.children, List.forall_mem_singleton,
        ← each inner (List.mem_singleton.mpr rfl) depth]
      constructor
      · rintro ⟨_, rereads⟩
        cases rereads with
        | wrapped isNode => exact ⟨_, isNode⟩
      · rintro ⟨inner', isNode⟩
        exact ⟨_, .wrapped isNode⟩
  | either nodes =>
      have ofNodes := forall₂_congr fun node (member : node ∈ nodes) =>
        each node member (depth + 1)
      rw [Kind.children, ← ofNodes, ← Outcome.exists_results_iff]
      constructor
      · rintro ⟨_, rereads⟩
        cases rereads with
        | either matched => exact ⟨_, matched⟩
      · rintro ⟨nodes', matched⟩
        exact ⟨_, .either matched⟩
  | submodule contents =>
      rw [Kind.children,
        ← exists_isModule_iff (ascending contents rfl) fun node member => each node member _]
      constructor
      · rintro ⟨_, rereads⟩
        cases rereads with
        | submodule isModule => exact ⟨_, isModule⟩
      · rintro ⟨contents', isModule⟩
        exact ⟨_, .submodule isModule⟩

/-- Some node is read of the tree of a node as decoding yields it exactly if the documentation within
it can be read; by induction on the node. -/
theorem exists_isNode_nodeTree_iff {node : Node} (decoded : node.Everywhere Node.IsDecoded)
    (writable : node.Everywhere Node.IsWritable) (layout : Layout) (depth : Nat) :
    (∃ node', IsNode (nodeTree layout depth node) node') ↔ node.Everywhere Node.IsReadable := by
  induction node using Node.induction generalizing depth with
  | step node ih =>
      obtain ⟨isDecoded, decodedInside⟩ := Node.everywhere_iff.mp decoded
      obtain ⟨own, writableInside⟩ := Node.everywhere_iff.mp writable
      have each (child : Node) (member : child ∈ node.children) (depth : Nat) :
          (∃ child', IsNode (nodeTree layout depth child) child') ↔
            child.Everywhere Node.IsReadable :=
        ih child member (decodedInside child member) (writableInside child member) depth
      simp only [isNode_nodeTree_iff writable]
      rw [Node.everywhere_iff]
      cases node using Node.vocabularyCases with
      | module contents =>
          have members := exists_isModule_iff (own.ordered.ascending contents rfl)
            fun node member => each node member (depth + 1)
          constructor
          · rintro ⟨_, ⟨_, isModule⟩ | _⟩
            exact ⟨nofun, members.mp ⟨_, isModule⟩⟩
          · rintro ⟨-, readable⟩
            obtain ⟨contents', isModule⟩ := members.mpr readable
            exact ⟨_, .module (isDecoded.untagged contents rfl) isModule⟩
      | outside doc source =>
          refine iff_of_true ⟨_, .kept doc source⟩ ⟨?_, fun _ member => nomatch member⟩
          rintro _ _ ⟨⟩ known
          exact absurd rfl known
      | known doc kind known =>
          have children : (∃ kind', KindRereads layout (depth + 1) kind kind') ↔
              ∀ child ∈ kind.children, child.Everywhere Node.IsReadable :=
            exists_kindRereads_iff known own.ordered.ascending_submodule each
          have values : (∃ doc', IsDoc (optionEntries layout (depth + 1) doc kind) doc') ↔
              ∀ value ∈ doc.values, value.Readable :=
            exists_isDoc_written_iff valuesOf_docField isDecoded.proper own.recovers
          constructor
          · rintro ⟨node', rereads⟩
            cases rereads with
            | kept => exact absurd rfl known
            | option _ readKind isDoc =>
                refine ⟨?_, children.mp ⟨_, readKind⟩⟩
                rintro _ _ ⟨⟩ -
                exact values.mp ⟨_, isDoc⟩
          · rintro ⟨readable, inside⟩
            obtain ⟨kind', readKind⟩ := children.mpr inside
            obtain ⟨doc', isDoc⟩ := values.mpr (readable doc kind rfl known)
            exact ⟨_, .option known readKind isDoc⟩

/-! ## Outlines -/

/-- A module has the same outline as the one it was read from if its members have. -/
theorem outline_of_isModule {contents contents' : Module}
    (ascending : Dictionary.Ascending contents.members)
    (same : ∀ node ∈ contents.nodes, ∀ node', IsNode (nodeTree layout (depth + 1) node) node' →
      node'.memberOutline = node.memberOutline)
    (isModule : IsModule (moduleTree layout depth contents) contents') :
    contents'.outline = contents.outline := by
  have matched := (isModule_moduleTree_iff ascending).mp isModule
  refine Module.eq_of_members_eq ?_
  rw [Module.members_outline, Module.members_outline]
  exact matched.map_eq fun entry isEntry node' isNode =>
    same entry.2 (List.mem_map_of_mem isEntry) node' isNode

/-- A kind has the same outline as the one it was read from if its children have. -/
theorem outline_of_kindRereads {kind kind' : Kind}
    (ascending : ∀ contents, kind = .submodule contents → Dictionary.Ascending contents.members)
    (same : ∀ child ∈ kind.children, ∀ depth child', IsNode (nodeTree layout depth child) child' →
      (∀ doc, child'.outline doc = child.outline doc) ∧
        child'.memberOutline = child.memberOutline)
    (rereads : KindRereads layout depth kind kind') : kind'.outline = kind.outline := by
  cases rereads with
  | scalar | enumeration | separatedString => rfl
  | wrapped isNode =>
      rw [Kind.outline, Kind.outline, (same _ (List.mem_singleton.mpr rfl) _ _ isNode).1]
  | either matched =>
      rw [Kind.outline, Kind.outline, outlineNodes_eq_map, outlineNodes_eq_map,
        Outcome.map_results_eq matched fun node member node' isNode =>
          (same node member _ node' isNode).1 .empty]
  | submodule isModule =>
      rw [Kind.outline, Kind.outline, outline_of_isModule (ascending _ rfl)
        (fun node member node' isNode => (same node member _ node' isNode).2) isModule]

/-- What is read of the tree of a node has the same outline as the node, and the same description. -/
theorem outline_of_isNode {node node' : Node} (writable : node.Everywhere Node.IsWritable)
    (isNode : IsNode (nodeTree layout depth node) node') :
    (∀ doc, node'.outline doc = node.outline doc) ∧ node'.memberOutline = node.memberOutline := by
  induction node using Node.induction generalizing depth node' with
  | step node ih =>
      obtain ⟨own, writableInside⟩ := Node.everywhere_iff.mp writable
      have same (child : Node) (member : child ∈ node.children) (depth : Nat) (child' : Node)
          (isChild : IsNode (nodeTree layout depth child) child') :
          (∀ doc, child'.outline doc = child.outline doc) ∧
            child'.memberOutline = child.memberOutline :=
        ih child member (writableInside child member) isChild
      cases (isNode_nodeTree_iff writable).mp isNode with
      | @module contents _ _ isModule =>
          have outline := outline_of_isModule (own.ordered.ascending contents rfl)
            (fun node member node' isNode => (same node member _ node' isNode).2) isModule
          exact ⟨fun _ => congrArg Node.module outline, congrArg Node.module outline⟩
      | kept => exact ⟨fun _ => rfl, rfl⟩
      | @option doc doc' _ _ _ rereads isDoc =>
          have outline := outline_of_kindRereads own.ordered.ascending_submodule same rereads
          have description : doc'.description = doc.description :=
            ((isDoc_written_iff valuesOf_docField).mp isDoc).2.2.2.1
          refine ⟨fun _ => by rw [Node.outline, Node.outline, outline], ?_⟩
          rw [Node.memberOutline, Node.memberOutline, Node.outline, Node.outline, outline, Node.doc,
            Node.doc, description]

/-! ## Documents -/

/-- A document of a decoded module is decoded exactly if all values in the documentation of options
within the vocabulary can be read where they are written. What it is decoded to has the same
documents and the same outline. -/
theorem exists_decode_document_iff {module : Module} (decoded : IsDecodedModule module)
    (recovers : module.Everywhere Node.FloatsRecover) (layout : Layout) :
    ((∃ again, decode (document (moduleTree layout 0 module)).toUTF8 = .ok again) ↔
      module.Everywhere Node.IsReadable) ∧
    ∀ again, decode (document (moduleTree layout 0 module)).toUTF8 = .ok again →
      again.outline = module.outline ∧
        ∀ layout', moduleTree layout' 0 again = moduleTree layout' 0 module := by
  have isDecoded := Module.everywhere_iff.mp decoded.inside
  have isWritable := Module.everywhere_iff.mp (writable_of_isDecoded decoded.2 recovers)
  have proper := Module.everywhere_iff.mp fun part contained =>
    (decoded.inside part contained).proper
  simp only [decode_document_iff (wellFormed_moduleTree decoded.keepsWellFormed layout 0)]
  refine ⟨?_, fun again isModule => ⟨?_, fun layout' => ?_⟩⟩
  · rw [Module.everywhere_iff]
    exact exists_isModule_iff decoded.ascending fun node member =>
      exists_isNode_nodeTree_iff (isDecoded node member) (isWritable node member) layout 1
  · exact outline_of_isModule decoded.ascending (fun node member node' isNode =>
      (outline_of_isNode (isWritable node member) isNode).2) isModule
  · exact moduleTree_of_isModule decoded.ascending (fun node member node' isNode =>
      nodeTree_of_isNode (isWritable node member) (proper node member) isNode) isModule layout' 0

end Wire

end OptionSchema
