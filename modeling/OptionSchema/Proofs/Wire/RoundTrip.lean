import OptionSchema.Proofs.Wire.Encode

/-!
# Documents that are written and read again

Main statement: `decode_encode_eq_iff`. A module is read back from either of its documents exactly if
no bare module within it has a member named like a field of an envelope and no value in the
documentation of its options looks like an embedded text. In the first case the document cannot even
be read.
-/

namespace OptionSchema

open Dictionary (Matched)
open Json (Layout Tree Value)

/-! ## Conditions on nodes -/

namespace Node

def FloatsRecover (node : Node) : Prop :=
  ∀ value ∈ node.doc.values, value.FloatsRecover

/-- An option outside the vocabulary is what its own text is decoded to. -/
def IsFaithful (node : Node) : Prop :=
  ∀ doc source, node = .option doc (.unspecified source) →
    Wire.decodeNode (Wire.document source).toUTF8 = .ok node

/-- A bare module does not look like an option. -/
def IsUntagged (node : Node) : Prop :=
  ∀ contents, node = .module contents → ¬ contents.LooksTagged

/-- The documentation of an option can be written and read again, unless the option is written as it
was read. -/
def IsRestorable (node : Node) : Prop :=
  ∀ doc kind, node = .option doc kind → kind.tag ≠ .unspecified →
    ∀ value ∈ doc.values, value.Restorable

/-- What a node needs to be written in a way that says what is read of it. -/
structure IsWritable (node : Node) : Prop where
  ordered : node.IsOrdered
  recovers : node.FloatsRecover
  faithful : node.IsFaithful

end Node

namespace Wire

variable {layout : Layout} {depth : Nat}

/-! ## Kept trees -/

/-- An option outside the vocabulary is read from the tree that it keeps. -/
theorem isNode_of_decodeNode {doc : Doc} {source : Tree}
    (decoded : decodeNode (document source).toUTF8 = .ok (.option doc (.unspecified source))) :
    source.wellFormed = true ∧ IsNode source (.option doc (.unspecified source)) := by
  obtain ⟨tree, scanned, isNode⟩ := decodeNode_eq_ok_iff.mp decoded
  obtain ⟨text, -, wellFormed, -⟩ := Tree.ofBytes?_eq_ok_iff.mp scanned
  obtain ⟨gap, members, found, rfl, -, denotes⟩ := isNode_iff.mp isNode
  cases denotes with
  | unknown => exact ⟨wellFormed, isNode⟩
  | known _ _ _ isKind =>
      cases isKind with
      | unspecified => exact ⟨wellFormed, isNode⟩
      | payload isField => cases isField

/-! ## Reading nodes back -/

theorem forall_nodes_iff {contents : Module} {property : Node → Prop} :
    (∀ node ∈ contents.nodes, property node) ↔ ∀ member ∈ contents.members, property member.2 :=
  List.forall_mem_map

/-- A module is read back from its tree if its members are. -/
theorem isModule_self_iff {contents : Module} {property : Node → Prop}
    (ascending : Dictionary.Ascending contents.members)
    (each : ∀ node ∈ contents.nodes,
      IsNode (nodeTree layout (depth + 1) node) node ↔ property node) :
    IsModule (moduleTree layout depth contents) contents ↔ ∀ node ∈ contents.nodes, property node := by
  rw [isModule_moduleTree_iff ascending, Dictionary.matched_self_iff, forall_nodes_iff]
  exact forall₂_congr fun member isMember => each member.2 (List.mem_map_of_mem isMember)

/-- A kind is read back from what is written for it if its children are. -/
theorem kindRereads_self_iff {kind : Kind} {property : Node → Prop} (known : kind.tag ≠ .unspecified)
    (ascending : ∀ contents, kind = .submodule contents → Dictionary.Ascending contents.members)
    (each : ∀ child ∈ kind.children, ∀ depth,
      IsNode (nodeTree layout depth child) child ↔ property child) :
    KindRereads layout depth kind kind ↔ ∀ child ∈ kind.children, property child := by
  cases kind with
  | unspecified => exact absurd rfl known
  | scalar scalar => exact iff_of_true (.scalar scalar) fun _ member => nomatch member
  | enumeration values => exact iff_of_true (.enumeration values) fun _ member => nomatch member
  | separatedString separator =>
      exact iff_of_true (.separatedString separator) fun _ member => nomatch member
  | wrapped wrapper inner =>
      have own := each inner (List.mem_singleton.mpr rfl) depth
      rw [Kind.children, List.forall_mem_singleton, ← own]
      constructor
      · intro rereads
        cases rereads with
        | wrapped isNode => exact isNode
      · exact .wrapped
  | either nodes =>
      have same : (∀ node ∈ nodes, IsNode (nodeTree layout (depth + 1) node) node) ↔
          ∀ node ∈ nodes, property node :=
        forall₂_congr fun node member => each node member _
      rw [Kind.children, ← same, ← List.forall₂_same]
      constructor
      · intro rereads
        cases rereads with
        | either matched => exact matched
      · exact .either
  | submodule contents =>
      rw [Kind.children,
        ← isModule_self_iff (ascending contents rfl) fun node member => each node member _]
      constructor
      · intro rereads
        cases rereads with
        | submodule isModule => exact isModule
      · exact .submodule

theorem isWrittenAsObject {node : Node} (faithful : node.IsFaithful) : IsWrittenAsObject node := by
  intro doc source same
  have decoded := faithful doc source same
  rw [same] at decoded
  obtain ⟨gap, members, _, object, -⟩ := isNode_iff.mp (isNode_of_decodeNode decoded).2
  exact ⟨gap, members, object⟩

theorem keepsWellFormed {node : Node} (faithful : node.IsFaithful) : KeepsWellFormed node := by
  intro doc source same
  have decoded := faithful doc source same
  rw [same] at decoded
  exact (isNode_of_decodeNode decoded).1

/-- What is read of the tree of a node that can be written. A bare module is read as one, unless it
looks like an option. An option outside the vocabulary is read as itself. Any other option is read as
one of its kind, with the children and the documentation that are read of its own. -/
inductive NodeRereads (layout : Layout) (depth : Nat) : Node → Node → Prop where
  | module {contents contents' : Module} (untagged : ¬ contents.LooksTagged)
      (isModule : IsModule (moduleTree layout depth contents) contents') :
      NodeRereads layout depth (.module contents) (.module contents')
  | kept (doc : Doc) (source : Tree) :
      NodeRereads layout depth (.option doc (.unspecified source)) (.option doc (.unspecified source))
  | option {doc doc' : Doc} {kind kind' : Kind} (known : kind.tag ≠ .unspecified)
      (readKind : KindRereads layout (depth + 1) kind kind')
      (isDoc : IsDoc (optionEntries layout (depth + 1) doc kind) doc') :
      NodeRereads layout depth (.option doc kind) (.option doc' kind')

/-- Reading the tree of a node that can be written takes one layer of the node away. -/
theorem isNode_nodeTree_iff {node node' : Node} (writable : node.Everywhere Node.IsWritable) :
    IsNode (nodeTree layout depth node) node' ↔ NodeRereads layout depth node node' := by
  obtain ⟨own, inside⟩ := Node.everywhere_iff.mp writable
  cases node using Node.vocabularyCases with
  | module contents =>
      have ascending := own.ordered.ascending contents rfl
      have objects (node : Node) (member : node ∈ contents.nodes) : IsWrittenAsObject node :=
        isWrittenAsObject ((Node.everywhere_iff.mp (inside node member)).1).faithful
      rw [isNode_module_iff ascending objects]
      constructor
      · rintro ⟨untagged, contents', rfl, matched⟩
        exact .module untagged ((isModule_moduleTree_iff ascending).mpr matched)
      · rintro (⟨untagged, isModule⟩ | _)
        exact ⟨untagged, _, rfl, (isModule_moduleTree_iff ascending).mp isModule⟩
  | outside doc source =>
      have self := (isNode_of_decodeNode (own.faithful doc source rfl)).2
      constructor
      · intro isNode
        have same : Except.ok node' = Except.ok (Node.option doc (.unspecified source)) :=
          isNode.symm.trans self
        cases same
        exact .kept doc source
      · intro rereads
        cases rereads with
        | kept => exact self
        | option known => exact absurd rfl known
  | known doc kind known =>
      rw [isNode_option_iff known]
      constructor
      · rintro ⟨doc', kind', rfl, readKind, isDoc⟩
        exact .option known readKind isDoc
      · intro rereads
        cases rereads with
        | kept => exact absurd rfl known
        | option _ readKind isDoc => exact ⟨_, _, rfl, readKind, isDoc⟩

/-- A node is read back from its tree exactly if no bare module in it looks like an option and the
documentation in it can be restored; by induction on the node, one layer at a time. -/
theorem isNode_self_iff {node : Node} (writable : node.Everywhere Node.IsWritable)
    (layout : Layout) (depth : Nat) :
    IsNode (nodeTree layout depth node) node ↔
      node.Everywhere fun part => part.IsUntagged ∧ part.IsRestorable := by
  induction node using Node.induction generalizing depth with
  | step node ih =>
      obtain ⟨own, inside⟩ := Node.everywhere_iff.mp writable
      have each (child : Node) (member : child ∈ node.children) (depth : Nat) :
          IsNode (nodeTree layout depth child) child ↔
            child.Everywhere fun part => part.IsUntagged ∧ part.IsRestorable :=
        ih child member (inside child member) depth
      rw [isNode_nodeTree_iff writable, Node.everywhere_iff]
      cases node using Node.vocabularyCases with
      | module contents =>
          have members := isModule_self_iff (own.ordered.ascending contents rfl)
            fun node member => each node member (depth + 1)
          constructor
          · rintro (⟨untagged, isModule⟩ | _)
            refine ⟨⟨?_, nofun⟩, members.mp isModule⟩
            rintro _ ⟨⟩
            exact untagged
          · rintro ⟨⟨untagged, -⟩, readInside⟩
            exact .module (untagged contents rfl) (members.mpr readInside)
      | outside doc source =>
          refine iff_of_true (.kept doc source) ⟨⟨nofun, ?_⟩, fun _ member => nomatch member⟩
          rintro _ _ ⟨⟩ known
          exact absurd rfl known
      | known doc kind known =>
          have children : KindRereads layout (depth + 1) kind kind ↔ ∀ child ∈ kind.children,
              child.Everywhere fun part => part.IsUntagged ∧ part.IsRestorable :=
            kindRereads_self_iff known own.ordered.ascending_submodule each
          have values : IsDoc (optionEntries layout (depth + 1) doc kind) doc ↔
              ∀ value ∈ doc.values, value.Restorable :=
            isDoc_self_iff valuesOf_docField own.ordered.values own.recovers
          constructor
          · intro rereads
            cases rereads with
            | kept => exact absurd rfl known
            | option _ readKind isDoc =>
                refine ⟨⟨nofun, ?_⟩, children.mp readKind⟩
                rintro _ _ ⟨⟩ -
                exact values.mp isDoc
          · rintro ⟨⟨-, restorable⟩, readInside⟩
            exact .option known (children.mpr readInside)
              (values.mpr (restorable doc kind rfl known))

/-- Every child of a kind that is read again is read as some node. -/
theorem KindRereads.exists_child {kind kind' : Kind} (rereads : KindRereads layout depth kind kind')
    (ascending : ∀ contents, kind = .submodule contents → Dictionary.Ascending contents.members)
    {child : Node} (member : child ∈ kind.children) :
    ∃ depth child', IsNode (nodeTree layout depth child) child' := by
  cases rereads with
  | scalar => cases member
  | enumeration => cases member
  | separatedString => cases member
  | wrapped isNode =>
      rw [List.mem_singleton.mp member]
      exact ⟨_, _, isNode⟩
  | either matched =>
      obtain ⟨child', -, isNode⟩ := Outcome.exists_result matched member
      exact ⟨_, child', isNode⟩
  | submodule isModule =>
      obtain ⟨entry, isEntry, rfl⟩ := List.mem_map.mp member
      obtain ⟨child', -, isNode⟩ :=
        ((isModule_moduleTree_iff (ascending _ rfl)).mp isModule).mem_left isEntry
      exact ⟨_, child', isNode⟩

/-- A tree of a node is only read if no bare module in the node looks like an option. -/
theorem isUntagged_of_isNode {node node' : Node} (writable : node.Everywhere Node.IsWritable)
    (isNode : IsNode (nodeTree layout depth node) node') : node.Everywhere Node.IsUntagged := by
  induction node using Node.induction generalizing depth node' with
  | step node ih =>
      obtain ⟨own, inside⟩ := Node.everywhere_iff.mp writable
      have each (child : Node) (member : child ∈ node.children) {depth : Nat} {child' : Node}
          (isChild : IsNode (nodeTree layout depth child) child') :
          child.Everywhere Node.IsUntagged :=
        ih child member (inside child member) isChild
      rw [Node.everywhere_iff]
      cases (isNode_nodeTree_iff writable).mp isNode with
      | @module contents _ untagged isModule =>
          refine ⟨?_, fun child member => ?_⟩
          · rintro _ ⟨⟩
            exact untagged
          · obtain ⟨entry, isEntry, rfl⟩ := List.mem_map.mp member
            have matched := (isModule_moduleTree_iff (own.ordered.ascending contents rfl)).mp isModule
            obtain ⟨child', -, isChild⟩ := matched.mem_left isEntry
            exact each entry.2 member isChild
      | kept doc source => exact ⟨nofun, fun _ member => nomatch member⟩
      | option known readKind =>
          refine ⟨nofun, fun child member => ?_⟩
          obtain ⟨depth', child', isChild⟩ :=
            readKind.exists_child own.ordered.ascending_submodule member
          exact each child member isChild

/-! ## Reading modules back -/

theorem keepsWellFormed_of_writable {module : Module}
    (writable : module.Everywhere Node.IsWritable) : module.Everywhere KeepsWellFormed :=
  fun part contained => keepsWellFormed (writable part contained).faithful

section

variable {module : Module} (ascending : Dictionary.Ascending module.members)
  (writable : module.Everywhere Node.IsWritable)

include ascending writable

theorem isModule_self_iff_everywhere (layout : Layout) (depth : Nat) :
    IsModule (moduleTree layout depth module) module ↔
      module.Everywhere fun part => part.IsUntagged ∧ part.IsRestorable := by
  rw [Module.everywhere_iff]
  exact isModule_self_iff ascending fun node member =>
    isNode_self_iff (Module.everywhere_iff.mp writable node member) layout (depth + 1)

theorem decode_document_self_iff (layout : Layout) :
    decode (document (moduleTree layout 0 module)).toUTF8 = .ok module ↔
      module.Everywhere fun part => part.IsUntagged ∧ part.IsRestorable := by
  rw [decode_document_iff (wellFormed_moduleTree (keepsWellFormed_of_writable writable) layout 0)]
  exact isModule_self_iff_everywhere ascending writable layout 0

/-- A document is only decoded if no bare module in it looks like an option. -/
theorem isUntagged_of_decode_document {layout : Layout} {module' : Module}
    (decoded : decode (document (moduleTree layout 0 module)).toUTF8 = .ok module') :
    module.Everywhere Node.IsUntagged := by
  rw [decode_document_iff (wellFormed_moduleTree (keepsWellFormed_of_writable writable) layout 0),
    isModule_moduleTree_iff ascending] at decoded
  refine Module.everywhere_iff.mpr fun node member => ?_
  obtain ⟨entry, isEntry, rfl⟩ := List.mem_map.mp member
  obtain ⟨node', -, isNode⟩ := decoded.mem_left isEntry
  exact isUntagged_of_isNode (Module.everywhere_iff.mp writable entry.2 member) isNode

end

/-- A module with values in its documentation that are not null, have at most 126 levels and doubles
that are read back, and with options outside the vocabulary that are what their own text is decoded
to, is read back from its documents exactly if no bare module in it has a member named like a field of
an envelope and no value in the documentation of an option within the vocabulary has an object that
looks like an embedded text. If there is such a module, the documents are not decoded at all. -/
theorem decode_encode_eq_iff (module : OrderedModule)
    (values : ∀ part, module.Contains part → ∀ value ∈ part.doc.values,
      value ≠ .null ∧ value.depth ≤ Json.depthLimit ∧ value.FloatsRecover)
    (faithful : ∀ doc source, module.Contains (.option doc (.unspecified source)) →
      decodeNode (document source).toUTF8 = .ok (.option doc (.unspecified source))) :
    (decode (encode module).toUTF8 = .ok module ∧
        decode (encodePretty module).toUTF8 = .ok module ↔
      (∀ contents, module.Contains (.module contents) → ¬ contents.LooksTagged) ∧
        ∀ doc kind, module.Contains (.option doc kind) → kind.tag ≠ .unspecified →
          ∀ value ∈ doc.values, value.Plain) ∧
    ((∃ contents, module.Contains (.module contents) ∧ contents.LooksTagged) →
      (∃ e, decode (encode module).toUTF8 = .error e) ∧
        ∃ e, decode (encodePretty module).toUTF8 = .error e) := by
  have ordered := module.ordered
  have writable : module.Everywhere Node.IsWritable := by
    intro part contained
    have recovers : part.FloatsRecover := fun value isValue =>
      (values part contained value isValue).2.2
    refine ⟨ordered.inside part contained, recovers, fun doc source same => ?_⟩
    subst same
    exact faithful doc source contained
  have restorable_iff : (module.Everywhere fun part => part.IsUntagged ∧ part.IsRestorable) ↔
      (∀ contents, module.Contains (.module contents) → ¬ contents.LooksTagged) ∧
        ∀ doc kind, module.Contains (.option doc kind) → kind.tag ≠ .unspecified →
          ∀ value ∈ doc.values, value.Plain := by
    constructor
    · intro holds
      refine ⟨fun contents contained => (holds _ contained).1 contents rfl, ?_⟩
      intro doc kind contained known value isValue
      exact ((holds _ contained).2 doc kind rfl known value isValue).2.1
    · rintro ⟨untagged, plain⟩ part contained
      refine ⟨fun contents same => ?_, fun doc kind same known value isValue => ?_⟩
      · subst same
        exact untagged contents contained
      · subst same
        obtain ⟨nonNull, shallow, -⟩ := values _ contained value isValue
        exact ⟨nonNull, plain doc kind contained known value isValue, shallow⟩
  have readBack := decode_document_self_iff ordered.ascending writable
  refine ⟨?_, ?_⟩
  · rw [← restorable_iff, encode, encodePretty, readBack, readBack, and_self]
  · rintro ⟨contents, contained, tagged⟩
    have undecoded (layout : Layout) (module' : Module) :
        decode (document (moduleTree layout 0 module)).toUTF8 ≠ .ok module' := fun decoded =>
      isUntagged_of_decode_document ordered.ascending writable decoded _ contained contents rfl tagged
    exact ⟨Outcome.eq_error_of_forall_ne (undecoded .compact),
      Outcome.eq_error_of_forall_ne (undecoded .indented)⟩

def laterTree : Tree :=
  Layout.compact.object 0 [("_option", .bool true), ("_type", Layout.string "later")]

/-- A module of an option with a default, an option around another one within a bare module, and an
option outside the vocabulary. -/
def sampleModule : Module :=
  ⟨[("enable", .option { Doc.empty with default? := some (.bool true) } (.scalar .bool)),
    ("inner", .module ⟨[("names", .option .empty (.wrapped .listOf (.option .empty (.scalar .str))))]⟩),
    ("later", .option .empty (.unspecified laterTree))]⟩

theorem everywhere_sampleModule {property : Node → Prop}
    (enable : property (.option { Doc.empty with default? := some (.bool true) } (.scalar .bool)))
    (inner : property (.module
      ⟨[("names", .option .empty (.wrapped .listOf (.option .empty (.scalar .str))))]⟩))
    (names : property (.option .empty (.wrapped .listOf (.option .empty (.scalar .str)))))
    (name : property (.option .empty (.scalar .str)))
    (later : property (.option .empty (.unspecified laterTree))) :
    sampleModule.Everywhere property := by
  have nameInside := Node.everywhere_of_children_eq_nil name rfl
  have namesInside := Node.everywhere_iff.mpr ⟨names, List.forall_mem_singleton.mpr nameInside⟩
  have innerInside := Node.everywhere_iff.mpr ⟨inner, List.forall_mem_singleton.mpr namesInside⟩
  refine Module.everywhere_iff.mpr (List.forall_mem_cons.mpr ⟨?_, List.forall_mem_cons.mpr
    ⟨innerInside, List.forall_mem_singleton.mpr ?_⟩⟩)
  · exact Node.everywhere_of_children_eq_nil enable rfl
  · exact Node.everywhere_of_children_eq_nil later rfl

theorem ordered_sampleModule : sampleModule.Ordered := by
  constructor
  · simp only [sampleModule, Dictionary.Ascending, Dictionary.keys]
    decide
  · refine everywhere_sampleModule ⟨?enable, ?value⟩ ⟨?inner, List.forall_mem_nil _⟩
      ⟨?names, List.forall_mem_nil _⟩ ⟨?name, List.forall_mem_nil _⟩ ⟨?later, List.forall_mem_nil _⟩
    case value =>
      intro value isValue
      rw [List.mem_singleton.mp isValue]
      exact Value.everywhere_of_parts_eq_nil trivial rfl
    case inner =>
      intro contents same
      cases same
      exact List.pairwise_singleton _ _
    all_goals
      intro contents same
      cases same

theorem decode_encode_sampleModule :
    decode (encode sampleModule).toUTF8 = .ok sampleModule ∧
      decode (encodePretty sampleModule).toUTF8 = .ok sampleModule := by
  have values : ∀ part, sampleModule.Contains part → ∀ value ∈ part.doc.values,
      value ≠ .null ∧ value.depth ≤ Json.depthLimit ∧ value.FloatsRecover := by
    refine everywhere_sampleModule (fun value isValue => ?_) (List.forall_mem_nil _)
      (List.forall_mem_nil _) (List.forall_mem_nil _) (List.forall_mem_nil _)
    rw [List.mem_singleton.mp isValue]
    exact ⟨Value.bool_ne_null, by decide, Value.floatsRecover_bool true⟩
  have faithful : sampleModule.Everywhere Node.IsFaithful := by
    refine everywhere_sampleModule ?_ ?_ ?_ ?_ ?_ <;> intro doc source same <;> cases same
    rw [decodeNode, ofBytes?_document (by rfl)]
    rfl
  refine (decode_encode_eq_iff ⟨sampleModule, ordered_sampleModule⟩ values
    fun doc source contained => faithful _ contained doc source rfl).1.mpr ⟨fun contents contained => ?_, ?_⟩
  · have untagged : sampleModule.Everywhere Node.IsUntagged := by
      refine everywhere_sampleModule ?_ ?_ ?_ ?_ ?_ <;> intro contents same <;> cases same
      simp [Module.LooksTagged, Module.names]
    exact untagged _ contained contents rfl
  · intro doc kind contained _ value isValue
    have plain : sampleModule.Everywhere fun part => ∀ value ∈ part.doc.values, value.Plain := by
      refine everywhere_sampleModule (fun value isValue => ?_) (List.forall_mem_nil _)
        (List.forall_mem_nil _) (List.forall_mem_nil _) (List.forall_mem_nil _)
      rw [List.mem_singleton.mp isValue]
      exact Value.everywhere_of_parts_eq_nil id rfl
    exact plain _ contained value isValue

/-- A value that looks like an embedded text, but has another member. -/
def markedValue : Value :=
  .object [(Json.embeddingMark, .string "1"), ("z", .number (.integer 1 (by decide)))]

def markedModule : Module :=
  ⟨[("a", .option { Doc.empty with default? := some markedValue } (.scalar .str))]⟩

theorem ordered_markedValue : markedValue.Ordered := by
  have ascending : Dictionary.Ascending [(Json.embeddingMark, Value.string "1"),
      ("z", .number (.integer 1 (by decide)))] := by
    simp only [Dictionary.Ascending, Dictionary.keys]
    decide
  refine Value.everywhere_iff.mpr ⟨ascending, fun part member => ?_⟩
  rcases List.mem_cons.mp member with rfl | member
  · exact Value.everywhere_of_parts_eq_nil trivial rfl
  · rw [List.mem_singleton.mp member]
    exact Value.everywhere_of_parts_eq_nil trivial rfl

theorem floatsRecover_markedValue : markedValue.FloatsRecover := by
  refine Value.floatsRecover_iff.mpr (Value.everywhere_iff.mpr ⟨nofun, fun part member => ?_⟩)
  rcases List.mem_cons.mp member with rfl | member
  · exact Value.everywhere_of_parts_eq_nil nofun rfl
  · rw [List.mem_singleton.mp member]
    exact Value.everywhere_of_parts_eq_nil nofun rfl

/-- A value that looks like an embedded text is written, but not read again. -/
theorem decode_encode_markedModule :
    markedModule.Ordered ∧
      (∀ part, markedModule.Contains part → ∀ value ∈ part.doc.values,
        value ≠ .null ∧ value.depth ≤ Json.depthLimit ∧ value.FloatsRecover) ∧
      (∀ doc source, ¬ markedModule.Contains (.option doc (.unspecified source))) ∧
      (∀ contents, ¬ markedModule.Contains (.module contents)) ∧
      decode (encode markedModule).toUTF8 = .error (.shape ["a"] (.malformed .trailingComma)) := by
  refine ⟨⟨List.pairwise_singleton _ _, ?_⟩, ?_, ?_, ?_, ?_⟩
  · refine Module.everywhere_singleton ⟨nofun, fun value isValue => ?_⟩ rfl
    rw [List.mem_singleton.mp isValue]
    exact ordered_markedValue
  · refine Module.everywhere_singleton (fun value isValue => ?_) rfl
    rw [List.mem_singleton.mp isValue]
    exact ⟨nofun, by decide, floatsRecover_markedValue⟩
  · intro doc source contained
    have apart : markedModule.Everywhere (· ≠ .option doc (.unspecified source)) :=
      Module.everywhere_singleton (fun same => by cases same) rfl
    exact apart _ contained rfl
  · intro contents contained
    have apart : markedModule.Everywhere (· ≠ .module contents) :=
      Module.everywhere_singleton nofun rfl
    exact apart _ contained rfl
  · have kept : markedModule.Everywhere KeepsWellFormed :=
      Module.everywhere_singleton (fun _ _ same => by cases same) rfl
    rw [decode, encode, ofBytes?_document (wellFormed_moduleTree kept .compact 0)]
    rfl

end Wire

end OptionSchema
