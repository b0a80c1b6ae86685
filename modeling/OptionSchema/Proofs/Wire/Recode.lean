import OptionSchema.Proofs.Wire.RoundTrip

/-!
# Decoding, encoding and decoding again

Decoding yields modules without bare modules that look like options and with options outside the
vocabulary that are what their own text is decoded to. Main statement: `recode_eq_iff`. What is
decoded, encoded and decoded again stays the same exactly if the values in the documentation can be
restored; and if a document of a decoded module is decoded at all, what is decoded has the same
documents.
-/

namespace OptionSchema

open Dictionary (Matched valuesOf)
open Json (Layout ReadError Tree Value)

structure Node.IsDecoded (node : Node) : Prop where
  ascending : ∀ contents, node.contents? = some contents → Dictionary.Ascending contents.members
  proper : ∀ value ∈ node.doc.values, value.Proper
  untagged : node.IsUntagged
  faithful : node.IsFaithful

theorem Node.IsDecoded.ordered {node : Node} (isDecoded : node.IsDecoded) : node.IsOrdered :=
  ⟨isDecoded.ascending, fun value isValue => (isDecoded.proper value isValue).ordered⟩

namespace Wire

variable {layout : Layout} {depth : Nat} {found : List (String × Tree)} {tree : Tree}

/-! ## What decoding yields -/

/-- A value in documentation is read of a tree in one of the fields that hold values. -/
theorem exists_tree_of_isDoc {doc : Doc} {value : Value} (isDoc : IsDoc found doc)
    (isValue : value ∈ doc.values) :
    ∃ field : DocField, field.HoldsValue ∧
      ∃ tree ∈ valuesOf field.name found, tree.readOptionalValue = .ok (some value) := by
  have ofField {trees : List Tree} {value? : Option Value}
      (denotes : ∃ content, Once Tree.readOptionalValue trees content ∧
        value? = content.getD none) (same : value? = some value) :
      ∃ tree ∈ trees, tree.readOptionalValue = .ok (some value) := by
    obtain ⟨content, once, rfl⟩ := denotes
    cases once with
    | absent => cases same
    | @present tree _ read =>
        obtain rfl : _ = some value := same
        exact ⟨tree, List.mem_singleton.mpr rfl, read⟩
  rcases Doc.mem_values.mp isValue with isExample | isDefault
  · exact ⟨.example, trivial, ofField (isDoc .example) isExample⟩
  · exact ⟨.default, trivial, ofField (isDoc .default) isDefault⟩

/-- What is read as documentation has proper values. -/
theorem proper_of_isDoc {doc : Doc} (isDoc : IsDoc found doc) :
    ∀ value ∈ doc.values, value.Proper := by
  intro value isValue
  obtain ⟨-, -, tree, -, read⟩ := exists_tree_of_isDoc isDoc isValue
  exact Json.readValue_proper (Tree.readOptionalValue_eq_some_iff.mp read).2

theorem proper_of_isDocOrEmpty {doc : Doc} (isDoc : IsDocOrEmpty found doc) :
    ∀ value ∈ doc.values, value.Proper := by
  rcases isDoc with isDoc | ⟨rfl, -⟩
  · exact proper_of_isDoc isDoc
  · exact nofun

/-- A field whose reader refuses objects is no member of a module, since nodes are objects. -/
theorem not_mem_names {α : Type} {read : Tree → Except ReadError α} {result : Option α}
    {name : String} {contents : Module}
    (refuses : ∀ gap members value, read (.object gap members) ≠ .ok value)
    (once : Once read (valuesOf name found) result) (isMembers : IsMembers found contents) :
    name ∉ contents.names := by
  intro isName
  obtain ⟨node, member⟩ := Dictionary.mem_keys.mp isName
  obtain ⟨tree, isEntry, isNode⟩ := isMembers.mem_right member
  have isValue := Dictionary.mem_valuesOf.mpr (Dictionary.mem_of_mem_ofPairs isEntry)
  obtain ⟨gap, members, _, rfl, -⟩ := isNode_iff.mp isNode
  generalize valuesOf name found = trees at once isValue
  cases once with
  | absent => cases isValue
  | present readTree =>
      rw [← List.mem_singleton.mp isValue] at readTree
      exact refuses gap members _ readTree

/-- A bare module that is decoded does not look like an option. -/
theorem not_looksTagged {envelope : Envelope} {contents : Module}
    (isEnvelope : IsEnvelope found envelope) (isMembers : IsMembers found contents) :
    ¬ contents.LooksTagged := by
  rintro (isOption | isTag)
  · exact not_mem_names readBool_object_ne isEnvelope.isOption isMembers isOption
  · exact not_mem_names readOptionalText_object_ne isEnvelope.tag isMembers isTag

/-- A module is as decoding yields it if its names ascend and its nodes are. -/
structure IsDecodedModule (contents : Module) : Prop where
  ascending : Dictionary.Ascending contents.members
  inside : contents.Everywhere Node.IsDecoded

def YieldsDecoded : Tree → Prop :=
  Yields (fun _ node => node.Everywhere Node.IsDecoded) fun _ contents => IsDecodedModule contents

theorem isDecoded_of_isMembers (yields : ∀ entry ∈ found, YieldsDecoded entry.2) {contents : Module}
    (isMembers : IsMembers found contents) : IsDecodedModule contents := by
  constructor
  · exact (Dictionary.ascending_ofPairs found).of_keys_eq isMembers.keys_eq.symm
  · refine Module.everywhere_iff.mpr (forall_nodes_iff.mpr fun member isMember => ?_)
    obtain ⟨tree, isEntry, isNode⟩ := isMembers.mem_right isMember
    exact (yields _ (Dictionary.mem_of_mem_ofPairs isEntry)).node _ isNode

/-- An option is as decoding yields it if its documentation is and so is what its kind holds. -/
theorem isDecoded_option {doc : Doc} {kind : Kind} (proper : ∀ value ∈ doc.values, value.Proper)
    (ascending : ∀ contents, kind = .submodule contents → Dictionary.Ascending contents.members)
    (faithful : (Node.option doc kind).IsFaithful)
    (children : ∀ child ∈ kind.children, child.Everywhere Node.IsDecoded) :
    (Node.option doc kind).Everywhere Node.IsDecoded := by
  refine Node.everywhere_iff.mpr ⟨⟨fun contents same => ?_, proper, nofun, faithful⟩, children⟩
  cases kind with
  | submodule contents' =>
      cases same
      exact ascending contents rfl
  | _ => cases same

/-- A bare module is as decoding yields it if its members are. -/
theorem isDecoded_module {contents : Module} (ascending : Dictionary.Ascending contents.members)
    (untagged : ¬ contents.LooksTagged) (inside : contents.Everywhere Node.IsDecoded) :
    (Node.module contents).Everywhere Node.IsDecoded := by
  refine Node.everywhere_iff.mpr ⟨⟨?_, List.forall_mem_nil _, ?_, ?_⟩,
    Module.everywhere_iff.mp inside⟩
  · rintro _ ⟨⟩
    exact ascending
  · rintro _ ⟨⟩
    exact untagged
  · rintro _ _ ⟨⟩

theorem isDecoded_of_isKind (yields : ∀ entry ∈ found, YieldsDecoded entry.2) {source : Tree}
    {kind : Kind} (isKind : IsKind source found kind) :
    (∀ contents, kind = .submodule contents → Dictionary.Ascending contents.members) ∧
      ∀ child ∈ kind.children, child.Everywhere Node.IsDecoded := by
  cases isKind with
  | scalar => exact ⟨nofun, fun _ member => nomatch member⟩
  | unspecified => exact ⟨nofun, fun _ member => nomatch member⟩
  | payload _ isLast isPayload =>
      have yieldsTree := yields _ (Dictionary.mem_of_mem_ofPairs (Dictionary.mem_of_get? isLast))
      cases isPayload with
      | enumeration => exact ⟨nofun, fun _ member => nomatch member⟩
      | separatedString => exact ⟨nofun, fun _ member => nomatch member⟩
      | wrapped isNode =>
          exact ⟨nofun, List.forall_mem_singleton.mpr (yieldsTree.node _ isNode)⟩
      | either isAlternatives =>
          obtain ⟨gap, items, same, matched⟩ := isAlternatives
          rw [List.forall₂_map_left_iff] at matched
          refine ⟨nofun, fun node member => ?_⟩
          obtain ⟨item, isItem, isNode⟩ := Outcome.exists_item matched member
          exact yieldsTree.items gap items same item isItem node isNode
      | submodule isModule =>
          obtain ⟨ascending, inside⟩ := yieldsTree.module _ isModule
          refine ⟨fun contents same => ?_, Module.everywhere_iff.mp inside⟩
          cases same
          exact ascending

theorem inherited_wellFormed : Inherited fun tree => tree.wellFormed = true := by
  constructor
  · intro gap items wellFormed
    rw [Tree.wellFormed, Bool.and_eq_true, Json.itemsWellFormed_iff] at wellFormed
    exact fun item member => (wellFormed.2 item member).2
  · intro gap members wellFormed
    rw [Tree.wellFormed, Bool.and_eq_true, Json.membersWellFormed_iff] at wellFormed
    exact fun member isMember => (wellFormed.2 member isMember).2.2.2

/-- An option that keeps the tree that denotes it is what the text of that tree is decoded to. -/
theorem isFaithful_of_denotes {gap : List Char} {members : Members} {doc : Doc} {kind : Kind}
    (wellFormed : (Tree.object gap members).wellFormed = true)
    (read : Json.entries members = .ok found)
    (denotes : Denotes (.object gap members) found (.option doc kind))
    (kept : ∀ source, kind = .unspecified source → source = .object gap members) :
    (Node.option doc kind).IsFaithful := by
  rintro _ source ⟨⟩
  rw [kept source rfl] at denotes ⊢
  refine (decodeNode_iff_of_standsIn (standsIn_document wellFormed)).mpr ?_
  exact isNode_iff.mpr ⟨gap, members, found, rfl, read, denotes⟩

/-- Decoding yields decoded nodes. -/
theorem yieldsDecoded (tree : Tree) (wellFormed : tree.wellFormed) : YieldsDecoded tree := by
  refine yields inherited_wellFormed (fun gap members found wellFormed read inside => ?_) tree
    wellFormed
  refine ⟨fun node denotes => ?_, fun contents => isDecoded_of_isMembers inside⟩
  have whole := denotes
  cases denotes with
  | module isEnvelope _ isMembers =>
      have isDecoded := isDecoded_of_isMembers inside isMembers
      exact isDecoded_module isDecoded.ascending (not_looksTagged isEnvelope isMembers)
        isDecoded.inside
  | unknown _ _ _ isDoc =>
      refine isDecoded_option (proper_of_isDocOrEmpty isDoc) ?_
        (isFaithful_of_denotes wellFormed read whole ?_) (List.forall_mem_nil _)
      · rintro _ ⟨⟩
      · rintro _ ⟨⟩
        rfl
  | known _ _ _ isKind isDoc =>
      obtain ⟨ascending, children⟩ := isDecoded_of_isKind inside isKind
      refine isDecoded_option (proper_of_isDoc isDoc) ascending
        (isFaithful_of_denotes wellFormed read whole ?_) children
      rintro source rfl
      cases isKind with
      | unspecified => rfl
      | payload isField => cases isField

/-! ## What is read of a written node -/

def HasProperDoc (node : Node) : Prop :=
  ∀ value ∈ node.doc.values, value.Proper

/-- A module has the same tree as the one it was read from if its members have. -/
theorem moduleTree_of_isModule {contents contents' : Module}
    (ascending : Dictionary.Ascending contents.members)
    (same : ∀ node ∈ contents.nodes, ∀ node', IsNode (nodeTree layout (depth + 1) node) node' →
      ∀ layout' depth', nodeTree layout' depth' node' = nodeTree layout' depth' node)
    (isModule : IsModule (moduleTree layout depth contents) contents') (layout' : Layout)
    (depth' : Nat) : moduleTree layout' depth' contents' = moduleTree layout' depth' contents := by
  have matched := (isModule_moduleTree_iff ascending).mp isModule
  rw [moduleTree_eq, moduleTree_eq, matched.map_eq fun entry isEntry node' isNode =>
    same entry.2 (List.mem_map_of_mem isEntry) node' isNode layout' (depth' + 1)]

/-- A kind has the same payload as the one it was read from if its children have the same trees. -/
theorem payloadTrees_of_kindRereads {kind kind' : Kind}
    (ascending : ∀ contents, kind = .submodule contents → Dictionary.Ascending contents.members)
    (same : ∀ child ∈ kind.children, ∀ depth child', IsNode (nodeTree layout depth child) child' →
      ∀ layout' depth', nodeTree layout' depth' child' = nodeTree layout' depth' child)
    (rereads : KindRereads layout depth kind kind') (layout' : Layout) (depth' : Nat) :
    payloadTrees layout' depth' kind' = payloadTrees layout' depth' kind := by
  cases rereads with
  | scalar => rfl
  | enumeration => rfl
  | separatedString => rfl
  | wrapped isNode =>
      rw [payloadTrees, payloadTrees, same _ (List.mem_singleton.mpr rfl) _ _ isNode]
  | @either nodes nodes' matched =>
      have sameTrees : nodes'.map (nodeTree layout' (depth' + 1)) =
          nodes.map (nodeTree layout' (depth' + 1)) :=
        Outcome.map_results_eq matched fun node member node' isNode =>
          same node member _ node' isNode layout' (depth' + 1)
      rw [payloadTrees, payloadTrees, alternativeTrees_eq_map, alternativeTrees_eq_map, sameTrees]
  | submodule isModule =>
      rw [payloadTrees, payloadTrees, moduleTree_of_isModule (ascending _ rfl)
        (fun node member node' isNode => same node member _ node' isNode) isModule]

/-- What is read of the tree of a node, if anything is, has the same trees as the node. -/
theorem nodeTree_of_isNode {node node' : Node} (writable : node.Everywhere Node.IsWritable)
    (proper : node.Everywhere HasProperDoc) (isNode : IsNode (nodeTree layout depth node) node')
    (layout' : Layout) (depth' : Nat) :
    nodeTree layout' depth' node' = nodeTree layout' depth' node := by
  induction node using Node.induction generalizing depth node' layout' depth' with
  | step node ih =>
      obtain ⟨own, writableInside⟩ := Node.everywhere_iff.mp writable
      obtain ⟨properDoc, properInside⟩ := Node.everywhere_iff.mp proper
      have same (child : Node) (member : child ∈ node.children) (depth : Nat) (child' : Node)
          (isChild : IsNode (nodeTree layout depth child) child') (layout' : Layout)
          (depth' : Nat) : nodeTree layout' depth' child' = nodeTree layout' depth' child :=
        ih child member (writableInside child member) (properInside child member) isChild layout'
          depth'
      cases (isNode_nodeTree_iff writable).mp isNode with
      | @module contents _ _ isModule =>
          exact moduleTree_of_isModule (own.ordered.ascending contents rfl)
            (fun node member node' isNode => same node member _ node' isNode) isModule layout' depth'
      | kept => rfl
      | option known rereads isDoc =>
          have sameTag := rereads.tag_eq
          have sameDoc := docTrees_of_isDoc valuesOf_docField properDoc own.recovers isDoc
          have samePayload :=
            payloadTrees_of_kindRereads own.ordered.ascending_submodule same rereads
          rw [nodeTree_option known, nodeTree_option (sameTag ▸ known), optionEntries, optionEntries,
            sameTag, sameDoc, samePayload]
          rfl

/-! ## Documents of decoded modules -/

theorem isDecodedModule_of_decode {bytes : ByteArray} {module : Module}
    (decoded : decode bytes = .ok module) : IsDecodedModule module := by
  obtain ⟨tree, scanned, isModule⟩ := decode_eq_ok_iff.mp decoded
  obtain ⟨text, -, wellFormed, -⟩ := Tree.ofBytes?_eq_ok_iff.mp scanned
  exact (yieldsDecoded tree wellFormed).module module isModule

theorem IsDecodedModule.keepsWellFormed {module : Module} (isDecoded : IsDecodedModule module) :
    module.Everywhere KeepsWellFormed :=
  fun part contained => Wire.keepsWellFormed (isDecoded.inside part contained).faithful

/-- A module that is decoded has its order. -/
theorem ordered_of_decode {bytes : ByteArray} {module : Module}
    (decoded : decode bytes = .ok module) : module.Ordered := by
  obtain ⟨ascending, isDecoded⟩ := isDecodedModule_of_decode decoded
  exact ⟨ascending, fun part contained => (isDecoded part contained).ordered⟩

theorem writable_of_isDecoded {module : Module} (isDecoded : module.Everywhere Node.IsDecoded)
    (recovers : module.Everywhere Node.FloatsRecover) : module.Everywhere Node.IsWritable :=
  fun part contained => ⟨(isDecoded part contained).ordered, recovers part contained,
    (isDecoded part contained).faithful⟩

/-- Of a decoded module whose doubles are read back from their numerals no bare module looks like an
option, and the options outside the vocabulary are what their own text is decoded to. It is decoded
again from its documents exactly if all values in the documentation of options within the vocabulary
can be restored. Whatever is decoded from its documents has the same documents. -/
theorem recode_eq_iff {bytes : ByteArray} {module : Module} (decoded : decode bytes = .ok module)
    (recovers : ∀ part, module.Contains part → ∀ value ∈ part.doc.values, value.FloatsRecover) :
    (∀ contents, module.Contains (.module contents) → ¬ contents.LooksTagged) ∧
    (∀ doc source, module.Contains (.option doc (.unspecified source)) →
      decodeNode (document source).toUTF8 = .ok (.option doc (.unspecified source))) ∧
    (decode (encode module).toUTF8 = .ok module ∧ decode (encodePretty module).toUTF8 = .ok module ↔
      ∀ doc kind, module.Contains (.option doc kind) → kind.tag ≠ .unspecified →
        ∀ value ∈ doc.values, value.Restorable) ∧
    ∀ again, decode (encode module).toUTF8 = .ok again ∨
        decode (encodePretty module).toUTF8 = .ok again →
      encode again = encode module ∧ encodePretty again = encodePretty module := by
  have isDecoded := isDecodedModule_of_decode decoded
  have writable := writable_of_isDecoded isDecoded.inside recovers
  have wellFormed (layout : Layout) : (moduleTree layout 0 module).wellFormed :=
    wellFormed_moduleTree isDecoded.keepsWellFormed layout 0
  refine ⟨?_, ?_, ?_, ?_⟩
  · exact fun contents contained => (isDecoded.inside _ contained).untagged contents rfl
  · exact fun doc source contained => (isDecoded.inside _ contained).faithful doc source rfl
  · have readBack := decode_document_self_iff isDecoded.ascending writable
    rw [encode, encodePretty, readBack, readBack, and_self]
    constructor
    · exact fun holds doc kind contained => (holds _ contained).2 doc kind rfl
    · intro restorable part contained
      refine ⟨(isDecoded.inside part contained).untagged, fun doc kind same => ?_⟩
      subst same
      exact restorable doc kind contained
  · intro again decodedAgain
    obtain ⟨layout, isAgain⟩ : ∃ layout, IsModule (moduleTree layout 0 module) again := by
      rcases decodedAgain with compact | indented
      · exact ⟨_, (decode_document_iff (wellFormed _)).mp compact⟩
      · exact ⟨_, (decode_document_iff (wellFormed _)).mp indented⟩
    have same (layout' : Layout) : moduleTree layout' 0 again = moduleTree layout' 0 module := by
      have proper : module.Everywhere HasProperDoc := fun part contained =>
        (isDecoded.inside part contained).proper
      refine moduleTree_of_isModule isDecoded.ascending (fun node member node' isNode => ?_) isAgain
        layout' 0
      exact nodeTree_of_isNode (Module.everywhere_iff.mp writable node member)
        (Module.everywhere_iff.mp proper node member) isNode
    exact ⟨congrArg document (same .compact), congrArg document (same .indented)⟩

/-- A document with blanks, a member that comes again later and one that means nothing. -/
def spacedTree : Tree :=
  .object [] [(⟨[' '], ['b'], []⟩, ⟨[' '], .null, []⟩),
    (⟨['\n'], ['b'], [' ']⟩, ⟨[], Layout.compact.object 0 [("_type", Layout.string "str"),
      ("default", .bool true), ("_option", .bool true), ("other", .null)], ['\n']⟩)]

def spacedModule : Module :=
  ⟨[("b", .option { Doc.empty with default? := some (.bool true) } (.scalar .str))]⟩

theorem recode_spacedTree :
    decode (document spacedTree).toUTF8 = .ok spacedModule ∧
      decode (encode spacedModule).toUTF8 = .ok spacedModule ∧
      decode (encodePretty spacedModule).toUTF8 = .ok spacedModule := by
  have decoded : decode (document spacedTree).toUTF8 = .ok spacedModule := by
    rw [decode, ofBytes?_document (by rfl)]
    rfl
  have values : spacedModule.Everywhere fun part => ∀ value ∈ part.doc.values,
      value.FloatsRecover ∧ value.Restorable := by
    refine Module.everywhere_singleton (fun value isValue => ?_) rfl
    rw [List.mem_singleton.mp isValue]
    exact ⟨Value.floatsRecover_bool true, Value.bool_ne_null,
      Value.everywhere_of_parts_eq_nil id rfl, by decide⟩
  refine ⟨decoded, (recode_eq_iff decoded fun part contained value isValue =>
    (values part contained value isValue).1).2.2.1.mpr ?_⟩
  exact fun doc kind contained _ value isValue => (values _ contained value isValue).2

/-- A document whose only default is the embedded text of null. -/
def embeddedNullTree : Tree :=
  Layout.compact.object 0 [("a", Layout.compact.object 1 [("_option", .bool true),
    ("_type", Layout.string "str"),
    ("default", Layout.compact.object 2 [(Json.embeddingMark, Layout.string "null")])])]

def embeddedNullModule : Module :=
  ⟨[("a", .option { Doc.empty with default? := some .null } (.scalar .str))]⟩

/-- An embedded null is decoded as a value, but it is not written. -/
theorem recode_embeddedNull :
    decode (document embeddedNullTree).toUTF8 = .ok embeddedNullModule ∧
      (∀ part, embeddedNullModule.Contains part → ∀ value ∈ part.doc.values,
        value.FloatsRecover) ∧
      decode (encode embeddedNullModule).toUTF8 = .ok ⟨[("a", .option .empty (.scalar .str))]⟩ ∧
      decode (encode embeddedNullModule).toUTF8 ≠ .ok embeddedNullModule := by
  have again : decode (encode embeddedNullModule).toUTF8 =
      .ok ⟨[("a", .option .empty (.scalar .str))]⟩ := by
    have kept : embeddedNullModule.Everywhere KeepsWellFormed :=
      Module.everywhere_singleton (fun _ _ same => by cases same) rfl
    rw [decode, encode, ofBytes?_document (wellFormed_moduleTree kept .compact 0)]
    rfl
  refine ⟨?_, ?_, again, ?_⟩
  · rw [decode, ofBytes?_document (by rfl)]
    rfl
  · refine Module.everywhere_singleton (fun value isValue => ?_) rfl
    rw [List.mem_singleton.mp isValue]
    exact Value.floatsRecover_null
  · rw [again]
    intro same
    cases same

end Wire

end OptionSchema
