import OptionSchema.Proofs.Wire.Encode
import OptionSchema.Proofs.Wire.Portable

/-!
# Kinds and the vocabulary agree

Both directions of the codec refuse an option whose kind and tag do not agree with the vocabulary, and
there is no such option. Main statement: `tryEncode_eq_ok`. Every module and node is encoded, and what
it is encoded as is one JSON document if every tree that is kept in it was captured from a text. What
cannot be decoded is never refused for its tag.
-/

namespace OptionSchema.Wire

open Json (Layout Tree)

variable {layout : Layout} {path : List String} {tree : Tree}

/-! ## What is encoded -/

theorem checkAlternatives_eq_ok {nodes : List Node}
    (each : ∀ node ∈ nodes, checkNode node = .ok ()) :
    checkAlternatives nodes = .ok () := by
  induction nodes with
  | nil => rfl
  | cons node rest ih =>
      obtain ⟨first, others⟩ := List.forall_mem_cons.mp each
      rw [checkAlternatives, first, Outcome.ok_bind, ih others]

theorem checkMembers_eq_ok {members : List (String × Node)}
    (each : ∀ member ∈ members, checkNode member.2 = .ok ()) : checkMembers members = .ok () := by
  induction members with
  | nil => rfl
  | cons member rest ih =>
      obtain ⟨name, node⟩ := member
      obtain ⟨first, others⟩ := List.forall_mem_cons.mp each
      rw [checkMembers, first, Outcome.ok_bind, ih others]

theorem checkModule_eq_ok_of_nodes {contents : Module}
    (each : ∀ node ∈ contents.nodes, checkNode node = .ok ()) : checkModule contents = .ok () := by
  obtain ⟨members⟩ := contents
  rw [checkModule]
  exact checkMembers_eq_ok (List.forall_mem_map.mp each)

theorem checkNode_option {doc : Doc} {kind : Kind} (known : kind.tag ≠ .unspecified) :
    checkNode (.option doc kind) =
      if Tag.isRegistered kind.tag.name then checkPayload kind
      else .error (.unreachableVariant kind.tag.name) := by
  cases kind with
  | unspecified source => exact absurd rfl known
  | _ => rfl

/-- No node is refused: the tag of every kind is in the vocabulary. -/
theorem checkNode_eq_ok (node : Node) : checkNode node = .ok () := by
  induction node using Node.induction with
  | step node ih =>
      cases node using Node.vocabularyCases with
      | module contents => exact checkModule_eq_ok_of_nodes ih
      | outside doc source => rfl
      | known doc kind known =>
          rw [checkNode_option known, if_pos (Tag.isRegistered_name kind.tag)]
          cases kind with
          | wrapped wrapper inner => exact ih inner (List.mem_singleton.mpr rfl)
          | either nodes => exact checkAlternatives_eq_ok ih
          | submodule contents => exact checkModule_eq_ok_of_nodes ih
          | _ => rfl

theorem checkModule_eq_ok (module : Module) : checkModule module = .ok () :=
  checkModule_eq_ok_of_nodes fun node _ => checkNode_eq_ok node

/-! ## What is decoded -/

/-- An error of reading a tree has a path, so it is not that of a refused tag. -/
theorem readNode_ne_unreachable (tag : String) :
    readNode path tree ≠ .error (.unreachableVariant tag) := by
  intro refused
  obtain ⟨steps, located⟩ := (portableTree tree).node.within path _ refused
  cases located

theorem readModule_ne_unreachable (tag : String) :
    readModule path tree ≠ .error (.unreachableVariant tag) := by
  intro refused
  obtain ⟨steps, located⟩ := (portableTree tree).module.within path _ refused
  cases located

theorem scan_bind_ne_unreachable {α : Type} {bytes : ByteArray} {tag : String}
    {read : Tree → Except DecodeError α}
    (never : ∀ tree, read tree ≠ .error (.unreachableVariant tag)) :
    ((Tree.ofBytes? bytes).mapError .json >>= read) ≠ .error (.unreachableVariant tag) := by
  intro refused
  rcases Outcome.bind_eq_error.mp refused with scan | ⟨tree, -, refused⟩
  · obtain ⟨cause, -, same⟩ := Outcome.mapError_eq_error.mp scan
    cases same
  · exact never tree refused

/-! ## Documents -/

def KeepsCaptured (node : Node) : Prop :=
  ∀ doc source, node = .option doc (.unspecified source) →
    ∃ text : String, Tree.ofText? text.toList = .ok source

theorem KeepsCaptured.keepsWellFormed {node : Node} (captured : KeepsCaptured node) :
    KeepsWellFormed node := by
  intro doc source same
  obtain ⟨text, scanned⟩ := captured doc source same
  exact (Tree.ofText?_eq_ok_iff.mp scanned).1

/-- An option within the vocabulary keeps no tree. -/
theorem keepsCaptured_of_known {doc : Doc} {kind : Kind} (known : kind.tag ≠ .unspecified) :
    KeepsCaptured (.option doc kind) := by
  intro doc' source same
  cases same
  exact absurd rfl known

/-- A text that is a JSON value of the grammar, with nothing around it. -/
def IsDocument (text : String) : Prop :=
  ∃ tree : Tree, tree.wellFormed = true ∧ tree.text = text.toList ∧
    Tree.ofBytes? text.toUTF8 = .ok tree

theorem isDocument_document (wellFormed : tree.wellFormed = true) : IsDocument (document tree) := by
  refine ⟨tree, wellFormed, ?_, ofBytes?_document wellFormed⟩
  rw [document, String.toList_ofList]

/-- Every module is encoded in both layouts, and every node in the compact one. What they are encoded
as is one well-formed JSON document if the trees that are kept in them were captured from texts. No
bytes are refused by decoding because a kind and the vocabulary do not agree about a tag. -/
theorem tryEncode_eq_ok (module : Module) (node : Node) :
    (tryEncode .compact module = .ok (encode module) ∧
      tryEncode .indented module = .ok (encodePretty module) ∧
      tryEncodeNode node = .ok (encodeNode node)) ∧
    (module.Everywhere KeepsCaptured → IsDocument (encode module) ∧ IsDocument (encodePretty module)) ∧
    (node.Everywhere KeepsCaptured → IsDocument (encodeNode node)) ∧
    ∀ bytes tag, decode bytes ≠ .error (.unreachableVariant tag) ∧
      decodeNode bytes ≠ .error (.unreachableVariant tag) := by
  have encoded (layout : Layout) :
      tryEncode layout module = .ok (document (moduleTree layout 0 module)) := by
    rw [tryEncode, checkModule_eq_ok, Outcome.ok_bind]
    rfl
  have encodedNode : tryEncodeNode node = .ok (encodeNode node) := by
    rw [tryEncodeNode, checkNode_eq_ok, Outcome.ok_bind]
    rfl
  refine ⟨⟨encoded .compact, encoded .indented, encodedNode⟩, fun captured => ?_, fun captured => ?_,
    fun bytes tag => ⟨?_, ?_⟩⟩
  · have kept : module.Everywhere KeepsWellFormed := fun part contained =>
      (captured part contained).keepsWellFormed
    exact ⟨isDocument_document (wellFormed_moduleTree kept .compact 0),
      isDocument_document (wellFormed_moduleTree kept .indented 0)⟩
  · have kept : node.Everywhere KeepsWellFormed := fun part within =>
      (captured part within).keepsWellFormed
    exact isDocument_document (wellFormed_nodeTree kept .compact 0)
  · exact scan_bind_ne_unreachable fun tree => readModule_ne_unreachable tag
  · exact scan_bind_ne_unreachable fun tree => readNode_ne_unreachable tag

/-- A list that is kept as it was captured, with blanks and an escape that cannot be read. -/
def capturedTree : Tree :=
  .array [] [⟨[' '], .null, ['\n']⟩, ⟨[], .string "\\ud800".toList, []⟩]

def capturedChoice : Node :=
  .option .empty (.either [.option .empty (.scalar .int),
    .option .empty (.wrapped .nullOr (.option .empty (.unspecified capturedTree)))])

theorem everywhere_capturedChoice {property : Node → Prop} (choice : property capturedChoice)
    (number : property (.option .empty (.scalar .int)))
    (perhaps : property
      (.option .empty (.wrapped .nullOr (.option .empty (.unspecified capturedTree)))))
    (captured : property (.option .empty (.unspecified capturedTree))) :
    capturedChoice.Everywhere property := by
  have capturedInside := Node.everywhere_of_children_eq_nil captured rfl
  have numberInside := Node.everywhere_of_children_eq_nil number rfl
  have perhapsInside :=
    Node.everywhere_iff.mpr ⟨perhaps, List.forall_mem_singleton.mpr capturedInside⟩
  exact Node.everywhere_iff.mpr ⟨choice,
    List.forall_mem_cons.mpr ⟨numberInside, List.forall_mem_singleton.mpr perhapsInside⟩⟩

theorem keepsCaptured_capturedChoice : capturedChoice.Everywhere KeepsCaptured := by
  refine everywhere_capturedChoice (keepsCaptured_of_known nofun) (keepsCaptured_of_known nofun)
    (keepsCaptured_of_known nofun) ?_
  rintro doc source ⟨⟩
  have standsIn : capturedTree.StandsIn (document capturedTree).toList := standsIn_document (by rfl)
  exact ⟨document capturedTree, Tree.ofText?_eq_ok_iff.mpr standsIn⟩

theorem tryEncode_capturedChoice :
    capturedChoice.Everywhere KeepsCaptured ∧
      tryEncode .compact ⟨[("choice", capturedChoice)]⟩ = .ok (encode ⟨[("choice", capturedChoice)]⟩) ∧
      IsDocument (encodePretty ⟨[("choice", capturedChoice)]⟩) ∧
      IsDocument (encodeNode capturedChoice) := by
  have captured := keepsCaptured_capturedChoice
  have inside : Module.Everywhere KeepsCaptured ⟨[("choice", capturedChoice)]⟩ :=
    Module.everywhere_iff.mpr (List.forall_mem_singleton.mpr captured)
  obtain ⟨⟨encoded, -, -⟩, documents, ofNode, -⟩ :=
    tryEncode_eq_ok ⟨[("choice", capturedChoice)]⟩ capturedChoice
  exact ⟨captured, encoded, (documents inside).2, ofNode captured⟩

end OptionSchema.Wire
