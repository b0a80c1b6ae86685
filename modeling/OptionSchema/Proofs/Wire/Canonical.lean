import OptionSchema.Proofs.Text.ByteOrder
import OptionSchema.Proofs.Wire.Address

/-!
# Documents in canonical order

Main statement: `encode_canonical`. In both documents of a module the keys of every object stand in
strictly ascending order of their bytes, unless the object is in a tree that was kept as it is. An
option has the two fields of its envelope in front, each once, and of its documentation the fields
that do not have their zero value.
-/

namespace OptionSchema

open Json (Layout Places Tree Value)

/-- A documentation field has its zero value. Null is as good as no value. -/
def Wire.DocField.IsZero (field : DocField) (doc : Doc) : Prop :=
  match field with
  | .example => doc.example? = none ∨ doc.example? = some .null
  | .default => doc.default? = none ∨ doc.default? = some .null
  | .defaultText => doc.defaultText = ""
  | .description => doc.description = ""
  | .descriptionClass => doc.descriptionClass = ""
  | .visible => doc.visible = false
  | .internal => doc.internal = false
  | .readOnly => doc.readOnly = false

namespace Wire

variable {layout : Layout} {depth : Nat} {doc : Doc} {kind : Kind} {tree : Tree}

/-- If a tree is an object, its keys can be read and stand in strictly ascending order of their
bytes. -/
def HasAscendingKeys (tree : Tree) : Prop :=
  ∀ gap members, tree = .object gap members → ∃ found, Json.entries members = .ok found ∧
    (Dictionary.keys found).Pairwise fun first second => Text.bytes first < Text.bytes second

/-- The object of an option: the envelope is in front, neither of its fields occurs again, and a
documentation field occurs if it does not have its zero value. -/
def IsOptionObject (doc : Doc) (kind : Kind) (tree : Tree) : Prop :=
  ∃ gap members fields, tree = .object gap members ∧
    Json.entries members =
      .ok (("_option", .bool true) :: ("_type", Layout.string kind.tag.name) :: fields) ∧
    "_option" ∉ Dictionary.keys fields ∧ "_type" ∉ Dictionary.keys fields ∧
    ∀ field : DocField, field.name ∈ Dictionary.keys fields ↔ ¬ field.IsZero doc

/-- The object of a bare module has the names of the module as its keys. -/
def IsModuleObject (contents : Module) (tree : Tree) : Prop :=
  ∃ gap members found, tree = .object gap members ∧ Json.entries members = .ok found ∧
    Dictionary.keys found = contents.names

def IsWrittenAs : Node → Tree → Prop
  | .module contents, tree => IsModuleObject contents tree
  | .option _ (.unspecified source), tree => tree = source
  | .option doc kind, tree => IsOptionObject doc kind tree

/-! ## Ascending keys -/

theorem hasAscendingKeys_object {members : List (String × Tree)}
    (ascending : Dictionary.Ascending members) : HasAscendingKeys (layout.object depth members) := by
  intro gap written same
  cases same
  exact ⟨members, Json.entries_padMembers members, ascending.imp Text.bytes_lt_of_lt⟩

theorem holdsOutside_atom {kept : Places} (atom : tree.isAtom = true) :
    tree.HoldsOutside kept HasAscendingKeys := by
  refine Tree.holdsOutside_of_isAtom atom ?_
  rintro gap members rfl
  cases atom

theorem hasAscendingKeys_array {items : List Tree} :
    HasAscendingKeys (layout.array depth items) := by
  rintro gap members ⟨⟩

theorem holdsOutside_value {value : Value} (ordered : value.Ordered) (layout : Layout)
    (depth : Nat) :
    (value.tree layout depth).HoldsOutside (fun _ => false) HasAscendingKeys := by
  induction value using Value.induction generalizing depth with
  | step value ih =>
      obtain ⟨own, inside⟩ := Value.everywhere_iff.mp ordered
      cases value with
      | null => exact holdsOutside_atom rfl
      | bool value => exact holdsOutside_atom rfl
      | number number => exact holdsOutside_atom (Json.isAtom_number number)
      | string value => exact holdsOutside_atom rfl
      | array items =>
          rw [Value.tree, Value.itemTrees_eq_map]
          refine Json.holdsOutside_array hasAscendingKeys_array fun index tree isTree => ?_
          obtain ⟨item, isItem, rfl⟩ := List.mem_map.mp (List.mem_of_getElem? isTree)
          exact ih item isItem (inside item isItem) _
      | object members =>
          rw [Value.tree, Value.memberTrees_eq_map]
          have ascending : Dictionary.Ascending members := own
          refine Json.holdsOutside_object
            (hasAscendingKeys_object (ascending.of_keys_eq (by simp [Dictionary.keys]))) ?_
          refine List.forall_mem_map.mpr fun member isMember => ?_
          have isPart : member.2 ∈ (Value.object members).parts := List.mem_map_of_mem isMember
          exact ih member.2 isPart (inside member.2 isPart) _

/-- Ascending keys outside the kept trees pass from parts to the whole. The second tree does not
matter. -/
theorem isCompositional_ascending (layout : Layout) :
    IsCompositional layout layout fun kept tree _ => tree.HoldsOutside kept HasAscendingKeys where
  kept _ isKept := Tree.holdsOutside_of_kept isKept
  value value depth _ ordered := holdsOutside_value ordered layout depth
  array depth _ _ each := by
    refine Json.holdsOutside_array hasAscendingKeys_array fun index item isItem => ?_
    rw [List.getElem?_map, Option.map_eq_some_iff] at isItem
    obtain ⟨node, isNode, rfl⟩ := isItem
    exact each index node isNode
  object depth _ _ ascending each := by
    refine Json.holdsOutside_object (hasAscendingKeys_object ascending) fun member isMember => ?_
    obtain ⟨_, -, -, holds⟩ := Outcome.exists_result each isMember
    exact holds

/-! ## Options and modules -/

theorem DocField.written?_eq_none_iff {field : DocField} :
    field.written? doc = none ↔ field.IsZero doc := by
  have ofValue (value? : Option Value) : DocField.written?.value? value? = none ↔
      value? = none ∨ value? = some .null := by
    cases value? with
    | none => simp [DocField.written?.value?]
    | some value => cases value <;> simp [DocField.written?.value?]
  have ofText (text : String) : DocField.written?.text? text = none ↔ text = "" := by
    simp [DocField.written?.text?]
  have ofFlag (flag : Bool) : DocField.written?.flag? flag = none ↔ flag = false := by
    simp [DocField.written?.flag?]
  match field with
  | .example => exact ofValue doc.example?
  | .default => exact ofValue doc.default?
  | .defaultText => exact ofText doc.defaultText
  | .description => exact ofText doc.description
  | .descriptionClass => exact ofText doc.descriptionClass
  | .visible => exact ofFlag doc.visible
  | .internal => exact ofFlag doc.internal
  | .readOnly => exact ofFlag doc.readOnly

/-- The documentation fields of an option that do not have their zero value are written. -/
theorem docField_mem_keys_iff (field : DocField) :
    field.name ∈ Dictionary.keys (Dictionary.ofPairs
      (docTrees layout depth doc ++ payloadTrees layout depth kind)) ↔ ¬ field.IsZero doc := by
  have ofDoc : field.name ∈ Dictionary.keys (docTrees layout depth doc) ↔ ¬ field.IsZero doc := by
    rw [Dictionary.mem_keys, ← DocField.written?_eq_none_iff, ← ne_eq, Option.ne_none_iff_exists']
    simp only [← Dictionary.mem_valuesOf, valuesOf_docTrees, DocField.tree?_eq_map,
      Option.mem_toList, Option.map_eq_some_iff]
    exact ⟨fun ⟨_, value, written, _⟩ => ⟨value, written⟩,
      fun ⟨value, written⟩ => ⟨_, value, written, rfl⟩⟩
  have notPayload : field.name ∉ Dictionary.keys (payloadTrees layout depth kind) := by
    intro isKey
    obtain ⟨tree, member⟩ := Dictionary.mem_keys.mp isKey
    exact payloadField?_ne_docField kind.tag field (payloadField?_of_mem member)
  rw [Dictionary.mem_keys_ofPairs, Dictionary.keys_append, List.mem_append, ofDoc]
  exact or_iff_left notPayload

theorem isOptionObject (known : kind.tag ≠ .unspecified) (layout : Layout) (depth : Nat)
    (doc : Doc) :
    IsOptionObject doc kind (nodeTree layout depth (.option doc kind)) := by
  rw [nodeTree_option known]
  refine ⟨_, _, _, rfl, Json.entries_padMembers _, fun isKey => ?_, fun isKey => ?_,
    docField_mem_keys_iff⟩
  · exact absurd (type_lt_of_mem_keys isKey) (by decide)
  · exact absurd (type_lt_of_mem_keys isKey) (by decide)

theorem isWrittenAs (node : Node) (layout : Layout) (depth : Nat) :
    IsWrittenAs node (nodeTree layout depth node) := by
  cases node with
  | module contents =>
      rw [nodeTree, moduleTree_eq]
      refine ⟨_, _, _, rfl, Json.entries_padMembers _, ?_⟩
      simp [Dictionary.keys, Module.names]
  | option doc kind =>
      cases kind with
      | unspecified source => rfl
      | _ =>
          refine isOptionObject ?_ layout depth doc
          rintro ⟨⟩

/-! ## Documents -/

/-- The tree of a document of a module is in canonical order: the objects outside the kept trees have
ascending keys, what stands at the address of a node is written as it has to be, and every node within
the module has an address. -/
structure IsCanonical (module : Module) (tree : Tree) : Prop where
  ascending : tree.HoldsOutside (Node.module module).keeps HasAscendingKeys
  writtenAs : ∀ address part, (Node.module module).writtenAt? address = some part →
    ∃ child, tree.At address child ∧ IsWrittenAs part child
  addressed : ∀ part, module.Contains part →
    ∃ address, (Node.module module).writtenAt? address = some part

theorem isCanonical_moduleTree {module : Module} (ordered : module.Ordered) (layout : Layout) :
    IsCanonical module (moduleTree layout 0 module) := by
  have inside := ordered.everywhere_node
  refine ⟨related_nodeTree (isCompositional_ascending layout) inside 0 0,
    fun address part written => ?_, fun part contained => ?_⟩
  · obtain ⟨depth, isAt⟩ := at_of_writtenAt? written layout 0
    exact ⟨_, isAt, isWrittenAs part layout depth⟩
  · obtain ⟨node, member, within⟩ := contained
    exact exists_writtenAt? inside (.inside member within)

/-- Both documents of a module are in canonical order. -/
theorem encode_canonical (module : OrderedModule)
    (kept : module.Everywhere KeepsWellFormed) :
    ∀ text ∈ [encode module, encodePretty module],
      ∃ tree, Tree.ofBytes? text.toUTF8 = .ok tree ∧ IsCanonical module tree := by
  have canonical (layout : Layout) : ∃ tree,
      Tree.ofBytes? (document (moduleTree layout 0 module)).toUTF8 = .ok tree ∧
        IsCanonical module tree :=
    ⟨_, ofBytes?_document (wellFormed_moduleTree kept layout 0),
      isCanonical_moduleTree module.ordered layout⟩
  intro text isText
  rcases List.mem_cons.mp isText with rfl | isText
  · exact canonical .compact
  · obtain rfl := List.mem_singleton.mp isText
    exact canonical .indented

theorem encode_canonical_sampleModule :
    sampleModule.Everywhere KeepsWellFormed ∧
      ∃ tree enable, Tree.ofBytes? (encodePretty sampleModule).toUTF8 = .ok tree ∧
        IsCanonical sampleModule tree ∧ tree.At [.member (some "enable")] enable ∧
        IsOptionObject { Doc.empty with default? := some (.bool true) } (.scalar .bool) enable := by
  have kept : sampleModule.Everywhere KeepsWellFormed := by
    refine everywhere_sampleModule ?_ ?_ ?_ ?_ ?_ <;> intro doc source same <;> cases same
    rfl
  obtain ⟨tree, scanned, canonical⟩ :=
    encode_canonical ⟨sampleModule, ordered_sampleModule⟩ kept (encodePretty sampleModule) (by simp)
  obtain ⟨enable, isAt, isOption⟩ := canonical.writtenAs [.member (some "enable")] _ rfl
  exact ⟨kept, tree, enable, scanned, canonical, isAt, isOption⟩

end Wire

end OptionSchema
