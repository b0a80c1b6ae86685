import OptionSchema.Proofs.Json.Scan
import OptionSchema.Proofs.Schema.Node
import OptionSchema.Proofs.Wire.Decode
import OptionSchema.Proofs.Wire.Doc
import OptionSchema.Wire.Encode

/-!
# What an encoded node denotes

Main statements: `isNode_module_iff` and `isNode_option_iff`. They tell what is read of the tree of a
node from what is read of the trees of its children, so that properties of documents that are
written and read again follow by induction on nodes.
-/

namespace OptionSchema

open Dictionary (Matched valuesOf)
open Json (Layout Tree)

/-- A module that would be taken for an option, or for a broken one, if it did not stand where only
a module can. -/
def Module.LooksTagged (contents : Module) : Prop :=
  "_option" ∈ contents.names ∨ "_type" ∈ contents.names

namespace Wire

variable {layout : Layout} {depth : Nat} {doc : Doc} {kind : Kind}

/-! ## Trees of modules and alternatives -/

theorem memberTrees_eq_map (members : List (String × Node)) :
    memberTrees layout depth members =
      members.map fun member => (member.1, nodeTree layout depth member.2) := by
  induction members with
  | nil => rfl
  | cons member rest ih =>
      obtain ⟨name, node⟩ := member
      rw [memberTrees, List.map_cons, ih]

theorem alternativeTrees_eq_map (nodes : List Node) :
    alternativeTrees layout depth nodes = nodes.map (nodeTree layout depth) := by
  induction nodes with
  | nil => rfl
  | cons node rest ih => rw [alternativeTrees, List.map_cons, ih]

/-- The members of a module are read one by one from its tree. -/
theorem isMembers_memberTrees_iff {contents contents' : Module}
    (ascending : Dictionary.Ascending contents.members) :
    IsMembers (contents.members.map fun member => (member.1, nodeTree layout depth member.2))
        contents' ↔
      Matched (fun node node' => IsNode (nodeTree layout depth node) node') contents.members
        contents'.members := by
  have mapped : Dictionary.Ascending
      (contents.members.map fun member => (member.1, nodeTree layout depth member.2)) :=
    ascending.of_keys_eq (by simp [Dictionary.keys])
  unfold IsMembers
  rw [mapped.ofPairs_eq, Dictionary.matched_map_left_iff]

theorem moduleTree_eq (contents : Module) :
    moduleTree layout depth contents = layout.object depth
      (contents.members.map fun member => (member.1, nodeTree layout (depth + 1) member.2)) := by
  obtain ⟨members⟩ := contents
  rw [moduleTree, memberTrees_eq_map]

theorem isModule_moduleTree_iff {contents contents' : Module}
    (ascending : Dictionary.Ascending contents.members) :
    IsModule (moduleTree layout depth contents) contents' ↔
      Matched (fun node node' => IsNode (nodeTree layout (depth + 1) node) node') contents.members
        contents'.members := by
  rw [moduleTree_eq, isModule_iff, ← isMembers_memberTrees_iff ascending]
  constructor
  · rintro ⟨gap, members, found, same, read, isMembers⟩
    cases same
    rw [Json.entries_padMembers, Except.ok.injEq] at read
    rw [read]
    exact isMembers
  · intro isMembers
    exact ⟨_, _, _, rfl, Json.entries_padMembers _, isMembers⟩

/-- The items of an array of nodes are read one by one. -/
theorem isAlternatives_array_iff {nodes nodes' : List Node} :
    IsAlternatives (layout.array depth (nodes.map (nodeTree layout (depth + 1)))) nodes' ↔
      List.Forall₂ (fun node node' => IsNode (nodeTree layout (depth + 1) node) node') nodes
        nodes' := by
  unfold IsAlternatives
  constructor
  · rintro ⟨gap, items, same, matched⟩
    cases same
    rw [Json.map_content_padItems, List.forall₂_map_left_iff] at matched
    exact matched
  · intro matched
    refine ⟨_, _, rfl, ?_⟩
    rw [Json.map_content_padItems, List.forall₂_map_left_iff]
    exact matched

theorem readTexts_array (texts : List String) :
    (layout.array depth (texts.map Layout.string)).readTexts = .ok texts := by
  have items : (layout.array depth (texts.map Layout.string)).readArray =
      .ok (texts.map Layout.string) := by
    simp [Layout.array, Tree.readArray]
  rw [Tree.readTexts, Outcome.bind_eq_ok]
  refine ⟨_, items, Outcome.mapM_eq_ok.mpr ?_⟩
  rw [List.forall₂_map_left_iff, List.forall₂_same]
  exact fun text _ => readText_string text

/-! ## The entries of an option -/

def optionEntries (layout : Layout) (depth : Nat) (doc : Doc) (kind : Kind) :
    List (String × Tree) :=
  ("_option", .bool true) :: ("_type", Layout.string kind.tag.name) ::
    Dictionary.ofPairs (docTrees layout depth doc ++ payloadTrees layout depth kind)

theorem nodeTree_option (known : kind.tag ≠ .unspecified) :
    nodeTree layout depth (.option doc kind) =
      layout.object depth (optionEntries layout (depth + 1) doc kind) := by
  cases kind with
  | unspecified source => exact absurd rfl known
  | _ => rfl

theorem payloadField?_ne_docField (tag : Tag) (field : DocField) :
    payloadField? tag ≠ some field.name := by
  cases tag with
  | scalar => exact nofun
  | unspecified => exact nofun
  | wrapped wrapper => cases wrapper <;> cases field <;> decide
  | _ => cases field <;> decide

theorem payloadField?_ne_envelope (tag : Tag) :
    payloadField? tag ≠ some "_option" ∧ payloadField? tag ≠ some "_type" := by
  cases tag with
  | wrapped wrapper => cases wrapper <;> decide
  | _ => constructor <;> exact nofun

/-- The payload field of a kind is the only one that is written for it. -/
theorem payloadField?_of_mem {entry : String × Tree}
    (member : entry ∈ payloadTrees layout depth kind) : payloadField? kind.tag = some entry.1 := by
  cases kind with
  | scalar => cases member
  | unspecified => cases member
  | _ =>
      rw [List.mem_singleton.mp member]
      rfl

theorem valuesOf_payloadTrees_eq_nil {name : String} (other : payloadField? kind.tag ≠ some name) :
    valuesOf name (payloadTrees layout depth kind) = [] := by
  rw [List.eq_nil_iff_forall_not_mem]
  intro tree member
  exact other (payloadField?_of_mem (Dictionary.mem_valuesOf.mp member))

theorem valuesOf_extra (name : String) :
    valuesOf name (Dictionary.ofPairs (docTrees layout depth doc ++ payloadTrees layout depth kind)) =
      ((valuesOf name (docTrees layout depth doc) ++
        valuesOf name (payloadTrees layout depth kind)).getLast?).toList := by
  rw [(Dictionary.ascending_ofPairs _).valuesOf_eq, Dictionary.get?_ofPairs,
    Dictionary.valuesOf_append]

theorem valuesOf_option :
    valuesOf "_option" (optionEntries layout depth doc kind) = [.bool true] := by
  rw [optionEntries, Dictionary.valuesOf_cons, if_pos rfl, Dictionary.valuesOf_cons,
    if_neg (by simp), valuesOf_extra, valuesOf_docTrees_of_unknown rfl,
    valuesOf_payloadTrees_eq_nil (payloadField?_ne_envelope kind.tag).1]
  rfl

theorem valuesOf_type :
    valuesOf "_type" (optionEntries layout depth doc kind) = [Layout.string kind.tag.name] := by
  rw [optionEntries, Dictionary.valuesOf_cons, if_neg (by simp), Dictionary.valuesOf_cons,
    if_pos rfl, valuesOf_extra, valuesOf_docTrees_of_unknown rfl,
    valuesOf_payloadTrees_eq_nil (payloadField?_ne_envelope kind.tag).2]
  rfl

/-- Documentation fields stand among the entries of an option as they are written. -/
theorem valuesOf_docField (field : DocField) :
    valuesOf field.name (optionEntries layout depth doc kind) =
      (field.tree? layout depth doc).toList := by
  have notOption : "_option" ≠ field.name := DocField.name_ne_of_unknown rfl field
  have notType : "_type" ≠ field.name := DocField.name_ne_of_unknown rfl field
  rw [optionEntries, Dictionary.valuesOf_cons, if_neg notOption, Dictionary.valuesOf_cons,
    if_neg notType, valuesOf_extra, valuesOf_docTrees,
    valuesOf_payloadTrees_eq_nil (payloadField?_ne_docField kind.tag field)]
  cases field.tree? layout depth doc <;> rfl

/-- The payload field stands among the entries of an option as it is written. -/
theorem get?_payload {field : String} {tree : Tree}
    (payload : payloadTrees layout depth kind = [(field, tree)]) :
    Dictionary.get? field (Dictionary.ofPairs (optionEntries layout depth doc kind)) = some tree := by
  have isField : payloadField? kind.tag = some field := by
    have member : (field, tree) ∈ payloadTrees layout depth kind := by simp [payload]
    exact payloadField?_of_mem member
  have notOption : "_option" ≠ field := by
    rintro rfl
    exact (payloadField?_ne_envelope kind.tag).1 isField
  have notType : "_type" ≠ field := by
    rintro rfl
    exact (payloadField?_ne_envelope kind.tag).2 isField
  have unknown : DocField.ofName? field = none := by
    cases known : DocField.ofName? field with
    | none => rfl
    | some docField =>
        rw [← DocField.ofName?_eq_some_iff.mp known] at isField
        exact absurd isField (payloadField?_ne_docField kind.tag docField)
  rw [Dictionary.get?_ofPairs, optionEntries, Dictionary.valuesOf_cons, if_neg notOption,
    Dictionary.valuesOf_cons, if_neg notType, valuesOf_extra, valuesOf_docTrees_of_unknown unknown,
    payload, Dictionary.valuesOf_cons, if_pos rfl]
  rfl

/-! ## Options that are read again -/

/-- The envelope of a written option says what it is. -/
theorem isEnvelope_optionEntries_iff {envelope : Envelope} :
    IsEnvelope (optionEntries layout depth doc kind) envelope ↔
      envelope = ⟨some true, some (some kind.tag.name)⟩ := by
  have readType : (Layout.string kind.tag.name).readOptionalText = .ok (some kind.tag.name) :=
    Tree.readOptionalText_eq_ok_iff.mpr (.inr ⟨_, readText_string _, rfl⟩)
  constructor
  · rintro ⟨isOption, tag⟩
    rw [valuesOf_option, once_singleton] at isOption
    rw [valuesOf_type, once_singleton, readType] at tag
    obtain ⟨_, sameFlag, isOption⟩ := isOption
    obtain ⟨_, sameTag, tag⟩ := tag
    cases sameFlag
    cases sameTag
    cases envelope
    cases isOption
    cases tag
    rfl
  · rintro rfl
    constructor
    · rw [valuesOf_option]
      exact .present rfl
    · rw [valuesOf_type]
      exact .present readType

/-- What kind is read of a written one: its children are read, and the rest stays the same. -/
inductive KindRereads (layout : Layout) (depth : Nat) : Kind → Kind → Prop where
  | scalar (scalar : Scalar) : KindRereads layout depth (.scalar scalar) (.scalar scalar)
  | enumeration (values : List String) :
      KindRereads layout depth (.enumeration values) (.enumeration values)
  | separatedString (separator : String) :
      KindRereads layout depth (.separatedString separator) (.separatedString separator)
  | wrapped {wrapper : Wrapper} {inner inner' : Node} :
      IsNode (nodeTree layout depth inner) inner' →
      KindRereads layout depth (.wrapped wrapper inner) (.wrapped wrapper inner')
  | either {nodes nodes' : List Node} :
      List.Forall₂ (fun node node' => IsNode (nodeTree layout (depth + 1) node) node') nodes
        nodes' → KindRereads layout depth (.either nodes) (.either nodes')
  | submodule {contents contents' : Module} :
      IsModule (moduleTree layout depth contents) contents' →
      KindRereads layout depth (.submodule contents) (.submodule contents')

theorem KindRereads.tag_eq {kind' : Kind} (rereads : KindRereads layout depth kind kind') :
    kind'.tag = kind.tag := by
  cases rereads <;> rfl

/-- The payload that is read is the one that was written. -/
theorem isPayload_iff {field : String} {tree : Tree} {kind' : Kind}
    (payload : payloadTrees layout depth kind = [(field, tree)]) :
    kind'.tag = kind.tag ∧ IsPayload tree kind' ↔ KindRereads layout depth kind kind' := by
  cases kind with
  | scalar => cases payload
  | unspecified => cases payload
  | enumeration values =>
      cases payload
      constructor
      · rintro ⟨same, isPayload⟩
        cases isPayload <;> cases same
        next read =>
          rw [readTexts_array, Except.ok.injEq] at read
          rw [← read]
          exact .enumeration values
      · intro rereads
        cases rereads
        exact ⟨rfl, .enumeration (readTexts_array values)⟩
  | separatedString separator =>
      cases payload
      constructor
      · rintro ⟨same, isPayload⟩
        cases isPayload <;> cases same
        next read =>
          rw [readText_string, Except.ok.injEq] at read
          rw [← read]
          exact .separatedString separator
      · intro rereads
        cases rereads
        exact ⟨rfl, .separatedString (readText_string separator)⟩
  | wrapped wrapper inner =>
      cases payload
      constructor
      · rintro ⟨same, isPayload⟩
        cases isPayload <;> cases same
        next isNode => exact .wrapped isNode
      · intro rereads
        cases rereads with
        | wrapped isNode => exact ⟨rfl, .wrapped isNode⟩
  | either nodes =>
      rw [payloadTrees, alternativeTrees_eq_map] at payload
      cases payload
      constructor
      · rintro ⟨same, isPayload⟩
        cases isPayload <;> cases same
        next isAlternatives => exact .either (isAlternatives_array_iff.mp isAlternatives)
      · intro rereads
        cases rereads with
        | either matched => exact ⟨rfl, .either (isAlternatives_array_iff.mpr matched)⟩
  | submodule contents =>
      cases payload
      constructor
      · rintro ⟨same, isPayload⟩
        cases isPayload <;> cases same
        next isModule => exact .submodule isModule
      · intro rereads
        cases rereads with
        | submodule isModule => exact ⟨rfl, .submodule isModule⟩

/-- A kind within the vocabulary says all by its tag or is written with one payload field. -/
theorem payloadTrees_cases (layout : Layout) (depth : Nat) (known : kind.tag ≠ .unspecified) :
    (∃ scalar, kind = .scalar scalar) ∨
      ∃ field tree, payloadTrees layout depth kind = [(field, tree)] := by
  cases kind with
  | scalar scalar => exact .inl ⟨scalar, rfl⟩
  | unspecified => exact absurd rfl known
  | _ => exact .inr ⟨_, _, rfl⟩

/-- What kind is read from the entries of a written option. -/
theorem isKind_optionEntries_iff {source : Tree} {kind' : Kind} (known : kind.tag ≠ .unspecified) :
    kind'.tag = kind.tag ∧ IsKind source (optionEntries layout depth doc kind) kind' ↔
      KindRereads layout depth kind kind' := by
  rcases payloadTrees_cases layout depth known with ⟨scalar, rfl⟩ | ⟨field, tree, payload⟩
  · constructor
    · rintro ⟨same, isKind⟩
      cases isKind with
      | scalar =>
          cases same
          exact .scalar scalar
      | unspecified => cases same
      | payload isField =>
          rw [same] at isField
          cases isField
    · intro rereads
      cases rereads
      exact ⟨rfl, .scalar scalar⟩
  · rw [← isPayload_iff payload]
    refine and_congr_right fun same => ?_
    have isField : payloadField? kind'.tag = some field := by
      have member : (field, tree) ∈ payloadTrees layout depth kind := by simp [payload]
      rw [same]
      exact payloadField?_of_mem member
    constructor
    · intro isKind
      cases isKind with
      | scalar => cases isField
      | unspecified => cases isField
      | payload isField' isLast isPayload =>
          rw [isField, Option.some.injEq] at isField'
          subst isField'
          rw [get?_payload payload, Option.some.injEq] at isLast
          rw [isLast]
          exact isPayload
    · exact .payload isField (get?_payload payload)

/-- An option within the vocabulary is read from its tree as an option whose parts are read from
theirs. -/
theorem isNode_option_iff {node : Node} (known : kind.tag ≠ .unspecified) :
    IsNode (nodeTree layout depth (.option doc kind)) node ↔
      ∃ doc' kind', node = .option doc' kind' ∧ KindRereads layout (depth + 1) kind kind' ∧
        IsDoc (optionEntries layout (depth + 1) doc kind) doc' := by
  rw [nodeTree_option known, isNode_iff]
  constructor
  · rintro ⟨gap, members, found, same, read, denotes⟩
    cases same
    rw [Json.entries_padMembers, Except.ok.injEq] at read
    subst read
    cases denotes with
    | module isEnvelope notOption =>
        rw [isEnvelope_optionEntries_iff.mp isEnvelope] at notOption
        exact absurd rfl notOption
    | unknown isEnvelope _ unknown =>
        rw [isEnvelope_optionEntries_iff.mp isEnvelope] at unknown
        change Tag.ofName? kind.tag.name = none at unknown
        rw [Tag.ofName?_name] at unknown
        cases unknown
    | known isEnvelope _ isTag isKind isDoc =>
        rw [isEnvelope_optionEntries_iff.mp isEnvelope] at isTag
        change Tag.ofName? kind.tag.name = some _ at isTag
        rw [Tag.ofName?_name, Option.some.injEq] at isTag
        exact ⟨_, _, rfl, (isKind_optionEntries_iff known).mp ⟨isTag.symm, isKind⟩, isDoc⟩
  · rintro ⟨doc', kind', rfl, rereads, isDoc⟩
    refine ⟨_, _, _, rfl, Json.entries_padMembers _, ?_⟩
    refine .known (isEnvelope_optionEntries_iff.mpr rfl) rfl ?_
      ((isKind_optionEntries_iff known).mpr rereads).2 isDoc
    change Tag.ofName? kind.tag.name = some kind'.tag
    rw [Tag.ofName?_name, rereads.tag_eq]

/-! ## Modules that are read again -/

/-- A node that is written as an object, as all are whose kind is known. -/
def IsWrittenAsObject (node : Node) : Prop :=
  ∀ doc source, node = .option doc (.unspecified source) →
    ∃ gap members, source = .object gap members

theorem exists_object (layout : Layout) (depth : Nat) {node : Node}
    (isObject : IsWrittenAsObject node) :
    ∃ gap members, nodeTree layout depth node = .object gap members := by
  cases node with
  | module contents => exact ⟨_, _, moduleTree_eq contents⟩
  | option doc kind =>
      cases kind with
      | unspecified source => exact isObject doc source rfl
      | _ => exact ⟨_, _, rfl⟩

/-- A reader that refuses objects finds no field among the members of a module. -/
theorem once_memberTrees_iff {α : Type} {read : Tree → Except Json.ReadError α} {result : Option α}
    (refuses : ∀ gap members value, read (.object gap members) ≠ .ok value) {contents : Module}
    (ascending : Dictionary.Ascending contents.members)
    (objects : ∀ node ∈ contents.nodes, IsWrittenAsObject node) (name : String) :
    Once read (valuesOf name
        (contents.members.map fun member => (member.1, nodeTree layout depth member.2))) result ↔
      name ∉ contents.names ∧ result = none := by
  have mapped : Dictionary.Ascending
      (contents.members.map fun member => (member.1, nodeTree layout depth member.2)) :=
    ascending.of_keys_eq (by simp [Dictionary.keys])
  rw [mapped.valuesOf_eq, Dictionary.get?_map fun _ node => nodeTree layout depth node, Module.names]
  cases found : Dictionary.get? name contents.members with
  | none =>
      rw [Option.map_none, Option.toList_none, once_nil]
      exact (and_iff_right (Dictionary.get?_eq_none_iff.mp found)).symm
  | some node =>
      have member := Dictionary.mem_of_get? found
      obtain ⟨gap, members, same⟩ :=
        exists_object layout depth (objects node (List.mem_map_of_mem member))
      rw [Option.map_some, Option.toList_some, once_singleton, same]
      refine iff_of_false ?_ ?_
      · rintro ⟨value, readTree, -⟩
        exact refuses gap members value readTree
      · rintro ⟨absent, -⟩
        exact absent (Dictionary.mem_keys.mpr ⟨node, member⟩)

theorem readBool_object_ne (gap : List Char) (members : Members) (value : Bool) :
    (Tree.object gap members).readBool ≠ .ok value :=
  nofun

theorem readOptionalText_object_ne (gap : List Char) (members : Members) (value : Option String) :
    (Tree.object gap members).readOptionalText ≠ .ok value :=
  nofun

/-- The members of a module make no envelope, or only the one that says nothing. -/
theorem isEnvelope_memberTrees_iff {contents : Module} {envelope : Envelope}
    (ascending : Dictionary.Ascending contents.members)
    (objects : ∀ node ∈ contents.nodes, IsWrittenAsObject node) :
    IsEnvelope (contents.members.map fun member => (member.1, nodeTree layout depth member.2))
      envelope ↔ ¬ contents.LooksTagged ∧ envelope = ⟨none, none⟩ := by
  unfold Module.LooksTagged
  rw [not_or]
  constructor
  · rintro ⟨isOption, tag⟩
    obtain ⟨noOption, isOption⟩ :=
      (once_memberTrees_iff readBool_object_ne ascending objects _).mp isOption
    obtain ⟨noType, tag⟩ :=
      (once_memberTrees_iff readOptionalText_object_ne ascending objects _).mp tag
    refine ⟨⟨noOption, noType⟩, ?_⟩
    cases envelope
    cases isOption
    cases tag
    rfl
  · rintro ⟨⟨noOption, noType⟩, rfl⟩
    exact ⟨(once_memberTrees_iff readBool_object_ne ascending objects _).mpr ⟨noOption, rfl⟩,
      (once_memberTrees_iff readOptionalText_object_ne ascending objects _).mpr ⟨noType, rfl⟩⟩

/-- A bare module is read from its tree as a module whose members are read from theirs, unless it
looks like an option. -/
theorem isNode_module_iff {contents : Module} {node : Node}
    (ascending : Dictionary.Ascending contents.members)
    (objects : ∀ node ∈ contents.nodes, IsWrittenAsObject node) :
    IsNode (nodeTree layout depth (.module contents)) node ↔
      ¬ contents.LooksTagged ∧ ∃ contents', node = .module contents' ∧
        Matched (fun node node' => IsNode (nodeTree layout (depth + 1) node) node')
          contents.members contents'.members := by
  rw [nodeTree, moduleTree_eq, isNode_iff]
  constructor
  · rintro ⟨gap, members, found, same, read, denotes⟩
    cases same
    rw [Json.entries_padMembers, Except.ok.injEq] at read
    subst read
    cases denotes with
    | module isEnvelope _ isMembers =>
        exact ⟨((isEnvelope_memberTrees_iff ascending objects).mp isEnvelope).1, _, rfl,
          (isMembers_memberTrees_iff ascending).mp isMembers⟩
    | unknown isEnvelope isOption =>
        rw [((isEnvelope_memberTrees_iff ascending objects).mp isEnvelope).2] at isOption
        cases isOption
    | known isEnvelope isOption =>
        rw [((isEnvelope_memberTrees_iff ascending objects).mp isEnvelope).2] at isOption
        cases isOption
  · rintro ⟨untagged, contents', rfl, matched⟩
    refine ⟨_, _, _, rfl, Json.entries_padMembers _, ?_⟩
    exact .module ((isEnvelope_memberTrees_iff ascending objects).mpr ⟨untagged, rfl⟩) nofun
      ((isMembers_memberTrees_iff ascending).mpr matched)

/-! ## Documents -/

def KeepsWellFormed (node : Node) : Prop :=
  ∀ doc source, node = .option doc (.unspecified source) → source.wellFormed = true

theorem wellFormed_moduleTree_of_nodes {contents : Module}
    (wellFormed : ∀ node ∈ contents.nodes, (nodeTree layout (depth + 1) node).wellFormed = true) :
    (moduleTree layout depth contents).wellFormed = true := by
  rw [moduleTree_eq]
  refine Json.wellFormed_object (List.forall_mem_map.mpr fun member isMember => ?_)
  exact wellFormed member.2 (List.mem_map_of_mem isMember)

/-- The payload of an option is written as a well-formed tree if its children are. -/
theorem wellFormed_payloadTrees {kind : Kind} {entry : String × Tree}
    (inner : ∀ child ∈ kind.children, ∀ depth, (nodeTree layout depth child).wellFormed = true)
    (member : entry ∈ payloadTrees layout depth kind) : entry.2.wellFormed = true := by
  cases kind with
  | scalar => cases member
  | unspecified => cases member
  | enumeration values =>
      rw [List.mem_singleton.mp member]
      exact Json.wellFormed_array (List.forall_mem_map.mpr fun text _ => Json.wellFormed_string text)
  | separatedString separator =>
      rw [List.mem_singleton.mp member]
      exact Json.wellFormed_string separator
  | wrapped wrapper child =>
      rw [List.mem_singleton.mp member]
      exact inner child (List.mem_singleton.mpr rfl) _
  | either nodes =>
      rw [List.mem_singleton.mp member, alternativeTrees_eq_map]
      exact Json.wellFormed_array (List.forall_mem_map.mpr fun node isNode => inner node isNode _)
  | submodule contents =>
      rw [List.mem_singleton.mp member]
      exact wellFormed_moduleTree_of_nodes fun node isNode => inner node isNode _

/-- A node is written as a well-formed tree if the trees that are kept in it are well formed. -/
theorem wellFormed_nodeTree {node : Node} (kept : node.Everywhere KeepsWellFormed)
    (layout : Layout) (depth : Nat) : (nodeTree layout depth node).wellFormed = true := by
  induction node using Node.induction generalizing depth with
  | step node ih =>
      obtain ⟨own, keptInside⟩ := Node.everywhere_iff.mp kept
      have inner (child : Node) (member : child ∈ node.children) (depth : Nat) :
          (nodeTree layout depth child).wellFormed = true :=
        ih child member (keptInside child member) depth
      cases node using Node.vocabularyCases with
      | module contents =>
          exact wellFormed_moduleTree_of_nodes fun node member => inner node member _
      | outside doc source => exact own doc source rfl
      | known doc kind known =>
          rw [nodeTree_option known]
          refine Json.wellFormed_object fun entry member => ?_
          rcases List.mem_cons.mp member with rfl | member
          · rfl
          rcases List.mem_cons.mp member with rfl | member
          · exact Json.wellFormed_string _
          rcases List.mem_append.mp (Dictionary.mem_of_mem_ofPairs member) with ofDoc | ofPayload
          · exact wellFormed_docTrees ofDoc
          · exact wellFormed_payloadTrees inner ofPayload

theorem wellFormed_moduleTree {contents : Module} (kept : contents.Everywhere KeepsWellFormed)
    (layout : Layout) (depth : Nat) : (moduleTree layout depth contents).wellFormed = true :=
  wellFormed_moduleTree_of_nodes fun node member =>
    wellFormed_nodeTree (Module.everywhere_iff.mp kept node member) layout _

theorem standsIn_document {tree : Tree} (wellFormed : tree.wellFormed) :
    tree.StandsIn (document tree).toList := by
  rw [document, String.toList_ofList]
  exact Tree.standsIn_text wellFormed

/-- The tree of a document is the one that it was written from. -/
theorem ofBytes?_document {tree : Tree} (wellFormed : tree.wellFormed) :
    Tree.ofBytes? (document tree).toUTF8 = .ok tree :=
  Tree.ofBytes?_eq_ok_iff.mpr ⟨document tree, rfl, standsIn_document wellFormed⟩

/-- A text is decoded as the tree that stands in it is read. -/
theorem decode_of_standsIn {tree : Tree} {text : String} (standsIn : tree.StandsIn text.toList) :
    decode text.toUTF8 = readModule [] tree ∧ decodeNode text.toUTF8 = readNode [] tree := by
  rw [decode, decodeNode, Tree.ofBytes?_eq_ok_iff.mpr ⟨text, rfl, standsIn⟩]
  exact ⟨rfl, rfl⟩

section

variable {tree : Tree} {contents : Module}

theorem decode_iff_of_standsIn {text : String} (standsIn : tree.StandsIn text.toList) :
    decode text.toUTF8 = .ok contents ↔ IsModule tree contents := by
  rw [(decode_of_standsIn standsIn).1]
  rfl

theorem decodeNode_iff_of_standsIn {text : String} {node : Node}
    (standsIn : tree.StandsIn text.toList) :
    decodeNode text.toUTF8 = .ok node ↔ IsNode tree node := by
  rw [(decode_of_standsIn standsIn).2]
  rfl

theorem decode_document_iff (wellFormed : tree.wellFormed) :
    decode (document tree).toUTF8 = .ok contents ↔ IsModule tree contents :=
  decode_iff_of_standsIn (standsIn_document wellFormed)

end

end Wire

end OptionSchema
