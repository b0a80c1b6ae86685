import OptionSchema.Proofs.Schema.Node
import OptionSchema.Proofs.Wire.Recode

/-!
# Positions in documents

The steps that lead from node to node also lead from tree to tree, both in a document that is
decoded and in one that is written. Main statements: `Reaches.at?` and `reaches_nodeTree`. What
stands at a position of a document that is decoded is decoded at that position, and what stands at a
position of a node is written at that position.
-/

namespace OptionSchema.Wire

open Dictionary (valuesOf)
open Json (Layout Tree entries)

variable {layout : Layout} {depth : Nat} {found : List (String × Tree)}
  {tree child part source : Tree} {step : Step} {steps : List Step} {node : Node}

/-! ## Steps from tree to tree -/

def HasEntries (tree : Tree) (found : List (String × Tree)) : Prop :=
  ∃ gap members, tree = .object gap members ∧ entries members = .ok found

/-- The last entry of an object with the given name. -/
def HasEntry (tree : Tree) (name : String) (child : Tree) : Prop :=
  ∃ found, HasEntries tree found ∧ Dictionary.get? name (Dictionary.ofPairs found) = some child

/-- Entries that say once that they are those of an option. -/
def SayOption (found : List (String × Tree)) : Prop :=
  valuesOf "_option" found = [.bool true]

def SayTag (found : List (String × Tree)) (tag : Tag) : Prop :=
  ∃ tree name, valuesOf "_type" found = [tree] ∧ tree.readText = .ok name ∧
    Tag.ofName? name = some tag

def IsTagged (tree : Tree) (tag : Tag) : Prop :=
  ∃ found, HasEntries tree found ∧ SayOption found ∧ SayTag found tag

inductive Leads : Step → Tree → Tree → Prop where
  | member {tree child : Tree} {found : List (String × Tree)} {name : String} :
      HasEntries tree found → ¬ SayOption found → HasEntry tree name child →
      Leads (.member name) tree child
  | inner {tree child : Tree} {wrapper : Wrapper} :
      IsTagged tree (.wrapped wrapper) → HasEntry tree wrapper.name child → Leads .inner tree child
  | alternative {tree : Tree} {gap : List Char} {items : List (Json.Padded Tree)} {index : Nat}
      {item : Json.Padded Tree} :
      IsTagged tree .either → HasEntry tree "either" (.array gap items) →
      items[index]? = some item → Leads (.alternative index) tree item.content
  | content {tree contents child : Tree} {name : String} :
      IsTagged tree .submodule → HasEntry tree "submodule" contents → HasEntry contents name child →
      Leads (.content name) tree child

inductive Reaches : List Step → Tree → Tree → Prop where
  | here {tree : Tree} : Reaches [] tree tree
  | step {step : Step} {steps : List Step} {tree child part : Tree} :
      Leads step tree child → Reaches steps child part → Reaches (step :: steps) tree part

/-- What stands at a position within a member of the root of a document. -/
def StandsAt (tree : Tree) (name : String) (steps : List Step) (part : Tree) : Prop :=
  ∃ child, HasEntry tree name child ∧ Reaches steps child part

/-! ## Texts of parts -/

theorem HasEntries.eq {others : List (String × Tree)} (has : HasEntries tree found)
    (has' : HasEntries tree others) : others = found := by
  obtain ⟨gap, members, rfl, read⟩ := has
  obtain ⟨_, _, same, read'⟩ := has'
  cases same
  rw [read, Except.ok.injEq] at read'
  exact read'.symm

theorem SayTag.eq {tag tag' : Tag} (say : SayTag found tag) (say' : SayTag found tag') : tag = tag' := by
  obtain ⟨tree, name, tagged, read, known⟩ := say
  obtain ⟨tree', name', tagged', read', known'⟩ := say'
  rw [tagged] at tagged'
  cases tagged'
  rw [read] at read'
  cases read'
  rw [known] at known'
  exact Option.some.inj known'

theorem HasEntry.get? {name : String} (isEntry : HasEntry tree name child)
    (has : HasEntries tree found) :
    Dictionary.get? name (Dictionary.ofPairs found) = some child := by
  obtain ⟨others, has', isLast⟩ := isEntry
  rw [has.eq has'] at isLast
  exact isLast

theorem HasEntry.text_infix {name : String} (isEntry : HasEntry tree name child) :
    child.text <:+: tree.text := by
  obtain ⟨found, ⟨gap, members, rfl, read⟩, isLast⟩ := isEntry
  have isMember := Dictionary.mem_of_mem_ofPairs (Dictionary.mem_of_get? isLast)
  obtain ⟨written, isWritten, -, same⟩ := Json.mem_of_entries read isMember
  change written.2.content = child at same
  rw [← same]
  exact Tree.text_infix_object isWritten

/-- No step leads on from an option of a scalar kind. -/
theorem not_leads_of_scalar {scalar : Scalar} (tagged : IsTagged tree (.scalar scalar)) :
    ¬ Leads step tree child := by
  obtain ⟨found, has, sayOption, sayTag⟩ := tagged
  have other {tag : Tag} (tagged : IsTagged tree tag) : tag = .scalar scalar := by
    obtain ⟨others, has', -, say⟩ := tagged
    obtain rfl := has.eq has'
    exact say.eq sayTag
  intro leads
  cases leads with
  | member has' notOption =>
      obtain rfl := has.eq has'
      exact notOption sayOption
  | inner tagged => exact nomatch other tagged
  | alternative tagged => exact nomatch other tagged
  | content tagged => exact nomatch other tagged

theorem Leads.text_infix (leads : Leads step tree child) : child.text <:+: tree.text := by
  cases leads with
  | member _ _ isEntry => exact isEntry.text_infix
  | inner _ isEntry => exact isEntry.text_infix
  | alternative _ isEntry isItem =>
      exact (Tree.text_infix_array (List.mem_of_getElem? isItem)).trans isEntry.text_infix
  | content _ isEntry isContent => exact isContent.text_infix.trans isEntry.text_infix

/-- What is reached from a tree is written within it. -/
theorem Reaches.text_infix (reaches : Reaches steps tree part) : part.text <:+: tree.text := by
  induction reaches with
  | here => exact List.infix_refl _
  | step leads _ ih => exact ih.trans leads.text_infix

theorem StandsAt.text_infix {name : String} (stands : StandsAt tree name steps part) :
    part.text <:+: tree.text := by
  obtain ⟨child, isEntry, reaches⟩ := stands
  exact reaches.text_infix.trans isEntry.text_infix

/-! ## Positions in what is decoded -/

/-- An envelope says that it is one of an option exactly if the entries say so. -/
theorem IsEnvelope.isOption_iff {envelope : Envelope} (isEnvelope : IsEnvelope found envelope) :
    envelope.isOption = some true ↔ SayOption found := by
  obtain ⟨isOption, -⟩ := isEnvelope
  unfold SayOption
  constructor
  · intro same
    rw [same] at isOption
    generalize valuesOf "_option" found = trees at isOption
    cases isOption with
    | present read => rw [Tree.readBool_eq_ok_iff.mp read]
  · intro same
    rw [same, once_singleton] at isOption
    obtain ⟨_, read, same⟩ := isOption
    cases read
    exact same

/-- Entries whose envelope says so are those of an option within the vocabulary. -/
theorem IsEnvelope.sayTag {envelope : Envelope} {tag : Tag} (isEnvelope : IsEnvelope found envelope)
    (known : Tag.ofName? (envelope.tag.join.getD "") = some tag) : SayTag found tag := by
  obtain ⟨-, isTag⟩ := isEnvelope
  generalize envelope.tag = tag? at isTag known
  generalize same : valuesOf "_type" found = trees at isTag
  cases isTag with
  | absent => cases known
  | @present tree _ read =>
      rcases Tree.readOptionalText_eq_ok_iff.mp read with ⟨-, rfl⟩ | ⟨name, readName, rfl⟩
      · cases known
      · exact ⟨tree, name, same, readName, known⟩

/-- What says that it is an option of a kind has an envelope that says so. -/
theorem SayTag.exists_isEnvelope {tag : Tag} (sayTag : SayTag found tag)
    (sayOption : SayOption found) : ∃ envelope, IsEnvelope found envelope ∧
      envelope.isOption = some true ∧ Tag.ofName? (envelope.tag.join.getD "") = some tag := by
  obtain ⟨tree, name, tagged, read, known⟩ := sayTag
  refine ⟨⟨some true, some (some name)⟩, ⟨?_, ?_⟩, rfl, known⟩
  · rw [sayOption]
    exact .present rfl
  · rw [tagged]
    exact .present (Tree.readOptionalText_eq_ok_iff.mpr (.inr ⟨name, read, rfl⟩))

/-- What says that it is an option of a kind of the vocabulary denotes one, if it denotes anything. -/
theorem denotes_iff_of_sayTag {tag : Tag} (sayOption : SayOption found) (sayTag : SayTag found tag) :
    Denotes source found node ↔ ∃ doc kind, node = .option doc kind ∧ kind.tag = tag ∧
      IsKind source found kind ∧ IsDoc found doc := by
  obtain ⟨envelope, isEnvelope, isOption, isTag⟩ := sayTag.exists_isEnvelope sayOption
  constructor
  · intro denotes
    cases denotes with
    | module isEnvelope' notOption => exact absurd (isEnvelope'.isOption_iff.mpr sayOption) notOption
    | unknown isEnvelope' _ unknown =>
        rw [isEnvelope.tag.eq isEnvelope'.tag, isTag] at unknown
        cases unknown
    | known isEnvelope' _ isTag' isKind isDoc =>
        rw [isEnvelope.tag.eq isEnvelope'.tag, isTag, Option.some.injEq] at isTag'
        exact ⟨_, _, rfl, isTag'.symm, isKind, isDoc⟩
  · rintro ⟨doc, kind, rfl, rfl, isKind, isDoc⟩
    exact .known isEnvelope isOption isTag isKind isDoc

/-- The payload of an option is read from its last payload field. -/
theorem IsKind.payload_of_get? {kind : Kind} {field : String} (isKind : IsKind source found kind)
    (isField : payloadField? kind.tag = some field)
    (isLast : Dictionary.get? field (Dictionary.ofPairs found) = some tree) :
    IsPayload tree kind := by
  cases isKind with
  | scalar => cases isField
  | unspecified => cases isField
  | payload isField' isLast' isPayload =>
      rw [isField, Option.some.injEq] at isField'
      subst isField'
      rw [isLast, Option.some.injEq] at isLast'
      rw [isLast']
      exact isPayload

/-- What stands in the payload field of an option within the vocabulary is its payload. -/
theorem exists_payload {tag : Tag} {field : String} (isNode : IsNode tree node)
    (tagged : IsTagged tree tag) (isField : payloadField? tag = some field)
    (isEntry : HasEntry tree field child) :
    ∃ doc kind, node = .option doc kind ∧ kind.tag = tag ∧ IsPayload child kind := by
  obtain ⟨gap, members, found, rfl, read, denotes⟩ := isNode_iff.mp isNode
  have has : HasEntries (.object gap members) found := ⟨gap, members, rfl, read⟩
  obtain ⟨others, has', sayOption, sayTag⟩ := tagged
  rw [has.eq has'] at sayOption sayTag
  obtain ⟨doc, kind, rfl, rfl, isKind, -⟩ := (denotes_iff_of_sayTag sayOption sayTag).mp denotes
  exact ⟨doc, kind, rfl, rfl, isKind.payload_of_get? isField (isEntry.get? has)⟩

/-- The last entry with the name of a member is what that member is decoded from. -/
theorem exists_member {contents : Module} {name : String} (isMembers : IsMembers found contents)
    (isLast : Dictionary.get? name (Dictionary.ofPairs found) = some child) :
    ∃ node, contents.get? name = some node ∧ IsNode child node :=
  isMembers.get?_left isLast

theorem exists_member_of_isModule {contents : Module} {name : String}
    (isModule : IsModule tree contents) (isEntry : HasEntry tree name child) :
    ∃ node, contents.get? name = some node ∧ IsNode child node := by
  obtain ⟨gap, members, found, rfl, read, isMembers⟩ := isModule_iff.mp isModule
  exact exists_member isMembers (isEntry.get? ⟨gap, members, rfl, read⟩)

/-- Where a step leads to in a document, it leads to in what is decoded from it. -/
theorem Leads.child? (leads : Leads step tree child) (isNode : IsNode tree node) :
    ∃ inner, node.child? step = some inner ∧ IsNode child inner := by
  cases leads with
  | @member _ _ found name has notOption isEntry =>
      obtain ⟨gap, members, others, rfl, read, denotes⟩ := isNode_iff.mp isNode
      obtain rfl := has.eq ⟨gap, members, rfl, read⟩
      cases denotes with
      | module _ _ isMembers => exact exists_member isMembers (isEntry.get? has)
      | unknown isEnvelope isOption => exact absurd (isEnvelope.isOption_iff.mp isOption) notOption
      | known isEnvelope isOption => exact absurd (isEnvelope.isOption_iff.mp isOption) notOption
  | @inner _ _ wrapper tagged isEntry =>
      obtain ⟨doc, kind, rfl, same, isPayload⟩ := exists_payload isNode tagged rfl isEntry
      cases isPayload with
      | wrapped isInner => exact ⟨_, rfl, isInner⟩
      | _ => cases same
  | @alternative _ gap items index item tagged isEntry isItem =>
      obtain ⟨doc, kind, rfl, same, isPayload⟩ := exists_payload isNode tagged rfl isEntry
      cases isPayload with
      | @either nodes isAlternatives =>
          obtain ⟨_, _, same, matched⟩ := isAlternatives
          cases same
          rw [List.forall₂_map_left_iff] at matched
          obtain ⟨bound, isAt⟩ := List.getElem?_eq_some_iff.mp isItem
          have bound' : index < nodes.length := by
            rw [← matched.length_eq]
            exact bound
          refine ⟨nodes[index], List.getElem?_eq_getElem bound', ?_⟩
          rw [← isAt]
          exact matched.get bound bound'
      | _ => cases same
  | content tagged isEntry isContent =>
      obtain ⟨doc, kind, rfl, same, isPayload⟩ := exists_payload isNode tagged rfl isEntry
      cases isPayload with
      | submodule isModule => exact exists_member_of_isModule isModule isContent
      | _ => cases same

/-- What stands at a position of a document is decoded at that position. -/
theorem Reaches.at? (reaches : Reaches steps tree part) (isNode : IsNode tree node) :
    ∃ inner, node.at? steps = some inner ∧ IsNode part inner := by
  induction reaches generalizing node with
  | here => exact ⟨node, rfl, isNode⟩
  | step leads _ ih =>
      obtain ⟨child, isChild, isNodeChild⟩ := leads.child? isNode
      obtain ⟨inner, isAt, isInner⟩ := ih isNodeChild
      refine ⟨inner, ?_, isInner⟩
      rw [Node.at?, isChild]
      exact isAt

/-- What stands at a position of a document that is a module is decoded at that position. -/
theorem StandsAt.at? {contents : Module} {name : String} (stands : StandsAt tree name steps part)
    (isModule : IsModule tree contents) :
    ∃ inner, contents.at? name steps = some inner ∧ IsNode part inner := by
  obtain ⟨child, isEntry, reaches⟩ := stands
  obtain ⟨node, isMember, isNode⟩ := exists_member_of_isModule isModule isEntry
  obtain ⟨inner, isAt, isInner⟩ := reaches.at? isNode
  refine ⟨inner, ?_, isInner⟩
  rw [Module.at?, isMember]
  exact isAt

/-! ## Where what is decoded stands -/

/-- A node of a module is decoded from an entry. -/
theorem exists_entry_of_isMembers {contents : Module} {inner : Node} (has : HasEntries tree found)
    (isMembers : IsMembers found contents) (isInner : inner ∈ contents.nodes) :
    ∃ name child, HasEntry tree name child ∧ IsNode child inner := by
  obtain ⟨member, isMember, rfl⟩ := List.mem_map.mp isInner
  obtain ⟨child, isEntry, isNode⟩ := isMembers.mem_right isMember
  exact ⟨member.1, child, ⟨found, has, (Dictionary.ascending_ofPairs found).get?_of_mem isEntry⟩,
    isNode⟩

theorem exists_entry_of_isModule {contents : Module} {inner : Node}
    (isModule : IsModule tree contents) (isInner : inner ∈ contents.nodes) :
    ∃ name child, HasEntry tree name child ∧ IsNode child inner := by
  obtain ⟨gap, members, found, rfl, read, isMembers⟩ := isModule_iff.mp isModule
  exact exists_entry_of_isMembers ⟨gap, members, rfl, read⟩ isMembers isInner

/-- A child of a node that is decoded is decoded where some step leads to. -/
theorem exists_leads_of_child {inner : Node} (isNode : IsNode tree node)
    (isInner : inner ∈ node.children) : ∃ step child, Leads step tree child ∧ IsNode child inner := by
  obtain ⟨gap, members, found, rfl, read, denotes⟩ := isNode_iff.mp isNode
  have has : HasEntries (.object gap members) found := ⟨gap, members, rfl, read⟩
  cases denotes with
  | module isEnvelope notOption isMembers =>
      obtain ⟨name, child, isEntry, isNode⟩ := exists_entry_of_isMembers has isMembers isInner
      exact ⟨.member name, child, .member has (mt isEnvelope.isOption_iff.mpr notOption) isEntry,
        isNode⟩
  | unknown => cases isInner
  | @known _ _ kind isEnvelope isOption known isKind =>
      have tagged : IsTagged (.object gap members) kind.tag :=
        ⟨found, has, isEnvelope.isOption_iff.mp isOption, isEnvelope.sayTag known⟩
      cases isKind with
      | scalar => cases isInner
      | unspecified => cases isInner
      | payload isField isLast isPayload =>
          have isEntry := (⟨found, has, isLast⟩ : HasEntry _ _ _)
          cases isPayload with
          | enumeration => cases isInner
          | separatedString => cases isInner
          | wrapped isWrapped =>
              cases isField
              rw [List.mem_singleton.mp isInner]
              exact ⟨.inner, _, .inner tagged isEntry, isWrapped⟩
          | either isAlternatives =>
              cases isField
              obtain ⟨_, items, rfl, matched⟩ := isAlternatives
              rw [List.forall₂_map_left_iff] at matched
              obtain ⟨item, isItem, isNode⟩ := Outcome.exists_item matched isInner
              obtain ⟨index, isAt⟩ := List.getElem?_of_mem isItem
              exact ⟨.alternative index, _, .alternative tagged isEntry isAt, isNode⟩
          | submodule isModule =>
              cases isField
              obtain ⟨name, child, isContent, isNode⟩ := exists_entry_of_isModule isModule isInner
              exact ⟨.content name, child, .content tagged isEntry isContent, isNode⟩

/-- A node within one that is decoded is decoded from what stands at some position. -/
theorem exists_reaches_of_within {inner : Node} (isNode : IsNode tree node)
    (within : Node.Within inner node) :
    ∃ steps part, Reaches steps tree part ∧ IsNode part inner := by
  induction within generalizing tree with
  | self => exact ⟨[], tree, .here, isNode⟩
  | inside isChild _ ih =>
      obtain ⟨step, child, leads, isNodeChild⟩ := exists_leads_of_child isNode isChild
      obtain ⟨steps, part, reaches, isInner⟩ := ih isNodeChild
      exact ⟨step :: steps, part, .step leads reaches, isInner⟩

/-- A node within a module that is decoded is decoded from what stands at some position. -/
theorem exists_standsAt_of_contains {contents : Module} {inner : Node}
    (isModule : IsModule tree contents) (contained : contents.Contains inner) :
    ∃ name steps part, StandsAt tree name steps part ∧ IsNode part inner := by
  obtain ⟨node, isMember, within⟩ := contained
  obtain ⟨name, child, isEntry, isNode⟩ := exists_entry_of_isModule isModule isMember
  obtain ⟨steps, part, reaches, isInner⟩ := exists_reaches_of_within isNode within
  exact ⟨name, steps, part, ⟨child, isEntry, reaches⟩, isInner⟩

/-! ## What holds at all positions -/

def Below (property : Tree → Prop) (tree : Tree) : Prop :=
  ∀ steps part, Reaches steps tree part → property part

def AtNodes (property : Tree → Prop) (tree : Tree) : Prop :=
  ∀ name child, HasEntry tree name child → Below property child

section

variable {property : Tree → Prop}

theorem Below.self (below : Below property tree) : property tree :=
  below [] tree .here

theorem Below.of_leads (below : Below property tree) (leads : Leads step tree child) :
    Below property child :=
  fun steps part reaches => below (step :: steps) part (.step leads reaches)

end

/-! ## Positions in what is written -/

theorem hasEntries_object (found : List (String × Tree)) :
    HasEntries (layout.object depth found) found :=
  ⟨_, _, rfl, Json.entries_padMembers found⟩

theorem hasEntries_moduleTree (contents : Module) :
    HasEntries (moduleTree layout depth contents)
      (contents.members.map fun member => (member.1, nodeTree layout (depth + 1) member.2)) := by
  rw [moduleTree_eq]
  exact hasEntries_object _

/-- A member of a module is written as the entry with its name. -/
theorem hasEntry_moduleTree {contents : Module} {name : String} {node : Node}
    (ascending : Dictionary.Ascending contents.members) (isMember : contents.get? name = some node) :
    HasEntry (moduleTree layout depth contents) name (nodeTree layout (depth + 1) node) := by
  have mapped : Dictionary.Ascending
      (contents.members.map fun member => (member.1, nodeTree layout (depth + 1) member.2)) :=
    ascending.of_keys_eq (by simp [Dictionary.keys])
  refine ⟨_, hasEntries_moduleTree contents, ?_⟩
  rw [mapped.ofPairs_eq, Dictionary.get?_map fun _ node => nodeTree layout (depth + 1) node]
  change (contents.get? name).map _ = _
  rw [isMember]
  rfl

/-- A module that does not look like an option is not written as one. -/
theorem not_sayOption_of_untagged {contents : Module} (untagged : ¬ contents.LooksTagged) :
    ¬ SayOption (contents.members.map fun member =>
      (member.1, nodeTree layout depth member.2)) := by
  intro sayOption
  have isValue : Tree.bool true ∈ valuesOf "_option"
      (contents.members.map fun member => (member.1, nodeTree layout depth member.2)) := by
    rw [sayOption]
    exact List.mem_singleton.mpr rfl
  obtain ⟨member, isMember, same⟩ := List.mem_map.mp (Dictionary.mem_valuesOf.mp isValue)
  have isName : member.1 ∈ contents.names := List.mem_map_of_mem isMember
  rw [(Prod.mk.inj same).1] at isName
  exact untagged (.inl isName)

/-- An option within the vocabulary is written as one of its kind. -/
theorem isTagged_nodeTree {doc : Doc} {kind : Kind} (known : kind.tag ≠ .unspecified) :
    IsTagged (nodeTree layout depth (.option doc kind)) kind.tag := by
  rw [nodeTree_option known]
  exact ⟨_, hasEntries_object _, valuesOf_option, _, _, valuesOf_type, readText_string _,
    Tag.ofName?_name _⟩

theorem hasEntry_payload {doc : Doc} {kind : Kind} {field : String}
    (known : kind.tag ≠ .unspecified)
    (payload : payloadTrees layout (depth + 1) kind = [(field, tree)]) :
    HasEntry (nodeTree layout depth (.option doc kind)) field tree := by
  rw [nodeTree_option known]
  exact ⟨_, hasEntries_object _, get?_payload payload⟩

theorem exists_padItem {trees : List Tree} {index : Nat} (isItem : trees[index]? = some tree) :
    ∃ item, (layout.padItems depth trees)[index]? = some item ∧ item.content = tree := by
  have same : (layout.padItems depth trees).map Json.Padded.content = trees :=
    Json.map_content_padItems trees
  rw [← same, List.getElem?_map, Option.map_eq_some_iff] at isItem
  exact isItem

/-- Where a step leads to in a node, it leads to in the tree of the node. -/
theorem leads_nodeTree {child : Node} (isDecoded : node.IsDecoded)
    (isChild : node.child? step = some child) (layout : Layout) (depth : Nat) :
    ∃ depth', Leads step (nodeTree layout depth node) (nodeTree layout depth' child) := by
  cases node with
  | module contents =>
      cases step with
      | member name =>
          exact ⟨depth + 1, .member (hasEntries_moduleTree contents)
            (not_sayOption_of_untagged (isDecoded.untagged contents rfl))
            (hasEntry_moduleTree (isDecoded.ascending contents rfl) isChild)⟩
      | _ => cases isChild
  | option doc kind =>
      cases kind with
      | wrapped wrapper inner =>
          cases step with
          | inner =>
              cases isChild
              have known : (Kind.wrapped wrapper child).tag ≠ .unspecified := by rintro ⟨⟩
              exact ⟨depth + 1, .inner (isTagged_nodeTree known) (hasEntry_payload known rfl)⟩
          | _ => cases isChild
      | either nodes =>
          cases step with
          | alternative index =>
              have known : (Kind.either nodes).tag ≠ .unspecified := by rintro ⟨⟩
              have isTree : (nodes.map (nodeTree layout (depth + 2)))[index]? =
                  some (nodeTree layout (depth + 2) child) := by
                rw [List.getElem?_map]
                exact congrArg (Option.map _) isChild
              have isEntry : HasEntry (nodeTree layout depth (.option doc (.either nodes))) "either"
                  (layout.array (depth + 1) (nodes.map (nodeTree layout (depth + 2)))) := by
                refine hasEntry_payload known ?_
                rw [payloadTrees, alternativeTrees_eq_map]
              obtain ⟨item, isItem, same⟩ := exists_padItem isTree
              refine ⟨depth + 2, ?_⟩
              rw [← same]
              exact .alternative (isTagged_nodeTree known) isEntry isItem
          | _ => cases isChild
      | submodule contents =>
          cases step with
          | content name =>
              have known : (Kind.submodule contents).tag ≠ .unspecified := by rintro ⟨⟩
              exact ⟨depth + 2, .content (isTagged_nodeTree known) (hasEntry_payload known rfl)
                (hasEntry_moduleTree (isDecoded.ascending contents rfl) isChild)⟩
          | _ => cases isChild
      | _ => cases isChild

/-- What stands at a position of a node is written at that position. -/
theorem reaches_nodeTree {inner : Node} (isDecoded : node.Everywhere Node.IsDecoded)
    (isAt : node.at? steps = some inner) (layout : Layout) (depth : Nat) :
    ∃ depth', Reaches steps (nodeTree layout depth node) (nodeTree layout depth' inner) := by
  induction steps generalizing node depth with
  | nil =>
      cases isAt
      exact ⟨depth, .here⟩
  | cons step steps ih =>
      obtain ⟨own, inside⟩ := Node.everywhere_iff.mp isDecoded
      obtain ⟨child, isChild, isAt⟩ := Option.bind_eq_some_iff.mp isAt
      obtain ⟨depth', leads⟩ := leads_nodeTree own isChild layout depth
      obtain ⟨depth'', reaches⟩ :=
        ih (inside child (Node.mem_children_of_child? isChild)) isAt depth'
      exact ⟨depth'', .step leads reaches⟩

/-- What stands at a position of a module is written at that position. -/
theorem standsAt_moduleTree {contents : Module} {name : String} {inner : Node}
    (ascending : Dictionary.Ascending contents.members)
    (isDecoded : contents.Everywhere Node.IsDecoded)
    (isAt : contents.at? name steps = some inner) (layout : Layout) (depth : Nat) :
    ∃ depth', StandsAt (moduleTree layout depth contents) name steps
      (nodeTree layout depth' inner) := by
  obtain ⟨node, isMember, isAt⟩ := Option.bind_eq_some_iff.mp isAt
  have inside := Module.everywhere_iff.mp isDecoded node (Module.mem_nodes_of_get? isMember)
  obtain ⟨depth', reaches⟩ := reaches_nodeTree inside isAt layout (depth + 1)
  exact ⟨depth', _, hasEntry_moduleTree ascending isMember, reaches⟩

end OptionSchema.Wire
