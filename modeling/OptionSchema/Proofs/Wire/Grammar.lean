import OptionSchema.Proofs.Json.Accept
import OptionSchema.Proofs.Wire.UnknownKind

/-!
# The grammar of documents

`ModuleText` and `NodeText` say which trees are the text of a module or of a node, without saying
what it is. Main statement: `exists_decode_iff`. A document whose strings and numbers can be read is
decoded exactly if it is the text of a module, and what looks like an embedded text in the
documentation of an option within the vocabulary is one.
-/

namespace OptionSchema.Wire

open Dictionary (valuesOf)
open Json (ReadError Tree)

variable {found : List (String × Tree)} {tree child : Tree} {tag : Tag}

/-! ## Grammar -/

/-- The trees of a field that may be left out but not be repeated, and that has a type. -/
inductive AtMostOnce (type : Tree → Prop) : List Tree → Prop where
  | absent : AtMostOnce type []
  | present {tree : Tree} : type tree → AtMostOnce type [tree]

def FlagText (tree : Tree) : Prop :=
  ∃ value, tree = .bool value

def StringText (tree : Tree) : Prop :=
  ∃ body, tree = .string body

def StringsText (tree : Tree) : Prop :=
  ∃ gap items, tree = .array gap items ∧ ∀ item ∈ items, StringText item.content

def TagText (tree : Tree) : Prop :=
  tree = .null ∨ StringText tree

def DocFieldText : DocField → Tree → Prop
  | .example, tree | .default, tree => tree.FitsIn 126
  | .defaultText, tree | .description, tree | .descriptionClass, tree => StringText tree
  | .visible, tree | .internal, tree | .readOnly, tree => FlagText tree

mutual

/-- The text of a node: of a bare module, of an option outside the vocabulary, or of one within
it. -/
inductive NodeText : Tree → Prop where
  | module {tree : Tree} {found : List (String × Tree)} :
      HasEntries tree found → AtMostOnce FlagText (valuesOf "_option" found) →
      AtMostOnce TagText (valuesOf "_type" found) → ¬ SayOption found → ModuleText tree →
      NodeText tree
  | unknown {tree : Tree} {found : List (String × Tree)} :
      HasEntries tree found → SayOption found → NameNoKind (valuesOf "_type" found) → NodeText tree
  | known {tree : Tree} {found : List (String × Tree)} {tag : Tag} :
      HasEntries tree found → SayOption found → SayTag found tag → PayloadText tag found →
      (∀ field : DocField, AtMostOnce (DocFieldText field) (valuesOf field.name found)) →
      NodeText tree

/-- The text of a module: an object whose members, the last one of each name, are texts of nodes. -/
inductive ModuleText : Tree → Prop where
  | members {tree : Tree} {found : List (String × Tree)} : HasEntries tree found →
      (∀ name child, Dictionary.get? name (Dictionary.ofPairs found) = some child →
        NodeText child) → ModuleText tree

/-- The entries of an option of the given kind: the last payload field has the form that the kind
requires. -/
inductive PayloadText : Tag → List (String × Tree) → Prop where
  | scalar (scalar : Scalar) (found : List (String × Tree)) : PayloadText (.scalar scalar) found
  | unspecified (found : List (String × Tree)) : PayloadText .unspecified found
  | enumeration {found : List (String × Tree)} {child : Tree} :
      Dictionary.get? "enum" (Dictionary.ofPairs found) = some child → StringsText child →
      PayloadText .enumeration found
  | separatedString {found : List (String × Tree)} {child : Tree} :
      Dictionary.get? "separator" (Dictionary.ofPairs found) = some child → StringText child →
      PayloadText .separatedString found
  | wrapped {found : List (String × Tree)} {wrapper : Wrapper} {child : Tree} :
      Dictionary.get? wrapper.name (Dictionary.ofPairs found) = some child → NodeText child →
      PayloadText (.wrapped wrapper) found
  | either {found : List (String × Tree)} {gap : List Char} {items : List (Json.Padded Tree)} :
      Dictionary.get? "either" (Dictionary.ofPairs found) = some (.array gap items) →
      (∀ item ∈ items, NodeText item.content) → PayloadText .either found
  | submodule {found : List (String × Tree)} {child : Tree} :
      Dictionary.get? "submodule" (Dictionary.ofPairs found) = some child → ModuleText child →
      PayloadText .submodule found

end

/-! ## Fields -/

section

variable {α : Type} {read : Tree → Except ReadError α} {type other : Tree → Prop}
  {trees : List Tree}

theorem exists_once_iff :
    (∃ result, Once read trees result) ↔
      AtMostOnce (fun tree => ∃ value, read tree = .ok value) trees := by
  constructor
  · rintro ⟨result, once⟩
    cases once with
    | absent => exact .absent
    | present readTree => exact .present ⟨_, readTree⟩
  · intro atMostOnce
    cases atMostOnce with
    | absent => exact ⟨none, .absent⟩
    | present readable =>
        obtain ⟨value, readTree⟩ := readable
        exact ⟨some value, .present readTree⟩

theorem atMostOnce_congr (same : ∀ tree ∈ trees, type tree ↔ other tree) :
    AtMostOnce type trees ↔ AtMostOnce other trees := by
  constructor
  · intro atMostOnce
    cases atMostOnce with
    | absent => exact .absent
    | present holds => exact .present ((same _ (List.mem_singleton.mpr rfl)).mp holds)
  · intro atMostOnce
    cases atMostOnce with
    | absent => exact .absent
    | present holds => exact .present ((same _ (List.mem_singleton.mpr rfl)).mpr holds)

theorem atMostOnce_and :
    AtMostOnce (fun tree => type tree ∧ other tree) trees ↔
      AtMostOnce type trees ∧ ∀ tree ∈ trees, other tree := by
  constructor
  · intro atMostOnce
    cases atMostOnce with
    | absent => exact ⟨.absent, nofun⟩
    | present holds => exact ⟨.present holds.1, List.forall_mem_singleton.mpr holds.2⟩
  · rintro ⟨atMostOnce, each⟩
    cases atMostOnce with
    | absent => exact .absent
    | present holds => exact .present ⟨holds, List.forall_mem_singleton.mp each⟩

end

theorem HasEntries.readable (has : HasEntries tree found) (readable : tree.Readable) :
    ∀ entry ∈ found, entry.2.Readable := by
  obtain ⟨gap, members, rfl, read⟩ := has
  cases readable with
  | object _ readable => exact (Json.forall_entries_iff read Tree.Readable).mpr readable

theorem exists_readBool_iff : (∃ value, tree.readBool = .ok value) ↔ FlagText tree :=
  exists_congr fun _ => Tree.readBool_eq_ok_iff

theorem exists_readText_iff (readable : tree.Readable) :
    (∃ text, tree.readText = .ok text) ↔ StringText tree := by
  simp only [Tree.readText_eq_ok_iff]
  constructor
  · rintro ⟨_, body, same, -⟩
    exact ⟨body, same⟩
  · rintro ⟨body, rfl⟩
    cases readable with
    | string read => exact ⟨_, body, rfl, read⟩

theorem exists_readOptionalText_iff (readable : tree.Readable) :
    (∃ text, tree.readOptionalText = .ok text) ↔ TagText tree := by
  unfold TagText
  rw [← exists_readText_iff readable]
  simp only [Tree.readOptionalText_eq_ok_iff]
  constructor
  · rintro ⟨_, ⟨rfl, -⟩ | ⟨name, read, -⟩⟩
    · exact .inl rfl
    · exact .inr ⟨name, read⟩
  · rintro (rfl | ⟨name, read⟩)
    · exact ⟨none, .inl ⟨rfl, rfl⟩⟩
    · exact ⟨some name, .inr ⟨name, read, rfl⟩⟩

theorem exists_readTexts_iff (readable : tree.Readable) :
    (∃ texts, tree.readTexts = .ok texts) ↔ StringsText tree := by
  simp only [Tree.readTexts, Outcome.bind_eq_ok, Outcome.mapM_eq_ok, Tree.readArray_eq_ok_iff]
  constructor
  · rintro ⟨texts, _, ⟨gap, items, rfl, rfl⟩, matched⟩
    refine ⟨gap, items, rfl, fun item member => ?_⟩
    cases readable with
    | array readable =>
        rw [← exists_readText_iff (readable item member)]
        exact Outcome.exists_results_iff.mp ⟨texts, matched⟩ _ (List.mem_map_of_mem member)
  · rintro ⟨gap, items, rfl, strings⟩
    cases readable with
    | array readable =>
        have each : ∀ content ∈ items.map Json.Padded.content, ∃ text, content.readText = .ok text :=
          List.forall_mem_map.mpr fun item member =>
            (exists_readText_iff (readable item member)).mpr (strings item member)
        obtain ⟨texts, matched⟩ := Outcome.exists_results_iff.mpr each
        exact ⟨texts, _, ⟨gap, items, rfl, rfl⟩, matched⟩

theorem exists_readOptionalValue_iff (readable : tree.Readable) :
    (∃ value, tree.readOptionalValue = .ok value) ↔ tree.FitsIn 126 ∧ tree.EmbedsValues := by
  rw [← Json.exists_readValue_iff readable]
  unfold Tree.readOptionalValue
  split
  · exact iff_of_true ⟨_, rfl⟩ ⟨_, by rw [Json.readValue]⟩
  · simp only [Outcome.map_eq_ok]
    constructor
    · rintro ⟨_, value, read, -⟩
      exact ⟨value, read⟩
    · rintro ⟨value, read⟩
      exact ⟨_, value, read, rfl⟩

/-- A documentation field is read from a tree of its type, unless that looks like an embedded text
without being one. -/
theorem exists_readContent_iff (readable : tree.Readable) (field : DocField) :
    (∃ content, field.readContent tree = .ok content) ↔
      DocFieldText field tree ∧ (field.HoldsValue → tree.EmbedsValues) := by
  match field with
  | .example | .default =>
      exact (exists_readOptionalValue_iff readable).trans
        (and_congr_right fun _ => (imp_iff_right trivial).symm)
  | .defaultText | .description | .descriptionClass =>
      exact (exists_readText_iff readable).trans (and_iff_left nofun).symm
  | .visible | .internal | .readOnly => exact exists_readBool_iff.trans (and_iff_left nofun).symm

section

variable (readable : ∀ entry ∈ found, entry.2.Readable)

include readable

theorem readable_of_mem_valuesOf {name : String} :
    ∀ tree ∈ valuesOf name found, tree.Readable :=
  fun _ isValue => readable _ (Dictionary.mem_valuesOf.mp isValue)

/-- An object has an envelope if the fields of the envelope have their types. -/
theorem exists_isEnvelope_iff :
    (∃ envelope, IsEnvelope found envelope) ↔ AtMostOnce FlagText (valuesOf "_option" found) ∧
      AtMostOnce TagText (valuesOf "_type" found) := by
  have flag : (∃ flag, Once Tree.readBool (valuesOf "_option" found) flag) ↔
      AtMostOnce FlagText (valuesOf "_option" found) :=
    exists_once_iff.trans (atMostOnce_congr fun _ _ => exists_readBool_iff)
  have type : (∃ tag, Once Tree.readOptionalText (valuesOf "_type" found) tag) ↔
      AtMostOnce TagText (valuesOf "_type" found) :=
    exists_once_iff.trans (atMostOnce_congr fun tree isValue =>
      exists_readOptionalText_iff (readable_of_mem_valuesOf readable tree isValue))
  rw [← flag, ← type]
  constructor
  · rintro ⟨envelope, isOption, tag⟩
    exact ⟨⟨_, isOption⟩, ⟨_, tag⟩⟩
  · rintro ⟨⟨flag, isOption⟩, ⟨tag, isTag⟩⟩
    exact ⟨⟨flag, tag⟩, isOption, isTag⟩

/-- An object has documentation if the documentation fields have their types, unless one looks like
an embedded text without being one. -/
theorem exists_isDoc_iff_text :
    (∃ doc, IsDoc found doc) ↔
      (∀ field : DocField, AtMostOnce (DocFieldText field) (valuesOf field.name found)) ∧
      ∀ field : DocField, field.HoldsValue →
        ∀ value ∈ valuesOf field.name found, value.EmbedsValues := by
  rw [exists_isDoc_iff, ← forall_and]
  refine forall_congr' fun field => ?_
  have each : field.Readable (valuesOf field.name found) ↔
      AtMostOnce (fun tree => DocFieldText field tree ∧ (field.HoldsValue → tree.EmbedsValues))
        (valuesOf field.name found) :=
    exists_once_iff.trans (atMostOnce_congr fun tree isValue =>
      exists_readContent_iff (readable_of_mem_valuesOf readable tree isValue) field)
  rw [each, atMostOnce_and]
  refine and_congr_right fun _ => ?_
  constructor
  · exact fun embeds holdsValue value isValue => embeds value isValue holdsValue
  · exact fun embeds value isValue holdsValue => embeds holdsValue value isValue

end

/-! ## Values below a tree -/

/-- If a tree is an option within the vocabulary, no value in its documentation looks like an
embedded text without being one. -/
def DocEmbedsValues (tree : Tree) : Prop :=
  ∀ found tag, HasEntries tree found → SayOption found → SayTag found tag →
    ∀ field : DocField, field.HoldsValue → ∀ value ∈ valuesOf field.name found, value.EmbedsValues

/-- What is required of the documentation at all positions below a tree. -/
def EmbedsBelow (tree : Tree) : Prop :=
  ∀ steps part, Reaches steps tree part → DocEmbedsValues part

theorem EmbedsBelow.of_leads {step : Step} (below : EmbedsBelow tree)
    (leads : Leads step tree child) : EmbedsBelow child :=
  fun steps part reaches => below (step :: steps) part (.step leads reaches)

theorem HasEntry.readable {name : String} (isEntry : HasEntry tree name child)
    (readable : tree.Readable) : child.Readable := by
  obtain ⟨found, has, isLast⟩ := isEntry
  exact has.readable readable _ (Dictionary.mem_of_mem_ofPairs (Dictionary.mem_of_get? isLast))

theorem Leads.readable {step : Step} (leads : Leads step tree child) (readable : tree.Readable) :
    child.Readable := by
  cases leads with
  | member _ _ isEntry => exact isEntry.readable readable
  | inner _ isEntry => exact isEntry.readable readable
  | alternative _ isEntry isItem =>
      cases isEntry.readable readable with
      | array readable => exact readable _ (List.mem_of_getElem? isItem)
  | content _ isEntry isContent => exact isContent.readable (isEntry.readable readable)

theorem Reaches.readable {steps : List Step} {part : Tree} (reaches : Reaches steps tree part)
    (readable : tree.Readable) : part.Readable := by
  induction reaches with
  | here => exact readable
  | step leads _ ih => exact ih (leads.readable readable)

theorem StandsAt.readable {name : String} {steps : List Step} {part : Tree}
    (standsAt : StandsAt tree name steps part) (readable : tree.Readable) : part.Readable := by
  obtain ⟨child, isEntry, reaches⟩ := standsAt
  exact reaches.readable (isEntry.readable readable)

/-! ## What is decoded has the form that the grammar requires -/

/-- Entries whose envelope says so are those of an option outside the vocabulary. -/
theorem IsEnvelope.nameNoKind {envelope : Envelope} (isEnvelope : IsEnvelope found envelope)
    (unknown : Tag.ofName? (envelope.tag.join.getD "") = none) :
    NameNoKind (valuesOf "_type" found) := by
  obtain ⟨-, isTag⟩ := isEnvelope
  generalize envelope.tag = tag? at isTag unknown
  generalize valuesOf "_type" found = trees at isTag
  cases isTag with
  | absent => exact .absent
  | present read =>
      rcases Tree.readOptionalText_eq_ok_iff.mp read with ⟨rfl, -⟩ | ⟨name, readName, rfl⟩
      · exact .null
      · exact .unknown readName unknown

/-- A tag that names no kind is none of the vocabulary. -/
theorem NameNoKind.not_sayTag (nameNoKind : NameNoKind (valuesOf "_type" found)) :
    ¬ SayTag found tag := by
  rintro ⟨tree, name, tagged, read, known⟩
  rw [tagged] at nameNoKind
  cases nameNoKind with
  | null => exact Tree.mismatch_ne_ok _ _ _ read
  | unknown read' unknown =>
      rw [read, Except.ok.injEq] at read'
      subst read'
      rw [unknown] at known
      cases known

def YieldsText : Tree → Prop :=
  Yields (fun tree _ => NodeText tree) fun tree _ => ModuleText tree

section

variable (readable : ∀ entry ∈ found, entry.2.Readable)
  (yields : ∀ entry ∈ found, YieldsText entry.2)

include yields

theorem moduleText_of_isMembers (has : HasEntries tree found) {contents : Module}
    (isMembers : IsMembers found contents) : ModuleText tree := by
  refine .members has fun name child isLast => ?_
  obtain ⟨node, -, isNode⟩ := exists_member isMembers isLast
  have isEntry := Dictionary.mem_of_mem_ofPairs (Dictionary.mem_of_get? isLast)
  exact (yields _ isEntry).node node isNode

include readable

theorem payloadText_of_isKind {kind : Kind} (isKind : IsKind tree found kind) :
    PayloadText kind.tag found := by
  cases isKind with
  | scalar scalar => exact .scalar scalar found
  | unspecified => exact .unspecified found
  | payload isField isLast isPayload =>
      have isEntry := Dictionary.mem_of_mem_ofPairs (Dictionary.mem_of_get? isLast)
      cases isPayload with
      | enumeration read =>
          cases isField
          exact .enumeration isLast ((exists_readTexts_iff (readable _ isEntry)).mp ⟨_, read⟩)
      | separatedString read =>
          cases isField
          exact .separatedString isLast ((exists_readText_iff (readable _ isEntry)).mp ⟨_, read⟩)
      | wrapped isNode =>
          cases isField
          exact .wrapped isLast ((yields _ isEntry).node _ isNode)
      | either isAlternatives =>
          cases isField
          obtain ⟨gap, items, rfl, matched⟩ := isAlternatives
          rw [List.forall₂_map_left_iff] at matched
          refine .either isLast fun item member => ?_
          obtain ⟨node, -, isNode⟩ := Outcome.exists_result matched member
          exact (yields _ isEntry).items gap items rfl item member node isNode
      | submodule isModule =>
          cases isField
          exact .submodule isLast ((yields _ isEntry).module _ isModule)

/-- What denotes a node is the text of one. -/
theorem Denotes.nodeText (has : HasEntries tree found) {node : Node}
    (denotes : Denotes tree found node) : NodeText tree := by
  cases denotes with
  | module isEnvelope notOption isMembers =>
      obtain ⟨flag, type⟩ := (exists_isEnvelope_iff readable).mp ⟨_, isEnvelope⟩
      have notOption := mt isEnvelope.isOption_iff.mpr notOption
      exact .module has flag type notOption (moduleText_of_isMembers yields has isMembers)
  | unknown isEnvelope isOption unknown =>
      exact .unknown has (isEnvelope.isOption_iff.mp isOption) (isEnvelope.nameNoKind unknown)
  | known isEnvelope isOption known isKind isDoc =>
      exact .known has (isEnvelope.isOption_iff.mp isOption) (isEnvelope.sayTag known)
        (payloadText_of_isKind readable yields isKind)
        ((exists_isDoc_iff_text readable).mp ⟨_, isDoc⟩).1

end

theorem inherited_readable : Inherited Tree.Readable := by
  constructor
  · intro gap items readable
    cases readable with
    | array readable => exact readable
  · intro gap members readable
    cases readable with
    | object _ readable => exact readable

/-- A tree that is read is the text of what it is read as. -/
theorem yieldsText (readable : tree.Readable) : YieldsText tree := by
  refine yields inherited_readable (fun gap members found readable read inside => ?_) tree readable
  have has : HasEntries (.object gap members) found := ⟨gap, members, rfl, read⟩
  constructor
  · exact fun node denotes => denotes.nodeText (has.readable readable) inside has
  · exact fun contents isMembers => moduleText_of_isMembers inside has isMembers

/-- No value in the documentation of an option that is decoded looks like an embedded text without
being one. -/
theorem docEmbedsValues_of_isNode (readable : tree.Readable) {node : Node}
    (isNode : IsNode tree node) : DocEmbedsValues tree := by
  intro found tag has sayOption sayTag
  obtain ⟨gap, members, others, rfl, read, denotes⟩ := isNode_iff.mp isNode
  obtain rfl := has.eq ⟨gap, members, rfl, read⟩
  have ofDoc {doc : Doc} (isDoc : IsDoc others doc) :=
    ((exists_isDoc_iff_text (has.readable readable)).mp ⟨doc, isDoc⟩).2
  cases denotes with
  | module isEnvelope notOption => exact absurd (isEnvelope.isOption_iff.mpr sayOption) notOption
  | unknown isEnvelope _ unknown =>
      exact absurd sayTag (isEnvelope.nameNoKind unknown).not_sayTag
  | known _ _ _ _ isDoc => exact ofDoc isDoc

/-! ## What has the form that the grammar requires is decoded -/

theorem NodeText.hasEntries (nodeText : NodeText tree) : ∃ found, HasEntries tree found := by
  cases nodeText with
  | module has => exact ⟨_, has⟩
  | unknown has => exact ⟨_, has⟩
  | known has => exact ⟨_, has⟩

theorem ModuleText.hasEntries (moduleText : ModuleText tree) : ∃ found, HasEntries tree found := by
  cases moduleText with
  | members has => exact ⟨_, has⟩

/-- A text of some form is read, if no value in the documentation below it looks like an embedded
text without being one. -/
structure IsRead (tree : Tree) : Prop where
  node : NodeText tree → EmbedsBelow tree → ∃ node, IsNode tree node
  module : ModuleText tree → (∀ name child, HasEntry tree name child → EmbedsBelow child) →
    ∃ contents, IsModule tree contents
  alternatives : ∀ gap items, tree = .array gap items →
    (∀ item ∈ items, NodeText item.content ∧ EmbedsBelow item.content) →
    ∃ nodes, IsAlternatives tree nodes

section

variable (readable : ∀ entry ∈ found, entry.2.Readable) (isRead : ∀ entry ∈ found, IsRead entry.2)

include isRead

theorem exists_isMembers (nodes : ∀ name child,
      Dictionary.get? name (Dictionary.ofPairs found) = some child → NodeText child)
    (below : ∀ name child,
      Dictionary.get? name (Dictionary.ofPairs found) = some child → EmbedsBelow child) :
    ∃ contents, IsMembers found contents := by
  have each : ∀ entry ∈ Dictionary.ofPairs found, ∃ node, IsNode entry.2 node := by
    intro entry isEntry
    have isLast := (Dictionary.ascending_ofPairs found).get?_of_mem isEntry
    exact (isRead entry (Dictionary.mem_of_mem_ofPairs isEntry)).node (nodes _ _ isLast)
      (below _ _ isLast)
  obtain ⟨members, matched⟩ := Dictionary.exists_matched_iff.mpr each
  exact ⟨⟨members⟩, matched⟩

theorem exists_isModule (has : HasEntries tree found) (moduleText : ModuleText tree)
    (below : ∀ name child, HasEntry tree name child → EmbedsBelow child) :
    ∃ contents, IsModule tree contents := by
  cases moduleText with
  | members has' nodes =>
      obtain rfl := has.eq has'
      obtain ⟨contents, isMembers⟩ := exists_isMembers isRead nodes fun name child isLast =>
        below name child ⟨_, has, isLast⟩
      obtain ⟨gap, members, rfl, read⟩ := has
      exact ⟨contents, isModule_iff.mpr ⟨gap, members, _, rfl, read, isMembers⟩⟩

include readable

/-- The payload of an option is read if it has the form that the kind requires. -/
theorem exists_isKind (tagged : IsTagged tree tag) (has : HasEntries tree found)
    (payload : PayloadText tag found) (below : EmbedsBelow tree) :
    ∃ kind, kind.tag = tag ∧ IsKind tree found kind := by
  have isEntry {name : String} {child : Tree}
      (isLast : Dictionary.get? name (Dictionary.ofPairs found) = some child) :
      (name, child) ∈ found :=
    Dictionary.mem_of_mem_ofPairs (Dictionary.mem_of_get? isLast)
  cases payload with
  | scalar scalar => exact ⟨.scalar scalar, rfl, .scalar scalar⟩
  | unspecified => exact ⟨.unspecified tree, rfl, .unspecified⟩
  | enumeration isLast strings =>
      obtain ⟨values, read⟩ := (exists_readTexts_iff (readable _ (isEntry isLast))).mpr strings
      exact ⟨.enumeration values, rfl, .payload rfl isLast (.enumeration read)⟩
  | separatedString isLast string =>
      obtain ⟨separator, read⟩ := (exists_readText_iff (readable _ (isEntry isLast))).mpr string
      exact ⟨.separatedString separator, rfl, .payload rfl isLast (.separatedString read)⟩
  | @wrapped _ wrapper child isLast nodeText =>
      have belowChild := below.of_leads (.inner tagged ⟨found, has, isLast⟩)
      obtain ⟨inner, isNode⟩ := (isRead _ (isEntry isLast)).node nodeText belowChild
      exact ⟨.wrapped wrapper inner, rfl, .payload rfl isLast (.wrapped isNode)⟩
  | @either _ gap items isLast nodeTexts =>
      have each : ∀ item ∈ items, NodeText item.content ∧ EmbedsBelow item.content := by
        intro item member
        obtain ⟨index, isItem⟩ := List.mem_iff_getElem?.mp member
        exact ⟨nodeTexts item member,
          below.of_leads (.alternative tagged ⟨found, has, isLast⟩ isItem)⟩
      obtain ⟨nodes, isAlternatives⟩ :=
        (isRead _ (isEntry isLast)).alternatives gap items rfl each
      exact ⟨.either nodes, rfl, .payload rfl isLast (.either isAlternatives)⟩
  | submodule isLast moduleText =>
      obtain ⟨contents, isModule⟩ := (isRead _ (isEntry isLast)).module moduleText
        fun name child isContent =>
          below.of_leads (.content tagged ⟨found, has, isLast⟩ isContent)
      exact ⟨.submodule contents, rfl, .payload rfl isLast (.submodule isModule)⟩

/-- The text of a node is read. -/
theorem exists_isNode (has : HasEntries tree found) (nodeText : NodeText tree)
    (below : EmbedsBelow tree) : ∃ node, IsNode tree node := by
  cases nodeText with
  | module has' flag type notOption moduleText =>
      obtain rfl := has.eq has'
      obtain ⟨envelope, isEnvelope⟩ := (exists_isEnvelope_iff readable).mpr ⟨flag, type⟩
      obtain ⟨contents, isModule⟩ := exists_isModule isRead has moduleText
        fun name child isEntry => below.of_leads (.member has notOption isEntry)
      obtain ⟨gap, members, found, rfl, read, isMembers⟩ := isModule_iff.mp isModule
      obtain rfl := has.eq ⟨gap, members, rfl, read⟩
      refine ⟨.module contents, isNode_iff.mpr ⟨gap, members, _, rfl, read, ?_⟩⟩
      exact .module isEnvelope (mt isEnvelope.isOption_iff.mp notOption) isMembers
  | @unknown _ others has' sayOption nameNoKind =>
      have isUnknown : IsUnknownOption tree others := ⟨has', sayOption, nameNoKind⟩
      obtain ⟨doc, keptDoc⟩ := exists_keptDoc others
      exact ⟨_, isUnknown.isNode_iff.mpr ⟨doc, keptDoc, rfl⟩⟩
  | @known _ others _ has' sayOption sayTag payload docTexts =>
      obtain rfl : others = found := has.eq has'
      obtain ⟨kind, rfl, isKind⟩ :=
        exists_isKind readable isRead ⟨others, has, sayOption, sayTag⟩ has payload below
      obtain ⟨doc, isDoc⟩ := (exists_isDoc_iff_text readable).mpr
        ⟨docTexts, below [] tree .here others kind.tag has sayOption sayTag⟩
      obtain ⟨type, name, tagged, readName, known⟩ := sayTag
      have isEnvelope : IsEnvelope others ⟨some true, some (some name)⟩ := by
        constructor
        · rw [sayOption]
          exact .present rfl
        · rw [tagged]
          exact .present (Tree.readOptionalText_eq_ok_iff.mpr (.inr ⟨name, readName, rfl⟩))
      obtain ⟨gap, members, rfl, read⟩ := has
      exact ⟨_, isNode_iff.mpr ⟨gap, members, others, rfl, read,
        .known isEnvelope rfl known isKind isDoc⟩⟩

end

/-- A text of some form is read, by induction on the tree. -/
theorem isRead (readable : tree.Readable) : IsRead tree := by
  induction tree using Tree.induction with
  | array gap items ih =>
      refine ⟨fun nodeText _ => ?_, fun moduleText _ => ?_, ?_⟩
      · obtain ⟨_, _, _, same, -⟩ := nodeText.hasEntries
        cases same
      · obtain ⟨_, _, _, same, -⟩ := moduleText.hasEntries
        cases same
      · rintro _ _ ⟨⟩ each
        cases readable with
        | array readable =>
            obtain ⟨nodes, matched⟩ := Outcome.exists_results_iff.mpr fun item member =>
              (ih item member (readable item member)).node (each item member).1 (each item member).2
            refine ⟨nodes, gap, items, rfl, ?_⟩
            rw [List.forall₂_map_left_iff]
            exact matched
  | object gap members ih =>
      have inside {found : List (String × Tree)} (has : HasEntries (.object gap members) found) :
          ∀ entry ∈ found, IsRead entry.2 := by
        obtain ⟨_, _, same, read⟩ := has
        cases same
        cases readable with
        | object _ readable =>
            exact (Json.forall_entries_iff read IsRead).mpr fun member isMember =>
              ih member isMember (readable member isMember)
      refine ⟨fun nodeText below => ?_, fun moduleText below => ?_, nofun⟩
      · obtain ⟨found, has⟩ := nodeText.hasEntries
        exact exists_isNode (has.readable readable) (inside has) has nodeText below
      · obtain ⟨found, has⟩ := moduleText.hasEntries
        exact exists_isModule (inside has) has moduleText below
  | _ =>
      refine ⟨fun nodeText _ => ?_, fun moduleText _ => ?_, nofun⟩
      · obtain ⟨_, _, _, same, -⟩ := nodeText.hasEntries
        cases same
      · obtain ⟨_, _, _, same, -⟩ := moduleText.hasEntries
        cases same

/-! ## Documents -/

/-- A document whose strings can be read and whose numbers are in range is decoded exactly if it is
the text of a module, and no value in the documentation of an option within the vocabulary looks
like an embedded text without being one. -/
theorem exists_decode_iff {text : String} (standsIn : tree.StandsIn text.toList)
    (readable : tree.Readable) :
    (∃ contents, decode text.toUTF8 = .ok contents) ↔ ModuleText tree ∧
      ∀ name steps part, StandsAt tree name steps part → DocEmbedsValues part := by
  simp only [decode_iff_of_standsIn standsIn]
  constructor
  · rintro ⟨contents, isModule⟩
    refine ⟨(yieldsText readable).module contents isModule, fun name steps part standsAt => ?_⟩
    obtain ⟨node, -, isNode⟩ := standsAt.at? isModule
    exact docEmbedsValues_of_isNode (standsAt.readable readable) isNode
  · rintro ⟨moduleText, embeds⟩
    refine (isRead readable).module moduleText fun name child isEntry steps part reaches => ?_
    exact embeds name steps part ⟨child, isEntry, reaches⟩

theorem exists_decode_spacedTree :
    spacedTree.StandsIn (document spacedTree).toList ∧ spacedTree.Readable ∧
      ModuleText spacedTree ∧ ∃ contents, decode (document spacedTree).toUTF8 = .ok contents := by
  have standsIn : spacedTree.StandsIn (document spacedTree).toList := by
    rw [document, String.toList_ofList]
    exact Tree.standsIn_text (by rfl)
  have readable : spacedTree.Readable := by
    refine .object ?_ ?_
    · simp only [List.forall_mem_cons]
      exact ⟨⟨"b", rfl⟩, ⟨"b", rfl⟩, List.forall_mem_nil _⟩
    · simp only [List.forall_mem_cons]
      refine ⟨.null, Tree.readable_object ?_, List.forall_mem_nil _⟩
      simp only [List.forall_mem_cons]
      exact ⟨Tree.readable_string _, .bool true, .bool true, .null, List.forall_mem_nil _⟩
  have decoded : ∃ contents, decode (document spacedTree).toUTF8 = .ok contents := by
    rw [decode, ofBytes?_document (by rfl)]
    exact ⟨spacedModule, rfl⟩
  exact ⟨standsIn, readable, ((exists_decode_iff standsIn readable).mp decoded).1, decoded⟩

/-- A document whose only default looks like an embedded text, but has no text under its key. -/
def misembeddedTree : Tree :=
  Json.Layout.compact.object 0 [("a", Json.Layout.compact.object 1 [("_option", .bool true),
    ("_type", Json.Layout.string "str"),
    ("default", Json.Layout.compact.object 2 [(Json.embeddingMark, .bool true)])])]

/-- A module is not decoded from its text if a default in it looks like an embedded text. -/
theorem decode_misembeddedTree :
    misembeddedTree.StandsIn (document misembeddedTree).toList ∧ misembeddedTree.Readable ∧
      ModuleText misembeddedTree ∧
      ∀ contents, decode (document misembeddedTree).toUTF8 ≠ .ok contents := by
  refine ⟨?_, ?_, ?_, fun contents => ?_⟩
  · rw [document, String.toList_ofList]
    exact Tree.standsIn_text (by rfl)
  · refine Tree.readable_object (List.forall_mem_singleton.mpr (Tree.readable_object ?_))
    simp only [List.forall_mem_cons]
    exact ⟨.bool true, Tree.readable_string _,
      Tree.readable_object (List.forall_mem_singleton.mpr (.bool true)), List.forall_mem_nil _⟩
  · refine .members (hasEntries_object _) fun name child isLast => ?_
    have isEntry := Dictionary.mem_of_mem_ofPairs (Dictionary.mem_of_get? isLast)
    cases List.mem_singleton.mp isEntry
    refine .known (hasEntries_object _) rfl ⟨_, _, rfl, readText_string "str", rfl⟩
      (.scalar .str _) fun field => ?_
    cases field with
    | default => exact .present (.object (List.forall_mem_singleton.mpr (.bool _ true)))
    | _ => exact .absent
  · rw [decode, ofBytes?_document (by rfl)]
    intro same
    cases same

end OptionSchema.Wire
