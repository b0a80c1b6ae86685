import OptionSchema.Proofs.Json.Alike
import OptionSchema.Proofs.Wire.Grammar

/-!
# Documents with the same value

Main statement: `decode_alike`. Documents that differ in blanks, in the escapes of strings and in
the order of members are decoded as the same module, if both are decoded. If one is decoded, so is
the other, unless an object in a value of it has the mark of an embedded text as the first of several
keys.
-/

namespace OptionSchema.Wire

open Dictionary (Matched ofPairs valuesOf)
open Json (Alike AlikeEntries Layout ReadError Tree entries)

variable {found found' : List (String × Tree)} {tree tree' child child' part : Tree} {tag : Tag}
  {step : Step}

/-! ## What objects that are alike say -/

section

variable (alike : AlikeEntries found found')

include alike

/-- A field is read alike from both objects. -/
theorem once_of_alike {α : Type} {read : Tree → Except ReadError α} {name : String}
    {result : Option α}
    (each : ∀ child child', child' ∈ valuesOf name found' → Alike child child' →
      ∀ value, read child = .ok value → read child' = .ok value)
    (once : Once read (valuesOf name found) result) : Once read (valuesOf name found') result := by
  rcases alike.valuesOf_cases name with ⟨absent, absent'⟩ | ⟨child, child', present, present', same⟩
  · rw [absent']
    rw [absent] at once
    exact once
  · rw [present] at once
    rw [present'] at each ⊢
    obtain ⟨value, readChild, rfl⟩ := once_singleton.mp once
    exact .present (each child child' (List.mem_singleton.mpr rfl) same value readChild)

theorem isEnvelope_of_alike {envelope : Envelope} (isEnvelope : IsEnvelope found envelope) :
    IsEnvelope found' envelope :=
  ⟨once_of_alike alike (fun _ _ _ same _ => same.readBool) isEnvelope.isOption,
    once_of_alike alike (fun _ _ _ same _ => same.readOptionalText) isEnvelope.tag⟩

theorem sayOption_of_alike (say : SayOption found) : SayOption found' := by
  unfold SayOption at say ⊢
  rcases alike.valuesOf_cases "_option" with ⟨absent, -⟩ | ⟨child, child', present, present', same⟩
  · rw [absent] at say
    cases say
  · rw [present] at say
    cases say
    cases same
    exact present'

theorem sayTag_of_alike (say : SayTag found tag) : SayTag found' tag := by
  obtain ⟨tree, name, tagged, read, known⟩ := say
  rcases alike.valuesOf_cases "_type" with ⟨absent, -⟩ | ⟨child, child', present, present', same⟩
  · rw [absent] at tagged
    cases tagged
  · rw [present] at tagged
    cases tagged
    exact ⟨child', name, present', same.readText read, known⟩

/-- Documentation is read alike, if the mark of an embedded text stands alone in its values. -/
theorem isDoc_of_alike {doc : Doc}
    (marks : ∀ field : DocField, field.HoldsValue → ∀ value ∈ valuesOf field.name found',
      value.MarksAlone) (isDoc : IsDoc found doc) : IsDoc found' doc := by
  intro field
  obtain ⟨content, once, get⟩ := isDoc field
  refine ⟨content, once_of_alike alike (fun child child' isValue same value => ?_) once, get⟩
  match field with
  | .example => exact same.readOptionalValue (marks .example trivial child' isValue)
  | .default => exact same.readOptionalValue (marks .default trivial child' isValue)
  | .defaultText | .description | .descriptionClass => exact same.readText
  | .visible | .internal | .readOnly => exact same.readBool

end

/-! ## What is asked of the options of a document -/

/-- A tree that, if it says that it is an option, does not say that its kind is an unknown one or
the unspecified one. -/
def IsRegistered (tree : Tree) : Prop :=
  ∀ found, HasEntries tree found → SayOption found →
    ¬ NameNoKind (valuesOf "_type" found) ∧ ¬ SayTag found .unspecified

/-- If a tree says that it is an option, the mark of an embedded text stands alone in the values of
its documentation. -/
def DocMarksAlone (tree : Tree) : Prop :=
  ∀ found, HasEntries tree found → SayOption found →
    ∀ field : DocField, field.HoldsValue → ∀ value ∈ valuesOf field.name found, value.MarksAlone

theorem isRegistered_of_sayTag (has : HasEntries tree found) (sayTag : SayTag found tag)
    (specified : tag ≠ .unspecified) : IsRegistered tree := by
  intro others has' _
  obtain rfl := has.eq has'
  exact ⟨fun nameNoKind => nameNoKind.not_sayTag sayTag, fun say => specified (sayTag.eq say)⟩

theorem below_of_scalar {property : Tree → Prop} {scalar : Scalar}
    (tagged : IsTagged tree (.scalar scalar)) (holds : property tree) : Below property tree := by
  intro steps part reaches
  cases reaches with
  | here => exact holds
  | step leads => exact absurd leads (not_leads_of_scalar tagged)

/-! ## What is read of one tree is read of the other -/

/-- A tree is read as a node, and so is every tree that is alike. -/
def CarriesNode (tree : Tree) (node : Node) : Prop :=
  ∀ tree', Alike tree tree' → Below IsRegistered tree → Below DocMarksAlone tree' →
    IsNode tree' node

def CarriesModule (tree : Tree) (contents : Module) : Prop :=
  ∀ tree', Alike tree tree' → AtNodes IsRegistered tree → AtNodes DocMarksAlone tree' →
    IsModule tree' contents

/-- Two objects that are alike, with what is asked of the options in them. -/
structure AlikeObjects (tree tree' : Tree) (found found' : List (String × Tree)) : Prop where
  has : HasEntries tree found
  has' : HasEntries tree' found'
  alike : AlikeEntries found found'

theorem Alike.exists_hasEntries (alike : Alike tree tree') (has : HasEntries tree found) :
    ∃ found', AlikeObjects tree tree' found found' := by
  obtain ⟨gap, members, rfl, read⟩ := has
  obtain ⟨gap', members', found', rfl, read', alike⟩ := Alike.exists_entries alike read
  exact ⟨found', ⟨gap, members, rfl, read⟩, ⟨gap', members', rfl, read'⟩, alike⟩

section

variable (objects : AlikeObjects tree tree' found found')
  (inside : ∀ entry ∈ found, Yields CarriesNode CarriesModule entry.2)

include objects inside

theorem isMembers_of_alike {contents : Module} (registered : AtNodes IsRegistered tree)
    (marks : AtNodes DocMarksAlone tree') (isMembers : IsMembers found contents) :
    IsMembers found' contents :=
  objects.alike.matched (fun name child child' isLast isLast' same node isNode =>
    (inside _ (Dictionary.mem_of_mem_ofPairs (Dictionary.mem_of_get? isLast))).node node isNode
      child' same (registered name child ⟨found, objects.has, isLast⟩)
      (marks name child' ⟨found', objects.has', isLast'⟩)) isMembers

variable (registered : Below IsRegistered tree) (marks : Below DocMarksAlone tree')

include registered marks

theorem isPayload_of_alike {kind : Kind} {field : String} (sayOption : SayOption found)
    (sayTag : SayTag found kind.tag) (isField : payloadField? kind.tag = some field)
    (isLast : Dictionary.get? field (ofPairs found) = some child)
    (isLast' : Dictionary.get? field (ofPairs found') = some child') (same : Alike child child')
    (isPayload : IsPayload child kind) : IsPayload child' kind := by
  have yields := inside _ (Dictionary.mem_of_mem_ofPairs (Dictionary.mem_of_get? isLast))
  have tagged : IsTagged tree kind.tag := ⟨found, objects.has, sayOption, sayTag⟩
  have tagged' : IsTagged tree' kind.tag := ⟨found', objects.has',
    sayOption_of_alike objects.alike sayOption, sayTag_of_alike objects.alike sayTag⟩
  have isEntry : HasEntry tree field child := ⟨found, objects.has, isLast⟩
  have isEntry' : HasEntry tree' field child' := ⟨found', objects.has', isLast'⟩
  cases isPayload with
  | enumeration read => exact .enumeration (same.readTexts read)
  | separatedString read => exact .separatedString (same.readText read)
  | wrapped isNode =>
      cases isField
      exact .wrapped (yields.node _ isNode child' same (registered.of_leads (.inner tagged isEntry))
        (marks.of_leads (.inner tagged' isEntry')))
  | either isAlternatives =>
      cases isField
      obtain ⟨gap, items, rfl, matched⟩ := isAlternatives
      obtain ⟨gap', items', rfl, length, alikeItems⟩ := same.exists_items
      refine .either ⟨gap', items', rfl, Json.forall₂_content length
        (fun index item item' isItem isItem' node isNode => ?_) matched⟩
      exact yields.items gap items rfl item (List.mem_of_getElem? isItem) node isNode item'.content
        (alikeItems index item item' isItem isItem')
        (registered.of_leads (.alternative tagged isEntry isItem))
        (marks.of_leads (.alternative tagged' isEntry' isItem'))
  | submodule isModule =>
      cases isField
      exact .submodule (yields.module _ isModule child' same
        (fun name child isContent => registered.of_leads (.content tagged isEntry isContent))
        fun name child isContent => marks.of_leads (.content tagged' isEntry' isContent))

/-- What one object denotes, the other denotes. -/
theorem denotes_of_alike {node : Node} (denotes : Denotes tree found node) :
    Denotes tree' found' node := by
  cases denotes with
  | module isEnvelope notOption isMembers =>
      have isEnvelope' := isEnvelope_of_alike objects.alike isEnvelope
      refine .module isEnvelope' notOption (isMembers_of_alike objects inside ?_ ?_ isMembers)
      · exact fun name child isEntry => registered.of_leads
          (.member objects.has (mt isEnvelope.isOption_iff.mpr notOption) isEntry)
      · exact fun name child isEntry => marks.of_leads
          (.member objects.has' (mt isEnvelope'.isOption_iff.mpr notOption) isEntry)
  | unknown isEnvelope isOption unknown =>
      have sayOption := isEnvelope.isOption_iff.mp isOption
      exact absurd (isEnvelope.nameNoKind unknown)
        (registered.self found objects.has sayOption).1
  | known isEnvelope isOption known isKind isDoc =>
      have isEnvelope' := isEnvelope_of_alike objects.alike isEnvelope
      have sayOption := isEnvelope.isOption_iff.mp isOption
      have sayTag := isEnvelope.sayTag known
      refine .known isEnvelope' isOption known ?_ (isDoc_of_alike objects.alike
        (marks.self found' objects.has' (isEnvelope'.isOption_iff.mp isOption)) isDoc)
      cases isKind with
      | scalar scalar => exact .scalar scalar
      | unspecified => exact absurd sayTag (registered.self found objects.has sayOption).2
      | payload isField isLast isPayload =>
          obtain ⟨child', isLast', same⟩ := objects.alike.get? isLast
          exact .payload isField isLast' (isPayload_of_alike objects inside registered marks sayOption
            sayTag isField isLast isLast' same isPayload)

end

/-- What is read of a tree is read of every tree that is alike, by induction on the tree. -/
theorem carries (tree : Tree) : Yields CarriesNode CarriesModule tree := by
  have inherited : Inherited fun _ => True := ⟨fun _ _ _ => trivial, fun _ _ _ => trivial⟩
  refine yields inherited (fun gap members found _ read inside => ?_) tree trivial
  have has : HasEntries (.object gap members) found := ⟨gap, members, rfl, read⟩
  constructor
  · intro node denotes tree' alike registered marks
    obtain ⟨found', objects⟩ := Alike.exists_hasEntries alike has
    obtain ⟨gap', members', rfl, read'⟩ := objects.has'
    exact isNode_iff.mpr ⟨gap', members', found', rfl, read',
      denotes_of_alike objects inside registered marks denotes⟩
  · intro contents isMembers tree' alike registered marks
    obtain ⟨found', objects⟩ := Alike.exists_hasEntries alike has
    obtain ⟨gap', members', rfl, read'⟩ := objects.has'
    exact isModule_iff.mpr ⟨gap', members', found', rfl, read',
      isMembers_of_alike objects inside registered marks isMembers⟩

/-! ## Marks in documents that are decoded -/

/-- In an option of the vocabulary that is read, the mark of an embedded text stands alone. -/
theorem docMarksAlone_of_isNode {node : Node} (registered : IsRegistered tree)
    (isNode : IsNode tree node) : DocMarksAlone tree := by
  intro found has sayOption field holdsValue value isValue
  obtain ⟨gap, members, others, rfl, read, denotes⟩ := isNode_iff.mp isNode
  obtain rfl := has.eq ⟨gap, members, rfl, read⟩
  cases denotes with
  | module isEnvelope notOption => exact absurd (isEnvelope.isOption_iff.mpr sayOption) notOption
  | unknown isEnvelope _ unknown =>
      exact absurd (isEnvelope.nameNoKind unknown) (registered others has sayOption).1
  | known _ _ _ _ isDoc =>
      obtain ⟨content, once, -⟩ := isDoc field
      generalize valuesOf field.name others = values at once isValue
      cases once with
      | absent => cases isValue
      | present readValue =>
          rw [List.mem_singleton.mp isValue]
          match field, holdsValue with
          | .example, _ => exact Tree.marksAlone_of_readOptionalValue readValue
          | .default, _ => exact Tree.marksAlone_of_readOptionalValue readValue

theorem atNodes_docMarksAlone {contents : Module} (registered : AtNodes IsRegistered tree)
    (isModule : IsModule tree contents) : AtNodes DocMarksAlone tree := by
  intro name child isEntry steps part reaches
  obtain ⟨node, -, isNode⟩ := exists_member_of_isModule isModule isEntry
  obtain ⟨inner, -, isInner⟩ := reaches.at? isNode
  exact docMarksAlone_of_isNode (registered name child isEntry steps part reaches) isInner

/-! ## Documents -/

/-- Of two documents that are alike and all of whose options are of kinds of the vocabulary, one is
decoded if the other is, exactly if the mark of an embedded text stands alone in its values. -/
theorem exists_decode_of_alike {contents : Module} (alike : Alike tree tree')
    (registered : AtNodes IsRegistered tree) (registered' : AtNodes IsRegistered tree')
    (isModule : IsModule tree contents) :
    (∃ contents', IsModule tree' contents') ↔ AtNodes DocMarksAlone tree' := by
  constructor
  · rintro ⟨contents', isModule'⟩
    exact atNodes_docMarksAlone registered' isModule'
  · intro marks
    exact ⟨contents, (carries tree).module contents isModule tree' alike registered marks⟩

/-- Two documents that differ in blanks, in the escapes of strings and in the order of members are
decoded as the same module, if both are decoded; and if one is, the other is exactly if the mark of
an embedded text stands alone in its values. -/
theorem decode_alike {text text' : String} (standsIn : tree.StandsIn text.toList)
    (standsIn' : tree'.StandsIn text'.toList) (alike : Alike tree tree')
    (registered : AtNodes IsRegistered tree) (registered' : AtNodes IsRegistered tree') :
    (∀ contents contents', decode text.toUTF8 = .ok contents → decode text'.toUTF8 = .ok contents' →
      contents = contents') ∧
    ((∃ contents, decode text.toUTF8 = .ok contents) →
      ((∃ contents, decode text'.toUTF8 = .ok contents) ↔ AtNodes DocMarksAlone tree')) ∧
    ((∃ contents, decode text'.toUTF8 = .ok contents) →
      ((∃ contents, decode text.toUTF8 = .ok contents) ↔ AtNodes DocMarksAlone tree)) := by
  simp only [decode_iff_of_standsIn standsIn, decode_iff_of_standsIn standsIn']
  refine ⟨fun contents contents' isModule isModule' => ?_, ?_, ?_⟩
  · have carried := (carries tree).module contents isModule tree' alike registered
      (atNodes_docMarksAlone registered' isModule')
    exact Except.ok.inj (carried.symm.trans isModule')
  · rintro ⟨contents, isModule⟩
    exact exists_decode_of_alike alike registered registered' isModule
  · rintro ⟨contents, isModule⟩
    exact exists_decode_of_alike alike.symm registered' registered isModule

def defaultEntries (default : Tree) : List (String × Tree) :=
  [("_option", .bool true), ("_type", Layout.string "str"), ("default", default)]

/-- A document whose only option has the given default. -/
def defaultTree (layout : Layout) (default : Tree) : Tree :=
  layout.object 0 [("a", layout.object 1 (defaultEntries default))]

theorem alike_defaultTree (layout layout' : Layout) (alike : Alike child child') :
    Alike (defaultTree layout child) (defaultTree layout' child') := by
  have each : Matched Alike (defaultEntries child) (defaultEntries child') :=
    .cons ⟨rfl, .bool true⟩ <| .cons ⟨rfl, .layoutString "str"⟩ <| .cons ⟨rfl, alike⟩ .nil
  have option : AlikeEntries (defaultEntries child) (defaultEntries child') :=
    .of_perm (by simp [defaultEntries]) each (.refl _)
  have member : Matched Alike [("a", layout.object 1 (defaultEntries child))]
      [("a", layout'.object 1 (defaultEntries child'))] :=
    .cons ⟨rfl, option.object⟩ .nil
  exact (AlikeEntries.of_perm (by simp) member (.refl _)).object

theorem atNodes_isRegistered_defaultTree (layout : Layout) (default : Tree) :
    AtNodes IsRegistered (defaultTree layout default) := by
  intro name child isEntry
  have isLast := isEntry.get? (hasEntries_object _)
  have isMember := Dictionary.mem_of_mem_ofPairs (Dictionary.mem_of_get? isLast)
  cases List.mem_singleton.mp isMember
  have has : HasEntries (layout.object 1 (defaultEntries default)) (defaultEntries default) :=
    hasEntries_object _
  have sayTag : SayTag (defaultEntries default) (.scalar .str) :=
    ⟨_, _, rfl, readText_string "str", rfl⟩
  exact below_of_scalar ⟨_, has, rfl, sayTag⟩ (isRegistered_of_sayTag has sayTag nofun)

def plainDefault : Tree :=
  Layout.compact.object 2 [("x", .string ['a']), ("y", .null)]

/-- The same default with line breaks, an escaped letter and its members the other way round. -/
def spelledDefault : Tree :=
  Layout.indented.object 2 [("y", .null), ("x", .string ['\\', 'u', '0', '0', '6', '1'])]

theorem decode_alike_spelledDefault :
    Alike (defaultTree .compact plainDefault) (defaultTree .indented spelledDefault) ∧
      AtNodes DocMarksAlone (defaultTree .indented spelledDefault) ∧
      ∃ contents, decode (document (defaultTree .compact plainDefault)).toUTF8 = .ok contents ∧
        decode (document (defaultTree .indented spelledDefault)).toUTF8 = .ok contents := by
  have spelled : Alike (.string ['a']) (.string ['\\', 'u', '0', '0', '6', '1']) := .string rfl rfl
  have each : Matched Alike [("x", .string ['a']), ("y", .null)]
      [("x", .string ['\\', 'u', '0', '0', '6', '1']), ("y", .null)] :=
    .cons ⟨rfl, spelled⟩ <| .cons ⟨rfl, .null⟩ .nil
  have alike : Alike (defaultTree .compact plainDefault) (defaultTree .indented spelledDefault) :=
    alike_defaultTree .compact .indented
      (AlikeEntries.of_perm (by simp) each (.swap _ _ _)).object
  have decoded : ∃ contents,
      decode (document (defaultTree .compact plainDefault)).toUTF8 = .ok contents := by
    rw [decode, ofBytes?_document (by rfl)]
    exact ⟨_, rfl⟩
  have decoded' : ∃ contents,
      decode (document (defaultTree .indented spelledDefault)).toUTF8 = .ok contents := by
    rw [decode, ofBytes?_document (by rfl)]
    exact ⟨_, rfl⟩
  obtain ⟨same, accepted, -⟩ := decode_alike (standsIn_document (by rfl))
    (standsIn_document (by rfl)) alike (atNodes_isRegistered_defaultTree .compact plainDefault)
    (atNodes_isRegistered_defaultTree .indented spelledDefault)
  obtain ⟨contents, isContents⟩ := decoded
  obtain ⟨contents', isContents'⟩ := decoded'
  obtain rfl := same contents contents' isContents isContents'
  exact ⟨alike, (accepted ⟨_, isContents⟩).mp ⟨_, isContents'⟩, contents, isContents, isContents'⟩

def markedLast : Tree :=
  Layout.compact.object 2 [("z", .null), (Json.embeddingMark, Layout.string "1")]

/-- The same default with the mark as its first key. -/
def markedFirst : Tree :=
  Layout.compact.object 2 [(Json.embeddingMark, Layout.string "1"), ("z", .null)]

/-- Of two documents that differ only in the order of two members, one is decoded and the other is
not. -/
theorem decode_markedFirst :
    (defaultTree .compact markedLast).StandsIn
        (document (defaultTree .compact markedLast)).toList ∧
      (defaultTree .compact markedFirst).StandsIn
        (document (defaultTree .compact markedFirst)).toList ∧
      Alike (defaultTree .compact markedLast) (defaultTree .compact markedFirst) ∧
      AtNodes IsRegistered (defaultTree .compact markedLast) ∧
      AtNodes IsRegistered (defaultTree .compact markedFirst) ∧
      (∃ contents, decode (document (defaultTree .compact markedLast)).toUTF8 = .ok contents) ∧
      ∀ contents, decode (document (defaultTree .compact markedFirst)).toUTF8 ≠ .ok contents := by
  have each : Matched Alike [("z", .null), (Json.embeddingMark, Layout.string "1")]
      [("z", .null), (Json.embeddingMark, Layout.string "1")] :=
    .cons ⟨rfl, .null⟩ <| .cons ⟨rfl, .layoutString "1"⟩ .nil
  have entries := AlikeEntries.of_perm (by simp [Json.embeddingMark]) each (.swap _ _ _)
  refine ⟨standsIn_document (by rfl), standsIn_document (by rfl),
    alike_defaultTree _ _ entries.object, atNodes_isRegistered_defaultTree _ _,
    atNodes_isRegistered_defaultTree _ _, ?_, fun contents => ?_⟩
  · rw [decode, ofBytes?_document (by rfl)]
    exact ⟨_, rfl⟩
  · rw [decode, ofBytes?_document (by rfl)]
    intro same
    cases same

end OptionSchema.Wire
