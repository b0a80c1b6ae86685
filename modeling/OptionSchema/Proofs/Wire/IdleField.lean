import OptionSchema.Proofs.Wire.Replacement

/-!
# Fields that mean nothing

An object is read in three ways: for its envelope, its payload and its documentation. Main statement:
`decode_idle_field`. A field that none of them looks at, or that says what is taken without it, does
not change what a document is decoded as, wherever in the document it is added.
-/

namespace OptionSchema.Wire

open Dictionary (keys valuesOf)
open Json (Tree)

variable {tree part part' : Tree} {name : String} {steps : List Step}

/-- The tree of a documentation field with its zero value. -/
def DocField.zeroTree : DocField → Tree
  | .example | .default => .null
  | .defaultText | .description | .descriptionClass => .string []
  | .visible | .internal | .readOnly => .bool false

theorem DocField.readContent_zeroTree (field : DocField) :
    field.readContent field.zeroTree = .ok (field.get .empty) := by
  cases field <;> rfl

/-- A field that means nothing to an option of the given kind: one that the option does not have, or
a documentation field that is missing so far, with its zero value. -/
inductive IsIdle (tag : Tag) (found : List (String × Tree)) : String → Tree → Prop where
  | surplus {name : String} {value : Tree} : name ≠ "_option" → name ≠ "_type" →
      (∀ field : DocField, name ≠ field.name) → payloadField? tag ≠ some name →
      IsIdle tag found name value
  | zero (field : DocField) : field.name ∉ keys found → IsIdle tag found field.name field.zeroTree

/-- An option has one more field, which means nothing to it. -/
def GainsIdleField (tag : Tag) (part part' : Tree) : Prop :=
  ∃ before after name value, HasEntries part (before ++ after) ∧
    HasEntries part' (before ++ (name, value) :: after) ∧ IsIdle tag (before ++ after) name value

section

variable {tag : Tag} {before after : List (String × Tree)} {value : Tree}

/-- A field that means nothing is no field of the envelope and not the payload. -/
theorem IsIdle.other_name (idle : IsIdle tag found name value) :
    name ≠ "_option" ∧ name ≠ "_type" ∧ payloadField? tag ≠ some name := by
  cases idle with
  | surplus notOption notType _ notPayload => exact ⟨notOption, notType, notPayload⟩
  | zero field _ =>
      exact ⟨(DocField.name_ne_of_unknown rfl field).symm, (DocField.name_ne_of_unknown rfl field).symm,
        payloadField?_ne_docField tag field⟩

/-- Documentation is read as before if a field is added that means nothing. -/
theorem IsIdle.isDoc (idle : IsIdle tag (before ++ after) name value) {doc : Doc}
    (isDoc : IsDoc (before ++ after) doc) : IsDoc (before ++ (name, value) :: after) doc := by
  have agree : AgreeBut name (before ++ after) (before ++ (name, value) :: after) := agreeBut_middle
  cases idle with
  | surplus _ _ notDoc _ => exact agree.isDoc notDoc isDoc
  | zero field absent =>
      intro other
      by_cases same : other = field
      · subst same
        have none' {found : List (String × Tree)} (absent : other.name ∉ keys found) :
            valuesOf other.name found = [] :=
          List.eq_nil_iff_forall_not_mem.mpr fun value isValue =>
            absent (Dictionary.mem_keys.mpr ⟨value, Dictionary.mem_valuesOf.mp isValue⟩)
        have isZero := isDoc other
        rw [none' absent, DocField.denotes_nil] at isZero
        rw [Dictionary.keys_append, List.mem_append, not_or] at absent
        rw [Dictionary.valuesOf_append, Dictionary.valuesOf_cons, if_pos rfl, none' absent.1,
          none' absent.2, List.nil_append]
        exact ⟨some _, .present other.readContent_zeroTree, isZero⟩
      · rw [agree _ fun sameName => same (DocField.name_injective sameName).symm]
        exact isDoc other

/-- An option of a kind of the vocabulary is read as before if a field is added that means nothing
to it. -/
theorem GainsIdleField.carries (gains : GainsIdleField tag part part') (tagged : IsTagged part tag)
    (specified : tag ≠ .unspecified) : Carries part part' := by
  obtain ⟨before, after, name, value, has, ⟨gap', members', rfl, read'⟩, idle⟩ := gains
  obtain ⟨found, has', sayOption, sayTag⟩ := tagged
  obtain rfl := has.eq has'
  obtain ⟨notOption, notType, notPayload⟩ := idle.other_name
  have agree : AgreeBut name (before ++ after) (before ++ (name, value) :: after) := agreeBut_middle
  intro node isNode
  obtain ⟨gap, members, others, rfl, read, denotes⟩ := isNode_iff.mp isNode
  obtain rfl := has.eq ⟨gap, members, rfl, read⟩
  obtain ⟨doc, kind, rfl, rfl, isKind, isDoc⟩ := (denotes_iff_of_sayTag sayOption sayTag).mp denotes
  exact isNode_iff.mpr ⟨gap', members', _, rfl, read',
    (denotes_iff_of_sayTag ((agree.sayOption_iff notOption).mpr sayOption)
      (agree.sayTag notType sayTag)).mpr
      ⟨doc, kind, rfl, rfl, agree.isKind specified notPayload isKind, idle.isDoc isDoc⟩⟩

end

/-- A document is decoded as before if an option of a kind of the vocabulary, at any position, gains
a field that means nothing to it. Every such option can gain any such field in the place where it
stands. -/
theorem decode_idle_field {text : String} {contents : Module} {tag : Tag}
    (standsIn : tree.StandsIn text.toList) (decoded : decode text.toUTF8 = .ok contents)
    (standsAt : StandsAt tree name steps part) (tagged : IsTagged part tag)
    (specified : tag ≠ .unspecified) :
    (∀ (part' tree' : Tree) (text' : String), GainsIdleField tag part part' →
      ReplacedAt name steps part part' tree tree' → tree'.StandsIn text'.toList →
      decode text'.toUTF8 = .ok contents) ∧
    ∃ front back, text.toList = front ++ part.text ++ back ∧
      ∀ part', part'.wellFormed = true → ∃ tree', ReplacedAt name steps part part' tree tree' ∧
        tree'.StandsIn (front ++ part'.text ++ back) := by
  constructor
  · intro part' tree' text' gains replaced standsIn'
    rw [decode_iff_of_standsIn standsIn] at decoded
    rw [decode_iff_of_standsIn standsIn']
    exact replaced.isModule (gains.carries tagged specified) decoded
  · obtain ⟨wellFormed, start, stop, isStart, isStop, same⟩ := standsIn
    obtain ⟨-, front, back, around, fits⟩ := standsAt.fits wellFormed
    refine ⟨start ++ front, back ++ stop, ?_, fun part' wellFormed' => ?_⟩
    · rw [same, around]
      simp only [List.append_assoc]
    · obtain ⟨tree', replaced, wellFormedTree, around'⟩ := fits part' wellFormed'
      refine ⟨tree', replaced, wellFormedTree, start, stop, isStart, isStop, ?_⟩
      rw [around']
      simp only [List.append_assoc]

def listDocument (inner : Tree) : Tree :=
  Json.Layout.compact.object 0 [("a", Json.Layout.compact.object 1 [("_option", .bool true),
    ("_type", Json.Layout.string "listOf"), ("listOf", inner)])]

def plainOption : Tree :=
  Json.Layout.compact.object 2 ([("_option", .bool true)] ++ [("_type", Json.Layout.string "str")])

/-- That option with the payload of another kind, which is an option in turn. -/
def wordyOption : Tree :=
  Json.Layout.compact.object 2
    ([("_option", .bool true)] ++ ("either", plainOption) :: [("_type", Json.Layout.string "str")])

theorem decode_idle_field_listDocument :
    decode (document (listDocument plainOption)).toUTF8 =
        .ok ⟨[("a", .option .empty (.wrapped .listOf (.option .empty (.scalar .str))))]⟩ ∧
      StandsAt (listDocument plainOption) "a" [.inner] plainOption ∧
      GainsIdleField (.scalar .str) plainOption wordyOption ∧
      decode (document (listDocument wordyOption)).toUTF8 =
        .ok ⟨[("a", .option .empty (.wrapped .listOf (.option .empty (.scalar .str))))]⟩ := by
  have decoded : decode (document (listDocument plainOption)).toUTF8 =
      .ok ⟨[("a", .option .empty (.wrapped .listOf (.option .empty (.scalar .str))))]⟩ := by
    rw [decode, ofBytes?_document (by rfl)]
    rfl
  have tagged : IsTagged plainOption (.scalar .str) :=
    ⟨_, hasEntries_object _, rfl, _, _, rfl, readText_string _, rfl⟩
  have isList (inner : Tree) : IsTagged (Json.Layout.compact.object 1 [("_option", .bool true),
      ("_type", Json.Layout.string "listOf"), ("listOf", inner)]) (.wrapped .listOf) :=
    ⟨_, hasEntries_object _, rfl, _, _, rfl, readText_string _, rfl⟩
  have standsAt : StandsAt (listDocument plainOption) "a" [.inner] plainOption :=
    ⟨_, ⟨_, hasEntries_object _, rfl⟩, .step (.inner (isList _) ⟨_, hasEntries_object _, rfl⟩) .here⟩
  have gains : GainsIdleField (.scalar .str) plainOption wordyOption := by
    refine ⟨_, _, _, _, hasEntries_object _, hasEntries_object _, .surplus ?_ ?_ ?_ ?_⟩
    · decide
    · decide
    · intro field
      cases field <;> decide
    · decide
  have replaced : ReplacedAt "a" [.inner] plainOption wordyOption (listDocument plainOption)
      (listDocument wordyOption) := by
    have absent (name : String) : name ∉ keys ([] : List (String × Tree)) := List.not_mem_nil
    refine ⟨_, _, ⟨[], [], hasEntries_object _, hasEntries_object _, absent _⟩,
      .step (.inner (isList _) ⟨[_, _], [], hasEntries_object _, hasEntries_object _, absent _⟩) .here⟩
  exact ⟨decoded, standsAt, gains, (decode_idle_field (standsIn_document (by rfl)) decoded standsAt
    tagged (by decide)).1 _ _ _ gains replaced (standsIn_document (by rfl))⟩

end OptionSchema.Wire
