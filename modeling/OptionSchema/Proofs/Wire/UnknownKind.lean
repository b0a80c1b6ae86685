import OptionSchema.Proofs.Wire.Position

/-!
# Options outside the vocabulary

An object that says that it is an option of a kind outside the vocabulary is decoded whatever else
it holds. Main statement: `decode_unknown_kind`. At every position of a document the text of such an
object is kept as it is, and it is written as it is.
-/

namespace OptionSchema.Wire

open Dictionary (valuesOf)
open Json (Tree)

variable {found : List (String × Tree)} {source : Tree} {node : Node}

/-- The trees of `_type` fields that name no kind of the vocabulary. -/
inductive NameNoKind : List Tree → Prop where
  | absent : NameNoKind []
  | null : NameNoKind [.null]
  | unknown {tree : Tree} {name : String} :
      tree.readText = .ok name → Tag.ofName? name = none → NameNoKind [tree]

/-- An object that says that it is an option, but of no kind of the vocabulary. -/
structure IsUnknownOption (source : Tree) (found : List (String × Tree)) : Prop where
  hasEntries : HasEntries source found
  sayOption : SayOption found
  nameNoKind : NameNoKind (valuesOf "_type" found)

/-- What is kept as documentation: that of the entries, or the empty one if some field of it cannot
be read. -/
def KeptDoc (found : List (String × Tree)) (doc : Doc) : Prop :=
  IsDoc found doc ∨ doc = .empty ∧ ∃ field : DocField, ¬ field.Readable (valuesOf field.name found)

theorem isDocOrEmpty_iff_keptDoc {doc : Doc} : IsDocOrEmpty found doc ↔ KeptDoc found doc := by
  refine or_congr_right (and_congr_right fun _ => ?_)
  rw [← not_exists, exists_isDoc_iff, not_forall]

/-- There is always documentation to be kept. -/
theorem exists_keptDoc (found : List (String × Tree)) : ∃ doc, KeptDoc found doc := by
  by_cases readable : ∀ field : DocField, field.Readable (valuesOf field.name found)
  · obtain ⟨doc, isDoc⟩ := exists_isDoc_iff.mpr readable
    exact ⟨doc, .inl isDoc⟩
  · exact ⟨.empty, .inr ⟨rfl, not_forall.mp readable⟩⟩

/-- A tag that is missing names no kind, nor does the empty one. -/
theorem NameNoKind.exists_tag {trees : List Tree} (nameNoKind : NameNoKind trees) :
    ∃ tag, Once Tree.readOptionalText trees tag ∧ Tag.ofName? (tag.join.getD "") = none := by
  cases nameNoKind with
  | absent => exact ⟨none, .absent, rfl⟩
  | null => exact ⟨some none, .present rfl, rfl⟩
  | unknown read unknown =>
      exact ⟨some (some _), .present (Tree.readOptionalText_eq_ok_iff.mpr (.inr ⟨_, read, rfl⟩)),
        unknown⟩

/-- An option outside the vocabulary denotes one that keeps its tree, and nothing else. -/
theorem IsUnknownOption.isNode_iff (isUnknown : IsUnknownOption source found) :
    IsNode source node ↔ ∃ doc, KeptDoc found doc ∧ node = .option doc (.unspecified source) := by
  obtain ⟨tag, isTag, unknown⟩ := isUnknown.nameNoKind.exists_tag
  have isEnvelope : IsEnvelope found ⟨some true, tag⟩ := by
    refine ⟨?_, isTag⟩
    rw [isUnknown.sayOption]
    exact .present rfl
  rw [Wire.isNode_iff]
  constructor
  · rintro ⟨gap, members, others, rfl, read, denotes⟩
    obtain rfl := isUnknown.hasEntries.eq ⟨gap, members, rfl, read⟩
    cases denotes with
    | module isEnvelope' notOption =>
        exact absurd (isEnvelope'.isOption_iff.mpr isUnknown.sayOption) notOption
    | unknown _ _ _ isDoc => exact ⟨_, isDocOrEmpty_iff_keptDoc.mp isDoc, rfl⟩
    | known isEnvelope' _ known =>
        rw [isTag.eq isEnvelope'.tag, unknown] at known
        cases known
  · rintro ⟨doc, keptDoc, rfl⟩
    obtain ⟨gap, members, rfl, read⟩ := isUnknown.hasEntries
    exact ⟨gap, members, found, rfl, read,
      .unknown isEnvelope rfl unknown (isDocOrEmpty_iff_keptDoc.mpr keptDoc)⟩

/-- An option outside the vocabulary is decoded whatever its other fields hold, and it keeps its
tree. It does so at every position of a document that is decoded, and at that position its text is
in both documents of the module as it is. -/
theorem decode_unknown_kind (isUnknown : IsUnknownOption source found) :
    (∀ text : String, source.StandsIn text.toList →
      ∃ doc, KeptDoc found doc ∧ decodeNode text.toUTF8 = .ok (.option doc (.unspecified source))) ∧
    ∀ (text : String) (tree : Tree) (contents : Module) (name : String) (steps : List Step),
      tree.StandsIn text.toList → decode text.toUTF8 = .ok contents →
      StandsAt tree name steps source →
      source.text <:+: text.toList ∧
      (∃ doc, KeptDoc found doc ∧
        contents.at? name steps = some (.option doc (.unspecified source))) ∧
      ∀ written ∈ [encode contents, encodePretty contents], source.text <:+: written.toList ∧
        ∃ tree', tree'.StandsIn written.toList ∧ StandsAt tree' name steps source := by
  constructor
  · intro text standsIn
    obtain ⟨doc, keptDoc⟩ := exists_keptDoc found
    refine ⟨doc, keptDoc, (decodeNode_iff_of_standsIn standsIn).mpr ?_⟩
    exact isUnknown.isNode_iff.mpr ⟨doc, keptDoc, rfl⟩
  · intro text tree contents name steps standsIn decoded standsAt
    have isModule := (decode_iff_of_standsIn standsIn).mp decoded
    have isDecoded := (yieldsDecoded tree standsIn.1).module contents isModule
    obtain ⟨node, isAt, isNode⟩ := standsAt.at? isModule
    obtain ⟨doc, keptDoc, rfl⟩ := isUnknown.isNode_iff.mp isNode
    refine ⟨?_, ⟨doc, keptDoc, isAt⟩, ?_⟩
    · obtain ⟨-, before, after, -, -, same⟩ := standsIn
      rw [same]
      exact standsAt.text_infix.trans (List.infix_append' _ _ _)
    · have isWritten (layout : Json.Layout) :
          source.text <:+: (document (moduleTree layout 0 contents)).toList ∧
            ∃ tree', tree'.StandsIn (document (moduleTree layout 0 contents)).toList ∧
              StandsAt tree' name steps source := by
        obtain ⟨depth, standsAt'⟩ :=
          standsAt_moduleTree isDecoded.ascending isDecoded.inside isAt layout 0
        have wellFormed := wellFormed_moduleTree isDecoded.keepsWellFormed layout 0
        rw [document, String.toList_ofList]
        exact ⟨standsAt'.text_infix, _, Tree.standsIn_text wellFormed, standsAt'⟩
      intro written isEncoded
      rcases List.mem_pair.mp isEncoded with rfl | rfl
      · exact isWritten .compact
      · exact isWritten .indented

/-- An option of an unknown kind with blanks, a payload that means nothing here, and a description
that is none. -/
def secretTree : Tree :=
  .object [] [(⟨[' '], "_option".toList, []⟩, ⟨[' '], .bool true, []⟩),
    (⟨['\n'], "_type".toList, []⟩, ⟨[], Json.Layout.string "secret", [' ']⟩),
    (⟨[], "description".toList, []⟩, ⟨[], .bool true, []⟩),
    (⟨[], "listOf".toList, []⟩, ⟨[], .null, ['\t']⟩)]

def secretEntries : List (String × Tree) :=
  [("_option", .bool true), ("_type", Json.Layout.string "secret"), ("description", .bool true),
    ("listOf", .null)]

def vaultTree : Tree :=
  Json.Layout.compact.object 0 [("keys", Json.Layout.compact.object 1 [("_option", .bool true),
    ("_type", Json.Layout.string "listOf"), ("listOf", secretTree)])]

def vaultModule : Module :=
  ⟨[("keys", .option .empty (.wrapped .listOf (.option .empty (.unspecified secretTree))))]⟩

theorem decode_vaultTree :
    IsUnknownOption secretTree secretEntries ∧
      decode (document vaultTree).toUTF8 = .ok vaultModule ∧
      StandsAt vaultTree "keys" [.inner] secretTree ∧
      vaultModule.at? "keys" [.inner] = some (.option .empty (.unspecified secretTree)) ∧
      secretTree.text <:+: (encode vaultModule).toList ∧
      secretTree.text <:+: (encodePretty vaultModule).toList := by
  have isUnknown : IsUnknownOption secretTree secretEntries :=
    ⟨⟨_, _, rfl, rfl⟩, rfl, .unknown rfl rfl⟩
  have decoded : decode (document vaultTree).toUTF8 = .ok vaultModule := by
    rw [decode, ofBytes?_document (by rfl)]
    rfl
  have standsAt : StandsAt vaultTree "keys" [.inner] secretTree := by
    refine ⟨_, ⟨_, hasEntries_object _, rfl⟩, .step ?_ .here⟩
    have tagged : IsTagged (Json.Layout.compact.object 1 [("_option", .bool true),
        ("_type", Json.Layout.string "listOf"), ("listOf", secretTree)]) (.wrapped .listOf) :=
      ⟨_, hasEntries_object _, rfl, _, _, rfl, readText_string _, rfl⟩
    exact .inner tagged ⟨_, hasEntries_object _, rfl⟩
  have standsIn : vaultTree.StandsIn (document vaultTree).toList := by
    rw [document, String.toList_ofList]
    exact Tree.standsIn_text (by rfl)
  have written := ((decode_unknown_kind isUnknown).2 _ _ _ _ _ standsIn decoded standsAt).2.2
  exact ⟨isUnknown, decoded, standsAt, rfl, (written _ (by simp)).1, (written _ (by simp)).1⟩

end OptionSchema.Wire
