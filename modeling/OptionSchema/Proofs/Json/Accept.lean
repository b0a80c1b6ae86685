import OptionSchema.Proofs.Json.Read

/-!
# Which trees have a value

Main statement: `exists_readValue_iff`. A tree whose strings and numbers can be read has a value
exactly if it has no more levels than allowed and every object in it that looks like an embedded
text is one.
-/

namespace OptionSchema.Json

namespace Tree

/-- A tree whose strings can be read, keys included, and whose numbers are in range. -/
inductive Readable : Tree → Prop where
  | null : Readable .null
  | bool (value : Bool) : Readable (.bool value)
  | number {numeral : Numeral} {value : Number} :
      readNumber numeral = .ok value → Readable (.number numeral)
  | string {body : List Char} {text : String} :
      readString body = .ok text → Readable (.string body)
  | array {gap : List Char} {items : List (Padded Tree)} :
      (∀ item ∈ items, Readable item.content) → Readable (.array gap items)
  | object {gap : List Char} {members : List (Padded (List Char) × Padded Tree)} :
      (∀ member ∈ members, ∃ name, readString member.1.content = .ok name) →
      (∀ member ∈ members, Readable member.2.content) → Readable (.object gap members)

/-- A tree with no more levels of arrays and objects than given. -/
inductive FitsIn : Nat → Tree → Prop where
  | null (levels : Nat) : FitsIn levels .null
  | bool (levels : Nat) (value : Bool) : FitsIn levels (.bool value)
  | number (levels : Nat) (numeral : Numeral) : FitsIn levels (.number numeral)
  | string (levels : Nat) (body : List Char) : FitsIn levels (.string body)
  | array {levels : Nat} {gap : List Char} {items : List (Padded Tree)} :
      (∀ item ∈ items, FitsIn levels item.content) → FitsIn (levels + 1) (.array gap items)
  | object {levels : Nat} {gap : List Char}
      {members : List (Padded (List Char) × Padded Tree)} :
      (∀ member ∈ members, FitsIn levels member.2.content) → FitsIn (levels + 1) (.object gap members)

/-- A tree in which every object with the mark of an embedded text as its first key has no other
key, and the text of a value under it. -/
inductive EmbedsValues : Tree → Prop where
  | null : EmbedsValues .null
  | bool (value : Bool) : EmbedsValues (.bool value)
  | number (numeral : Numeral) : EmbedsValues (.number numeral)
  | string (body : List Char) : EmbedsValues (.string body)
  | array {gap : List Char} {items : List (Padded Tree)} :
      (∀ item ∈ items, EmbedsValues item.content) → EmbedsValues (.array gap items)
  | object {gap : List Char} {members : List (Padded (List Char) × Padded Tree)} :
      embeddedTree? members = none → (∀ member ∈ members, EmbedsValues member.2.content) →
      EmbedsValues (.object gap members)
  | embedded {gap : List Char} {member : Padded (List Char) × Padded Tree} {text : String}
      {value : Value} :
      embeddedTree? [member] = some member.2.content → member.2.content.readText = .ok text →
      Value.ofText text = .ok value → EmbedsValues (.object gap [member])

section

variable {levels : Nat} {gap : List Char} {items : List (Padded Tree)}
  {members : List (Padded (List Char) × Padded Tree)}

theorem fitsIn_array_iff :
    FitsIn (levels + 1) (.array gap items) ↔ ∀ item ∈ items, FitsIn levels item.content := by
  refine ⟨fun fits => ?_, .array⟩
  cases fits with
  | array fits => exact fits

theorem fitsIn_object_iff :
    FitsIn (levels + 1) (.object gap members) ↔
      ∀ member ∈ members, FitsIn levels member.2.content := by
  refine ⟨fun fits => ?_, .object⟩
  cases fits with
  | object fits => exact fits

theorem embedsValues_array_iff :
    EmbedsValues (.array gap items) ↔ ∀ item ∈ items, EmbedsValues item.content := by
  refine ⟨fun embeds => ?_, .array⟩
  cases embeds with
  | array embeds => exact embeds

theorem embedsValues_object_iff (plain : embeddedTree? members = none) :
    EmbedsValues (.object gap members) ↔ ∀ member ∈ members, EmbedsValues member.2.content := by
  refine ⟨fun embeds => ?_, .object plain⟩
  cases embeds with
  | object _ embeds => exact embeds
  | embedded marked =>
      rw [plain] at marked
      cases marked

end

theorem readable_string (text : String) : (Layout.string text).Readable :=
  .string (readString_escape text)

theorem readable_object {layout : Layout} {depth : Nat} {members : List (String × Tree)}
    (readable : ∀ member ∈ members, member.2.Readable) :
    (layout.object depth members).Readable :=
  .object (exists_entries_iff.mp ⟨members, entries_padMembers members⟩)
    ((forall_entries_iff (entries_padMembers members) Readable).mp readable)

end Tree

theorem embeddedTree?_cons {member : Padded (List Char) × Padded Tree}
    {rest : List (Padded (List Char) × Padded Tree)} {tree : Tree}
    (embedded : embeddedTree? (member :: rest) = some tree) : tree = member.2.content := by
  obtain ⟨key, value⟩ := member
  rw [embeddedTree?] at embedded
  split at embedded
  · split at embedded
    · cases embedded
      rfl
    · cases embedded
  · cases embedded

/-- An array has a value if its items have. -/
theorem exists_readValue_array_iff {levels : Nat} {gap : List Char} {items : List (Padded Tree)} :
    (∃ value, readValue (levels + 1) (.array gap items) = .ok value) ↔
      ∀ item ∈ items, ∃ value, readValue levels item.content = .ok value := by
  have each : (∃ values, readItems levels items = .ok values) ↔
      ∀ item ∈ items, ∃ value, readValue levels item.content = .ok value := by
    simp only [readItems_eq_ok_iff, Outcome.exists_results_iff, List.forall_mem_map]
  rw [← each, readValue]
  simp only [Outcome.map_eq_ok]
  constructor
  · rintro ⟨_, values, read, rfl⟩
    exact ⟨values, read⟩
  · rintro ⟨values, read⟩
    exact ⟨_, values, read, rfl⟩

/-- An object without an embedded text has a value if its members have. -/
theorem exists_readValue_object_iff {levels : Nat} {gap : List Char}
    {members : List (Padded (List Char) × Padded Tree)} (plain : embeddedTree? members = none)
    (keys : ∀ member ∈ members, ∃ name, readString member.1.content = .ok name) :
    (∃ value, readValue (levels + 1) (.object gap members) = .ok value) ↔
      ∀ member ∈ members, ∃ value, readValue levels member.2.content = .ok value := by
  obtain ⟨found, read⟩ := exists_entries_iff.mpr keys
  have each : (∃ values, Dictionary.Matched (fun tree value => readValue levels tree = .ok value)
      found values) ↔ ∀ member ∈ members, ∃ value, readValue levels member.2.content = .ok value :=
    Dictionary.exists_matched_iff.trans
      (forall_entries_iff read fun tree => ∃ value, readValue levels tree = .ok value)
  rw [← each]
  simp only [readValue_object_eq_ok_iff plain, read, Except.ok.injEq]
  constructor
  · rintro ⟨_, _, values, rfl, matched, rfl⟩
    exact ⟨values, matched⟩
  · rintro ⟨values, matched⟩
    exact ⟨_, _, values, rfl, matched, rfl⟩

/-- An object that starts with the mark of an embedded text has a value if it is one. -/
theorem exists_readValue_marked_iff {levels : Nat} {gap : List Char}
    {members : List (Padded (List Char) × Padded Tree)} {tree : Tree}
    (marked : embeddedTree? members = some tree) :
    (∃ value, readValue (levels + 1) (.object gap members) = .ok value) ↔
      (Tree.object gap members).EmbedsValues := by
  rw [readValue, marked]
  simp only [readEmbedded_eq_ok_iff, beq_iff_eq, List.length_eq_one_iff]
  constructor
  · rintro ⟨value, ⟨member, rfl⟩, text, readText, readEmbedded⟩
    have same := embeddedTree?_cons marked
    subst same
    exact .embedded marked readText readEmbedded
  · intro embeds
    cases embeds with
    | object plain =>
        rw [plain] at marked
        cases marked
    | embedded _ readText readEmbedded =>
        rw [← embeddedTree?_cons marked] at readText
        exact ⟨_, ⟨_, rfl⟩, _, readText, readEmbedded⟩

/-- An embedded text has one level. -/
theorem Tree.EmbedsValues.fitsIn {levels : Nat} {gap : List Char}
    {members : List (Padded (List Char) × Padded Tree)} {tree : Tree}
    (embeds : (Tree.object gap members).EmbedsValues) (marked : embeddedTree? members = some tree) :
    (Tree.object gap members).FitsIn (levels + 1) := by
  cases embeds with
  | object plain =>
      rw [plain] at marked
      cases marked
  | embedded _ readText =>
      obtain ⟨body, same, -⟩ := Tree.readText_eq_ok_iff.mp readText
      refine .object (List.forall_mem_singleton.mpr ?_)
      rw [same]
      exact .string levels body

/-- A tree that needs a level has no value if there is none. -/
theorem not_exists_readValue_zero {tree : Tree} (refused : readValue 0 tree = .error .recursionLimit)
    (deep : ¬ tree.FitsIn 0) :
    (∃ value, readValue 0 tree = .ok value) ↔ tree.FitsIn 0 ∧ tree.EmbedsValues := by
  refine iff_of_false ?_ fun fits => deep fits.1
  rintro ⟨value, read⟩
  rw [refused] at read
  cases read

/-- A tree whose strings and numbers can be read has a value exactly if it has no more levels than
allowed and what looks like an embedded text is one. -/
theorem exists_readValue_iff {tree : Tree} (readable : tree.Readable) {levels : Nat} :
    (∃ value, readValue levels tree = .ok value) ↔ tree.FitsIn levels ∧ tree.EmbedsValues := by
  induction tree using Tree.induction generalizing levels with
  | null => exact iff_of_true ⟨_, by rw [readValue]⟩ ⟨.null levels, .null⟩
  | bool value => exact iff_of_true ⟨_, by rw [readValue]⟩ ⟨.bool levels value, .bool value⟩
  | number numeral =>
      refine iff_of_true ?_ ⟨.number levels numeral, .number numeral⟩
      cases readable with
      | number read =>
          rw [readValue, read]
          exact ⟨_, rfl⟩
  | string body =>
      refine iff_of_true ?_ ⟨.string levels body, .string body⟩
      cases readable with
      | string read =>
          rw [readValue, read]
          exact ⟨_, rfl⟩
  | array gap items ih =>
      cases readable with
      | array readable =>
          cases levels with
          | zero => exact not_exists_readValue_zero (by rw [readValue]) (by rintro ⟨⟩)
          | succ levels =>
              rw [exists_readValue_array_iff, Tree.fitsIn_array_iff, Tree.embedsValues_array_iff,
                ← forall₂_and]
              exact forall₂_congr fun item member => ih item member (readable item member)
  | object gap members ih =>
      cases readable with
      | object keys readable =>
          cases levels with
          | zero => exact not_exists_readValue_zero (by rw [readValue]) (by rintro ⟨⟩)
          | succ levels =>
              cases marked : embeddedTree? members with
              | some tree =>
                  rw [exists_readValue_marked_iff marked]
                  exact ⟨fun embeds => ⟨embeds.fitsIn marked, embeds⟩, And.right⟩
              | none =>
                  rw [exists_readValue_object_iff marked keys, Tree.fitsIn_object_iff,
                    Tree.embedsValues_object_iff marked, ← forall₂_and]
                  exact forall₂_congr fun member isMember =>
                    ih member isMember (readable member isMember)

end OptionSchema.Json
