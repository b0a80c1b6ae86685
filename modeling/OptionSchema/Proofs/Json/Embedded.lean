import OptionSchema.Proofs.Json.Value

/-!
# What reading straight through yields

Main statement: `Value.ofText_proper`. The objects of a value that has been read have their keys in
ascending order, and none of them has the key of an embedded text alone, since such an object stands
for the value of that text.
-/

namespace OptionSchema.Json

variable {fuel : Nat}

/-- An object as reading makes it: ascending keys, and not just that of an embedded text. -/
def Value.IsProper : Value → Prop
  | .object members =>
      Dictionary.Ascending members ∧ Dictionary.keys members ≠ [embeddingMark]
  | _ => True

def Value.Proper (value : Value) : Prop :=
  value.Everywhere IsProper

theorem Value.Proper.ordered {value : Value} (proper : value.Proper) : value.Ordered := by
  refine Everywhere.imp proper fun part isProper => ?_
  cases part with
  | object members => exact isProper.1
  | _ => trivial

theorem Value.proper_array {items : List Value} :
    (Value.array items).Proper ↔ ∀ item ∈ items, item.Proper :=
  everywhere_iff.trans (and_iff_right trivial)

theorem Value.proper_object {members : List (String × Value)} :
    (Value.object members).Proper ↔ (Dictionary.Ascending members ∧
      Dictionary.keys members ≠ [embeddingMark]) ∧ ∀ member ∈ members, member.2.Proper :=
  everywhere_iff.trans (and_congr_right fun _ => List.forall_mem_map)

/-! ## The steps of reading -/

/-- Members that have been read, one of which has a key of its own. -/
structure ReadMembers (members : List (String × Value)) : Prop where
  ascending : Dictionary.Ascending members
  proper : ∀ member ∈ members, member.2.Proper
  unmarked : ∃ key ∈ Dictionary.keys members, key ≠ embeddingMark

theorem ReadMembers.object {members : List (String × Value)} (read : ReadMembers members) :
    (Value.object members).Proper := by
  refine Value.proper_object.mpr ⟨⟨read.ascending, fun marked => ?_⟩, read.proper⟩
  obtain ⟨key, member, other⟩ := read.unmarked
  rw [marked] at member
  exact other (List.mem_singleton.mp member)

structure ReadBefore (key : String) (dictionary : List (String × Value)) : Prop where
  ascending : Dictionary.Ascending dictionary
  proper : ∀ member ∈ dictionary, member.2.Proper
  unmarked : key ≠ embeddingMark ∨ ∃ key ∈ Dictionary.keys dictionary, key ≠ embeddingMark

theorem ReadBefore.insert {key : String} {dictionary : List (String × Value)}
    (before : ReadBefore key dictionary) {value : Value} (proper : value.Proper) :
    ReadMembers (Dictionary.insert key value dictionary) := by
  refine ⟨before.ascending.insert key value, fun member isMember => ?_, ?_⟩
  · rcases Dictionary.mem_insert isMember with rfl | old
    · exact proper
    · exact before.proper member old
  · rcases before.unmarked with other | ⟨k, member, other⟩
    · exact ⟨key, Dictionary.mem_keys_insert.mpr (.inl rfl), other⟩
    · exact ⟨k, Dictionary.mem_keys_insert.mpr (.inr member), other⟩

theorem ReadMembers.before {members : List (String × Value)} (read : ReadMembers members)
    (key : String) : ReadBefore key members :=
  ⟨read.ascending, read.proper, .inr read.unmarked⟩

def YieldsValue (fuel : Nat) : Prop :=
  ∀ {levels text value rest}, readPlain fuel levels text = .ok (value, rest) → value.Proper

def YieldsItems (fuel : Nat) : Prop :=
  ∀ {levels text items rest}, readPlainItems fuel levels text = .ok (items, rest) →
    ∀ item ∈ items, item.Proper

def YieldsMembers (fuel : Nat) : Prop :=
  ∀ {levels key dictionary text members rest},
    readPlainMember fuel levels key dictionary text = .ok (members, rest) →
    ReadBefore key dictionary → ReadMembers members

def YieldsWhole (fuel : Nat) : Prop :=
  ∀ {text value}, readWhole fuel text = .ok value → value.Proper

theorem readLetters_value {value found : Value} {letters text rest : List Char}
    (read : readLetters value letters text = .ok (found, rest)) : found = value := by
  rw [readLetters, Outcome.bind_eq_ok] at read
  obtain ⟨_, -, same⟩ := read
  cases same
  rfl

theorem readNumeral_value {negative : Bool} {value : Value} {text rest : List Char}
    (read : readNumeral negative text = .ok (value, rest)) : ∃ number, value = .number number := by
  simp only [readNumeral, Outcome.bind_eq_ok] at read
  obtain ⟨_, -, number, -, same⟩ := read
  cases same
  exact ⟨number, rfl⟩

theorem yieldsItems_succ (yieldsValue : YieldsValue fuel) (yieldsItems : YieldsItems fuel) :
    YieldsItems (fuel + 1) := by
  intro levels text items rest read
  rw [readPlainItems, Outcome.bind_eq_ok] at read
  obtain ⟨⟨item, after⟩, readItem, read⟩ := read
  have first := yieldsValue readItem
  dsimp only at read
  split at read
  · cases read
    exact List.forall_mem_singleton.mpr first
  · split at read
    · cases read
    · rw [Outcome.bind_eq_ok] at read
      obtain ⟨⟨others, rest⟩, readOthers, same⟩ := read
      cases same
      exact List.forall_mem_cons.mpr ⟨first, yieldsItems readOthers⟩
  · cases read
  · cases read

theorem yieldsMembers_succ (yieldsValue : YieldsValue fuel) (yieldsMembers : YieldsMembers fuel) :
    YieldsMembers (fuel + 1) := by
  intro levels key dictionary text members rest read before
  rw [readPlainMember, Outcome.bind_eq_ok] at read
  obtain ⟨⟨value, after⟩, readValue, read⟩ := read
  have inserted := before.insert (yieldsValue readValue)
  dsimp only at read
  split at read
  · cases read
    exact inserted
  · split at read
    · simp only [Outcome.bind_eq_ok] at read
      obtain ⟨⟨next, _⟩, -, _, -, readOthers⟩ := read
      exact yieldsMembers readOthers (inserted.before next)
    · cases read
    · cases read
    · cases read
  · cases read
  · cases read

theorem yieldsWhole_succ (yieldsValue : YieldsValue fuel) : YieldsWhole (fuel + 1) := by
  intro text value read
  rw [readWhole, Outcome.bind_eq_ok] at read
  obtain ⟨⟨found, rest⟩, readValue, read⟩ := read
  dsimp only at read
  split at read
  · cases read
    exact yieldsValue readValue
  · cases read

theorem yieldsValue_succ (yieldsItems : YieldsItems fuel) (yieldsMembers : YieldsMembers fuel)
    (yieldsWhole : YieldsWhole fuel) : YieldsValue (fuel + 1) := by
  intro levels text value rest read
  rw [readPlain.eq_def] at read
  dsimp only at read
  split at read
  · cases read
  · rw [readLetters_value read]
    exact Value.everywhere_of_parts_eq_nil trivial rfl
  · rw [readLetters_value read]
    exact Value.everywhere_of_parts_eq_nil trivial rfl
  · rw [readLetters_value read]
    exact Value.everywhere_of_parts_eq_nil trivial rfl
  · rw [Outcome.map_eq_ok] at read
    obtain ⟨_, -, same⟩ := read
    cases same
    exact Value.everywhere_of_parts_eq_nil trivial rfl
  · obtain ⟨number, rfl⟩ := readNumeral_value read
    exact Value.everywhere_of_parts_eq_nil trivial rfl
  · split at read
    · cases read
    · cases read
    · cases read
      exact Value.everywhere_of_parts_eq_nil trivial rfl
    · rw [Outcome.map_eq_ok] at read
      obtain ⟨⟨items, _⟩, readItems, same⟩ := read
      cases same
      exact Value.proper_array.mpr (yieldsItems readItems)
  · split at read
    · cases read
    · cases read
    · cases read
      exact Value.everywhere_of_parts_eq_nil ⟨Dictionary.ascending_nil, by simp⟩ rfl
    · simp only [Outcome.bind_eq_ok] at read
      obtain ⟨⟨key, _⟩, -, _, -, read⟩ := read
      split at read
      · simp only [Outcome.bind_eq_ok] at read
        obtain ⟨_, -, found, readInner, _, -, same⟩ := read
        cases same
        exact yieldsWhole readInner
      · next other =>
          simp only [Outcome.bind_eq_ok] at read
          obtain ⟨⟨members, _⟩, readMembers, same⟩ := read
          cases same
          refine (yieldsMembers readMembers ⟨Dictionary.ascending_nil, ?_, .inl other⟩).object
          exact fun _ member => nomatch member
    · cases read
  · split at read
    · obtain ⟨number, rfl⟩ := readNumeral_value read
      exact Value.everywhere_of_parts_eq_nil trivial rfl
    · cases read

/-- What is read is proper, by induction on the fuel. -/
theorem yields (fuel : Nat) :
    YieldsValue fuel ∧ YieldsItems fuel ∧ YieldsMembers fuel ∧ YieldsWhole fuel := by
  induction fuel with
  | zero =>
      refine ⟨fun read => ?_, fun read => ?_, fun read => ?_, fun read => ?_⟩ <;> cases read
  | succ fuel ih =>
      obtain ⟨yieldsValue, yieldsItems, yieldsMembers, yieldsWhole⟩ := ih
      exact ⟨yieldsValue_succ yieldsItems yieldsMembers yieldsWhole,
        yieldsItems_succ yieldsValue yieldsItems, yieldsMembers_succ yieldsValue yieldsMembers,
        yieldsWhole_succ yieldsValue⟩

/-- The value of a text is as reading makes it. -/
theorem Value.ofText_proper {text : String} {value : Value} (read : Value.ofText text = .ok value) :
    value.Proper :=
  (yields _).2.2.2 read

end OptionSchema.Json
