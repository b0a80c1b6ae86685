import OptionSchema.Proofs.Wire.Position

/-!
# Documents whose values can be restored

If the mark of an embedded text is no key in the examples and defaults of a document, the values that
are decoded from them can be restored (`restorable_of_decode`), and what is decoded is decoded again
from what is written for it (`decode_encode_of_unmarked`).
-/

namespace OptionSchema

open Dictionary (Matched valuesOf)
open Json (Layout Numeral Padded Tree Value embeddingMark entries readString readValue)

/-! ## Values without a mark -/

namespace Json.Tree

/-- A tree in which the mark of an embedded text is no key. -/
inductive Unmarked : Tree → Prop where
  | null : Unmarked .null
  | bool (value : Bool) : Unmarked (.bool value)
  | number (numeral : Numeral) : Unmarked (.number numeral)
  | string (body : List Char) : Unmarked (.string body)
  | array {gap : List Char} {items : List (Padded Tree)} :
      (∀ item ∈ items, Unmarked item.content) → Unmarked (.array gap items)
  | object {gap : List Char} {members : List (Padded (List Char) × Padded Tree)} :
      (∀ member ∈ members, readString member.1.content ≠ .ok embeddingMark) →
      (∀ member ∈ members, Unmarked member.2.content) → Unmarked (.object gap members)

variable {levels : Nat} {members : List (Padded (List Char) × Padded Tree)}

/-- An object without the mark stands for no embedded text. -/
theorem embeddedTree?_of_unmarked
    (keys : ∀ member ∈ members, readString member.1.content ≠ .ok embeddingMark) :
    embeddedTree? members = none := by
  cases members with
  | nil => rfl
  | cons member rest =>
      obtain ⟨key, value⟩ := member
      rw [embeddedTree?]
      split
      · next name readKey =>
          refine if_neg fun marked => keys (key, value) (List.mem_cons_self ..) ?_
          rw [readKey, marked]
      · rfl

theorem not_mem_keys_of_unmarked {found : List (String × Tree)}
    (keys : ∀ member ∈ members, readString member.1.content ≠ .ok embeddingMark)
    (read : entries members = .ok found) : embeddingMark ∉ Dictionary.keys found := by
  intro isKey
  obtain ⟨tree, isEntry⟩ := Dictionary.mem_keys.mp isKey
  obtain ⟨written, isWritten, readKey, -⟩ := mem_of_entries read isEntry
  exact keys written isWritten readKey

/-- A tree without the mark has a value in which no object looks like an embedded text, and which has
no more levels than are allowed; by induction on the tree. -/
theorem Unmarked.plain_and_shallow {tree : Tree} (unmarked : tree.Unmarked) {value : Value}
    (read : readValue levels tree = .ok value) : value.Plain ∧ value.depth ≤ levels := by
  induction tree using Tree.induction generalizing levels value with
  | null =>
      cases read
      exact ⟨Value.everywhere_of_parts_eq_nil id rfl, Nat.zero_le _⟩
  | bool flag =>
      cases read
      exact ⟨Value.everywhere_of_parts_eq_nil id rfl, Nat.zero_le _⟩
  | number numeral =>
      obtain ⟨number, -, rfl⟩ := Outcome.map_eq_ok.mp read
      exact ⟨Value.everywhere_of_parts_eq_nil id rfl, Nat.zero_le _⟩
  | string body =>
      obtain ⟨text, -, rfl⟩ := Outcome.map_eq_ok.mp read
      exact ⟨Value.everywhere_of_parts_eq_nil id rfl, Nat.zero_le _⟩
  | array gap items ih =>
      cases unmarked with
      | array unmarked =>
          obtain ⟨_, values, rfl, rfl, matched⟩ := readValue_array_eq_ok_iff.mp read
          rw [List.forall₂_map_left_iff] at matched
          refine Value.plain_and_shallow_array fun value isValue => ?_
          obtain ⟨item, isItem, readItem⟩ := Outcome.exists_item matched isValue
          exact ih item isItem (unmarked item isItem) readItem
  | object gap members ih =>
      cases unmarked with
      | object keys unmarked =>
          cases levels with
          | zero => cases read
          | succ levels =>
              obtain ⟨found, values, readEntries, matched, rfl⟩ :=
                (readValue_object_eq_ok_iff (embeddedTree?_of_unmarked keys)).mp read
              have notMarked : ¬ (Value.object (Dictionary.ofPairs values)).IsMarked := by
                intro marked
                have isKey := List.mem_of_head? marked
                rw [Dictionary.mem_keys_ofPairs, ← matched.keys_eq] at isKey
                exact not_mem_keys_of_unmarked keys readEntries isKey
              refine Value.plain_and_shallow_object notMarked fun entry isEntry => ?_
              obtain ⟨child, isChild, readChild⟩ :=
                matched.mem_right (Dictionary.mem_of_mem_ofPairs isEntry)
              obtain ⟨written, isWritten, -, rfl⟩ := mem_of_entries readEntries isChild
              exact ih written isWritten (unmarked written isWritten) readChild

/-- The only tree without the mark that has the value null is null. -/
theorem Unmarked.eq_null {tree : Tree} (unmarked : tree.Unmarked)
    (read : readValue (levels + 1) tree = .ok .null) : tree = .null := by
  cases unmarked with
  | null => rfl
  | bool => cases read
  | number =>
      obtain ⟨_, -, same⟩ := Outcome.map_eq_ok.mp read
      cases same
  | string =>
      obtain ⟨_, -, same⟩ := Outcome.map_eq_ok.mp read
      cases same
  | array =>
      obtain ⟨_, _, -, same, -⟩ := readValue_array_eq_ok_iff.mp read
      cases same
  | object keys =>
      obtain ⟨_, _, -, -, same⟩ :=
        (readValue_object_eq_ok_iff (embeddedTree?_of_unmarked keys)).mp read
      cases same

/-- A value that is read of a tree without the mark can be restored; null is read as no value. -/
theorem Unmarked.restorable {tree : Tree} (unmarked : tree.Unmarked) {value : Value}
    (read : tree.readOptionalValue = .ok (some value)) : value.Restorable := by
  obtain ⟨notNull, readTree⟩ := readOptionalValue_eq_some_iff.mp read
  refine ⟨?_, unmarked.plain_and_shallow readTree⟩
  rintro rfl
  exact notNull (unmarked.eq_null readTree)

end Json.Tree

namespace Wire

variable {found : List (String × Tree)} {tree : Tree} {doc : Doc}

/-! ## Documents without a mark -/

/-- If a tree says that it is an option, the mark of an embedded text is no key in its examples and
defaults. -/
def DocUnmarked (tree : Tree) : Prop :=
  ∀ found, HasEntries tree found → SayOption found →
    ∀ field : DocField, field.HoldsValue → ∀ value ∈ valuesOf field.name found, value.Unmarked

/-- Documentation that is read of values without the mark has values that can be restored. -/
theorem restorable_of_isDoc
    (unmarked : ∀ field : DocField, field.HoldsValue → ∀ value ∈ valuesOf field.name found,
      value.Unmarked) (isDoc : IsDoc found doc) : ∀ value ∈ doc.values, value.Restorable := by
  intro value isValue
  obtain ⟨field, holdsValue, tree, isTree, read⟩ := exists_tree_of_isDoc isDoc isValue
  exact (unmarked field holdsValue tree isTree).restorable read

/-- A node that is read of a tree without the mark has values that can be restored. -/
theorem restorable_of_isNode {node : Node} (unmarked : DocUnmarked tree) (isNode : IsNode tree node) :
    ∀ value ∈ node.doc.values, value.Restorable := by
  obtain ⟨gap, members, found, rfl, read, denotes⟩ := isNode_iff.mp isNode
  have fields (sayOption : SayOption found) :=
    unmarked found ⟨gap, members, rfl, read⟩ sayOption
  cases denotes with
  | module => exact List.forall_mem_nil _
  | unknown isEnvelope isOption _ isDocOrEmpty =>
      rcases isDocOrEmpty with isDoc | ⟨rfl, -⟩
      · exact restorable_of_isDoc (fields (isEnvelope.isOption_iff.mp isOption)) isDoc
      · exact List.forall_mem_nil _
  | known isEnvelope isOption _ _ isDoc =>
      exact restorable_of_isDoc (fields (isEnvelope.isOption_iff.mp isOption)) isDoc

/-- If the mark of an embedded text is no key in the examples and defaults of a document, the values
in the documentation of what is decoded from it can be restored. -/
theorem restorable_of_decode {bytes : ByteArray} {module : Module}
    (scanned : Tree.ofBytes? bytes = .ok tree) (unmarked : AtNodes DocUnmarked tree)
    (decoded : decode bytes = .ok module) :
    module.Everywhere fun part => ∀ value ∈ part.doc.values, value.Restorable := by
  obtain ⟨_, scanned', isModule⟩ := decode_eq_ok_iff.mp decoded
  rw [scanned, Except.ok.injEq] at scanned'
  subst scanned'
  intro part contained
  obtain ⟨name, steps, source, ⟨child, isEntry, reaches⟩, isNode⟩ :=
    exists_standsAt_of_contains isModule contained
  exact restorable_of_isNode (unmarked name child isEntry steps source reaches) isNode

/-- What is decoded from such a document is decoded again from what is written for it, if its doubles
are read back from their numerals. -/
theorem decode_encode_of_unmarked {bytes : ByteArray} {module : Module}
    (scanned : Tree.ofBytes? bytes = .ok tree) (unmarked : AtNodes DocUnmarked tree)
    (decoded : decode bytes = .ok module) (recovers : module.Everywhere Node.FloatsRecover) :
    decode (encode module).toUTF8 = .ok module ∧ decode (encodePretty module).toUTF8 = .ok module := by
  obtain ⟨ascending, isDecoded⟩ := isDecodedModule_of_decode decoded
  have restorable := restorable_of_decode scanned unmarked decoded
  have stable : module.Everywhere fun part => part.IsUntagged ∧ part.IsRestorable := by
    intro part contained
    refine ⟨(isDecoded part contained).untagged, ?_⟩
    rintro doc kind rfl -
    exact restorable _ contained
  have readBack := decode_document_self_iff ascending (writable_of_isDecoded isDecoded recovers)
  exact ⟨(readBack .compact).mpr stable, (readBack .indented).mpr stable⟩

end Wire

end OptionSchema
