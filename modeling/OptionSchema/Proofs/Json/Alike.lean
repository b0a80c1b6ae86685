import OptionSchema.Proofs.Json.Accept

/-!
# Trees with the same value

Two trees are alike if they differ in blanks, in the escapes of their strings and in the order of
the members of their objects. Texts and flags are read alike from such trees, whatever their order.
Values are, too, unless an object has the mark of an embedded text as its first key in one of the
trees only: main statement `Alike.readValue`.
-/

namespace OptionSchema.Json

open Dictionary (Matched keys ofPairs valuesOf)

/-- Trees with readable strings and distinct keys that say the same apart from blanks, escapes and
the order of members. -/
inductive Alike : Tree → Tree → Prop where
  | null : Alike .null .null
  | bool (value : Bool) : Alike (.bool value) (.bool value)
  | number (numeral : Numeral) : Alike (.number numeral) (.number numeral)
  | string {body body' : List Char} {text : String} :
      readString body = .ok text → readString body' = .ok text →
      Alike (.string body) (.string body')
  | array {gap gap' : List Char} {items items' : List (Padded Tree)} :
      items.length = items'.length →
      (∀ (index : Nat) (item item' : Padded Tree), items[index]? = some item →
        items'[index]? = some item' → Alike item.content item'.content) →
      Alike (.array gap items) (.array gap' items')
  | object {gap gap' : List Char} {members members' : List (Padded (List Char) × Padded Tree)}
      {found found' : List (String × Tree)} :
      entries members = .ok found → entries members' = .ok found' →
      (keys found).Nodup → (keys found).Perm (keys found') →
      (∀ name child child', (name, child) ∈ found → (name, child') ∈ found' → Alike child child') →
      Alike (.object gap members) (.object gap' members')

theorem Alike.symm {tree tree' : Tree} (alike : Alike tree tree') : Alike tree' tree := by
  induction alike with
  | null => exact .null
  | bool value => exact .bool value
  | number numeral => exact .number numeral
  | string read read' => exact .string read' read
  | array same _ ih =>
      exact .array same.symm fun index item item' isItem isItem' => ih index item' item isItem' isItem
  | object read read' distinct same _ ih =>
      exact .object read' read (same.nodup_iff.mp distinct) same.symm
        fun name child child' isEntry isEntry' => ih name child' child isEntry' isEntry

theorem Alike.layoutString (text : String) : Alike (Layout.string text) (Layout.string text) :=
  .string (readString_escape text) (readString_escape text)

/-! ## Entries of objects that are alike -/

/-- The entries of objects that are alike: their names are distinct and the same, and what stands
under each name is alike. -/
structure AlikeEntries (found found' : List (String × Tree)) : Prop where
  distinct : (keys found).Nodup
  same : (keys found).Perm (keys found')
  alike : ∀ name child child', (name, child) ∈ found → (name, child') ∈ found' → Alike child child'

/-- What is alike to an object is an object with alike entries. -/
theorem Alike.exists_entries {gap : List Char} {members : List (Padded (List Char) × Padded Tree)}
    {found : List (String × Tree)} {tree' : Tree} (alike : Alike (.object gap members) tree')
    (read : entries members = .ok found) :
    ∃ gap' members' found', tree' = .object gap' members' ∧ entries members' = .ok found' ∧
      AlikeEntries found found' := by
  cases alike with
  | object read₁ read' distinct same alike =>
      rw [read, Except.ok.injEq] at read₁
      subst read₁
      exact ⟨_, _, _, rfl, read', distinct, same, alike⟩

/-- What is alike to an array is an array with alike items. -/
theorem Alike.exists_items {gap : List Char} {items : List (Padded Tree)} {tree' : Tree}
    (alike : Alike (.array gap items) tree') :
    ∃ gap' items', tree' = .array gap' items' ∧ items.length = items'.length ∧
      ∀ (index : Nat) (item item' : Padded Tree), items[index]? = some item →
        items'[index]? = some item' → Alike item.content item'.content := by
  cases alike with
  | array same alike => exact ⟨_, _, rfl, same, alike⟩

namespace AlikeEntries

variable {found found' : List (String × Tree)} {name : String} {child : Tree}

theorem symm (alike : AlikeEntries found found') : AlikeEntries found' found :=
  ⟨alike.same.nodup_iff.mp alike.distinct, alike.same.symm,
    fun name child child' isEntry isEntry' => (alike.alike name child' child isEntry' isEntry).symm⟩

/-- Entries with distinct names are alike if they match one by one after a change of order. -/
theorem of_perm {sorted : List (String × Tree)} (distinct : (keys found).Nodup)
    (matched : Matched Alike found sorted) (perm : sorted.Perm found') :
    AlikeEntries found found' := by
  have distinct' : (keys sorted).Nodup := matched.keys_eq ▸ distinct
  refine ⟨distinct, matched.keys_eq ▸ perm.map Prod.fst, fun name child child' isEntry isEntry' => ?_⟩
  obtain ⟨partner, isPartner, same⟩ := matched.mem_left isEntry
  have isLast := (Dictionary.get?_ofPairs_iff distinct').mpr isPartner
  have isLast' := (Dictionary.get?_ofPairs_iff distinct').mpr (perm.mem_iff.mpr isEntry')
  rw [isLast, Option.some.injEq] at isLast'
  rw [← isLast']
  exact same

/-- Objects with alike entries are alike, however they are laid out. -/
theorem object {layout layout' : Layout} {depth depth' : Nat} (alike : AlikeEntries found found') :
    Alike (layout.object depth found) (layout'.object depth' found') :=
  .object (entries_padMembers found) (entries_padMembers found') alike.distinct alike.same alike.alike

theorem exists_entry (alike : AlikeEntries found found') (isEntry : (name, child) ∈ found) :
    ∃ child', (name, child') ∈ found' ∧ Alike child child' := by
  have isKey : name ∈ keys found' := alike.same.mem_iff.mp (Dictionary.mem_keys.mpr ⟨child, isEntry⟩)
  obtain ⟨child', isEntry'⟩ := Dictionary.mem_keys.mp isKey
  exact ⟨child', isEntry', alike.alike name child child' isEntry isEntry'⟩

/-- What is alike to an object with one member has one member. -/
theorem eq_singleton (alike : AlikeEntries [(name, child)] found') :
    ∃ child', found' = [(name, child')] ∧ Alike child child' := by
  have sameKeys : keys found' = [name] := (List.singleton_perm.mp alike.same).symm
  obtain ⟨⟨name', child'⟩, rfl, rfl⟩ := List.map_eq_singleton_iff.mp sameKeys
  exact ⟨child', rfl, alike.alike name' child child' (List.mem_singleton.mpr rfl)
    (List.mem_singleton.mpr rfl)⟩

/-- What is looked up in one object is alike to what is looked up in the other. -/
theorem get? (alike : AlikeEntries found found')
    (isLast : Dictionary.get? name (ofPairs found) = some child) :
    ∃ child', Dictionary.get? name (ofPairs found') = some child' ∧ Alike child child' := by
  rw [Dictionary.get?_ofPairs_iff alike.distinct] at isLast
  obtain ⟨child', isEntry', same⟩ := alike.exists_entry isLast
  exact ⟨child', (Dictionary.get?_ofPairs_iff alike.symm.distinct).mpr isEntry', same⟩

/-- A name is missing in both objects, or stands in both of them once. -/
theorem valuesOf_cases (alike : AlikeEntries found found') (name : String) :
    (valuesOf name found = [] ∧ valuesOf name found' = []) ∨
      ∃ child child', valuesOf name found = [child] ∧ valuesOf name found' = [child'] ∧
        Alike child child' := by
  rw [Dictionary.valuesOf_of_nodup alike.distinct, Dictionary.valuesOf_of_nodup alike.symm.distinct]
  cases looked : Dictionary.get? name (ofPairs found) with
  | some child =>
      obtain ⟨child', looked', same⟩ := alike.get? looked
      exact .inr ⟨child, child', rfl, by rw [looked']; rfl, same⟩
  | none =>
      cases looked' : Dictionary.get? name (ofPairs found') with
      | some child' =>
          obtain ⟨child, looked₁, -⟩ := alike.symm.get? looked'
          rw [looked] at looked₁
          cases looked₁
      | none => exact .inl ⟨rfl, rfl⟩

/-- What is read of the entries of one object is read of those of the other, name by name. -/
theorem matched {β : Type} {related related' : Tree → β → Prop} {results : List (String × β)}
    (alike : AlikeEntries found found')
    (each : ∀ name child child', Dictionary.get? name (ofPairs found) = some child →
      Dictionary.get? name (ofPairs found') = some child' → Alike child child' →
      ∀ result, related child result → related' child' result)
    (matched : Matched related (ofPairs found) results) :
    Matched related' (ofPairs found') results := by
  refine Dictionary.matched_of_get? (Dictionary.ascending_ofPairs found') ?_
    fun name child' result looked' isResult => ?_
  · rw [← matched.keys_eq, Dictionary.keys_ofPairs_eq alike.same]
  · obtain ⟨child, looked, same⟩ := alike.symm.get? looked'
    obtain ⟨result', isResult', holds⟩ := matched.get?_left looked
    rw [isResult, Option.some.injEq] at isResult'
    rw [isResult']
    exact each name child child' looked looked' same.symm result' holds

/-- If each entry of one object is read as what that of the other is read as, both objects are read
as the same dictionary. -/
theorem exists_matched {β : Type} {related related' : Tree → β → Prop} {values : List (String × β)}
    (alike : AlikeEntries found found')
    (functional : ∀ child value value', related' child value → related' child value' →
      value = value')
    (each : ∀ name child child', (name, child) ∈ found → (name, child') ∈ found' →
      ∀ value, related child value → related' child' value)
    (matched : Matched related found values) :
    ∃ values', Matched related' found' values' ∧ ofPairs values' = ofPairs values := by
  have every : ∀ entry ∈ found', ∃ value, related' entry.2 value := by
    rintro ⟨name, child'⟩ isEntry'
    obtain ⟨child, isEntry, -⟩ := alike.symm.exists_entry isEntry'
    obtain ⟨value, -, holds⟩ := matched.mem_left isEntry
    exact ⟨value, each name child child' isEntry isEntry' value holds⟩
  obtain ⟨values', matched'⟩ := Dictionary.exists_matched_iff.mpr every
  have carried : Matched related' (ofPairs found') (ofPairs values) :=
    alike.matched (fun name child child' looked looked' _ =>
      each name child child' ((Dictionary.get?_ofPairs_iff alike.distinct).mp looked)
        ((Dictionary.get?_ofPairs_iff alike.symm.distinct).mp looked')) matched.ofPairs
  exact ⟨values', matched', Matched.unique functional matched'.ofPairs carried⟩

end AlikeEntries

/-- What is read of the items of one array is read of those of the other, one by one. -/
theorem forall₂_content {β : Type} {related related' : Tree → β → Prop}
    {items items' : List (Padded Tree)} {results : List β} (same : items.length = items'.length)
    (each : ∀ (index : Nat) (item item' : Padded Tree), items[index]? = some item →
      items'[index]? = some item' → ∀ result, related item.content result → related' item'.content result)
    (matched : List.Forall₂ related (items.map Padded.content) results) :
    List.Forall₂ related' (items'.map Padded.content) results := by
  rw [List.forall₂_map_left_iff, List.forall₂_iff_get] at matched ⊢
  refine ⟨same.symm.trans matched.1, fun index bound' boundResult => ?_⟩
  have bound : index < items.length := by omega
  exact each index items[index] items'[index] (List.getElem?_eq_getElem bound)
    (List.getElem?_eq_getElem bound') _ (matched.2 index bound boundResult)

/-! ## Reading texts and flags -/

namespace Alike

variable {tree tree' : Tree}

theorem readBool {value : Bool} (alike : Alike tree tree') (read : tree.readBool = .ok value) :
    tree'.readBool = .ok value := by
  rw [Tree.readBool_eq_ok_iff] at read
  subst read
  cases alike
  rfl

theorem readText {text : String} (alike : Alike tree tree') (read : tree.readText = .ok text) :
    tree'.readText = .ok text := by
  obtain ⟨body, rfl, readBody⟩ := Tree.readText_eq_ok_iff.mp read
  cases alike with
  | string read₁ read' =>
      rw [readBody] at read₁
      cases read₁
      exact read'

theorem readOptionalText {text : Option String} (alike : Alike tree tree')
    (read : tree.readOptionalText = .ok text) : tree'.readOptionalText = .ok text := by
  rw [Tree.readOptionalText_eq_ok_iff] at read ⊢
  rcases read with ⟨rfl, rfl⟩ | ⟨name, readName, rfl⟩
  · cases alike
    exact .inl ⟨rfl, rfl⟩
  · exact .inr ⟨name, alike.readText readName, rfl⟩

theorem readTexts {texts : List String} (alike : Alike tree tree')
    (read : tree.readTexts = .ok texts) : tree'.readTexts = .ok texts := by
  simp only [Tree.readTexts, Outcome.bind_eq_ok, Tree.readArray_eq_ok_iff, Outcome.mapM_eq_ok]
    at read ⊢
  obtain ⟨_, ⟨gap, items, rfl, rfl⟩, matched⟩ := read
  obtain ⟨gap', items', rfl, same, alike⟩ := alike.exists_items
  exact ⟨_, ⟨gap', items', rfl, rfl⟩, forall₂_content same
    (fun index item item' isItem isItem' _ => (alike index item item' isItem isItem').readText)
    matched⟩

end Alike

/-! ## Reading values -/

/-- A tree in which every object with the mark of an embedded text as its first key has no other
key. -/
inductive Tree.MarksAlone : Tree → Prop where
  | null : MarksAlone .null
  | bool (value : Bool) : MarksAlone (.bool value)
  | number (numeral : Numeral) : MarksAlone (.number numeral)
  | string (body : List Char) : MarksAlone (.string body)
  | array {gap : List Char} {items : List (Padded Tree)} :
      (∀ item ∈ items, MarksAlone item.content) → MarksAlone (.array gap items)
  | object {gap : List Char} {members : List (Padded (List Char) × Padded Tree)} :
      (embeddedTree? members ≠ none → members.length = 1) →
      (∀ member ∈ members, MarksAlone member.2.content) → MarksAlone (.object gap members)

section

variable {levels : Nat} {gap : List Char} {members : List (Padded (List Char) × Padded Tree)}
  {found : List (String × Tree)} {value : Value}

theorem length_of_entries (read : entries members = .ok found) : members.length = found.length :=
  (Outcome.mapM_eq_ok.mp read).length_eq

/-- The keys of an object that has a value can be read. -/
theorem exists_entries_of_readValue
    (read : readValue (levels + 1) (.object gap members) = .ok value) :
    ∃ found, entries members = .ok found := by
  cases marked : embeddedTree? members with
  | none =>
      obtain ⟨found, _, readEntries, -⟩ := (readValue_object_eq_ok_iff marked).mp read
      exact ⟨found, readEntries⟩
  | some tree =>
      rw [readValue, marked] at read
      obtain ⟨alone, -⟩ := readEmbedded_eq_ok_iff.mp read
      obtain ⟨⟨key, padded⟩, rfl⟩ := List.length_eq_one_iff.mp (beq_iff_eq.mp alone)
      rw [embeddedTree?] at marked
      split at marked
      · next name readKey =>
          exact ⟨_, entries_cons.mpr ⟨name, [], readKey, entries_nil.mpr rfl, rfl⟩⟩
      · cases marked

/-- An object stands for an embedded text, alone under its mark, or for the dictionary of its
entries. -/
theorem readValue_object_iff (read : entries members = .ok found) :
    readValue (levels + 1) (.object gap members) = .ok value ↔
      (∃ child text, found = [(embeddingMark, child)] ∧ child.readText = .ok text ∧
        Value.ofText text = .ok value) ∨
      embeddedTree? members = none ∧
        ∃ values, Matched (fun tree value => readValue levels tree = .ok value) found values ∧
          value = .object (ofPairs values) := by
  cases marked : embeddedTree? members with
  | none =>
      rw [readValue_object_eq_ok_iff marked, read]
      simp only [Except.ok.injEq, exists_and_left, exists_eq_left', true_and]
      refine (or_iff_right ?_).symm
      rintro ⟨child, rfl, -⟩
      simp [embeddedTree?_of_entries read] at marked
  | some tree =>
      rw [readValue, marked]
      simp only [readEmbedded_eq_ok_iff, beq_iff_eq, length_of_entries read, reduceCtorEq,
        false_and, or_false, List.length_eq_one_iff]
      rw [embeddedTree?_of_entries read] at marked
      constructor
      · rintro ⟨⟨⟨name, child⟩, rfl⟩, text, readText, readEmbedded⟩
        simp only [List.head?_cons, Option.bind_some] at marked
        split at marked
        · next isMark =>
            cases marked
            cases isMark
            exact ⟨tree, text, rfl, readText, readEmbedded⟩
        · cases marked
      · rintro ⟨child, text, rfl, readText, readEmbedded⟩
        simp only [List.head?_cons, Option.bind_some, if_true, Option.some.injEq] at marked
        subst marked
        exact ⟨⟨_, rfl⟩, text, readText, readEmbedded⟩

end

/-- An object does not look like an embedded text if one that is alike does not, and if the mark of
an embedded text stands alone in it. -/
theorem AlikeEntries.embeddedTree?_eq_none
    {members members' : List (Padded (List Char) × Padded Tree)} {found found' : List (String × Tree)}
    (alike : AlikeEntries found found') (read : entries members = .ok found)
    (read' : entries members' = .ok found')
    (single : embeddedTree? members' ≠ none → members'.length = 1)
    (unmarked : embeddedTree? members = none) : embeddedTree? members' = none := by
  by_contra marked
  have length := (length_of_entries read').symm.trans (single marked)
  obtain ⟨⟨name, child'⟩, rfl⟩ := List.length_eq_one_iff.mp length
  obtain ⟨child, rfl, -⟩ := alike.symm.eq_singleton
  rw [embeddedTree?_of_entries read'] at marked
  rw [embeddedTree?_of_entries read] at unmarked
  simp_all

/-- In a tree that has a value the mark of an embedded text stands alone. -/
theorem Tree.marksAlone_of_readValue {tree : Tree} {levels : Nat} {value : Value}
    (read : readValue levels tree = .ok value) : tree.MarksAlone := by
  induction tree using Tree.induction generalizing levels value with
  | null => exact .null
  | bool flag => exact .bool flag
  | number numeral => exact .number numeral
  | string body => exact .string body
  | array gap items ih =>
      cases levels with
      | zero => cases read
      | succ levels =>
          have each := exists_readValue_array_iff.mp ⟨value, read⟩
          exact .array fun item member => ih item member (each item member).choose_spec
  | object gap members ih =>
      cases levels with
      | zero => cases read
      | succ levels =>
          obtain ⟨found, readEntries⟩ := exists_entries_of_readValue read
          rcases (readValue_object_iff readEntries).mp read with
            ⟨child, text, rfl, readText, -⟩ | ⟨unmarked, values, matched, -⟩
          · obtain ⟨body, rfl, -⟩ := Tree.readText_eq_ok_iff.mp readText
            exact .object (fun _ => length_of_entries readEntries)
              ((forall_entries_iff readEntries Tree.MarksAlone).mp
                (List.forall_mem_singleton.mpr (.string body)))
          · have each : ∀ entry ∈ found, ∃ value, readValue levels entry.2 = .ok value :=
              fun entry isEntry => (matched.mem_left isEntry).imp fun _ holds => holds.2
            rw [forall_entries_iff readEntries fun tree => ∃ value, readValue levels tree = .ok value]
              at each
            exact .object (fun marked => absurd unmarked marked) fun member isMember =>
              ih member isMember (each member isMember).choose_spec

/-- Values are read alike from trees that are alike, if the mark of an embedded text stands alone. -/
theorem Alike.readValue {tree tree' : Tree} (alike : Alike tree tree') (marks : tree'.MarksAlone)
    {levels : Nat} {value : Value} (read : readValue levels tree = .ok value) :
    Json.readValue levels tree' = .ok value := by
  induction alike generalizing levels value with
  | null => exact read
  | bool => exact read
  | number => exact read
  | string readBody readBody' =>
      rw [Json.readValue, readBody] at read
      rw [Json.readValue, readBody']
      exact read
  | array same _ ih =>
      cases marks with
      | array marks =>
          cases levels with
          | zero => cases read
          | succ levels =>
              rw [Json.readValue, Outcome.map_eq_ok] at read ⊢
              obtain ⟨values, read, rfl⟩ := read
              rw [readItems_eq_ok_iff] at read
              refine ⟨values, readItems_eq_ok_iff.mpr ?_, rfl⟩
              exact forall₂_content same (fun index item item' isItem isItem' result =>
                ih index item item' isItem isItem' (marks item' (List.mem_of_getElem? isItem'))) read
  | @object _ _ members members' found found' readEntries readEntries' distinct same alike ih =>
      have alike : AlikeEntries found found' := ⟨distinct, same, alike⟩
      cases marks with
      | object single marks =>
          cases levels with
          | zero => cases read
          | succ levels =>
              rw [readValue_object_iff readEntries] at read
              rw [readValue_object_iff readEntries']
              rcases read with
                ⟨child, text, rfl, readText, readEmbedded⟩ | ⟨unmarked, values, matched, rfl⟩
              · obtain ⟨child', rfl, alikeChild⟩ := alike.eq_singleton
                exact .inl ⟨child', text, rfl, alikeChild.readText readText, readEmbedded⟩
              · have marks : ∀ entry ∈ found', entry.2.MarksAlone :=
                  (forall_entries_iff readEntries' Tree.MarksAlone).mpr marks
                have functional (tree : Tree) (value value' : Value)
                    (read : Json.readValue levels tree = .ok value)
                    (read' : Json.readValue levels tree = .ok value') : value = value' :=
                  Except.ok.inj (read.symm.trans read')
                obtain ⟨values', matched', sameValues⟩ := alike.exists_matched functional
                  (fun name child child' isEntry isEntry' _ =>
                    ih name child child' isEntry isEntry' (marks _ isEntry')) matched
                exact .inr ⟨alike.embeddedTree?_eq_none readEntries readEntries' single unmarked,
                  values', matched', by rw [sameValues]⟩

theorem Tree.marksAlone_of_readOptionalValue {tree : Tree} {value : Option Value}
    (read : tree.readOptionalValue = .ok value) : tree.MarksAlone := by
  by_cases null : tree = .null
  · subst null
    exact .null
  · rw [readOptionalValue_of_ne_null null, Outcome.map_eq_ok] at read
    obtain ⟨value, read, -⟩ := read
    exact marksAlone_of_readValue read

theorem Alike.readOptionalValue {tree tree' : Tree} (alike : Alike tree tree')
    (marks : tree'.MarksAlone) {value : Option Value} (read : tree.readOptionalValue = .ok value) :
    tree'.readOptionalValue = .ok value := by
  by_cases null : tree = .null
  · subst null
    cases alike
    exact read
  · have null' : tree' ≠ .null := by
      rintro rfl
      cases alike
      exact null rfl
    rw [Tree.readOptionalValue_of_ne_null null, Outcome.map_eq_ok] at read
    rw [Tree.readOptionalValue_of_ne_null null', Outcome.map_eq_ok]
    obtain ⟨value, read, rfl⟩ := read
    exact ⟨value, alike.readValue marks read, rfl⟩

end OptionSchema.Json
