import OptionSchema.Json.Read
import OptionSchema.Proofs.Json.Embedded

/-!
# Reading values, and reading them back

A tree that has a value has a proper one (`readValue_proper`). Main statement:
`readValue_tree_eq_ok_iff`. A value is read back from its own tree exactly if it has no more levels
than allowed and no object within it looks like an embedded text; another value than the one that
was written is never read from its tree (`readValue_tree_inv`).
-/

namespace OptionSchema.Json

variable {levels depth : Nat} {layout : Layout}

/-! ## Trees of one kind -/

section

variable {tree : Tree}

theorem Tree.mismatch_ne_ok {α : Type} (tree : Tree) (expected : Expected) (a : α) :
    tree.mismatch expected ≠ .ok a := by
  intro read
  obtain ⟨_, -, same⟩ := Outcome.bind_eq_ok.mp read
  cases same

theorem Tree.readBool_eq_ok_iff {value : Bool} : tree.readBool = .ok value ↔ tree = .bool value := by
  cases tree with
  | bool other => simp [Tree.readBool]
  | _ => exact iff_of_false (Tree.mismatch_ne_ok _ _ _) nofun

theorem Tree.readText_eq_ok_iff {text : String} :
    tree.readText = .ok text ↔ ∃ body, tree = .string body ∧ readString body = .ok text := by
  cases tree with
  | string body => simp [Tree.readText]
  | _ =>
      refine iff_of_false (Tree.mismatch_ne_ok _ _ _) ?_
      rintro ⟨_, same, -⟩
      cases same

theorem Tree.readOptionalText_eq_ok_iff {text : Option String} :
    tree.readOptionalText = .ok text ↔ (tree = .null ∧ text = none) ∨
      ∃ name, tree.readText = .ok name ∧ text = some name := by
  cases tree with
  | null =>
      constructor
      · intro same
        cases same
        exact .inl ⟨rfl, rfl⟩
      · rintro (⟨-, rfl⟩ | ⟨name, read, -⟩)
        · rfl
        · exact absurd read (Tree.mismatch_ne_ok _ _ _)
  | _ =>
      simp only [Tree.readOptionalText, Outcome.map_eq_ok, reduceCtorEq, false_and, false_or]
      exact exists_congr fun name => and_congr_right fun _ => eq_comm

theorem Tree.readArray_eq_ok_iff {items : List Tree} :
    tree.readArray = .ok items ↔ ∃ gap padded, tree = .array gap padded ∧
      items = padded.map Padded.content := by
  cases tree with
  | array gap padded =>
      simp only [Tree.readArray, Except.ok.injEq]
      constructor
      · rintro rfl
        exact ⟨gap, padded, rfl, rfl⟩
      · rintro ⟨_, _, same, rfl⟩
        cases same
        rfl
  | _ =>
      refine iff_of_false (Tree.mismatch_ne_ok _ _ _) ?_
      rintro ⟨_, _, same, -⟩
      cases same

end

/-! ## Reading lists of items and members -/

theorem readItems_nil (levels : Nat) : readItems levels [] = .ok [] :=
  rfl

theorem readItems_cons (levels : Nat) (item : Padded Tree) (rest : List (Padded Tree)) :
    readItems levels (item :: rest) = (do
      let value ← readValue levels item.content
      let values ← readItems levels rest
      return value :: values) :=
  rfl

theorem readMembers_nil (levels : Nat) (dictionary : List (String × Value)) :
    readMembers levels dictionary [] = .ok dictionary :=
  rfl

theorem readMembers_cons (levels : Nat) (dictionary : List (String × Value))
    (key : Padded (List Char)) (value : Padded Tree)
    (rest : List (Padded (List Char) × Padded Tree)) :
    readMembers levels dictionary ((key, value) :: rest) = (do
      let name ← readString key.content
      let value ← readValue levels value.content
      readMembers levels (Dictionary.insert name value dictionary) rest) :=
  rfl

theorem readValue_numeral (levels : Nat) (numeral : Numeral) :
    readValue levels (.number numeral) = (readNumber numeral).map .number :=
  rfl

theorem readValue_array (levels : Nat) (gap : List Char) (items : List (Padded Tree)) :
    readValue (levels + 1) (.array gap items) = (readItems levels items).map .array :=
  rfl

theorem readValue_object (levels : Nat) (gap : List Char)
    (members : List (Padded (List Char) × Padded Tree)) :
    readValue (levels + 1) (.object gap members) =
      match embeddedTree? members with
      | some tree => readEmbedded tree (members.length == 1)
      | none => (readMembers levels [] members).map .object :=
  rfl

theorem readItems_eq_ok_iff {items : List (Padded Tree)} {values : List Value} :
    readItems levels items = .ok values ↔
      List.Forall₂ (fun tree value => readValue levels tree = .ok value)
        (items.map Padded.content) values := by
  induction items generalizing values with
  | nil =>
      rw [readItems_nil, List.map_nil, List.forall₂_nil_left_iff, Except.ok.injEq]
      exact eq_comm
  | cons item rest ih =>
      simp only [readItems_cons, Outcome.bind_eq_ok, Outcome.pure_eq_ok, ih, List.map_cons,
        List.forall₂_cons_left_iff]
      constructor
      · rintro ⟨value, first, others, later, rfl⟩
        exact ⟨value, others, first, later, rfl⟩
      · rintro ⟨value, others, first, later, rfl⟩
        exact ⟨value, first, others, later, rfl⟩

theorem readMembers_eq_ok_iff {dictionary result : List (String × Value)}
    {members : List (Padded (List Char) × Padded Tree)} :
    readMembers levels dictionary members = .ok result ↔
      ∃ found values, entries members = .ok found ∧
        Dictionary.Matched (fun tree value => readValue levels tree = .ok value) found values ∧
        result = values.foldl (fun read pair => Dictionary.insert pair.1 pair.2 read) dictionary := by
  induction members generalizing dictionary with
  | nil =>
      simp only [readMembers_nil, Except.ok.injEq, entries_nil, Dictionary.Matched]
      constructor
      · rintro rfl
        exact ⟨[], [], rfl, .nil, rfl⟩
      · rintro ⟨_, values, rfl, matched, rfl⟩
        cases matched
        rfl
  | cons member rest ih =>
      obtain ⟨key, value⟩ := member
      simp only [readMembers_cons, Outcome.bind_eq_ok, ih, entries_cons]
      constructor
      · rintro ⟨name, readKey, value, readFirst, found, values, readRest, matched, rfl⟩
        exact ⟨_, (name, value) :: values, ⟨name, found, readKey, readRest, rfl⟩,
          .cons ⟨rfl, readFirst⟩ matched, rfl⟩
      · rintro ⟨_, values, ⟨name, found, readKey, readRest, rfl⟩, matched, rfl⟩
        cases matched with
        | cons same matched =>
            obtain ⟨rfl, readFirst⟩ := same
            exact ⟨_, readKey, _, readFirst, found, _, readRest, matched, rfl⟩

/-- An embedded text is that of the first entry, if its key is the mark. -/
theorem embeddedTree?_of_entries {members : List (Padded (List Char) × Padded Tree)}
    {found : List (String × Tree)} (read : entries members = .ok found) :
    embeddedTree? members =
      found.head?.bind fun entry => if entry.1 = embeddingMark then some entry.2 else none := by
  cases members with
  | nil =>
      rw [entries_nil.mp read]
      rfl
  | cons member rest =>
      obtain ⟨key, value⟩ := member
      obtain ⟨name, others, readKey, -, rfl⟩ := entries_cons.mp read
      simp only [embeddedTree?, readKey]
      rfl

/-- What an embedded text stands for is the value of that text, if it is alone in its object. -/
theorem readEmbedded_eq_ok_iff {tree : Tree} {alone : Bool} {value : Value} :
    readEmbedded tree alone = .ok value ↔
      alone = true ∧ ∃ text, tree.readText = .ok text ∧ Value.ofText text = .ok value := by
  cases tree with
  | string body =>
      simp only [readEmbedded, Tree.readText, Outcome.bind_eq_ok]
      constructor
      · rintro ⟨text, readBody, found, readText, read⟩
        split at read
        · next isAlone =>
            cases read
            exact ⟨isAlone, text, readBody, readText⟩
        · cases read
      · rintro ⟨rfl, text, readBody, readText⟩
        exact ⟨text, readBody, value, readText, rfl⟩
  | _ =>
      refine iff_of_false (Tree.mismatch_ne_ok _ _ _) ?_
      rintro ⟨-, text, read, -⟩
      exact Tree.mismatch_ne_ok _ _ _ read

/-- The value of an array is that of its items, which have one level less. -/
theorem readValue_array_eq_ok_iff {gap : List Char} {items : List (Padded Tree)} {value : Value} :
    readValue levels (.array gap items) = .ok value ↔
      ∃ less values, levels = less + 1 ∧ value = .array values ∧
        List.Forall₂ (fun tree value => readValue less tree = .ok value)
          (items.map Padded.content) values := by
  cases levels with
  | zero =>
      refine iff_of_false ?_ (by simp)
      intro read
      cases read
  | succ levels =>
      simp only [readValue_array, Outcome.map_eq_ok, readItems_eq_ok_iff]
      constructor
      · rintro ⟨values, matched, rfl⟩
        exact ⟨levels, values, rfl, rfl, matched⟩
      · rintro ⟨less, values, same, rfl, matched⟩
        cases same
        exact ⟨values, matched, rfl⟩

/-- The value of an object without an embedded text is the dictionary of its entries. -/
theorem readValue_object_eq_ok_iff {gap : List Char}
    {members : List (Padded (List Char) × Padded Tree)} {value : Value}
    (plain : embeddedTree? members = none) :
    readValue (levels + 1) (.object gap members) = .ok value ↔
      ∃ found values, entries members = .ok found ∧
        Dictionary.Matched (fun tree value => readValue levels tree = .ok value) found values ∧
        value = .object (Dictionary.ofPairs values) := by
  rw [readValue_object, plain]
  simp only [Outcome.map_eq_ok, readMembers_eq_ok_iff]
  constructor
  · rintro ⟨_, ⟨found, values, read, matched, rfl⟩, rfl⟩
    exact ⟨found, values, read, matched, rfl⟩
  · rintro ⟨found, values, read, matched, rfl⟩
    exact ⟨_, ⟨found, values, read, matched, rfl⟩, rfl⟩

/-! ## What reading yields -/

/-- Entries without an embedded text do not make an object with just the key of one. -/
theorem unmarked_of_entries {members : List (Padded (List Char) × Padded Tree)}
    {found : List (String × Tree)} {values : List (String × Value)}
    (read : entries members = .ok found) (plain : embeddedTree? members = none)
    (same : Dictionary.keys found = Dictionary.keys values) :
    Dictionary.keys (Dictionary.ofPairs values) ≠ [embeddingMark] := by
  intro marked
  rw [embeddedTree?_of_entries read] at plain
  cases found with
  | nil =>
      have member : embeddingMark ∈ Dictionary.keys (Dictionary.ofPairs values) := by simp [marked]
      rw [Dictionary.mem_keys_ofPairs, ← same] at member
      cases member
  | cons entry rest =>
      have member : entry.1 ∈ Dictionary.keys (Dictionary.ofPairs values) := by
        rw [Dictionary.mem_keys_ofPairs, ← same]
        simp
      rw [marked, List.mem_singleton] at member
      simp [member] at plain

/-- Reading yields proper values. -/
theorem readValue_proper {tree : Tree} {value : Value} (read : readValue levels tree = .ok value) :
    value.Proper := by
  induction tree using Tree.induction generalizing levels value with
  | null =>
      cases read
      exact Value.everywhere_of_parts_eq_nil trivial rfl
  | bool flag =>
      cases read
      exact Value.everywhere_of_parts_eq_nil trivial rfl
  | number numeral =>
      obtain ⟨number, -, rfl⟩ := Outcome.map_eq_ok.mp read
      exact Value.everywhere_of_parts_eq_nil trivial rfl
  | string body =>
      obtain ⟨text, -, rfl⟩ := Outcome.map_eq_ok.mp read
      exact Value.everywhere_of_parts_eq_nil trivial rfl
  | array gap items ih =>
      obtain ⟨_, values, rfl, rfl, matched⟩ := readValue_array_eq_ok_iff.mp read
      rw [List.forall₂_map_left_iff] at matched
      refine Value.proper_array.mpr fun value member => ?_
      obtain ⟨item, isItem, readItem⟩ := Outcome.exists_item matched member
      exact ih item isItem readItem
  | object gap members ih =>
      cases levels with
      | zero => cases read
      | succ levels =>
          cases embedded : embeddedTree? members with
          | some tree =>
              rw [readValue_object, embedded] at read
              obtain ⟨-, text, -, readText⟩ := readEmbedded_eq_ok_iff.mp read
              exact Value.ofText_proper readText
          | none =>
              obtain ⟨found, values, readEntries, matched, rfl⟩ :=
                (readValue_object_eq_ok_iff embedded).mp read
              refine Value.proper_object.mpr
                ⟨⟨Dictionary.ascending_ofPairs values, ?_⟩, fun member isMember => ?_⟩
              · exact unmarked_of_entries readEntries embedded matched.keys_eq
              · obtain ⟨tree, isEntry, readTree⟩ :=
                  matched.mem_right (Dictionary.mem_of_mem_ofPairs isMember)
                obtain ⟨written, isWritten, -, rfl⟩ := mem_of_entries readEntries isEntry
                exact ih written isWritten readTree

/-! ## Reading values that may be missing -/

theorem Tree.readOptionalValue_of_ne_null {tree : Tree} (nonNull : tree ≠ .null) :
    tree.readOptionalValue = (readValue depthLimit tree).map some := by
  cases tree with
  | null => exact absurd rfl nonNull
  | _ => rfl

theorem Tree.readOptionalValue_eq_some_iff {tree : Tree} {value : Value} :
    tree.readOptionalValue = .ok (some value) ↔
      tree ≠ .null ∧ readValue depthLimit tree = .ok value := by
  by_cases null : tree = .null
  · subst null
    exact iff_of_false nofun fun both => both.1 rfl
  · rw [readOptionalValue_of_ne_null null, Outcome.map_eq_ok]
    constructor
    · rintro ⟨_, read, same⟩
      cases same
      exact ⟨null, read⟩
    · rintro ⟨-, read⟩
      exact ⟨value, read, rfl⟩

/-! ## Reading values back -/

/-- A number that is not a double that gets lost is read back. -/
theorem readValue_number {number : Number}
    (recovers : ∀ x, number = .float x → Value.Recovers x) :
    readValue levels number.tree = .ok (.number number) := by
  cases number with
  | integer value fits =>
      change (readNumber (Number.integer value fits).numeral).map Value.number = _
      rw [readNumber_integer]
      rfl
  | float x =>
      obtain ⟨finite, readBack⟩ := recovers x rfl
      rw [Value.tree_float, if_pos finite, readValue_numeral, readBack]
      rfl

theorem embeddedTree?_padMembers (members : List (String × Value)) :
    embeddedTree? (layout.padMembers depth (members.map fun member =>
      (member.1, member.2.tree layout (depth + 1)))) =
      members.head?.bind fun member =>
        if member.1 = embeddingMark then some (member.2.tree layout (depth + 1)) else none := by
  rw [embeddedTree?_of_entries (entries_padMembers _)]
  cases members <;> rfl

theorem embeddedTree?_eq_none_iff {members : List (String × Value)} :
    embeddedTree? (layout.padMembers depth (members.map fun member =>
      (member.1, member.2.tree layout (depth + 1)))) = none ↔
      ¬ (Value.object members).IsMarked := by
  rw [embeddedTree?_padMembers]
  cases members with
  | nil => simp [Value.IsMarked]
  | cons member rest => simp [Value.IsMarked]

/-- The items of an array are read one by one from its tree. -/
theorem readValue_tree_array {items : List Value} {value : Value} :
    readValue levels ((Value.array items).tree layout depth) = .ok value ↔
      ∃ less values, levels = less + 1 ∧ value = .array values ∧
        List.Forall₂ (fun item value => readValue less (item.tree layout (depth + 1)) = .ok value)
          items values := by
  rw [Value.tree, Value.itemTrees_eq_map, Layout.array, readValue_array_eq_ok_iff]
  simp only [map_content_padItems, List.forall₂_map_left_iff]

/-- The members of an object that does not look like an embedded text are read one by one from its
tree. -/
theorem readValue_tree_object {members : List (String × Value)} {value : Value}
    (ascending : Dictionary.Ascending members) (unmarked : ¬ (Value.object members).IsMarked) :
    readValue levels ((Value.object members).tree layout depth) = .ok value ↔
      ∃ less values, levels = less + 1 ∧ value = .object values ∧
        Dictionary.Matched
          (fun member value => readValue less (member.tree layout (depth + 1)) = .ok value)
          members values := by
  rw [Value.tree, Value.memberTrees_eq_map]
  cases levels with
  | zero =>
      refine iff_of_false ?_ (by simp)
      intro read
      cases read
  | succ levels =>
      rw [Layout.object, readValue_object_eq_ok_iff (embeddedTree?_eq_none_iff.mpr unmarked)]
      simp only [entries_padMembers, Except.ok.injEq]
      constructor
      · rintro ⟨_, values, rfl, matched, rfl⟩
        rw [Dictionary.matched_map_left_iff] at matched
        have same := (ascending.of_keys_eq matched.keys_eq.symm).ofPairs_eq
        exact ⟨levels, values, rfl, by rw [same], matched⟩
      · rintro ⟨less, values, same, rfl, matched⟩
        cases same
        have same := (ascending.of_keys_eq matched.keys_eq.symm).ofPairs_eq
        exact ⟨_, values, rfl, Dictionary.matched_map_left_iff.mpr matched, by rw [same]⟩

/-- A value within the limits is read back from its tree. -/
theorem readValue_tree {value : Value} (ordered : value.Ordered)
    (recovers : value.FloatsRecover) (plain : value.Plain) (shallow : value.depth ≤ levels) :
    readValue levels (value.tree layout depth) = .ok value := by
  induction value using Value.induction generalizing levels depth with
  | step value ih =>
      obtain ⟨isAscending, orderedParts⟩ := Value.everywhere_iff.mp ordered
      obtain ⟨unmarked, plainParts⟩ := Value.everywhere_iff.mp plain
      have inner (part : Value) (member : part ∈ value.parts) (less : Nat) (deep : part.depth ≤ less) :
          readValue less (part.tree layout (depth + 1)) = .ok part :=
        ih part member (orderedParts part member)
          (fun x within => recovers x (.inside member within)) (plainParts part member) deep
      cases value with
      | null => rfl
      | bool flag => rfl
      | number number => exact readValue_number fun x same => recovers x (same ▸ .self)
      | string text =>
          change (readString (escape text.toList)).map Value.string = _
          rw [readString_escape]
          rfl
      | array items =>
          obtain ⟨less, rfl⟩ : ∃ less, levels = less + 1 :=
            Nat.exists_eq_succ_of_ne_zero (Nat.ne_of_gt (Nat.lt_of_lt_of_le (Nat.succ_pos _) shallow))
          have deep := Value.itemsDepth_le_iff.mp (Nat.le_of_succ_le_succ shallow)
          refine readValue_tree_array.mpr ⟨less, items, rfl, rfl, List.forall₂_same.mpr ?_⟩
          exact fun item member => inner item member less (deep item member)
      | object members =>
          obtain ⟨less, rfl⟩ : ∃ less, levels = less + 1 :=
            Nat.exists_eq_succ_of_ne_zero (Nat.ne_of_gt (Nat.lt_of_lt_of_le (Nat.succ_pos _) shallow))
          have deep := Value.membersDepth_le_iff.mp (Nat.le_of_succ_le_succ shallow)
          refine (readValue_tree_object isAscending unmarked).mpr
            ⟨less, members, rfl, rfl, Dictionary.matched_self_iff.mpr ?_⟩
          exact fun member isMember =>
            inner member.2 (List.mem_map_of_mem isMember) less (deep member isMember)

/-- An object that looks like an embedded text is not read as an object, unless it has another
member. -/
theorem readValue_tree_marked {members : List (String × Value)} {found : Value}
    (marked : (Value.object members).IsMarked)
    (read : readValue levels ((Value.object members).tree layout depth) = .ok found) :
    Dictionary.keys members = [embeddingMark] := by
  rw [Value.tree, Value.memberTrees_eq_map] at read
  cases levels with
  | zero => cases read
  | succ levels =>
      rw [Layout.object, readValue_object] at read
      split at read
      · have alone := (readEmbedded_eq_ok_iff.mp read).1
        rw [length_padMembers, List.length_map, beq_iff_eq, List.length_eq_one_iff] at alone
        obtain ⟨member, rfl⟩ := alone
        rw [Value.IsMarked, Dictionary.keys_cons, List.head?_cons, Option.some.injEq] at marked
        rw [Dictionary.keys_cons, marked]
        rfl
      · next plain => exact absurd marked (embeddedTree?_eq_none_iff.mp plain)

/-- Nothing but the value itself is read from the tree of a proper value. -/
theorem readValue_tree_inv {value found : Value} (proper : value.Proper)
    (recovers : value.FloatsRecover) (read : readValue levels (value.tree layout depth) = .ok found) :
    found = value ∧ value.Plain ∧ value.depth ≤ levels := by
  induction value using Value.induction generalizing levels depth found with
  | step value ih =>
      obtain ⟨isProper, properParts⟩ := Value.everywhere_iff.mp proper
      have inner (part : Value) (member : part ∈ value.parts) {less : Nat} {other : Value}
          (read : readValue less (part.tree layout (depth + 1)) = .ok other) :
          other = part ∧ part.Plain ∧ part.depth ≤ less :=
        ih part member (properParts part member)
          (fun x within => recovers x (.inside member within)) read
      have leaf (noParts : value.parts = []) (unmarked : ¬ value.IsMarked) (flat : value.depth = 0) :
          found = value ∧ value.Plain ∧ value.depth ≤ levels := by
        have plain : value.Plain := Value.everywhere_of_parts_eq_nil unmarked noParts
        have shallow : value.depth ≤ levels := by omega
        have readBack : readValue levels (value.tree layout depth) = .ok value :=
          readValue_tree proper.ordered recovers plain shallow
        rw [readBack, Except.ok.injEq] at read
        exact ⟨read.symm, plain, shallow⟩
      cases value with
      | null => exact leaf rfl id rfl
      | bool flag => exact leaf rfl id rfl
      | number number => exact leaf rfl id rfl
      | string text => exact leaf rfl id rfl
      | array items =>
          obtain ⟨less, values, rfl, rfl, matched⟩ := readValue_tree_array.mp read
          have readAll (item : Value) (member : item ∈ items) : item.Plain ∧ item.depth ≤ less := by
            obtain ⟨result, -, readItem⟩ := Outcome.exists_result matched member
            exact (inner item member readItem).2
          refine ⟨?_, Value.plain_and_shallow_array readAll⟩
          rw [Outcome.results_eq matched fun item member _ readItem =>
            (inner item member readItem).1]
      | object members =>
          have unmarked : ¬ (Value.object members).IsMarked := fun marked =>
            isProper.2 (readValue_tree_marked marked read)
          obtain ⟨less, values, rfl, rfl, matched⟩ :=
            (readValue_tree_object isProper.1 unmarked).mp read
          have isPart {member : String × Value} (isMember : member ∈ members) :
              member.2 ∈ (Value.object members).parts :=
            List.mem_map_of_mem isMember
          have readAll (member : String × Value) (isMember : member ∈ members) :
              member.2.Plain ∧ member.2.depth ≤ less := by
            obtain ⟨result, -, readMember⟩ := matched.mem_left isMember
            exact (inner member.2 (isPart isMember) readMember).2
          refine ⟨?_, Value.plain_and_shallow_object unmarked readAll⟩
          rw [matched.eq fun member isMember _ readMember =>
            (inner member.2 (isPart isMember) readMember).1]

/-- A value is read back from its tree exactly if it has few enough levels and nothing within it
looks like an embedded text. -/
theorem readValue_tree_eq_ok_iff {value : Value} (ordered : value.Ordered)
    (recovers : value.FloatsRecover) :
    readValue levels (value.tree layout depth) = .ok value ↔
      value.Plain ∧ value.depth ≤ levels := by
  constructor
  · intro read
    exact (readValue_tree_inv (readValue_proper read) recovers read).2
  · rintro ⟨plain, shallow⟩
    exact readValue_tree ordered recovers plain shallow

end OptionSchema.Json
