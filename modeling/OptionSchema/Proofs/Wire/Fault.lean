import OptionSchema.Proofs.Wire.Portable

/-!
# Which fault is reported

A document may have many faults, one of which is reported. Main statement: `errors_located`. Of the
members of a module the failing one with the least name is reported, and of the alternatives of an
option the first that fails. An option is read as its payload before its documentation.
-/

namespace OptionSchema.Wire

open Json (ReadError Tree entries)

variable {path : List String} {tree : Tree} {members : Members} {found : List (String × Tree)}
  {gap : List Char} {error : DecodeError}

/-! ## Modules -/

/-- A member fails, at its name or below it, and no member with a lesser name does. -/
structure IsLeastFault (path : List String) (tree : Tree) (name : String) (error : DecodeError) :
    Prop where
  fails : ∃ child, HasEntry tree name child ∧ readNode (path ++ [name]) child = .error error
  within : error.IsWithin (path ++ [name])
  least : ∀ other child, HasEntry tree other child → other < name →
    ∃ node, readNode (path ++ [other]) child = .ok node

structure FailsByMember {α : Type} (path : List String) (tree : Tree)
    (result : Except DecodeError α) : Prop where
  /-- It fails if and only if some member does. -/
  fails_iff : (∃ error, result = .error error) ↔
    ∃ name child error, HasEntry tree name child ∧ readNode (path ++ [name]) child = .error error
  /-- Its error is that of the failing member with the least name. -/
  error_iff : ∀ error, result = .error error ↔ ∃ name, IsLeastFault path tree name error

section

variable (gap : List Char) (read : entries members = .ok found)

include read

theorem hasEntry_object_iff {name : String} {child : Tree} :
    HasEntry (.object gap members) name child ↔
      (name, child) ∈ Dictionary.ofPairs found := by
  have has : HasEntries (.object gap members) found := ⟨gap, members, rfl, read⟩
  exact ⟨fun isEntry => Dictionary.mem_of_get? (isEntry.get? has),
    fun isEntry => ⟨found, has, (Dictionary.ascending_ofPairs found).get?_of_mem isEntry⟩⟩

theorem collect_eq_error_iff :
    collect (readMembers path members) = .error error ↔
      ∃ name, IsLeastFault path (.object gap members) name error := by
  have ascending := Dictionary.ascending_ofPairs found
  have noError (listed : List (String × Node)) :
      (pure (Module.mk listed) : Except DecodeError Module) ≠ .error error := nofun
  rw [readMembers_of_entries read, collect, Outcome.bind_eq_error]
  simp only [noError, and_false, exists_false, or_false, List.mapM_map, Outcome.mapM_eq_error,
    Function.comp_def, Outcome.map_eq_error, Outcome.map_eq_ok]
  constructor
  · rintro ⟨before, ⟨name, child⟩, after, split, earlier, fails⟩
    have isFailing : (name, child) ∈ Dictionary.ofPairs found := by
      rw [split]
      exact List.mem_append_right _ (List.mem_cons_self ..)
    have within := (portableTree child).node.within (path ++ [name]) error fails
    rw [split] at ascending
    refine ⟨name, ⟨child, (hasEntry_object_iff gap read).mpr isFailing, fails⟩, within, ?_⟩
    intro other child' isEntry below
    have isEntry := (hasEntry_object_iff gap read).mp isEntry
    rw [split] at isEntry
    have isEntry := (ascending.mem_append_cons_iff below).mp isEntry
    obtain ⟨_, node, reads, -⟩ := earlier _ isEntry
    exact ⟨node, reads⟩
  · rintro ⟨name, ⟨child, isEntry, fails⟩, -, least⟩
    obtain ⟨before, after, split⟩ := List.append_of_mem ((hasEntry_object_iff gap read).mp isEntry)
    refine ⟨before, (name, child), after, split, ?_, fails⟩
    rintro ⟨other, child'⟩ isBefore
    have isOther : (other, child') ∈ Dictionary.ofPairs found := by
      rw [split]
      exact List.mem_append_left _ isBefore
    rw [split] at ascending
    obtain ⟨node, reads⟩ := least other child' ((hasEntry_object_iff gap read).mpr isOther)
      (ascending.lt_of_mem isBefore)
    exact ⟨_, node, reads, rfl⟩

/-- What the members of an object are read as. -/
theorem failsByMember_collect :
    FailsByMember path (.object gap members) (collect (readMembers path members)) := by
  refine ⟨⟨?_, ?_⟩, fun error => collect_eq_error_iff gap read⟩
  · rintro ⟨error, fails⟩
    obtain ⟨name, ⟨child, isEntry, fails⟩, -⟩ := (collect_eq_error_iff gap read).mp fails
    exact ⟨name, child, error, isEntry, fails⟩
  · rintro ⟨name, child, error, isEntry, fails⟩
    refine Outcome.eq_error_of_forall_ne fun contents collected => ?_
    have isMembers := (collect_readMembers (fun entry _ => anywhere entry.2) read).mp collected
    obtain ⟨node, -, isNode⟩ := exists_member isMembers
      (isEntry.get? ⟨gap, members, rfl, read⟩)
    rw [readNode_iff_isNode.mpr isNode] at fails
    cases fails

end

theorem FailsByMember.map {α β : Type} {result : Except DecodeError α}
    (fails : FailsByMember path tree result) (f : α → β) : FailsByMember path tree (result.map f) := by
  obtain ⟨fails_iff, error_iff⟩ := fails
  constructor <;> simpa only [Outcome.map_eq_error]

/-! ## Options -/

/-- A payload field of an option fails: it is of the wrong type, or a node or module in it fails. -/
inductive PayloadFails (path : List String) (tree : Tree) : Tag → DecodeError → Prop where
  | enumeration {cause : ReadError} : tree.readTexts = .error cause →
      PayloadFails path tree .enumeration (.shape path cause)
  | separatedString {cause : ReadError} : tree.readText = .error cause →
      PayloadFails path tree .separatedString (.shape path cause)
  | wrapped {wrapper : Wrapper} {error : DecodeError} : readNode path tree = .error error →
      PayloadFails path tree (.wrapped wrapper) error
  | noList {cause : ReadError} : tree.readArray = .error cause →
      PayloadFails path tree .either (.shape path cause)
  | alternative {gap : List Char} {before after : List (Json.Padded Tree)}
      {item : Json.Padded Tree} {error : DecodeError} :
      tree = .array gap (before ++ item :: after) →
      (∀ first ∈ before, ∃ node, IsNode first.content node) →
      readNode (path ++ [Text.decimal before.length]) item.content = .error error →
      error.IsWithin (path ++ [Text.decimal before.length]) → PayloadFails path tree .either error
  | submodule {error : DecodeError} : readModule path tree = .error error →
      PayloadFails path tree .submodule error

/-- The first alternative that fails is reported at its index. -/
theorem readItems_eq_error_iff {items : List (Json.Padded Tree)} {index : Nat} :
    readItems path index items = .error error ↔ ∃ before item after, items = before ++ item :: after ∧
      (∀ first ∈ before, ∃ node, IsNode first.content node) ∧
      readNode (path ++ [Text.decimal (index + before.length)]) item.content = .error error := by
  induction items generalizing index with
  | nil => simp [readItems]
  | cons item rest ih =>
      simp only [readItems, Outcome.bind_eq_error, ih, readNode_iff_isNode]
      constructor
      · rintro (fails | ⟨node, isNode, ⟨before, failing, after, rfl, earlier, fails⟩ |
          ⟨nodes, -, never⟩⟩)
        · exact ⟨[], item, rest, rfl, List.forall_mem_nil _, fails⟩
        · refine ⟨item :: before, failing, after, rfl,
            List.forall_mem_cons.mpr ⟨⟨node, isNode⟩, earlier⟩, ?_⟩
          rw [List.length_cons, Nat.add_comm before.length, ← Nat.add_assoc]
          exact fails
        · cases never
      · rintro ⟨before, failing, after, split, earlier, fails⟩
        cases before with
        | nil =>
            cases split
            exact .inl fails
        | cons first before =>
            cases split
            obtain ⟨⟨node, isNode⟩, earlier⟩ := List.forall_mem_cons.mp earlier
            rw [List.length_cons, Nat.add_comm before.length, ← Nat.add_assoc] at fails
            exact .inr ⟨node, isNode, .inl ⟨before, failing, after, rfl, earlier, fails⟩⟩

theorem located_eq_error_iff {α : Type} {result : Except ReadError α} :
    located path result = .error error ↔
      ∃ cause, result = .error cause ∧ error = .shape path cause := by
  rw [located, Outcome.mapError_eq_error]
  exact exists_congr fun cause => and_congr_right fun _ => eq_comm

/-- What is wrong with a tree of the wrong kind does not depend on what it should be read as. -/
theorem mismatch_eq_error_iff (α β : Type) {expected : Json.Expected} {cause : ReadError} :
    (tree.mismatch expected : Except ReadError α) = .error cause ↔
      (tree.mismatch expected : Except ReadError β) = .error cause := by
  simp only [Tree.mismatch, Outcome.bind_eq_error, Except.error.injEq]

theorem readArray_eq_error_iff {cause : ReadError} (noArray : ∀ gap items, tree ≠ .array gap items) :
    tree.readArray = .error cause ↔
      (tree.mismatch .sequence : Except ReadError (List Node)) = .error cause := by
  cases tree with
  | array gap items => exact absurd rfl (noArray gap items)
  | _ => exact mismatch_eq_error_iff _ _

theorem readAlternatives_of_noArray (noArray : ∀ gap items, tree ≠ .array gap items) :
    readAlternatives path tree = located path (tree.mismatch .sequence) := by
  cases tree with
  | array gap items => exact absurd rfl (noArray gap items)
  | _ => rfl

theorem readAlternatives_eq_error_iff :
    (readAlternatives path tree).map Kind.either = .error error ↔ PayloadFails path tree .either error := by
  rw [Outcome.map_eq_error]
  by_cases isArray : ∃ gap items, tree = .array gap items
  · obtain ⟨gap, items, rfl⟩ := isArray
    constructor
    · intro fails
      obtain ⟨before, item, after, rfl, earlier, fails⟩ := readItems_eq_error_iff.mp fails
      rw [Nat.zero_add] at fails
      exact .alternative rfl earlier fails ((portableTree _).node.within _ _ fails)
    · intro fails
      cases fails with
      | noList fails => cases fails
      | alternative same earlier fails =>
          cases same
          refine readItems_eq_error_iff.mpr ⟨_, _, _, rfl, earlier, ?_⟩
          rw [Nat.zero_add]
          exact fails
  · have noArray : ∀ gap items, tree ≠ .array gap items :=
      fun gap items same => isArray ⟨gap, items, same⟩
    rw [readAlternatives_of_noArray noArray, located_eq_error_iff]
    simp only [← readArray_eq_error_iff noArray]
    constructor
    · rintro ⟨cause, fails, rfl⟩
      exact .noList fails
    · intro fails
      cases fails with
      | noList fails => exact ⟨_, fails, rfl⟩
      | alternative same => exact absurd same (noArray _ _)

/-- The payload that a field holds cannot be read. -/
theorem payloadKind?_eq_error_iff {tag : Tag} :
    payloadKind? path tag tree = some (.error error) ↔ PayloadFails path tree tag error := by
  cases tag with
  | scalar => exact iff_of_false nofun nofun
  | unspecified => exact iff_of_false nofun nofun
  | either => exact Option.some_inj.trans readAlternatives_eq_error_iff
  | enumeration =>
      rw [payloadKind?, Option.some_inj, Outcome.map_eq_error, located_eq_error_iff]
      constructor
      · rintro ⟨cause, fails, rfl⟩
        exact .enumeration fails
      · rintro ⟨⟩
        exact ⟨_, ‹_›, rfl⟩
  | separatedString =>
      rw [payloadKind?, Option.some_inj, Outcome.map_eq_error, located_eq_error_iff]
      constructor
      · rintro ⟨cause, fails, rfl⟩
        exact .separatedString fails
      · rintro ⟨⟩
        exact ⟨_, ‹_›, rfl⟩
  | wrapped =>
      rw [payloadKind?, Option.some_inj, Outcome.map_eq_error]
      refine ⟨.wrapped, ?_⟩
      rintro ⟨⟩
      assumption
  | submodule =>
      rw [payloadKind?, Option.some_inj, Outcome.map_eq_error]
      refine ⟨.submodule, ?_⟩
      rintro ⟨⟩
      assumption

/-- What fails of a payload is at its path or below it. -/
theorem PayloadFails.isWithin {tag : Tag} (fails : PayloadFails path tree tag error) :
    error.IsWithin path := by
  cases fails with
  | enumeration | separatedString | noList => exact DecodeError.isWithin_self rfl
  | wrapped fails => exact (portableTree tree).node.within _ _ fails
  | submodule fails => exact (portableTree tree).module.within _ _ fails
  | alternative _ _ _ within => exact within.of_child

/-- An option of a kind of the vocabulary fails: its payload field is missing, or what that holds
cannot be read, or else its documentation cannot be. -/
inductive OptionFails (path : List String) (tree : Tree) (tag : Tag) : DecodeError → Prop where
  | missing {field : String} : payloadField? tag = some field →
      (∀ child, ¬ HasEntry tree field child) →
      OptionFails path tree tag (.missingField path tag field)
  | payload {field : String} {child : Tree} {error : DecodeError} : payloadField? tag = some field →
      HasEntry tree field child → PayloadFails (path ++ [field]) child tag error →
      error.IsWithin (path ++ [field]) → OptionFails path tree tag error
  | doc {gap : List Char} {members : Members} {found : List (String × Tree)} {kind : Kind}
      {cause : ReadError} :
      tree = .object gap members → entries members = .ok found → IsKind tree found kind →
      kind.tag = tag → readDoc members = .error cause → OptionFails path tree tag (.shape path cause)

section

variable {tag : Tag} (read : entries members = .ok found)

include read

/-- An option's kind is not read if its payload field is missing or what that holds is not read. -/
theorem readKind_eq_error_iff :
    readKind path (.object gap members) members tag = .error error ↔
      ∃ field, payloadField? tag = some field ∧
      ((∀ child, ¬ HasEntry (.object gap members) field child) ∧
          error = .missingField path tag field ∨
        ∃ child, HasEntry (.object gap members) field child ∧
          PayloadFails (path ++ [field]) child tag error) := by
  have has : HasEntries (.object gap members) found := ⟨gap, members, rfl, read⟩
  cases payload : payloadField? tag with
  | none =>
      refine iff_of_false ?_ fun ⟨field, same, _⟩ => nomatch same
      cases tag with
      | scalar => exact nofun
      | unspecified => exact nofun
      | _ => cases payload
  | some field =>
      simp only [Option.some.injEq, exists_eq_left']
      cases looked : Dictionary.get? field (Dictionary.ofPairs found) with
      | none =>
          have missing : ∀ child, ¬ HasEntry (.object gap members) field child := by
            intro child isEntry
            rw [isEntry.get? has] at looked
            cases looked
          rw [readKind_of_missing read payload looked, Except.error.injEq]
          constructor
          · rintro rfl
            exact .inl ⟨missing, rfl⟩
          · rintro (⟨-, rfl⟩ | ⟨child, isEntry, -⟩)
            · rfl
            · exact absurd isEntry (missing child)
      | some child =>
          have isEntry : HasEntry (.object gap members) field child := ⟨found, has, looked⟩
          obtain ⟨result, isResult⟩ := payloadKind?_isSome payload (path ++ [field]) child
          rw [readKind_of_present read payload looked path _ isResult, ← Option.some_inj,
            ← isResult, payloadKind?_eq_error_iff]
          constructor
          · exact fun fails => .inr ⟨child, isEntry, fails⟩
          · rintro (⟨missing, -⟩ | ⟨other, isOther, fails⟩)
            · exact absurd isEntry (missing child)
            · rw [isOther.get? has, Option.some.injEq] at looked
              exact looked ▸ fails

end

/-- An option of a kind of the vocabulary is read as its kind and then as its documentation. -/
theorem readNode_eq_error_iff {tag : Tag} (tagged : IsTagged tree tag) :
    readNode path tree = .error error ↔ OptionFails path tree tag error := by
  obtain ⟨found, has, sayOption, sayTag⟩ := tagged
  obtain ⟨envelope, isEnvelope, isOption, known⟩ := sayTag.exists_isEnvelope sayOption
  obtain ⟨gap, members, rfl, read⟩ := has
  have isRead : located path (readEnvelope members) = .ok envelope :=
    located_eq_ok.mpr (readEnvelope_eq_ok_iff.mpr ⟨found, read, isEnvelope⟩)
  have noError (doc : Doc) (kind : Kind) :
      (pure (Node.option doc kind) : Except DecodeError Node) ≠ .error error := nofun
  rw [readNode_eq, isRead]
  simp only [Outcome.ok_bind, isOption, if_true, known, Outcome.bind_eq_error, noError, and_false,
    exists_false, or_false]
  constructor
  · rintro (fails | ⟨kind, isKind, noDoc⟩)
    · obtain ⟨field, payload, ⟨missing, rfl⟩ | ⟨child, isEntry, fails⟩⟩ :=
        (readKind_eq_error_iff read).mp fails
      · exact .missing payload missing
      · exact .payload payload isEntry fails fails.isWithin
    · obtain ⟨cause, fails, rfl⟩ := located_eq_error_iff.mp noDoc
      obtain ⟨same, isKind⟩ := (readKind_eq_ok_iff (fun entry _ => anywhere entry.2) read).mp isKind
      exact .doc rfl read isKind same fails
  · intro fails
    cases fails with
    | missing payload missing =>
        exact .inl ((readKind_eq_error_iff read).mpr ⟨_, payload, .inl ⟨missing, rfl⟩⟩)
    | payload payload isEntry fails =>
        exact .inl ((readKind_eq_error_iff read).mpr ⟨_, payload, .inr ⟨_, isEntry, fails⟩⟩)
    | doc same read' isKind isTag fails =>
        cases same
        exact .inr ⟨_, (readKind_eq_ok_iff (fun entry _ => anywhere entry.2) read').mpr
          ⟨isTag, isKind⟩, located_eq_error_iff.mpr ⟨_, fails, rfl⟩⟩

/-! ## Trees and documents -/

/-- Errors say where they arise. A tree is read alike at every path, and an error has that path in
front. -/
theorem errors_located (tree : Tree) (path : List String) :
    (readNode path tree = (readNode [] tree).mapError (.under path) ∧
      readModule path tree = (readModule [] tree).mapError (.under path)) ∧
    (∀ found, HasEntries tree found → FailsByMember path tree (readModule path tree) ∧
      ∀ envelope, IsEnvelope found envelope → envelope.isOption ≠ some true →
        FailsByMember path tree (readNode path tree)) ∧
    (∀ tag, IsTagged tree tag →
      ∀ error, readNode path tree = .error error ↔ OptionFails path tree tag error) ∧
    ∀ text : String, tree.StandsIn text.toList →
      decode text.toUTF8 = readModule [] tree ∧ decodeNode text.toUTF8 = readNode [] tree := by
  refine ⟨⟨?_, ?_⟩, fun found has => ?_, fun tag tagged error => readNode_eq_error_iff tagged,
    fun text standsIn => decode_of_standsIn standsIn⟩
  · rw [← (portableTree tree).node.shifts, List.append_nil]
  · rw [← (portableTree tree).module.shifts, List.append_nil]
  · obtain ⟨gap, members, rfl, read⟩ := has
    have isMembers : FailsByMember path (.object gap members) (collect (readMembers path members)) :=
      failsByMember_collect gap read
    constructor
    · rw [readModule, readKeys_eq, read]
      exact isMembers
    · intro envelope isEnvelope notOption
      have isRead : located path (readEnvelope members) = .ok envelope :=
        located_eq_ok.mpr (readEnvelope_eq_ok_iff.mpr ⟨found, read, isEnvelope⟩)
      rw [readNode_eq, isRead, Outcome.ok_bind, if_neg notOption]
      exact isMembers.map Node.module

/-- An option whose second alternative is no node and whose documentation cannot be read either. -/
def faultyChoice : Tree :=
  Json.Layout.compact.object 1 [("_option", .bool true), ("_type", Json.Layout.string "either"),
    ("visible", .null), ("either", Json.Layout.compact.array 2
      [Json.Layout.compact.object 3 [("_option", .bool true), ("_type", Json.Layout.string "str")],
        .null])]

def faultyTree : Tree :=
  Json.Layout.compact.object 0 [("b", .null), ("a", faultyChoice)]

theorem errors_located_faultyTree :
    faultyTree.StandsIn (document faultyTree).toList ∧
      IsEnvelope [("b", .null), ("a", faultyChoice)] ⟨none, none⟩ ∧
      IsTagged faultyChoice .either ∧
      decode (document faultyTree).toUTF8 = .error (.notAnObject ["a", "either", "1"]) ∧
      (∃ name, IsLeastFault [] faultyTree name (.notAnObject ["a", "either", "1"])) ∧
      FailsByMember [] faultyTree (readNode [] faultyTree) ∧
      OptionFails ["a"] faultyChoice .either (.notAnObject ["a", "either", "1"]) := by
  have standsIn : faultyTree.StandsIn (document faultyTree).toList := standsIn_document (by rfl)
  have isEnvelope : IsEnvelope [("b", .null), ("a", faultyChoice)] ⟨none, none⟩ := ⟨.absent, .absent⟩
  have tagged : IsTagged faultyChoice .either :=
    ⟨_, hasEntries_object _, rfl, _, _, rfl, readText_string _, rfl⟩
  obtain ⟨-, members, -, documents⟩ := errors_located faultyTree []
  obtain ⟨ofModule, ofNode⟩ := members _ (hasEntries_object _)
  exact ⟨standsIn, isEnvelope, tagged, (documents _ standsIn).1.trans (by rfl),
    (ofModule.error_iff _).mp (by rfl), ofNode _ isEnvelope nofun,
    ((errors_located faultyChoice ["a"]).2.2.1 _ tagged _).mp (by rfl)⟩

end OptionSchema.Wire
