import OptionSchema.Proofs.Wire.Position

/-!
# Reading at a path

Paths are handed down from reader to reader and matter to errors only. Main statement:
`portableTree`. A tree is read alike at every path: as the same thing, or with an error that has the
path in front of the path at which it arises below the tree.
-/

namespace OptionSchema.Wire

open Json (ReadError Tree entries)

variable {α β : Type} {path : List String} {tree : Tree} {members : Members}
  {found : List (String × Tree)} {gap : List Char} {error : DecodeError}

/-! ## Errors and their paths -/

namespace DecodeError

def path? : DecodeError → Option (List String)
  | .json _ | .unreachableVariant _ => none
  | .notAnObject path | .shape path _ | .missingField path _ _ => some path

def under (front : List String) : DecodeError → DecodeError
  | .json cause => .json cause
  | .notAnObject path => .notAnObject (front ++ path)
  | .shape path cause => .shape (front ++ path) cause
  | .missingField path tag field => .missingField (front ++ path) tag field
  | .unreachableVariant tag => .unreachableVariant tag

/-- The error arises at a path or below it. -/
def IsWithin (path : List String) (error : DecodeError) : Prop :=
  ∃ steps, error.path? = some (path ++ steps)

theorem isWithin_self (same : error.path? = some path) : error.IsWithin path :=
  ⟨[], by rw [same, List.append_nil]⟩

theorem IsWithin.of_child {name : String} (within : error.IsWithin (path ++ [name])) :
    error.IsWithin path := by
  obtain ⟨steps, same⟩ := within
  exact ⟨name :: steps, by rw [same, List.append_assoc, List.singleton_append]⟩

end DecodeError

/-- A reading that fails at or below its path, and is the same at every path otherwise. -/
structure Portable (read : List String → Except DecodeError α) : Prop where
  shifts : ∀ front path, read (front ++ path) = (read path).mapError (.under front)
  within : ∀ path error, read path = .error error → error.IsWithin path

theorem portable_ok (a : α) : Portable fun _ => .ok a :=
  ⟨fun _ _ => rfl, fun _ _ fails => nomatch fails⟩

theorem portable_notAnObject : Portable fun path => (.error (.notAnObject path) : Except _ α) := by
  refine ⟨fun _ _ => rfl, ?_⟩
  rintro path _ ⟨⟩
  exact DecodeError.isWithin_self rfl

theorem portable_missingField (tag : Tag) (field : String) :
    Portable fun path => (.error (.missingField path tag field) : Except _ α) := by
  refine ⟨fun _ _ => rfl, ?_⟩
  rintro path _ ⟨⟩
  exact DecodeError.isWithin_self rfl

theorem portable_located (result : Except ReadError α) : Portable (located · result) := by
  cases result with
  | ok a => exact portable_ok a
  | error cause =>
      refine ⟨fun _ _ => rfl, ?_⟩
      rintro path _ ⟨⟩
      exact DecodeError.isWithin_self rfl

section

variable {read : List String → Except DecodeError α}

theorem Portable.bind {next : α → List String → Except DecodeError β} (first : Portable read)
    (second : ∀ a, Portable (next a)) : Portable fun path => read path >>= (next · path) := by
  constructor
  · intro front path
    simp only [first.shifts front path, Outcome.mapError_bind, (second _).shifts front path]
  · intro path error fails
    rcases Outcome.bind_eq_error.mp fails with fails | ⟨a, -, fails⟩
    · exact first.within path error fails
    · exact (second a).within path error fails

theorem Portable.map (portable : Portable read) (f : α → β) :
    Portable fun path => (read path).map f := by
  constructor
  · intro front path
    rw [portable.shifts, Outcome.mapError_map]
  · intro path error fails
    exact portable.within path error (Outcome.map_eq_error.mp fails)

/-- What is read at a name below a path is read below that path. -/
theorem Portable.child (portable : Portable read) (name : String) :
    Portable fun path => read (path ++ [name]) := by
  constructor
  · intro front path
    rw [List.append_assoc, portable.shifts]
  · intro path error fails
    exact (portable.within _ error fails).of_child

theorem Portable.mapM {read : α → List String → Except DecodeError β} {items : List α}
    (each : ∀ item ∈ items, Portable (read item)) : Portable fun path => items.mapM (read · path) := by
  induction items with
  | nil => exact portable_ok []
  | cons item rest ih =>
      obtain ⟨first, others⟩ := List.forall_mem_cons.mp each
      simp only [List.mapM_cons]
      exact first.bind fun result => (ih others).bind fun results => portable_ok (result :: results)

end

structure PortableTree (tree : Tree) : Prop where
  node : Portable (readNode · tree)
  module : Portable (readModule · tree)
  alternatives : Portable (readAlternatives · tree)

theorem portable_readItems {items : List (Json.Padded Tree)}
    (each : ∀ item ∈ items, PortableTree item.content) (index : Nat) :
    Portable (readItems · index items) := by
  induction items generalizing index with
  | nil => exact portable_ok []
  | cons item rest ih =>
      obtain ⟨first, others⟩ := List.forall_mem_cons.mp each
      simp only [readItems]
      exact (first.node.child _).bind fun node =>
        (ih others (index + 1)).bind fun nodes => portable_ok (node :: nodes)

section

variable (each : ∀ entry ∈ found, PortableTree entry.2) (read : entries members = .ok found)

include each read

theorem portable_members : Portable fun path => collect (readMembers path members) := by
  have listed : ∀ entry ∈ Dictionary.ofPairs found,
      Portable fun path => (readNode (path ++ [entry.1]) entry.2).map (entry.1, ·) :=
    fun entry isEntry =>
      ((each entry (Dictionary.mem_of_mem_ofPairs isEntry)).node.child entry.1).map _
  simp only [readMembers_of_entries read, collect, List.mapM_map]
  exact (Portable.mapM listed).bind fun listed => portable_ok (Module.mk listed)

end

theorem portable_payloadKind? {tag : Tag} {field : String} (payload : payloadField? tag = some field)
    (portable : PortableTree tree) :
    ∃ read : List String → Except DecodeError Kind, Portable read ∧
      ∀ path, payloadKind? path tag tree = some (read path) := by
  cases tag with
  | scalar => cases payload
  | unspecified => cases payload
  | enumeration => exact ⟨_, (portable_located _).map _, fun _ => rfl⟩
  | separatedString => exact ⟨_, (portable_located _).map _, fun _ => rfl⟩
  | wrapped => exact ⟨_, portable.node.map _, fun _ => rfl⟩
  | either => exact ⟨_, portable.alternatives.map _, fun _ => rfl⟩
  | submodule => exact ⟨_, portable.module.map _, fun _ => rfl⟩

theorem readKind_of_payloadField? {tag : Tag} {field : String}
    (payload : payloadField? tag = some field) (path : List String) (source : Tree)
    (members : Members) : readKind path source members tag =
      (readPayload path tag members).getD (.error (.missingField path tag field)) := by
  cases tag with
  | scalar => cases payload
  | unspecified => cases payload
  | _ =>
      simp only [readKind, payload, Option.getD_some]
      cases readPayload path _ members <;> rfl

section

variable {tag : Tag} {field : String} (read : entries members = .ok found)
  (payload : payloadField? tag = some field)

include read payload

/-- An option without its payload field is missing it. -/
theorem readKind_of_missing
    (missing : Dictionary.get? field (Dictionary.ofPairs found) = none) (path : List String)
    (source : Tree) : readKind path source members tag = .error (.missingField path tag field) := by
  rw [readKind_of_payloadField? payload, readPayload_of_entries read, payload, Option.bind_some,
    missing]
  rfl

/-- The kind of an option is read from its last payload field. -/
theorem readKind_of_present {child : Tree}
    (present : Dictionary.get? field (Dictionary.ofPairs found) = some child) (path : List String)
    (source : Tree) {result : Except DecodeError Kind}
    (isResult : payloadKind? (path ++ [field]) tag child = some result) :
    readKind path source members tag = result := by
  rw [readKind_of_payloadField? payload, readPayload_of_entries read, payload, Option.bind_some,
    present, Option.bind_some, isResult]
  rfl

end

theorem portable_readKind (each : ∀ entry ∈ found, PortableTree entry.2)
    (read : entries members = .ok found) (source : Tree) (tag : Tag) :
    Portable (readKind · source members tag) := by
  cases payload : payloadField? tag with
  | none =>
      cases tag with
      | scalar scalar => exact portable_ok (Kind.scalar scalar)
      | unspecified => exact portable_ok (Kind.unspecified source)
      | _ => cases payload
  | some field =>
      cases looked : Dictionary.get? field (Dictionary.ofPairs found) with
      | none =>
          simp only [readKind_of_missing read payload looked]
          exact portable_missingField tag field
      | some child =>
          obtain ⟨readChild, portable, isResult⟩ := portable_payloadKind? payload
            (each (field, child) (Dictionary.mem_of_mem_ofPairs (Dictionary.mem_of_get? looked)))
          simp only [fun path => readKind_of_present read payload looked path source
            (isResult (path ++ [field]))]
          exact portable.child field

theorem portable_readNode_object (each : ∀ entry ∈ found, PortableTree entry.2)
    (read : entries members = .ok found) : Portable (readNode · (.object gap members)) := by
  simp only [readNode_eq]
  refine (portable_located _).bind fun envelope => ?_
  split
  · cases Tag.ofName? (envelope.tag.join.getD "") with
    | none => exact portable_ok _
    | some tag =>
        exact (portable_readKind each read _ tag).bind fun kind =>
          (portable_located _).bind fun doc => portable_ok (Node.option doc kind)
  · exact (portable_members each read).map _

/-- The readings of an object some of whose keys cannot be read fail at once. -/
theorem portable_object_of_error {cause : ReadError} (failed : entries members = .error cause) :
    PortableTree (.object gap members) := by
  have readEnvelope' : ∃ cause, readEnvelope members = .error cause :=
    Outcome.eq_error_of_forall_ne fun envelope readEnvelope => by
      obtain ⟨found, read, -⟩ := readEnvelope_eq_ok_iff.mp readEnvelope
      rw [failed] at read
      cases read
  obtain ⟨cause', readEnvelope'⟩ := readEnvelope'
  constructor
  · simp only [readNode_eq, readEnvelope']
    exact portable_located (.error cause')
  · simp only [readModule, readKeys_eq, failed]
    exact portable_located (.error cause)
  · exact portable_located _

/-- Every tree is read alike at every path. -/
theorem portableTree (tree : Tree) : PortableTree tree := by
  induction tree using Tree.induction with
  | array gap items ih =>
      refine ⟨portable_notAnObject, portable_notAnObject, ?_⟩
      simp only [readAlternatives]
      exact portable_readItems ih 0
  | object gap members ih =>
      cases read : entries members with
      | error cause => exact portable_object_of_error read
      | ok found =>
          have each := (Json.forall_entries_iff read PortableTree).mpr ih
          refine ⟨portable_readNode_object each read, ?_, portable_located _⟩
          simp only [readModule]
          exact (portable_located _).bind fun _ => portable_members each read
  | _ => exact ⟨portable_notAnObject, portable_notAnObject, portable_located _⟩

end OptionSchema.Wire
