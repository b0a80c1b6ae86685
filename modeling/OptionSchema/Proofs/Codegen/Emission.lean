import OptionSchema.Proofs.Codegen.Listing
import OptionSchema.Proofs.Codegen.Source

/-!
# The walk emits the listing

A step of the walk `Emits` a listing if, from every emitter, it fails with the first collision among
the claims of the listing and those before them, and otherwise appends the listing to the emitter:
what was in its places stays there, a place that is still reserved included, and every new place is
filled. All steps of the walk are of this kind (`emitNode_emits`), so generating a file is a matter
of the listing of its module alone (`generate_eq`).
-/

namespace OptionSchema.Codegen

open Naming (Rules typeIdentifier fieldIdentifier)

/-! ## Scopes that hold claims -/

def entriesOf (name : ScopeName) (claims : List Claim) : List (String × String) :=
  (claims.filter (·.scope = name)).map fun claim => (claim.identifier, claim.source)

def Scope.after (scope : Scope) (claims : List Claim) : Scope :=
  { scope with claimed := (entriesOf scope.name claims).reverse ++ scope.claimed }

/-- A scope holds the claims that have been made in it, the last one first. -/
def Scope.Records (scope : Scope) (taken : List Claim) : Prop :=
  scope.claimed = entriesOf scope.name taken

variable {scope : Scope} {name : ScopeName} {claims taken first second : List Claim}

theorem entriesOf_append :
    entriesOf name (first ++ second) = entriesOf name first ++ entriesOf name second := by
  simp [entriesOf]

theorem entriesOf_reverse : entriesOf name claims.reverse = (entriesOf name claims).reverse := by
  simp [entriesOf]

/-- Claims in other scopes leave nothing behind. -/
theorem entriesOf_eq_nil (others : ∀ claim ∈ claims, claim.scope ≠ name) :
    entriesOf name claims = [] := by
  simpa [entriesOf] using others

theorem lookup_entriesOf (identifier source : String) :
    (entriesOf name taken).lookup identifier =
      (taken.find? fun first => first.target = (⟨name, identifier, source⟩ : Claim).target).map
        (·.source) := by
  induction taken with
  | nil => rfl
  | cons claim rest ih =>
      unfold entriesOf at ih ⊢
      rw [List.find?_cons, List.filter_cons]
      by_cases same : claim.scope = name
      · by_cases equal : claim.identifier = identifier
        · simp [Claim.target, same, equal]
        · have apart : (identifier == claim.identifier) = false := by simp [Ne.symm equal]
          simp [Claim.target, same, List.lookup_cons, equal, apart, ih]
      · simp [Claim.target, same, ih]

theorem Scope.after_nil : scope.after [] = scope :=
  rfl

theorem Scope.after_append : scope.after (first ++ second) = (scope.after first).after second := by
  simp [Scope.after, entriesOf_append]

theorem Scope.after_of_others (others : ∀ claim ∈ claims, claim.scope ≠ scope.name) :
    scope.after claims = scope := by
  simp [Scope.after, entriesOf_eq_nil others]

theorem Scope.records_start (others : ∀ claim ∈ taken, claim.scope ≠ name) :
    (Scope.start name).Records taken :=
  (entriesOf_eq_nil others).symm

theorem Scope.Records.after (records : scope.Records taken) (claims : List Claim) :
    (scope.after claims).Records (claims.reverse ++ taken) := by
  unfold Scope.Records at records ⊢
  rw [entriesOf_append, entriesOf_reverse, Scope.after, records]

/-- A claim fails exactly if its target is taken. -/
theorem Scope.Records.claim_eq (records : scope.Records taken) (identifier source : String) :
    scope.claim identifier source =
      match collision? taken [⟨scope.name, identifier, source⟩] with
      | some collision => .error (.collision collision)
      | none => .ok (scope.after [⟨scope.name, identifier, source⟩]) := by
  have looked : (entriesOf scope.name taken).lookup identifier = _ :=
    lookup_entriesOf identifier source
  rw [← records] at looked
  rw [Scope.claim, looked, collision?]
  cases taken.find? fun first =>
      first.target = (⟨scope.name, identifier, source⟩ : Claim).target with
  | some first => rfl
  | none => simp [Scope.after, entriesOf]

/-- Every field is claimed in the scope of a struct that is claimed as well. -/
def Owned (claims : List Claim) : Prop :=
  ∀ claim ∈ claims, ∀ struct, claim.scope = .fields struct → (.types, struct) ∈ targets claims

theorem Owned.append (owned : Owned first) (owned' : Owned second) :
    Owned (first ++ second) := by
  intro claim member struct isField
  rw [targets_append]
  rcases List.mem_append.mp member with member | member
  · exact List.mem_append_left _ (owned claim member struct isField)
  · exact List.mem_append_right _ (owned' claim member struct isField)

theorem owned_of_types (types : ∀ claim ∈ claims, claim.scope = .types) :
    Owned claims := by
  intro claim member struct isField
  rw [types claim member] at isField
  cases isField

theorem mem_targets_reverse_append {target : ScopeName × String} :
    target ∈ targets (claims.reverse ++ taken) ↔
      target ∈ targets claims ∨ target ∈ targets taken := by
  simp [targets]

/-- No further field is claimed for a struct that is taken. -/
theorem Owned.scope_ne {struct : String} (owned : Owned claims)
    (free : collision? taken claims = none) (struct_taken : (.types, struct) ∈ targets taken) :
    ∀ claim ∈ claims, claim.scope ≠ .fields struct := by
  intro claim member isField
  obtain ⟨owner, isClaim, same⟩ := List.mem_map.mp (owned claim member struct isField)
  have apart := (collision?_eq_none_iff.mp free).2 owner isClaim
  exact apart (same ▸ struct_taken)

/-! ## Emitters -/

def Emitter.after (emitter : Emitter) (listing : Listing) : Emitter :=
  { types := emitter.types.after listing.claims
    items := emitter.items ++ (listing.declarations.map some).toArray
    imports :=
      ⟨emitter.imports.cow || listing.imports.cow, emitter.imports.map || listing.imports.map⟩
    dependencies :=
      listing.requirements.foldl (fun dependencies requirement =>
        dependencies.require requirement.1 requirement.2) emitter.dependencies }

structure Emitter.Records (emitter : Emitter) (taken : List Claim) : Prop where
  name : emitter.types.name = .types
  types : emitter.types.Records taken
  owned : Owned taken

/-- What comes of a listing with the given value: the collision among its claims, or else the
emitter after it. -/
def Emitter.outcome {α : Type} (emitter : Emitter) (taken : List Claim) (listing : Listing)
    (value : α) : Except CodegenError (α × Emitter) :=
  match collision? taken listing.claims with
  | some collision => .error (.collision collision)
  | none => .ok (value, emitter.after listing)

/-- A step of the walk emits a listing and gives a value. -/
structure Emits {α : Type} (step : Emit α) (listing : Listing) (value : α) : Prop where
  owned : Owned listing.claims
  run {emitter : Emitter} {taken : List Claim} :
    emitter.Records taken → step.run emitter = emitter.outcome taken listing value

variable {α β : Type} {emitter : Emitter}

theorem Emitter.after_empty : emitter.after .empty = emitter := by
  simp [Emitter.after, Scope.after_nil, Listing.empty]

/-- Appending two listings is appending the one and then the other. -/
theorem Emitter.after_append (first second : Listing) :
    emitter.after (first ++ second) = (emitter.after first).after second := by
  simp [Emitter.after, Scope.after_append, Bool.or_assoc]

namespace Emitter.Records

theorem after (records : emitter.Records taken) {listing : Listing} (owned : Owned listing.claims) :
    (emitter.after listing).Records (listing.claims.reverse ++ taken) := by
  refine ⟨records.name, records.types.after _, ?_⟩
  intro claim member struct isField
  rw [mem_targets_reverse_append]
  rcases List.mem_append.mp member with member | member
  · exact .inl (owned claim (List.mem_reverse.mp member) struct isField)
  · exact .inr (records.owned claim member struct isField)

/-- An emitter records the claims that are found in its scope. -/
theorem of_name (name : emitter.types.name = .types) :
    emitter.Records (emitter.types.claimed.map fun entry => ⟨.types, entry.1, entry.2⟩) := by
  refine ⟨name, ?_, owned_of_types (List.forall_mem_map.mpr fun _ _ => rfl)⟩
  simp [Scope.Records, entriesOf, name, List.filter_map, Function.comp_def]

end Emitter.Records

theorem Emitter.outcome_of_none {listing : Listing} {value : α}
    (free : collision? taken listing.claims = none) :
    emitter.outcome taken listing value = .ok (value, emitter.after listing) := by
  rw [Emitter.outcome, free]

theorem Emitter.outcome_of_some {listing : Listing} {value : α} {collision : Collision}
    (found : collision? taken listing.claims = some collision) :
    emitter.outcome taken listing value = .error (.collision collision) := by
  rw [Emitter.outcome, found]

/-- Giving back another value changes nothing else. -/
theorem Emitter.run_map {step : Emit α} {listing : Listing} {value : α}
    (same : step.run emitter = emitter.outcome taken listing value) (f : α → β) :
    (do return f (← step)).run emitter = emitter.outcome taken listing (f value) := by
  rw [StateT.run_bind, same]
  cases found : collision? taken listing.claims with
  | some collision =>
      rw [Emitter.outcome_of_some found, Emitter.outcome_of_some found]
      rfl
  | none =>
      rw [Emitter.outcome_of_none found, Emitter.outcome_of_none found]
      rfl

/-- What comes of a listing that goes on with another one. -/
theorem Emitter.outcome_append {first second : Listing} (value : α) {value' : β} :
    emitter.outcome taken (first ++ second) value' =
      emitter.outcome taken first value >>= fun result =>
        result.2.outcome (first.claims.reverse ++ taken) second value' := by
  rw [Emitter.outcome, Listing.claims_append, collision?_append]
  cases found : collision? taken first.claims with
  | some collision =>
      rw [Emitter.outcome_of_some found]
      rfl
  | none =>
      rw [Emitter.outcome_of_none found]
      simp only [Option.none_or, bind, Except.bind, Emitter.outcome, Emitter.after_append]

/-! ## Steps of the walk -/

namespace Emits

theorem pure (value : α) : Emits (pure value) .empty value where
  owned := owned_of_types (by simp)
  run _ := by
    rw [Emitter.outcome_of_none (by rfl), Emitter.after_empty]
    rfl

/-- A step that emits a listing goes on from where the listing ends. -/
theorem run_bind {step : Emit α} {next : α → Emit β} {first second : Listing} {value : α}
    {value' : β} (emits : Emits step first value) (records : emitter.Records taken)
    (goesOn : collision? taken first.claims = none → (next value).run (emitter.after first) =
      (emitter.after first).outcome (first.claims.reverse ++ taken) second value') :
    (step >>= next).run emitter = emitter.outcome taken (first ++ second) value' := by
  rw [StateT.run_bind, emits.run records, Emitter.outcome_append value]
  cases found : collision? taken first.claims with
  | some collision =>
      rw [Emitter.outcome_of_some found]
      rfl
  | none =>
      rw [Emitter.outcome_of_none found]
      exact goesOn found

theorem bind {step : Emit α} {next : α → Emit β} {first second : Listing} {value : α} {value' : β}
    (emits : Emits step first value) (emits' : Emits (next value) second value') :
    Emits (step >>= next) (first ++ second) value' where
  owned := emits.owned.append emits'.owned
  run records := emits.run_bind records fun _ => emits'.run (records.after emits.owned)

theorem map {step : Emit α} {listing : Listing} {value : α} (emits : Emits step listing value)
    (f : α → β) : Emits (do return f (← step)) listing (f value) where
  owned := emits.owned
  run records := Emitter.run_map (emits.run records) f

/-- A change of the emitter that claims nothing. -/
theorem modify {change : Emitter → Emitter} {listing : Listing} (noClaim : listing.claims = [])
    (same : ∀ emitter, change emitter = emitter.after listing) :
    Emits (modify change) listing () where
  owned := owned_of_types (by simp [noClaim])
  run {emitter taken} _ := by
    rw [Emitter.outcome_of_none (by rw [noClaim, collision?_nil]), ← same]
    rfl

end Emits

theorem claimType_emits (identifier source : String) :
    Emits (claimType identifier source) (.claim .types identifier source) () where
  owned := owned_of_types (by simp)
  run {emitter taken} records := by
    have claimed := records.types.claim_eq identifier source
    rw [records.name] at claimed
    simp only [StateT.run, claimType, claimed, Emitter.outcome, Listing.claims_claim]
    cases collision? taken [⟨.types, identifier, source⟩] with
    | some collision => rfl
    | none =>
        simp [Emitter.after, Listing.claim, Listing.empty, bind, Except.bind, Pure.pure,
          Except.pure]

theorem push_emits (declaration : Declaration) :
    Emits (push declaration) (.declare declaration) () :=
  .modify rfl fun emitter => by
    simp [Emitter.after, Scope.after_nil, Listing.declare, Listing.empty]

theorem requireCrate_emits (crate : String) (features : List String) :
    Emits (requireCrate crate features) (.require crate features) () :=
  .modify rfl fun emitter => by
    simp [Emitter.after, Scope.after_nil, Listing.require, Listing.empty]

theorem importCow_emits : Emits importCow .importCow () :=
  .modify rfl fun emitter => by
    simp [Emitter.after, Scope.after_nil, Listing.importCow, Listing.empty]

theorem importMap_emits : Emits importMap .importMap () :=
  .modify rfl fun emitter => by
    simp [Emitter.after, Scope.after_nil, Listing.importMap, Listing.empty]

theorem useBuiltin_emits (builtin : Builtin) :
    Emits (useBuiltin builtin) (.use builtin) (.builtin builtin) := by
  unfold useBuiltin
  cases required : builtin.requirement? with
  | none =>
      have same : Listing.use builtin = .empty := by simp [Listing.use, required, Listing.empty]
      rw [same]
      exact .pure _
  | some requirement =>
      obtain ⟨crate, features⟩ := requirement
      have same : Listing.use builtin = .require crate features := by
        simp [Listing.use, Listing.require, required, Listing.empty]
      rw [same]
      exact (requireCrate_emits crate features).map fun _ => TypeExpr.builtin builtin

variable {rules : Rules} {path : List String} {identifier sum : String}

theorem emitConstants_emits (values : List String) :
    Emits (emitConstants rules path identifier values)
      (.join (values.map fun value => .claim .types (identifier ++ rules.exported value)
        s!"{Path.display path} = {Text.quotedText value}"))
      (values.map (valueConstant rules identifier)) := by
  induction values with
  | nil => exact .pure _
  | cons value rest ih =>
      exact (claimType_emits _ _).bind (ih.map fun constants => _ :: constants)

theorem emitEnumeration_emits (name : String) (values : List String) :
    Emits (emitEnumeration rules name path values) (enumerationListing rules name path values)
      (.named (typeIdentifier name)) := by
  rw [enumerationListing, Listing.append_assoc, Listing.append_assoc]
  refine (claimType_emits _ _).bind (importCow_emits.bind ((emitConstants_emits values).bind ?_))
  exact (push_emits _).map fun _ => TypeExpr.named (typeIdentifier name)

/-! ## Reserved places -/

/-- An emitter after one more place has been reserved. -/
def Emitter.reserved (emitter : Emitter) : Emitter :=
  { emitter with items := emitter.items.push none }

theorem reserve_run : reserve.run emitter = .ok (emitter.items.size, emitter.reserved) :=
  rfl

theorem Emitter.Records.reserved (records : emitter.Records taken) :
    emitter.reserved.Records taken :=
  ⟨records.name, records.types, records.owned⟩

/-- The place that was reserved before a listing is filled in front of the listing. -/
theorem fill_run (declaration : Declaration) (listing : Listing) :
    (fill emitter.items.size declaration).run (emitter.reserved.after listing) =
      .ok ((), emitter.after (.declare declaration ++ listing)) := by
  have filled : (emitter.items.push none ++ (listing.declarations.map some).toArray).setIfInBounds
      emitter.items.size (some declaration) =
        emitter.items ++ ((declaration :: listing.declarations).map some).toArray := by
    simp
  refine congrArg (fun after => Except.ok ((), after)) ?_
  simp only [Emitter.after, Emitter.reserved, filled]
  simp [Listing.declare, Listing.empty]

/-! ## Nodes -/

def memberTask (rules : Rules) (path : List String) (member : String × Node) : MemberTask :=
  let target := rules.exported member.1
  ⟨member.2.doc.description, target, emitNode rules target (path ++ [member.1]) member.2⟩

theorem memberTasks_eq (members : List (String × Node)) :
    memberTasks rules path members =
      members.map fun member => (member.1, memberTask rules path member) := by
  induction members with
  | nil => rfl
  | cons member rest ih => rw [memberTasks, ih, List.map_cons, memberTask]

/-- A node emits its listing and gives its type, whatever its name and path. -/
def NodeEmits (rules : Rules) (node : Node) : Prop :=
  ∀ name path, Emits (emitNode rules name path node) (nodeListing rules name path node)
    (nodeType name node)

/-- A field is claimed beside the types. -/
theorem Emitter.Records.field (records : emitter.Records taken) {struct : String}
    (isTaken : (.types, struct) ∈ targets taken) (identifier source : String) :
    emitter.Records (⟨.fields struct, identifier, source⟩ :: taken) := by
  refine ⟨records.name, ?_, ?_⟩
  · have claimed := records.types.after [⟨.fields struct, identifier, source⟩]
    rwa [Scope.after_of_others (by simp [records.name])] at claimed
  · intro claim member struct' isField
    rcases List.mem_cons.mp member with rfl | member
    · cases isField
      exact List.mem_cons_of_mem _ isTaken
    · exact List.mem_cons_of_mem _ (records.owned claim member struct' isField)

theorem Emitter.after_field (name : emitter.types.name = .types)
    (struct identifier source : String) :
    emitter.after (.claim (.fields struct) identifier source) = emitter := by
  have kept : emitter.types.after [⟨.fields struct, identifier, source⟩] = emitter.types :=
    Scope.after_of_others (by simp [name])
  simp [Emitter.after, Listing.claim, Listing.empty, kept]

theorem emitFields_cons_run (scope : Scope) (member : String) (task : MemberTask)
    (rest : List (String × MemberTask)) :
    (emitFields scope ((member, task) :: rest)).run emitter =
      scope.claim (fieldIdentifier task.target) member >>= fun scope =>
        (do
          let type ← task.emitType
          return ⟨member, fieldIdentifier task.target, task.description, type⟩ ::
            (← emitFields scope rest) : Emit (List Field)).run emitter := by
  rw [emitFields, StateT.run_bind]
  cases scope.claim (fieldIdentifier task.target) member <;> rfl

/-- A field is claimed, then the types of its member are emitted. Nothing that a member emits is
claimed in the scope of the struct, since the struct itself is claimed; so the scope holds the
fields alone. -/
theorem emitFields_cons {struct member : String} {task : MemberTask}
    {rest : List (String × MemberTask)} {inner later : Listing} {type : TypeExpr}
    {fields : List Field} (emits : Emits task.emitType inner type)
    (goesOn : ∀ {scope : Scope} {emitter : Emitter} {taken : List Claim}, emitter.Records taken →
      scope.name = .fields struct → scope.Records taken → (.types, struct) ∈ targets taken →
        (emitFields scope rest).run emitter = emitter.outcome taken later fields)
    (records : emitter.Records taken) (name : scope.name = .fields struct)
    (fieldRecords : scope.Records taken) (isTaken : (.types, struct) ∈ targets taken) :
    (emitFields scope ((member, task) :: rest)).run emitter =
      emitter.outcome taken
        (.claim (.fields struct) (fieldIdentifier task.target) member ++ (inner ++ later))
        (⟨member, fieldIdentifier task.target, task.description, type⟩ :: fields) := by
  have claimed := fieldRecords.claim_eq (fieldIdentifier task.target) member
  rw [name] at claimed
  rw [Emitter.outcome_append (), emitFields_cons_run, claimed]
  cases found : collision? taken [⟨.fields struct, fieldIdentifier task.target, member⟩] with
  | some collision =>
      rw [Emitter.outcome_of_some found]
      rfl
  | none =>
      rw [Emitter.outcome_of_none found, Emitter.after_field records.name]
      have records' := records.field isTaken (fieldIdentifier task.target) member
      simp only [Outcome.ok_bind]
      refine emits.run_bind records' fun free => ?_
      refine Emitter.run_map ?_ fun fields => _ :: fields
      have fieldRecords' := (fieldRecords.after
        [⟨.fields struct, fieldIdentifier task.target, member⟩]).after inner.claims
      have isTaken' := List.mem_cons_of_mem
        (Claim.target ⟨.fields struct, fieldIdentifier task.target, member⟩) isTaken
      rw [Scope.after_of_others (name.symm ▸ emits.owned.scope_ne free isTaken')] at fieldRecords'
      exact goesOn (records'.after emits.owned) name fieldRecords'
        (mem_targets_reverse_append.mpr (.inr isTaken'))

/-- The fields of a struct are emitted into the scope of the struct, which is claimed itself. -/
theorem emitFields_run {struct : String} {members : List (String × Node)}
    (emits : ∀ member ∈ members, NodeEmits rules member.2) {scope : Scope} {emitter : Emitter}
    {taken : List Claim} (records : emitter.Records taken) (fields : scope.name = .fields struct)
    (fieldRecords : scope.Records taken) (isTaken : (.types, struct) ∈ targets taken) :
    (emitFields scope (members.map fun member => (member.1, memberTask rules path member))).run
        emitter =
      emitter.outcome taken (.join (members.map fun member =>
        memberListing rules struct member.1
          (nodeListing rules (rules.exported member.1) (path ++ [member.1]) member.2)))
        (members.map (memberField rules)) := by
  induction members generalizing scope emitter taken with
  | nil =>
      rw [Emitter.outcome_of_none (by rfl)]
      exact congrArg (fun after => Except.ok ([], after)) Emitter.after_empty.symm
  | cons member rest ih =>
      rw [List.forall_mem_cons] at emits
      rw [List.map_cons, List.map_cons, List.map_cons, Listing.join_cons, memberListing,
        Listing.append_assoc]
      exact emitFields_cons (emits.1 _ _) (ih emits.2) records fields fieldRecords isTaken

/-- Between reserving a place and filling it only the listing is appended. -/
theorem run_reserved {step : Emit α} {listing : Listing} {value : α}
    (same : step.run emitter.reserved = emitter.reserved.outcome taken listing value)
    (declaration : α → Declaration) (result : β) :
    (do
      let place ← reserve
      let value ← step
      fill place (declaration value)
      return result : Emit β).run emitter =
        emitter.outcome taken (.declare (declaration value) ++ listing) result := by
  have claims : (Listing.declare (declaration value) ++ listing).claims = listing.claims := rfl
  rw [StateT.run_bind, reserve_run, Outcome.ok_bind, StateT.run_bind, same, Emitter.outcome,
    Emitter.outcome, claims]
  cases collision? taken listing.claims with
  | some collision => rfl
  | none =>
      simp only [Outcome.ok_bind]
      rw [StateT.run_bind, fill_run]
      rfl

/-- The head of a struct owns the fields of its members. -/
theorem owned_structListing {name : String} {contents : Module}
    (owned : ∀ member ∈ contents.members,
      Owned (nodeListing rules (rules.exported member.1) (path ++ [member.1]) member.2).claims) :
    Owned (moduleListing rules name path contents).claims := by
  rw [moduleListing_eq]
  intro claim member struct isField
  simp only [structListing, typeClaim, Listing.claims_append, Listing.claims_claim,
    Listing.claims_declare, List.append_nil, Listing.claims_join, List.flatMap_map,
    List.mem_append, List.mem_singleton, List.mem_flatMap, targets_append] at member ⊢
  rcases member with rfl | ⟨entry, isMember, member⟩
  · cases isField
  · simp only [memberListing, Listing.claims_append, Listing.claims_claim, List.mem_append,
      List.mem_singleton] at member
    rcases member with rfl | member
    · cases isField
      exact .inl (List.mem_singleton.mpr rfl)
    · refine .inr (List.mem_map.mpr ?_)
      have isEntry := mem_canonicalOrder.mp isMember
      obtain ⟨owner, isClaim, same⟩ :=
        List.mem_map.mp (owned entry isEntry claim member struct isField)
      exact ⟨owner, List.mem_flatMap.mpr ⟨entry, isMember, List.mem_append_right _ isClaim⟩, same⟩

/-- The fields of a struct that has just been claimed. -/
theorem emitMembers_run {name : String} {contents : Module}
    (emits : ∀ node ∈ contents.nodes, NodeEmits rules node) (records : emitter.Records taken)
    (free : collision? taken (typeClaim name (Path.display path)).claims = none) :
    (emitFields (.start (.fields (typeIdentifier name)))
        (canonicalOrder (memberTasks rules path contents.members))).run
        (emitter.after (typeClaim name (Path.display path))).reserved =
      (emitter.after (typeClaim name (Path.display path))).reserved.outcome
        ((typeClaim name (Path.display path)).claims.reverse ++ taken)
        (.join (contents.sorted.map fun member => memberListing rules (typeIdentifier name) member.1
          (nodeListing rules (rules.exported member.1) (path ++ [member.1]) member.2)))
        (contents.sorted.map (memberField rules)) := by
  have emitsMember : ∀ member ∈ contents.sorted, NodeEmits rules member.2 := fun member isMember =>
    emits member.2 (List.mem_map_of_mem (mem_canonicalOrder.mp isMember))
  have records' := records.after (claimType_emits (typeIdentifier name) (Path.display path)).owned
  -- No field has been claimed for the struct, since the struct would have been claimed before.
  have unclaimed : ∀ claim ∈ taken, claim.scope ≠ .fields (typeIdentifier name) := by
    intro claim member isField
    have apart := (collision?_eq_none_iff.mp free).2 _ (List.mem_singleton.mpr rfl)
    exact apart (records.owned claim member _ isField)
  rw [memberTasks_eq, canonicalOrder_map]
  refine emitFields_run emitsMember records'.reserved rfl (Scope.records_start ?_)
    (by simp [typeClaim, Claim.target])
  intro claim member isField
  rcases List.mem_cons.mp member with rfl | member
  · cases isField
  · exact unclaimed claim member isField

theorem emitModule_emits (name : String) {contents : Module}
    (emits : ∀ node ∈ contents.nodes, NodeEmits rules node) :
    Emits (emitModule rules name path contents) (moduleListing rules name path contents)
      (.named (typeIdentifier name)) := by
  refine ⟨owned_structListing fun member isMember =>
    (emits member.2 (List.mem_map_of_mem isMember) _ _).owned, ?_⟩
  intro emitter taken records
  obtain ⟨members⟩ := contents
  rw [emitModule, moduleListing_eq, structListing, Listing.append_assoc]
  refine (claimType_emits _ _).run_bind records fun free => ?_
  exact run_reserved (emitMembers_run emits records free)
    (fun fields => .struct (typeIdentifier name) path fields) _

theorem emitAlternatives_emits {alternatives : List Node}
    (emits : ∀ node ∈ alternatives, NodeEmits rules node) :
    Emits (emitAlternatives rules path sum alternatives)
      (alternativesListing rules path sum alternatives)
      (alternatives.map (alternativeVariant rules sum)) := by
  induction alternatives with
  | nil => exact .pure _
  | cons node rest ih =>
      rw [List.forall_mem_cons] at emits
      have later := (ih emits.2).map fun variants => alternativeVariant rules sum node :: variants
      rw [emitAlternatives, alternativesListing, alternativeListing, innerName]
      cases declares : declaresType node with
      | true =>
          refine (emits.1 _ _).bind ?_
          rw [nodeType_of_declaresType declares]
          exact later
      | false =>
          have wrapper : wrapperOf rules sum node =
              .wrapper (typeIdentifier (alternativeName rules sum node)) sum
                (nodeType (alternativeName rules sum node ++ "Item") node) := by
            rw [wrapperOf, innerName, declares]
            rfl
          simp only [Bool.false_eq_true, if_false, pure_bind]
          rw [Listing.append_assoc, Listing.append_assoc, wrapper]
          exact (claimType_emits _ _).bind ((emits.1 _ _).bind ((push_emits _).bind later))

/-- Walking a node emits its listing. -/
theorem emitNode_emits (node : Node) : NodeEmits rules node := by
  induction node using Node.induction with
  | step node ih =>
      intro name path
      cases node with
      | module contents => exact emitModule_emits name ih
      | option doc kind =>
          rw [emitNode, if_pos (Tag.isRegistered_name kind.tag), nodeListing, nodeType]
          cases kind with
          | scalar scalar => exact useBuiltin_emits (scalarType scalar)
          | unspecified source => exact useBuiltin_emits .rawJson
          | enumeration values => exact emitEnumeration_emits name values
          | separatedString separator => exact useBuiltin_emits .string
          | submodule contents => exact emitModule_emits name ih
          | wrapped wrapper inner =>
              have emits := ih inner (List.mem_singleton.mpr rfl) name path
              cases wrapper with
              | unique => exact emits
              | nullOr => exact emits.map TypeExpr.optional
              | listOf => exact emits.map TypeExpr.list
              | attrsOf => exact importMap_emits.bind (emits.map TypeExpr.map)
          | either alternatives =>
              rw [emitKind, kindListing, kindType]
              split
              · exact useBuiltin_emits _
              · rw [sumListing, Listing.append_assoc, Listing.append_assoc]
                refine (claimType_emits _ _).bind ((requireCrate_emits _ _).bind ?_)
                have emits : Emits (emitAlternatives rules path (typeIdentifier name) alternatives)
                    _ _ := emitAlternatives_emits ih
                exact ⟨emits.owned, fun records =>
                  run_reserved (emits.run records.reserved)
                    (fun variants => .sum (typeIdentifier name) path variants) _⟩

/-! ## Files -/

theorem Emitter.records_start : Emitter.start.Records [] :=
  ⟨rfl, rfl, fun _ member => nomatch member⟩

def Listing.file (listing : Listing) (package : String) : SourceFile :=
  { package
    imports := listing.imports
    declarations := listing.declarations
    source := textOfLines (headerLines package listing.imports ++
      listing.declarations.flatMap fun declaration => "" :: declaration.lines)
    dependencies :=
      listing.requirements.foldl (fun dependencies requirement =>
        dependencies.require requirement.1 requirement.2) Emitter.start.dependencies }

/-- Generating a file fails with the first collision among the claims of the listing, and otherwise
gives the file for the listing. -/
theorem generate_eq (options : GenerateOptions) (rules : Rules) (module : Module) :
    generate options rules module =
      match collision? [] (moduleListing rules options.rootType [] module).claims with
      | some collision => .error (.collision collision)
      | none => .ok ((moduleListing rules options.rootType [] module).file options.package) := by
  have emits : Emits (emitModule rules options.rootType [] module) _ _ :=
    emitModule_emits options.rootType fun node _ => emitNode_emits node
  rw [generate, emits.run Emitter.records_start, Emitter.outcome]
  cases collision? [] (moduleListing rules options.rootType [] module).claims with
  | some collision => rfl
  | none =>
      simp [Emitter.finish_eq, Emitter.after, Emitter.start, Emitter.declarations, Listing.file,
        Outcome.ok_bind]

end OptionSchema.Codegen
