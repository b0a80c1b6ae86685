import OptionSchema.Proofs.Json.Value

/-!
# Addresses in trees

An address leads from a tree to a part of it, through the members of objects and the items of
arrays. Every part has an address. Some parts of a document may be kept as they were found elsewhere:
`Outside` tells the addresses that do not lead into such parts, and `HoldsOutside` states a property
of all parts with such an address.
-/

namespace OptionSchema.Json

/-- A step into an array or object: to an item, or to the members whose key spells a name. Keys that
cannot be read spell none. -/
inductive Key where
  | item (index : Nat)
  | member (name : Option String)

/-- The steps from a tree to a part of it. -/
abbrev Address :=
  List Key

def Padded.name? (key : Padded (List Char)) : Option String :=
  (readString key.content).toOption

inductive Tree.At : Tree → Address → Tree → Prop where
  | here {tree : Tree} : At tree [] tree
  | item {gap : List Char} {items : List (Padded Tree)} {index : Nat} {item : Padded Tree}
      {address : Address} {part : Tree} :
      items[index]? = some item → At item.content address part →
      At (.array gap items) (.item index :: address) part
  | member {gap : List Char} {members : List (Padded (List Char) × Padded Tree)}
      {key : Padded (List Char)} {value : Padded Tree} {address : Address} {part : Tree} :
      (key, value) ∈ members → At value.content address part →
      At (.object gap members) (.member key.name? :: address) part

/-- The places of a tree at which parts are kept. -/
abbrev Places :=
  Address → Bool

def Places.under (kept : Places) (key : Key) : Places :=
  fun address => kept (key :: address)

/-- An address that leads neither to a kept part nor into one. -/
def Outside (kept : Places) (address : Address) : Prop :=
  ∀ front, front <+: address → kept front = false

/-- The parts that are neither kept nor within a kept one have a property. -/
def Tree.HoldsOutside (kept : Places) (property : Tree → Prop) (tree : Tree) : Prop :=
  ∀ address part, tree.At address part → Outside kept address → property part

variable {kept : Places} {key : Key} {address : Address} {property : Tree → Prop} {tree : Tree}
  {layout : Layout} {depth : Nat}

theorem Outside.notKept (outside : Outside kept address) : kept [] = false :=
  outside [] List.nil_prefix

theorem Outside.under (outside : Outside kept (key :: address)) :
    Outside (kept.under key) address :=
  fun front isFront => outside (key :: front) ((List.prefix_cons_inj key).mpr isFront)

/-! ## Parts outside the kept ones -/

theorem Tree.holdsOutside_of_kept (isKept : kept [] = true) : tree.HoldsOutside kept property := by
  intro address part _ outside
  rw [outside.notKept] at isKept
  cases isKept

def Tree.isAtom : Tree → Bool
  | .array _ _ | .object _ _ => false
  | _ => true

/-- An atom has no part but itself. -/
theorem Tree.holdsOutside_of_isAtom (atom : tree.isAtom = true) (holds : property tree) :
    tree.HoldsOutside kept property := by
  intro address part isAt _
  cases isAt with
  | here => exact holds
  | item => cases atom
  | member => cases atom

theorem isAtom_number (number : Number) : number.tree.isAtom = true := by
  cases number with
  | integer => rfl
  | float value =>
      rw [Value.tree_float]
      split <;> rfl

/-- The items of an array in a layout are the ones it is made of. -/
theorem getElem?_padItems_iff {items : List Tree} {index : Nat} {item : Tree} :
    (∃ padded, (layout.padItems depth items)[index]? = some padded ∧ padded.content = item) ↔
      items[index]? = some item := by
  have same : (layout.padItems depth items).map Padded.content = items := map_content_padItems items
  rw [← Option.map_eq_some_iff, ← List.getElem?_map, same]

theorem holdsOutside_array {items : List Tree} (holds : property (layout.array depth items))
    (each : ∀ (index : Nat) (item : Tree), items[index]? = some item →
      item.HoldsOutside (kept.under (.item index)) property) :
    (layout.array depth items).HoldsOutside kept property := by
  intro address part isAt outside
  cases isAt with
  | here => exact holds
  | item isItem isAt =>
      exact each _ _ (getElem?_padItems_iff.mp ⟨_, isItem, rfl⟩) _ _ isAt outside.under

theorem Padded.name?_escape (before after : List Char) (name : String) :
    Padded.name? ⟨before, escape name.toList, after⟩ = some name := by
  rw [Padded.name?, readString_escape]
  rfl

/-- The keys and trees of an object in a layout are those of its members. -/
theorem map_content_padMembers (layout : Layout) (depth : Nat) (members : List (String × Tree)) :
    (layout.padMembers depth members).map (fun member => (member.1.name?, member.2.content)) =
      members.map fun member => (some member.1, member.2) := by
  induction members with
  | nil => rfl
  | cons member rest ih =>
      obtain ⟨name, tree⟩ := member
      rw [Layout.padMembers, List.map_cons, List.map_cons, ih, Padded.name?_escape]

theorem holdsOutside_object {members : List (String × Tree)}
    (holds : property (layout.object depth members))
    (each : ∀ member ∈ members,
      member.2.HoldsOutside (kept.under (.member (some member.1))) property) :
    (layout.object depth members).HoldsOutside kept property := by
  intro address part isAt outside
  cases isAt with
  | here => exact holds
  | @member _ _ key value _ _ isMember isAt =>
      have isEntry : (key.name?, value.content) ∈
          members.map fun member => (some member.1, member.2) := by
        rw [← map_content_padMembers layout depth]
        exact List.mem_map_of_mem isMember
      obtain ⟨⟨name, tree⟩, isEntry, same⟩ := List.mem_map.mp isEntry
      obtain ⟨sameName, rfl⟩ := Prod.mk.inj same
      rw [← sameName] at outside
      exact each _ isEntry _ _ isAt outside.under

/-! ## Parts of what is laid out -/

theorem Tree.at_array {items : List Tree} {index : Nat} {item part : Tree}
    (isItem : items[index]? = some item) (isAt : item.At address part) :
    (layout.array depth items).At (.item index :: address) part := by
  obtain ⟨padded, isPadded, rfl⟩ := getElem?_padItems_iff.mpr isItem
  exact .item isPadded isAt

theorem Tree.at_object {members : List (String × Tree)} {name : String} {value part : Tree}
    (isMember : (name, value) ∈ members) (isAt : value.At address part) :
    (layout.object depth members).At (.member (some name) :: address) part := by
  have isEntry : (some name, value) ∈
      (layout.padMembers depth members).map fun member => (member.1.name?, member.2.content) := by
    rw [map_content_padMembers]
    exact List.mem_map_of_mem (f := fun member => (some member.1, member.2)) isMember
  obtain ⟨⟨key, padded⟩, isWritten, same⟩ := List.mem_map.mp isEntry
  obtain ⟨sameName, rfl⟩ := Prod.mk.inj same
  rw [← sameName]
  exact .member isWritten isAt

end OptionSchema.Json
