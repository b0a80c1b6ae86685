import OptionSchema.Json.Embedded
import OptionSchema.Proofs.Json.Layout

/-!
# The parts of a value

A value is an array or object of parts, which are values in turn, and a property of values holds of
all if it passes from the parts to the whole. `Value.Everywhere` states a property of a value and
everything within it; the invariants of values are properties of this kind.
-/

namespace OptionSchema.Json

namespace Value

def parts : Value → List Value
  | .array items => items
  | .object members => members.map Prod.snd
  | _ => []

/-- What holds of a value whose parts have it holds of every value. -/
@[elab_as_elim]
theorem induction {motive : Value → Prop}
    (step : ∀ value, (∀ part ∈ value.parts, motive part) → motive value) (value : Value) :
    motive value := by
  refine @Value.rec motive (fun items => ∀ item ∈ items, motive item)
    (fun members => ∀ member ∈ members, motive member.2) (fun member => motive member.2)
    ?null ?bool ?number ?string ?array ?object ?noItem ?item ?noMember ?member ?pair value
  case null => exact step _ fun _ member => nomatch member
  case bool => exact fun _ => step _ fun _ member => nomatch member
  case number => exact fun _ => step _ fun _ member => nomatch member
  case string => exact fun _ => step _ fun _ member => nomatch member
  case array => exact fun items holds => step _ holds
  case object => exact fun members holds => step _ (List.forall_mem_map.mpr holds)
  case noItem => exact fun _ member => nomatch member
  case item => exact fun _ _ first others => List.forall_mem_cons.mpr ⟨first, others⟩
  case noMember => exact fun _ member => nomatch member
  case member => exact fun _ _ first others => List.forall_mem_cons.mpr ⟨first, others⟩
  case pair => exact fun _ _ content => content

inductive Within (part : Value) : Value → Prop where
  | self : Within part part
  | inside {value inner : Value} : inner ∈ value.parts → Within part inner → Within part value

def Everywhere (property : Value → Prop) (value : Value) : Prop :=
  ∀ part, Within part value → property part

theorem everywhere_iff {property : Value → Prop} {value : Value} :
    value.Everywhere property ↔ property value ∧ ∀ part ∈ value.parts, part.Everywhere property := by
  constructor
  · intro holds
    exact ⟨holds value .self, fun part member inner within => holds inner (.inside member within)⟩
  · rintro ⟨first, others⟩ part within
    cases within with
    | self => exact first
    | inside member within => exact others _ member part within

theorem everywhere_of_parts_eq_nil {property : Value → Prop} {value : Value}
    (holds : property value) (noParts : value.parts = []) : value.Everywhere property := by
  refine everywhere_iff.mpr ⟨holds, fun part member => ?_⟩
  rw [noParts] at member
  cases member

theorem Everywhere.imp {property property' : Value → Prop} {value : Value}
    (holds : value.Everywhere property) (weaker : ∀ part, property part → property' part) :
    value.Everywhere property' :=
  fun part within => weaker part (holds part within)

/-! ## Depth -/

theorem itemsDepth_le_iff {items : List Value} {levels : Nat} :
    itemsDepth items ≤ levels ↔ ∀ item ∈ items, item.depth ≤ levels := by
  induction items with
  | nil => simp [itemsDepth]
  | cons item rest ih => rw [itemsDepth, Nat.max_le, ih, List.forall_mem_cons]

theorem membersDepth_le_iff {members : List (String × Value)} {levels : Nat} :
    membersDepth members ≤ levels ↔ ∀ member ∈ members, member.2.depth ≤ levels := by
  induction members with
  | nil => simp [membersDepth]
  | cons member rest ih =>
      obtain ⟨key, value⟩ := member
      rw [membersDepth, Nat.max_le, ih, List.forall_mem_cons]

/-! ## Trees of values -/

theorem itemTrees_eq_map (layout : Layout) (depth : Nat) (items : List Value) :
    itemTrees layout depth items = items.map fun item => item.tree layout depth := by
  induction items with
  | nil => rfl
  | cons item rest ih => rw [itemTrees, List.map_cons, ih]

theorem memberTrees_eq_map (layout : Layout) (depth : Nat) (members : List (String × Value)) :
    memberTrees layout depth members =
      members.map fun member => (member.1, member.2.tree layout depth) := by
  induction members with
  | nil => rfl
  | cons member rest ih =>
      obtain ⟨key, value⟩ := member
      rw [memberTrees, List.map_cons, ih]

theorem tree_float (x : Float) :
    (Number.float x).tree = if x.isFinite then .number (floatNumeral x) else .null :=
  rfl

theorem wellFormed_number (number : Number) : number.tree.wellFormed = true := by
  cases number with
  | integer value fits => exact wellFormed_numeral (.integer value fits)
  | float value =>
      rw [tree_float]
      split
      · exact wellFormed_floatNumeral value
      · rfl

/-- A value is written as a well-formed tree. -/
theorem wellFormed_tree (value : Value) (layout : Layout) (depth : Nat) :
    (value.tree layout depth).wellFormed = true := by
  induction value using Value.induction generalizing depth with
  | step value ih =>
      cases value with
      | null => rfl
      | bool value => rfl
      | number value => exact wellFormed_number value
      | string value => exact wellFormed_string value
      | array items =>
          rw [Value.tree, itemTrees_eq_map]
          exact wellFormed_array (List.forall_mem_map.mpr fun item member => ih item member _)
      | object members =>
          rw [Value.tree, memberTrees_eq_map]
          exact wellFormed_object (List.forall_mem_map.mpr fun member isMember =>
            ih member.2 (List.mem_map_of_mem isMember) _)

/-! ## Invariants of values -/

def IsAscending : Value → Prop
  | .object members => Dictionary.Ascending members
  | _ => True

/-- A value whose objects are dictionaries, as the type of values has it. -/
def Ordered (value : Value) : Prop :=
  value.Everywhere IsAscending

theorem ordered_bool (value : Bool) : Ordered (.bool value) :=
  everywhere_of_parts_eq_nil trivial rfl

theorem ordered_string (text : String) : Ordered (.string text) :=
  everywhere_of_parts_eq_nil trivial rfl

/-- A double that is read back from its numeral. -/
def Recovers (x : Float) : Prop :=
  x.isFinite = true ∧ readNumber (floatNumeral x) = .ok (.float x)

def FloatsRecover (value : Value) : Prop :=
  ∀ x, Within (.number (.float x)) value → Recovers x

theorem floatsRecover_iff {value : Value} :
    value.FloatsRecover ↔
      value.Everywhere fun part => ∀ x, part = .number (.float x) → Recovers x := by
  constructor
  · rintro recovers part within x rfl
    exact recovers x within
  · intro everywhere x within
    exact everywhere _ within x rfl

theorem floatsRecover_null : FloatsRecover .null := by
  refine floatsRecover_iff.mpr (everywhere_of_parts_eq_nil ?_ rfl)
  rintro _ ⟨⟩

theorem floatsRecover_bool (value : Bool) : FloatsRecover (.bool value) := by
  refine floatsRecover_iff.mpr (everywhere_of_parts_eq_nil ?_ rfl)
  rintro _ ⟨⟩

theorem bool_ne_null {value : Bool} : Value.bool value ≠ .null := by
  rintro ⟨⟩

/-- An object whose first key is that of an embedded text. -/
def IsMarked : Value → Prop
  | .object members => (Dictionary.keys members).head? = some embeddingMark
  | _ => False

/-- A value within which no object looks like an embedded text. -/
def Plain (value : Value) : Prop :=
  value.Everywhere fun part => ¬ part.IsMarked

/-- An array is plain if its items are, and it has one more level than they have at most. -/
theorem plain_and_shallow_array {items : List Value} {levels : Nat}
    (each : ∀ item ∈ items, item.Plain ∧ item.depth ≤ levels) :
    (array items).Plain ∧ (array items).depth ≤ levels + 1 := by
  constructor
  · exact everywhere_iff.mpr ⟨id, fun item member => (each item member).1⟩
  · exact Nat.succ_le_succ (itemsDepth_le_iff.mpr fun item member => (each item member).2)

theorem plain_and_shallow_object {members : List (String × Value)} {levels : Nat}
    (unmarked : ¬ (object members).IsMarked)
    (each : ∀ member ∈ members, member.2.Plain ∧ member.2.depth ≤ levels) :
    (object members).Plain ∧ (object members).depth ≤ levels + 1 := by
  constructor
  · refine everywhere_iff.mpr ⟨unmarked, List.forall_mem_map.mpr fun member isMember => ?_⟩
    exact (each member isMember).1
  · exact Nat.succ_le_succ (membersDepth_le_iff.mpr fun member isMember => (each member isMember).2)

end Value

end OptionSchema.Json
