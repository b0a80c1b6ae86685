import Mathlib.Data.List.Nodup
import OptionSchema.Proofs.Dictionary
import OptionSchema.Proofs.Text.ByteOrder
import OptionSchema.Schema.Order

/-!
# The canonical order of members

Names are compared by which of them is `enable`, then by which of them is `package`, and last by
their bytes (`compareNames`). That is a strict total order: it is the order of the pairs of a rank
and a name (`compareNames_eq_then`). Main statement: `Module.sorted_canonical`. The canonical order
of the members of a module agrees with the comparison, and no other order of them does.
-/

namespace OptionSchema

variable {α β : Type} {entries order : List (String × α)} {first second third : String}

/-! ## Comparing names -/

/-- The part of the canonical order that a name belongs to. -/
def nameRank (name : String) : Nat :=
  if name = "enable" then 0 else if name = "package" then 1 else 2

theorem eq_or_nameRank_eq_two (name : String) :
    name = "enable" ∨ name = "package" ∨
      (name == "enable") = false ∧ (name == "package") = false ∧ nameRank name = 2 := by
  by_cases enable : name = "enable"
  · exact .inl enable
  · by_cases package : name = "package"
    · exact .inr (.inl package)
    · refine .inr (.inr ⟨beq_false_of_ne enable, beq_false_of_ne package, ?_⟩)
      rw [nameRank, if_neg enable, if_neg package]

/-- Names are compared by their ranks, and within a rank as texts are. -/
theorem compareNames_eq_then (first second : String) :
    compareNames first second =
      (compare (nameRank first) (nameRank second)).then (compare first second) := by
  have byBytes : compareOfLessAndEq (Text.bytes first) (Text.bytes second) =
      compare first second := by
    rw [compareOfLessAndEq]
    simp only [Text.bytes_lt_iff, Text.bytes_inj]
    rfl
  rw [compareNames, byBytes]
  rcases eq_or_nameRank_eq_two first with rfl | rfl | ⟨enable, package, rank⟩ <;>
    rcases eq_or_nameRank_eq_two second with rfl | rfl | ⟨enable', package', rank'⟩ <;>
      simp only [comparePreferred, *] <;> rfl

theorem compareNames_eq_compareLex :
    compareNames = compareLex (compareOn nameRank) (compare : String → String → Ordering) :=
  funext₂ compareNames_eq_then

instance : Std.TransCmp compareNames :=
  compareNames_eq_compareLex ▸ inferInstance

theorem compareNames_swap (first second : String) :
    compareNames second first = (compareNames first second).swap :=
  Std.OrientedCmp.eq_swap

theorem compareNames_eq_lt_iff :
    compareNames first second = .lt ↔
      nameRank first < nameRank second ∨ nameRank first = nameRank second ∧ first < second := by
  rw [compareNames_eq_then, Ordering.then_eq_lt, compare_lt_iff_lt, compare_lt_iff_lt,
    Std.compare_eq_iff_eq]

theorem compareNames_eq_eq_iff : compareNames first second = .eq ↔ first = second := by
  rw [compareNames_eq_then, Ordering.then_eq_eq, Std.compare_eq_iff_eq, Std.compare_eq_iff_eq]
  exact and_iff_right_of_imp (congrArg nameRank)

/-! ## Putting entries in order -/

/-- The canonical order has the entries of one rank behind those of another. -/
theorem canonicalOrder_eq_flatMap (entries : List (String × α)) :
    canonicalOrder entries =
      (List.range 3).flatMap fun rank => entries.filter fun entry => nameRank entry.1 == rank := by
  have parts (name : String) : (nameRank name == 0) = (name == "enable") ∧
      (nameRank name == 1) = (name == "package") ∧
      (nameRank name == 2) = (name != "enable" && name != "package") := by
    rcases eq_or_nameRank_eq_two name with rfl | rfl | ⟨enable, package, rank⟩
    · decide
    · decide
    · simp only [bne, enable, package, rank]
      decide
  have ranks : List.range 3 = [0, 1, 2] := rfl
  rw [canonicalOrder, ranks]
  simp only [List.flatMap_cons, List.flatMap_nil, List.append_nil, List.append_assoc, parts]

/-- The order of the entries is a matter of their names alone. -/
theorem canonicalOrder_map (f : String × α → β) (entries : List (String × α)) :
    canonicalOrder (entries.map fun entry => (entry.1, f entry)) =
      (canonicalOrder entries).map fun entry => (entry.1, f entry) := by
  simp only [canonicalOrder, List.map_append, List.filter_map]
  rfl

/-- Putting entries in order loses and repeats none of them. -/
theorem canonicalOrder_perm (entries : List (String × α)) :
    (canonicalOrder entries).Perm entries := by
  have others := List.filter_append_perm (fun entry : String × α => entry.1 == "package")
    (entries.filter fun entry => !(entry.1 == "enable"))
  have package : (entries.filter fun entry => !(entry.1 == "enable")).filter
      (fun entry => entry.1 == "package") = entries.filter fun entry => entry.1 == "package" := by
    rw [List.filter_filter]
    refine List.filter_congr fun entry _ => ?_
    by_cases same : entry.1 = "package" <;> simp [same]
  have rest : (entries.filter fun entry => !(entry.1 == "enable")).filter
      (fun entry => !(entry.1 == "package")) =
        entries.filter fun entry => entry.1 != "enable" && entry.1 != "package" := by
    rw [List.filter_filter]
    refine List.filter_congr fun entry _ => ?_
    rw [Bool.and_comm]
    rfl
  rw [package, rest] at others
  rw [canonicalOrder, List.append_assoc]
  exact (others.append_left _).trans (List.filter_append_perm _ _)

/-- An entry that is put in order is one of the entries. -/
@[simp] theorem mem_canonicalOrder {entry : String × α} :
    entry ∈ canonicalOrder entries ↔ entry ∈ entries :=
  (canonicalOrder_perm entries).mem_iff

/-- Entries that have the same names one by one keep their places when they are put in order. -/
theorem forall₂_canonicalOrder {related : String × α → String × β → Prop}
    (sameName : ∀ entry entry', related entry entry' → entry.1 = entry'.1)
    {entries' : List (String × β)} (matched : List.Forall₂ related entries entries') :
    List.Forall₂ related (canonicalOrder entries) (canonicalOrder entries') := by
  have filtered (keep : String → Bool) :
      List.Forall₂ related (entries.filter fun entry => keep entry.1)
        (entries'.filter fun entry => keep entry.1) := by
    refine List.rel_filter (fun entry entry' same => ?_) matched
    change keep entry.1 = true ↔ keep entry'.1 = true
    rw [sameName entry entry' same]
  exact List.rel_append (List.rel_append (filtered (· == "enable")) (filtered (· == "package")))
    (filtered fun name => name != "enable" && name != "package")

section

variable (ascending : Dictionary.Ascending entries)

include ascending

/-- Each entry lies below those behind it: by its rank, or by its name if they have one rank. -/
theorem pairwise_canonicalOrder :
    (canonicalOrder entries).Pairwise fun entry other => compareNames entry.1 other.1 = .lt := by
  have hasRank {rank : Nat} {entry : String × α}
      (member : entry ∈ entries.filter fun entry => nameRank entry.1 == rank) :
      nameRank entry.1 = rank :=
    eq_of_beq (List.mem_filter.mp member).2
  have below : entries.Pairwise fun entry other => entry.1 < other.1 := List.pairwise_map.mp ascending
  rw [canonicalOrder_eq_flatMap, List.pairwise_flatMap]
  constructor
  · intro rank _
    refine (below.filter _).imp_of_mem fun member member' lt => ?_
    exact compareNames_eq_lt_iff.mpr (.inr ⟨(hasRank member).trans (hasRank member').symm, lt⟩)
  · refine List.pairwise_lt_range.imp fun lt entry member other member' => ?_
    rw [compareNames_eq_lt_iff, hasRank member, hasRank member']
    exact .inl lt

/-- The entries can be put in one order only that agrees with the comparison of names. -/
theorem eq_canonicalOrder (permuted : order.Perm entries)
    (agrees : order.Pairwise fun entry other => compareNames entry.1 other.1 ≠ .gt) :
    order = canonicalOrder entries := by
  have distinct : (entries.map Prod.fst).Nodup := ascending.imp String.ne_of_lt
  have ordered : (canonicalOrder entries).Pairwise fun entry other =>
      compareNames entry.1 other.1 ≠ .gt :=
    (pairwise_canonicalOrder ascending).imp fun lt gt => by rw [lt] at gt; cases gt
  refine List.Perm.eq_of_pairwise (fun entry other member member' notAbove notBelow => ?_)
    agrees ordered (permuted.trans (canonicalOrder_perm entries).symm)
  have same : entry.1 = other.1 := by
    rw [compareNames_swap entry.1 other.1] at notBelow
    refine compareNames_eq_eq_iff.mp ?_
    cases compared : compareNames entry.1 other.1 with
    | lt => exact absurd (compared ▸ rfl) notBelow
    | eq => rfl
    | gt => exact absurd compared notAbove
  exact List.inj_on_of_nodup_map distinct (permuted.mem_iff.mp member)
    (mem_canonicalOrder.mp member') same

/-- Sorting the entries by their names puts them in canonical order. -/
theorem mergeSort_eq_canonicalOrder :
    (entries.mergeSort fun entry other => (compareNames entry.1 other.1).isLE) =
      canonicalOrder entries := by
  refine eq_canonicalOrder ascending (List.mergeSort_perm _ _) ?_
  refine (List.pairwise_mergeSort (fun _ _ _ => Std.TransCmp.isLE_trans) (fun entry other => ?_)
    entries).imp Ordering.isLE_iff_ne_gt.mp
  rw [compareNames_swap entry.1 other.1]
  cases compareNames entry.1 other.1 <;> rfl

/-- The names in order: those that are put in front, then all others as they were. -/
theorem keys_canonicalOrder :
    Dictionary.keys (canonicalOrder entries) =
      ["enable", "package"].filter (· ∈ Dictionary.keys entries) ++
        (Dictionary.keys entries).filter fun name => name != "enable" && name != "package" := by
  have distinct : (Dictionary.keys entries).Nodup := ascending.imp String.ne_of_lt
  have filtered (keep : String → Bool) :
      Dictionary.keys (entries.filter fun entry => keep entry.1) =
        (Dictionary.keys entries).filter keep :=
    (List.filter_map ..).symm
  have once (name : String) : (Dictionary.keys entries).filter (· == name) =
      [name].filter (· ∈ Dictionary.keys entries) := by
    rw [List.filter_beq, distinct.count]
    by_cases member : name ∈ Dictionary.keys entries <;> simp [member]
  rw [canonicalOrder, Dictionary.keys_append, Dictionary.keys_append, filtered (· == "enable"),
    filtered (· == "package"), filtered fun name => name != "enable" && name != "package",
    once, once, ← List.filter_append]
  rfl

end

/-- The canonical order has every member of a module once, with its own node: `enable` and `package`
in front if they are members, and behind them all other names in strictly ascending order of their
bytes. Sorting the members by the comparison of names gives this order. It is their only order that
agrees with the comparison, which is a strict total order of all names. -/
theorem Module.sorted_canonical (members : NameMap Node) :
    let module := Module.ofMap members
    (module.sorted.Perm module.members ∧ (Dictionary.keys module.sorted).Nodup ∧
      ∀ name node, (name, node) ∈ module.sorted ↔ module.get? name = some node) ∧
    (∃ others,
      Dictionary.keys module.sorted =
          ["enable", "package"].filter (· ∈ module.names) ++ others ∧
        (others.Pairwise fun first second => Text.bytes first < Text.bytes second) ∧
        ∀ name, name ∈ others ↔ name ∈ module.names ∧ name ≠ "enable" ∧ name ≠ "package") ∧
    (module.members.mergeSort fun first second => (compareNames first.1 second.1).isLE) =
      module.sorted ∧
    (∀ order : List (String × Node), order.Perm module.members →
      ((order.Pairwise fun first second => compareNames first.1 second.1 ≠ .gt) ↔
        order = module.sorted)) ∧
    (∀ first second, compareNames second first = (compareNames first second).swap) ∧
    (∀ first second third, compareNames first second = .lt → compareNames second third = .lt →
      compareNames first third = .lt) ∧
    ∀ first second, compareNames first second = .eq ↔ first = second := by
  intro module
  have ascending : Dictionary.Ascending module.members := members.ascending
  have permuted : module.sorted.Perm module.members := canonicalOrder_perm module.members
  have ordered : module.sorted.Pairwise fun first second => compareNames first.1 second.1 = .lt :=
    pairwise_canonicalOrder ascending
  have distinct : (Dictionary.keys module.members).Nodup := ascending.imp String.ne_of_lt
  refine ⟨⟨permuted, (permuted.map Prod.fst).nodup_iff.mpr distinct, fun name node => ?_⟩,
    ⟨_, keys_canonicalOrder ascending, ?_, fun name => ?_⟩, mergeSort_eq_canonicalOrder ascending,
    fun order same => ⟨eq_canonicalOrder ascending same, ?_⟩, compareNames_swap,
    fun _ _ _ => Std.TransCmp.lt_trans, fun _ _ => compareNames_eq_eq_iff⟩
  · rw [permuted.mem_iff]
    exact NameMap.mem_entries_iff
  · exact (ascending.filter _).imp Text.bytes_lt_of_lt
  · rw [List.mem_filter, Bool.and_eq_true, bne_iff_ne, bne_iff_ne, names]
  · rintro rfl
    exact ordered.imp fun lt gt => by rw [lt] at gt; cases gt

/-- Members of which those with a capital letter lie below the preferred ones. -/
def shuffledMembers : NameMap Node :=
  .ofPairs [("package", .option .empty (.scalar .package)), ("zeta", .module .empty),
    ("alpha", .option .empty (.scalar .int)), ("enable", .option .empty (.scalar .bool)),
    ("Beta", .option .empty (.scalar .str))]

theorem Module.sorted_canonical_shuffledMembers :
    ("zeta", Node.module .empty) ∈ (Module.ofMap shuffledMembers).sorted ∧
      ∀ order : List (String × Node), order.Perm shuffledMembers.entries →
        (order.Pairwise fun first second => compareNames first.1 second.1 ≠ .gt) →
          Dictionary.keys order = ["enable", "package", "Beta", "alpha", "zeta"] := by
  obtain ⟨⟨-, -, own⟩, -, -, only, -⟩ := Module.sorted_canonical shuffledMembers
  refine ⟨(own _ _).mpr (by rfl), fun order permuted agrees => ?_⟩
  rw [(only order permuted).mp agrees]
  decide

end OptionSchema
