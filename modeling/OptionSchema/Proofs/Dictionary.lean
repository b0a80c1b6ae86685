import Mathlib.Data.List.Induction
import OptionSchema.Dictionary
import OptionSchema.Proofs.Outcome

/-!
# Laws of dictionaries

A set of names is determined by its members (`NameSet.ext`), and a dictionary, whose keys are such a
set, by what its keys look up (`Ascending.ext`, `NameMap.ext`). Inserting keeps the order of the keys
and changes one look-up only, so the dictionary of a list of pairs looks up the last value of each
key, and an ascending list is its own dictionary.
-/

namespace OptionSchema

/-- Lists in ascending order of their keys are equal if they have the same members. -/
theorem eq_of_ascending_keys {α : Type} (key : α → String) {first second : List α}
    (ascending : first.Pairwise fun a b => key a < key b)
    (ascending' : second.Pairwise fun a b => key a < key b)
    (same : ∀ a, a ∈ first ↔ a ∈ second) : first = second := by
  have distinct {list : List α} (ascending : list.Pairwise fun a b => key a < key b) :
      list.Nodup := by
    refine ascending.imp ?_
    rintro a _ below rfl
    exact String.lt_irrefl (key a) below
  have permuted : first.Perm second :=
    (List.perm_ext_iff_of_nodup (distinct ascending) (distinct ascending')).mpr same
  exact permuted.eq_of_pairwise (fun _ _ _ _ below above => absurd above (String.lt_asymm below))
    ascending ascending'

end OptionSchema

namespace OptionSchema.NameSet

variable {name other : String} {names : List String} {set : NameSet}

/-- Ascending lists of the same names are equal. -/
theorem eq_of_mem_iff {first second : List String} (ascending : first.Pairwise (· < ·))
    (ascending' : second.Pairwise (· < ·)) (same : ∀ name, name ∈ first ↔ name ∈ second) :
    first = second :=
  eq_of_ascending_keys id ascending ascending' same

/-- A set of names is determined by its members. -/
theorem ext {first second : NameSet} (same : ∀ name, name ∈ first.names ↔ name ∈ second.names) :
    first = second := by
  have names := eq_of_mem_iff first.ascending second.ascending same
  cases first
  cases second
  cases names
  rfl

theorem mem_insert : other ∈ (set.insert name).names ↔ other = name ∨ other ∈ set.names :=
  mem_insertName

/-- The names of a set and of a list together are those of either. -/
theorem mem_union : name ∈ (set.union names).names ↔ name ∈ set.names ∨ name ∈ names := by
  unfold union
  induction names generalizing set with
  | nil => simp
  | cons first rest ih =>
      rw [List.foldl_cons, ih, mem_insert, List.mem_cons, or_assoc, or_left_comm]

theorem mem_ofList : name ∈ (ofList names).names ↔ name ∈ names :=
  mem_union.trans (or_iff_right List.not_mem_nil)

/-- The list of a set is a list of just this set. -/
theorem ofList_names (set : NameSet) : ofList set.names = set :=
  ext fun _ => mem_ofList

end OptionSchema.NameSet

namespace OptionSchema.Dictionary

variable {α β : Type} {key name : String} {value : α} {entries pairs : List (String × α)}

@[simp] theorem keys_nil : keys ([] : List (String × α)) = [] :=
  rfl

@[simp] theorem keys_cons (entry : String × α) (entries : List (String × α)) :
    keys (entry :: entries) = entry.1 :: keys entries :=
  rfl

@[simp] theorem keys_append (first second : List (String × α)) :
    keys (first ++ second) = keys first ++ keys second :=
  List.map_append

theorem mem_keys : key ∈ keys entries ↔ ∃ value, (key, value) ∈ entries := by
  simp [keys]

@[simp] theorem ascending_nil : Ascending ([] : List (String × α)) :=
  List.Pairwise.nil

/-- A list is ascending if its first key lies below the others and they are ascending. -/
theorem ascending_cons {entry : String × α} :
    Ascending (entry :: entries) ↔ (∀ k ∈ keys entries, entry.1 < k) ∧ Ascending entries :=
  List.pairwise_cons

/-- The order of a list is a matter of its keys alone. -/
theorem Ascending.of_keys_eq {others : List (String × β)} (ascending : Ascending entries)
    (same : keys others = keys entries) : Ascending others := by
  unfold Ascending
  rw [same]
  exact ascending

/-! ## Looking up -/

theorem get?_nil (key : String) : get? key ([] : List (String × α)) = none :=
  rfl

theorem get?_cons (key k : String) (v : α) (rest : List (String × α)) :
    get? key ((k, v) :: rest) = if k = key then some v else get? key rest :=
  rfl

theorem mem_of_get? (found : get? key entries = some value) : (key, value) ∈ entries := by
  induction entries with
  | nil => cases found
  | cons entry rest ih =>
      obtain ⟨k, v⟩ := entry
      rw [get?_cons] at found
      split at found
      · next same => simp_all
      · exact List.mem_cons_of_mem _ (ih found)

theorem get?_eq_none_iff : get? key entries = none ↔ key ∉ keys entries := by
  induction entries with
  | nil => simp [get?_nil]
  | cons entry rest ih =>
      obtain ⟨k, v⟩ := entry
      rw [get?_cons]
      split
      · next same => simp [same]
      · next other => simp [ih, Ne.symm other]

section

variable {entry : String × α} (ascending : Ascending (entry :: entries))

include ascending

theorem Ascending.get?_rest : get? entry.1 entries = none :=
  get?_eq_none_iff.mpr fun again => String.lt_irrefl _ ((ascending_cons.mp ascending).1 _ again)

/-- The first key of an ascending list is none of the others. -/
theorem Ascending.ne_of_mem_rest (member : (key, value) ∈ entries) : entry.1 ≠ key :=
  String.ne_of_lt ((ascending_cons.mp ascending).1 key (mem_keys.mpr ⟨value, member⟩))

end

/-- In an ascending list a key has the value that stands beside it. -/
theorem Ascending.get?_of_mem (ascending : Ascending entries) (member : (key, value) ∈ entries) :
    get? key entries = some value := by
  induction entries with
  | nil => cases member
  | cons entry rest ih =>
      obtain ⟨k, v⟩ := entry
      rw [get?_cons]
      cases List.mem_cons.mp member with
      | inl first =>
          cases first
          exact if_pos rfl
      | inr later =>
          rw [if_neg (ascending.ne_of_mem_rest later)]
          exact ih (ascending_cons.mp ascending).2 later

/-- Ascending lists with the same look-ups are equal, since they have the same members. -/
theorem Ascending.ext {first second : List (String × α)} (ascending : Ascending first)
    (ascending' : Ascending second) (same : ∀ key, get? key first = get? key second) :
    first = second := by
  refine eq_of_ascending_keys Prod.fst (List.pairwise_map.mp ascending)
    (List.pairwise_map.mp ascending') ?_
  rintro ⟨key, value⟩
  constructor
  · intro member
    exact mem_of_get? ((same key).symm.trans (ascending.get?_of_mem member))
  · intro member
    exact mem_of_get? ((same key).trans (ascending'.get?_of_mem member))

section

variable {before after : List (String × α)} {other : String} {value' : α}
  (ascending : Ascending (before ++ (key, value) :: after))

include ascending

theorem Ascending.lt_of_mem (member : (other, value') ∈ before) : other < key := by
  unfold Ascending at ascending
  rw [keys_append, List.pairwise_append] at ascending
  exact ascending.2.2 other (List.mem_map_of_mem member) key (List.mem_cons_self ..)

/-- An entry with a lesser key stands before. -/
theorem Ascending.mem_append_cons_iff (below : other < key) :
    (other, value') ∈ before ++ (key, value) :: after ↔ (other, value') ∈ before := by
  refine ⟨fun member => ?_, List.mem_append_left _⟩
  unfold Ascending at ascending
  rw [keys_append, List.pairwise_append] at ascending
  rcases List.mem_append.mp member with isBefore | isAfter
  · exact isBefore
  rcases List.mem_cons.mp isAfter with same | isAfter
  · cases same
    exact absurd below (String.lt_irrefl _)
  · have above := (ascending_cons.mp ascending.2.1).1 other (List.mem_map_of_mem isAfter)
    exact absurd below (String.lt_asymm above)

end

/-- Looking up in a dictionary whose values are mapped. -/
theorem get?_map (f : String → α → β) (entries : List (String × α)) (key : String) :
    get? key (entries.map fun entry => (entry.1, f entry.1 entry.2)) =
      (get? key entries).map (f key) := by
  induction entries with
  | nil => rfl
  | cons entry rest ih =>
      obtain ⟨k, v⟩ := entry
      simp only [List.map_cons, get?_cons]
      split
      · next same =>
          rw [same]
          rfl
      · exact ih

/-! ## Inserting -/

theorem insert_nil (key : String) (value : α) : insert key value [] = [(key, value)] :=
  rfl

theorem insert_cons (key k : String) (value v : α) (rest : List (String × α)) :
    insert key value ((k, v) :: rest) =
      if key < k then (key, value) :: (k, v) :: rest
      else if key = k then (key, value) :: rest
      else (k, v) :: insert key value rest :=
  rfl

/-- Inserting changes the value of one key only. -/
theorem get?_insert :
    get? name (insert key value entries) = if key = name then some value else get? name entries := by
  induction entries with
  | nil => rfl
  | cons entry rest ih =>
      obtain ⟨k, v⟩ := entry
      rw [insert_cons]
      split
      · rfl
      · split
        · next same =>
            subst same
            simp only [get?_cons]
            split <;> rfl
        · next apart =>
            simp only [get?_cons, ih]
            split
            · next first =>
                subst first
                rw [if_neg apart]
            · rfl

/-- Of two values for one key the later one counts. -/
theorem insert_insert (earlier : α) :
    insert key value (insert key earlier entries) = insert key value entries := by
  induction entries with
  | nil => rw [insert_nil, insert_nil, insert_cons, if_neg (String.lt_irrefl key), if_pos rfl]
  | cons entry rest ih =>
      obtain ⟨k, v⟩ := entry
      rw [insert_cons, insert_cons]
      split
      · rw [insert_cons, if_neg (String.lt_irrefl key), if_pos rfl]
      · split
        · rw [insert_cons, if_neg (String.lt_irrefl key), if_pos rfl]
        · next notFirst apart => rw [insert_cons, if_neg notFirst, if_neg apart, ih]

theorem mem_keys_insert :
    name ∈ keys (insert key value entries) ↔ name = key ∨ name ∈ keys entries := by
  rw [keys_insert, mem_insertName]

/-- What is in a dictionary after inserting has been inserted or was there before. -/
theorem mem_insert {entry : String × α} (member : entry ∈ insert key value entries) :
    entry = (key, value) ∨ entry ∈ entries := by
  induction entries with
  | nil => exact .inl (List.mem_singleton.mp member)
  | cons first rest ih =>
      obtain ⟨k, v⟩ := first
      rw [insert_cons] at member
      split at member
      · exact List.mem_cons.mp member
      · split at member
        · exact (List.mem_cons.mp member).imp_right (List.mem_cons_of_mem _)
        · rcases List.mem_cons.mp member with rfl | later
          · exact .inr (List.mem_cons_self ..)
          · exact (ih later).imp_right (List.mem_cons_of_mem _)

/-- What is under another key stays when a value is inserted. -/
theorem mem_insert_of_ne {entry : String × α} (member : entry ∈ entries) (apart : entry.1 ≠ key) :
    entry ∈ insert key value entries := by
  induction entries with
  | nil => cases member
  | cons first rest ih =>
      obtain ⟨k, v⟩ := first
      rw [insert_cons]
      split
      · exact List.mem_cons_of_mem _ member
      · split
        · next same =>
            rcases List.mem_cons.mp member with rfl | later
            · exact absurd same.symm apart
            · exact List.mem_cons_of_mem _ later
        · rcases List.mem_cons.mp member with rfl | later
          · exact List.mem_cons_self ..
          · exact List.mem_cons_of_mem _ (ih later)

/-- What holds of the entries and of a new one holds of all after inserting. -/
theorem forall_mem_insert_iff {p : String × α → Prop} (fresh : get? key entries = none) :
    (∀ entry ∈ insert key value entries, p entry) ↔ p (key, value) ∧ ∀ entry ∈ entries, p entry := by
  constructor
  · refine fun all => ⟨all _ (mem_of_get? (get?_insert.trans (if_pos rfl))), fun entry member => ?_⟩
    refine all entry (mem_insert_of_ne member fun same => ?_)
    exact get?_eq_none_iff.mp fresh (mem_keys.mpr ⟨entry.2, same ▸ member⟩)
  · rintro ⟨new, old⟩ entry member
    rcases mem_insert member with rfl | earlier
    · exact new
    · exact old entry earlier

/-- A key above all others is inserted at the end. -/
theorem insert_of_above (above : ∀ k ∈ keys entries, k < key) :
    insert key value entries = entries ++ [(key, value)] := by
  induction entries with
  | nil => rfl
  | cons entry rest ih =>
      obtain ⟨k, v⟩ := entry
      have first : k < key := above k (by simp)
      rw [insert_cons, if_neg (String.lt_asymm first), if_neg (Ne.symm (String.ne_of_lt first)),
        ih fun k' member => above k' (by simp [member])]
      rfl

/-! ## Erasing -/

def erase (key : String) (entries : List (String × α)) : List (String × α) :=
  entries.filter fun entry => entry.1 ≠ key

theorem mem_of_mem_erase {entry : String × α} (member : entry ∈ erase key entries) :
    entry ∈ entries :=
  List.mem_of_mem_filter member

/-- Erasing takes away the value of one key only. -/
theorem get?_erase :
    get? name (erase key entries) = if key = name then none else get? name entries := by
  induction entries with
  | nil => exact (ite_self _).symm
  | cons entry rest ih =>
      obtain ⟨k, v⟩ := entry
      by_cases erased : k = key
      · subst erased
        rw [erase, List.filter_cons_of_neg (by simp), ← erase, ih, get?_cons]
        split <;> rfl
      · rw [erase, List.filter_cons_of_pos (by simpa using erased), ← erase, get?_cons, ih, get?_cons]
        split
        · next first =>
            subst first
            rw [if_neg (Ne.symm erased)]
        · rfl

/-! ## The dictionary of a list of pairs -/

theorem ofPairs_append (pairs : List (String × α)) (pair : String × α) :
    ofPairs (pairs ++ [pair]) = insert pair.1 pair.2 (ofPairs pairs) := by
  simp [ofPairs]

theorem mem_of_mem_ofPairs {entry : String × α} (member : entry ∈ ofPairs pairs) :
    entry ∈ pairs := by
  induction pairs using List.reverseRecOn with
  | nil => cases member
  | append_singleton pairs pair ih =>
      rw [ofPairs_append] at member
      rcases mem_insert member with rfl | old
      · simp
      · exact List.mem_append_left _ (ih old)

theorem mem_keys_ofPairs : key ∈ keys (ofPairs pairs) ↔ key ∈ keys pairs := by
  induction pairs using List.reverseRecOn with
  | nil => rfl
  | append_singleton pairs pair ih =>
      rw [ofPairs_append, mem_keys_insert, ih]
      simp [or_comm]

/-- An ascending list is its own dictionary. -/
theorem Ascending.ofPairs_eq (ascending : Ascending pairs) : ofPairs pairs = pairs := by
  induction pairs using List.reverseRecOn with
  | nil => rfl
  | append_singleton pairs pair ih =>
      unfold Ascending at ascending
      rw [keys_append, List.pairwise_append] at ascending
      obtain ⟨ascendingPairs, -, below⟩ := ascending
      rw [ofPairs_append, ih ascendingPairs]
      exact insert_of_above fun k member => below k member pair.1 (by simp [keys])

def valuesOf (name : String) (pairs : List (String × α)) : List α :=
  (pairs.filter fun pair => pair.1 = name).map Prod.snd

@[simp] theorem valuesOf_nil : valuesOf name ([] : List (String × α)) = [] :=
  rfl

theorem valuesOf_cons (pair : String × α) (pairs : List (String × α)) :
    valuesOf name (pair :: pairs) =
      if pair.1 = name then pair.2 :: valuesOf name pairs else valuesOf name pairs := by
  unfold valuesOf
  by_cases same : pair.1 = name <;> simp [same]

theorem valuesOf_append (first second : List (String × α)) :
    valuesOf name (first ++ second) = valuesOf name first ++ valuesOf name second := by
  simp [valuesOf]

theorem valuesOf_append_self :
    valuesOf name (pairs ++ [(name, value)]) = valuesOf name pairs ++ [value] := by
  rw [valuesOf_append, valuesOf_cons, if_pos rfl, valuesOf_nil]

theorem valuesOf_append_other (other : key ≠ name) :
    valuesOf name (pairs ++ [(key, value)]) = valuesOf name pairs := by
  rw [valuesOf_append, valuesOf_cons, if_neg other, valuesOf_nil, List.append_nil]

theorem valuesOf_middle_other {before after : List (String × α)} (other : key ≠ name) :
    valuesOf name (before ++ (key, value) :: after) = valuesOf name (before ++ after) := by
  rw [valuesOf_append, valuesOf_cons, if_neg other, valuesOf_append]

theorem mem_valuesOf : value ∈ valuesOf name pairs ↔ (name, value) ∈ pairs := by
  simp [valuesOf]

/-- The last value of a name counts. -/
theorem get?_ofPairs (name : String) (pairs : List (String × α)) :
    get? name (ofPairs pairs) = (valuesOf name pairs).getLast? := by
  induction pairs using List.reverseRecOn with
  | nil => rfl
  | append_singleton pairs pair ih =>
      rw [ofPairs_append, get?_insert, ih, valuesOf_append, valuesOf_cons, valuesOf_nil]
      split <;> simp

/-- The first pair counts if no other has its name. -/
theorem get?_ofPairs_cons (pair : String × α) (pairs : List (String × α)) :
    get? name (ofPairs (pair :: pairs)) =
      (get? name (ofPairs pairs)).or (if pair.1 = name then some pair.2 else none) := by
  rw [get?_ofPairs, get?_ofPairs, valuesOf_cons]
  split
  · cases valuesOf name pairs with
    | nil => rfl
    | cons value rest => simp [List.getLast?_cons]
  · simp

/-- The last of the entries with a key counts. -/
theorem get?_ofPairs_middle_self {before after : List (String × α)} (last : key ∉ keys after) :
    get? key (ofPairs (before ++ (key, value) :: after)) = some value := by
  have noOther : valuesOf key after = [] := by
    rw [List.eq_nil_iff_forall_not_mem]
    exact fun other isValue => last (mem_keys.mpr ⟨other, mem_valuesOf.mp isValue⟩)
  rw [get?_ofPairs, valuesOf_append, valuesOf_cons, if_pos rfl, noOther, List.getLast?_append_cons,
    List.getLast?_singleton]

/-- In an ascending list a name has one value or none. -/
theorem Ascending.valuesOf_eq (ascending : Ascending pairs) (name : String) :
    valuesOf name pairs = (get? name pairs).toList := by
  induction pairs with
  | nil => rfl
  | cons pair rest ih =>
      obtain ⟨k, v⟩ := pair
      have others := ih (ascending_cons.mp ascending).2
      rw [valuesOf_cons, get?_cons]
      split
      · next same =>
          subst same
          rw [others, ascending.get?_rest]
          rfl
      · exact others

/-! ## Distinct keys -/

/-- If no key is repeated, a name has one value or none. -/
theorem valuesOf_of_nodup (distinct : (keys pairs).Nodup) (name : String) :
    valuesOf name pairs = (get? name (ofPairs pairs)).toList := by
  induction pairs with
  | nil => rfl
  | cons pair rest ih =>
      obtain ⟨key, value⟩ := pair
      obtain ⟨fresh, distinct⟩ := List.nodup_cons.mp distinct
      rw [valuesOf_cons, get?_ofPairs_cons, ih distinct]
      split
      · next same =>
          subst same
          have absent : get? key (ofPairs rest) = none :=
            get?_eq_none_iff.mpr (mt mem_keys_ofPairs.mp fresh)
          rw [absent]
          rfl
      · rw [Option.or_none]

/-- If no key is repeated, the value of a key is the one that stands beside it. -/
theorem get?_ofPairs_iff (distinct : (keys pairs).Nodup) :
    get? name (ofPairs pairs) = some value ↔ (name, value) ∈ pairs := by
  rw [← mem_valuesOf, valuesOf_of_nodup distinct, Option.mem_toList]

/-- A dictionary does not depend on the order of its keys. -/
theorem keys_ofPairs_eq {others : List (String × β)} (same : (keys pairs).Perm (keys others)) :
    keys (ofPairs pairs) = keys (ofPairs others) :=
  NameSet.eq_of_mem_iff (ascending_ofPairs pairs) (ascending_ofPairs others) fun key => by
    rw [mem_keys_ofPairs, mem_keys_ofPairs, same.mem_iff]

/-! ## Related entries -/

section

variable {relates : String × α → String × β → Prop} {first : List (String × α)}
  {second : List (String × β)} (sameKey : ∀ a b, relates a b → a.1 = b.1)

include sameKey

theorem forall₂_insert (matched : List.Forall₂ relates first second) {a : α} {b : β}
    (holds : relates (key, a) (key, b)) :
    List.Forall₂ relates (insert key a first) (insert key b second) := by
  induction matched with
  | nil => exact .cons holds .nil
  | @cons entry entry' rest rest' head tail ih =>
      obtain ⟨k, v⟩ := entry
      obtain ⟨k', v'⟩ := entry'
      obtain rfl : k = k' := sameKey _ _ head
      rw [insert_cons, insert_cons]
      split
      · exact .cons holds (.cons head tail)
      · split
        · exact .cons holds tail
        · exact .cons head ih

/-- Pairs that are related one by one make dictionaries that are. -/
theorem forall₂_ofPairs (matched : List.Forall₂ relates first second) :
    List.Forall₂ relates (ofPairs first) (ofPairs second) := by
  have onto {known : List (String × α)} {known' : List (String × β)}
      (start : List.Forall₂ relates known known') :
      List.Forall₂ relates
        (first.foldl (fun entries pair => insert pair.1 pair.2 entries) known)
        (second.foldl (fun entries pair => insert pair.1 pair.2 entries) known') := by
    induction matched generalizing known known' with
    | nil => exact start
    | @cons pair pair' _ _ head _ ih =>
        obtain ⟨k, v⟩ := pair
        obtain ⟨k', v'⟩ := pair'
        obtain rfl : k = k' := sameKey _ _ head
        exact ih (forall₂_insert sameKey start head)
  exact onto .nil

end

/-! ## Matching entries -/

/-- Two lists have the same keys in the same order, and their values are related one by one. -/
def Matched (related : α → β → Prop) : List (String × α) → List (String × β) → Prop :=
  List.Forall₂ fun first second => first.1 = second.1 ∧ related first.2 second.2

section

variable {related : α → β → Prop} {first : List (String × α)} {second : List (String × β)}

theorem Matched.keys_eq (matched : Matched related first second) : keys first = keys second := by
  induction matched with
  | nil => rfl
  | cons same _ ih => rw [keys_cons, keys_cons, same.1, ih]

/-- What stands under a key matches what stands under it in the other list. -/
theorem Matched.get?_left (matched : Matched related first second) {a : α}
    (found : get? key first = some a) : ∃ b, get? key second = some b ∧ related a b := by
  induction matched with
  | nil => cases found
  | cons same _ ih =>
      rw [get?_cons] at found ⊢
      rw [← same.1]
      split
      · next first =>
          rw [if_pos first] at found
          cases found
          exact ⟨_, rfl, same.2⟩
      · next other =>
          rw [if_neg other] at found
          exact ih found

theorem Matched.mem_right (matched : Matched related first second) {entry : String × β}
    (member : entry ∈ second) : ∃ a, (entry.1, a) ∈ first ∧ related a entry.2 := by
  obtain ⟨⟨key, a⟩, isEntry, same, holds⟩ := Outcome.exists_item matched member
  cases same
  exact ⟨a, isEntry, holds⟩

theorem matched_map_left_iff {γ : Type} {f : γ → α} {third : List (String × γ)} :
    Matched related (third.map fun entry => (entry.1, f entry.2)) second ↔
      Matched (fun c b => related (f c) b) third second :=
  List.forall₂_map_left_iff

theorem Matched.mem_left (matched : Matched related first second) {entry : String × α}
    (member : entry ∈ first) : ∃ b, (entry.1, b) ∈ second ∧ related entry.2 b := by
  obtain ⟨⟨key, b⟩, isEntry, same, holds⟩ := Outcome.exists_result matched member
  cases same
  exact ⟨b, isEntry, holds⟩

/-- There are entries that match those of a list if there is a value that matches each. -/
theorem exists_matched_iff :
    (∃ second, Matched related first second) ↔ ∀ entry ∈ first, ∃ b, related entry.2 b := by
  refine Outcome.exists_results_iff.trans (forall₂_congr fun entry _ => ?_)
  constructor
  · rintro ⟨⟨_, b⟩, -, holds⟩
    exact ⟨b, holds⟩
  · rintro ⟨b, holds⟩
    exact ⟨(entry.1, b), rfl, holds⟩

/-- Entries that match none but themselves match only their own list. -/
theorem Matched.eq {related : α → α → Prop} {first second : List (String × α)}
    (matched : Matched related first second)
    (own : ∀ entry ∈ first, ∀ value, related entry.2 value → value = entry.2) : second = first :=
  Outcome.results_eq matched fun entry member _ same =>
    Prod.ext same.1.symm (own entry member _ same.2)

/-- Entries whose values are mapped alike are mapped alike. -/
theorem Matched.map_eq {γ : Type} {f : α → γ} {g : β → γ} (matched : Matched related first second)
    (same : ∀ entry ∈ first, ∀ b, related entry.2 b → g b = f entry.2) :
    (second.map fun entry => (entry.1, g entry.2)) = first.map fun entry => (entry.1, f entry.2) :=
  Outcome.map_results_eq matched fun entry member _ holds =>
    Prod.ext holds.1.symm (same entry member _ holds.2)

/-- Entries match themselves if each of them does. -/
theorem matched_self_iff {related : β → β → Prop} :
    Matched related second second ↔ ∀ entry ∈ second, related entry.2 entry.2 := by
  unfold Matched
  rw [List.forall₂_same]
  simp

theorem Matched.insert (matched : Matched related first second) (key : String) {a : α} {b : β}
    (holds : related a b) :
    Matched related (Dictionary.insert key a first) (Dictionary.insert key b second) :=
  forall₂_insert (fun _ _ same => same.1) matched ⟨rfl, holds⟩

/-- Matching pairs make matching dictionaries. -/
theorem Matched.ofPairs (matched : Matched related first second) :
    Matched related (ofPairs first) (ofPairs second) :=
  forall₂_ofPairs (fun _ _ same => same.1) matched

/-- Lists with the same keys match if what stands under each key is related. -/
theorem matched_of_get? (ascending : Ascending first) (same : keys first = keys second)
    (each : ∀ key a b, get? key first = some a → get? key second = some b → related a b) :
    Matched related first second := by
  induction first generalizing second with
  | nil =>
      rw [List.map_eq_nil_iff.mp same.symm]
      exact .nil
  | cons entry rest ih =>
      cases second with
      | nil => cases same
      | cons entry' rest' =>
          obtain ⟨k, v⟩ := entry
          obtain ⟨k', v'⟩ := entry'
          simp only [keys_cons, List.cons.injEq] at same
          obtain ⟨rfl, same⟩ := same
          refine .cons ⟨rfl, each k v v' (if_pos rfl) (if_pos rfl)⟩
            (ih (ascending_cons.mp ascending).2 same fun key a b found found' => ?_)
          have apart : k ≠ key := ascending.ne_of_mem_rest (mem_of_get? found)
          exact each key a b ((if_neg apart).trans found) ((if_neg apart).trans found')

/-- Entries match one list at most if each value is related to one at most. -/
theorem Matched.unique {third : List (String × β)}
    (functional : ∀ a b b', related a b → related a b' → b = b')
    (matched : Matched related first second) (matched' : Matched related first third) :
    second = third :=
  List.right_unique_forall₂' (fun _ _ _ holds holds' =>
    Prod.ext (holds.1.symm.trans holds'.1) (functional _ _ _ holds.2 holds'.2)) matched matched'

end

end OptionSchema.Dictionary

namespace OptionSchema.NameMap

variable {α : Type} {map first second : NameMap α} {key : String} {value : α}

/-- A map is determined by what its keys look up. -/
theorem ext (same : ∀ key, first.get? key = second.get? key) : first = second := by
  have entries := first.ascending.ext second.ascending same
  cases first
  cases second
  cases entries
  rfl

theorem mem_entries_iff : (key, value) ∈ map.entries ↔ map.get? key = some value :=
  ⟨map.ascending.get?_of_mem, Dictionary.mem_of_get?⟩

theorem get?_insert {name : String} :
    (map.insert key value).get? name = if key = name then some value else map.get? name :=
  Dictionary.get?_insert

/-- The entries of a map are pairs of just this map. -/
theorem ofPairs_entries (map : NameMap α) : ofPairs map.entries = map := by
  have entries := map.ascending.ofPairs_eq
  cases map
  simp only [ofPairs, entries]

end OptionSchema.NameMap
