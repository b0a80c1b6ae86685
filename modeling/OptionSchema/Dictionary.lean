/-!
# Dictionaries

A dictionary is a list of keys and values with the keys in strictly ascending order. Keys are
compared code point by code point, which is also the order of their UTF-8 bytes. `Ascending` states
the order; every function here that builds a dictionary keeps it. `NameMap` and `NameSet` are
dictionaries and lists of names together with their order. A tree whose parts are dictionaries again
cannot be built of them, since its type would stand in a condition on itself; it has plain lists.
-/

namespace OptionSchema

def insertName (name : String) : List String → List String
  | [] => [name]
  | first :: rest =>
      if name < first then name :: first :: rest
      else if name = first then first :: rest
      else first :: insertName name rest

theorem mem_insertName {name other : String} {names : List String} :
    other ∈ insertName name names ↔ other = name ∨ other ∈ names := by
  induction names with
  | nil => simp [insertName]
  | cons first rest ih =>
      rw [insertName]
      split
      · exact List.mem_cons
      · split
        · next same => simp [same]
        · rw [List.mem_cons, ih, List.mem_cons, or_left_comm]

theorem pairwise_insertName {names : List String} (ascending : names.Pairwise (· < ·))
    (name : String) : (insertName name names).Pairwise (· < ·) := by
  induction names with
  | nil => exact List.pairwise_singleton _ _
  | cons first rest ih =>
      obtain ⟨below, others⟩ := List.pairwise_cons.mp ascending
      rw [insertName]
      split
      · next less =>
          refine List.pairwise_cons.mpr ⟨List.forall_mem_cons.mpr ⟨less, ?_⟩, ascending⟩
          exact fun other member => String.lt_trans less (below other member)
      · next notLess =>
          split
          · exact ascending
          · next apart =>
              have greater : first < name := Decidable.byContradiction fun notBelow =>
                apart (String.le_antisymm (String.not_lt.mp notBelow) (String.not_lt.mp notLess))
              refine List.pairwise_cons.mpr ⟨fun other member => ?_, ih others⟩
              rcases mem_insertName.mp member with rfl | later
              · exact greater
              · exact below other later

namespace Dictionary

variable {α : Type}

def keys (entries : List (String × α)) : List String :=
  entries.map Prod.fst

def Ascending (entries : List (String × α)) : Prop :=
  (keys entries).Pairwise (· < ·)

instance (entries : List (String × α)) : Decidable (Ascending entries) :=
  inferInstanceAs (Decidable ((keys entries).Pairwise (· < ·)))

def get? (key : String) : List (String × α) → Option α
  | [] => none
  | (k, value) :: rest => if k = key then some value else get? key rest

def contains (key : String) (entries : List (String × α)) : Bool :=
  (get? key entries).isSome

/-- Sets the value of a key, in place of the one it had. -/
def insert (key : String) (value : α) : List (String × α) → List (String × α)
  | [] => [(key, value)]
  | (k, v) :: rest =>
      if key < k then (key, value) :: (k, v) :: rest
      else if key = k then (key, value) :: rest
      else (k, v) :: insert key value rest

/-- The dictionary of a list of pairs; of several values for one key the last one counts. -/
def ofPairs (pairs : List (String × α)) : List (String × α) :=
  pairs.foldl (fun entries pair => insert pair.1 pair.2 entries) []

/-- The keys are a set of names, to which the key is added. -/
theorem keys_insert (key : String) (value : α) (entries : List (String × α)) :
    keys (insert key value entries) = insertName key (keys entries) := by
  induction entries with
  | nil => rfl
  | cons entry rest ih =>
      obtain ⟨k, v⟩ := entry
      simp only [keys, List.map_cons, insert, insertName] at ih ⊢
      split
      · rfl
      · split
        · next same =>
            subst same
            rfl
        · rw [List.map_cons, ih]

theorem Ascending.insert {entries : List (String × α)} (ascending : Ascending entries) (key : String)
    (value : α) : Ascending (insert key value entries) := by
  unfold Ascending
  rw [keys_insert]
  exact pairwise_insertName ascending key

theorem ascending_ofPairs (pairs : List (String × α)) : Ascending (ofPairs pairs) := by
  have onto {entries : List (String × α)} (ascending : Ascending entries) :
      Ascending (pairs.foldl (fun entries pair => insert pair.1 pair.2 entries) entries) := by
    induction pairs generalizing entries with
    | nil => exact ascending
    | cons pair rest ih => exact ih (ascending.insert pair.1 pair.2)
  exact onto List.Pairwise.nil

end Dictionary

structure NameMap (α : Type) where
  entries : List (String × α)
  ascending : Dictionary.Ascending entries
  deriving DecidableEq

namespace NameMap

variable {α : Type}

def empty : NameMap α :=
  ⟨[], List.Pairwise.nil⟩

def get? (map : NameMap α) (key : String) : Option α :=
  Dictionary.get? key map.entries

def insert (map : NameMap α) (key : String) (value : α) : NameMap α :=
  ⟨Dictionary.insert key value map.entries, map.ascending.insert key value⟩

def ofPairs (pairs : List (String × α)) : NameMap α :=
  ⟨Dictionary.ofPairs pairs, Dictionary.ascending_ofPairs pairs⟩

end NameMap

structure NameSet where
  names : List String
  ascending : names.Pairwise (· < ·)
  deriving DecidableEq

namespace NameSet

def empty : NameSet :=
  ⟨[], List.Pairwise.nil⟩

def insert (set : NameSet) (name : String) : NameSet :=
  ⟨insertName name set.names, pairwise_insertName set.ascending name⟩

def union (set : NameSet) (names : List String) : NameSet :=
  names.foldl insert set

def ofList (names : List String) : NameSet :=
  empty.union names

end NameSet

end OptionSchema
