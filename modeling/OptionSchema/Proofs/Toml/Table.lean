import OptionSchema.Proofs.Dictionary
import OptionSchema.Toml.Document

/-!
# Tables that are filled

A path of headers leads to a table within others. What is put there changes that table and nothing
around it.
-/

namespace OptionSchema.Toml

namespace Table

variable {table inner : Table} {key : String} {item : Item} {value : Value} {path path' : List String}
  {around around' : Table → Table} {entries : List (String × Value)}

/-- Of two entries for one key the later one counts. -/
theorem set_set (earlier : Item) : (table.set key earlier).set key item = table.set key item := by
  simp only [set, Dictionary.insert_insert]

theorem get?_items_set {name : String} : Dictionary.get? name (table.set key item).items =
    if key = name then some item else Dictionary.get? name table.items :=
  Dictionary.get?_insert

theorem descend_append (change : Table → Option Table) (path path' : List String) (table : Table) :
    descend change (path ++ path') table = descend (descend change path') path table := by
  induction path generalizing table with
  | nil => rfl
  | cons key path ih =>
      rw [List.cons_append, descend, descend]
      simp only [ih]

/-- In every table of a kind, a path leads to the table that the others are around. -/
def Leads (path : List String) (around : Table → Table) : Prop :=
  ∀ (change : Table → Option Table) (inner : Table),
    descend change path (around inner) = (change inner).map around

theorem leads_nil : Leads [] fun inner => inner := by
  intro change inner
  exact Option.map_id'.symm

theorem leads_set (table : Table) (key : String) :
    Leads [key] fun inner => table.set key (.table inner) := by
  intro change inner
  rw [descend, get?_items_set, if_pos rfl]
  simp only [descend, set_set]

theorem Leads.append (outer : Leads path around) (inner : Leads path' around') :
    Leads (path ++ path') fun table => around (around' table) := by
  intro change table
  rw [descend_append, outer, inner, Option.map_map]
  rfl

/-- A value is put under a key that is not there yet. -/
theorem put_of_get?_none (isHeader : table.origin = .header)
    (free : Dictionary.get? key table.items = none) :
    table.put false key value [] = some (table.set key (.value value)) := by
  rw [put, isHeader, Dictionary.contains, free]
  rfl

theorem openHeader_of_get?_none (free : Dictionary.get? key table.items = none) :
    table.openHeader key = some (table.set key (.table (start .header))) := by
  rw [openHeader, free]

def fill (table : Table) (entries : List (String × Value)) : Table :=
  entries.foldl (fun table entry => table.set entry.1 (.value entry.2)) table

theorem fill_append (table : Table) (entries others : List (String × Value)) :
    table.fill (entries ++ others) = (table.fill entries).fill others :=
  List.foldl_append

theorem origin_fill (table : Table) (entries : List (String × Value)) :
    (table.fill entries).origin = table.origin := by
  induction entries generalizing table with
  | nil => rfl
  | cons entry entries ih => exact ih _

theorem get?_items_fill (other : key ∉ Dictionary.keys entries) :
    Dictionary.get? key (table.fill entries).items = Dictionary.get? key table.items := by
  induction entries generalizing table with
  | nil => rfl
  | cons entry entries ih =>
      rw [Dictionary.keys_cons, List.mem_cons, not_or] at other
      rw [fill, List.foldl_cons, ← fill, ih other.2, get?_items_set, if_neg (Ne.symm other.1)]

def ofEntries (entries : List (String × Value)) : Table :=
  (start .header).fill entries

theorem get?_items_ofEntries (other : key ∉ Dictionary.keys entries) :
    Dictionary.get? key (ofEntries entries).items = none :=
  get?_items_fill other

theorem toValue_eq (table : Table) : table.toValue = .table (itemValues table.items) := by
  cases table
  rfl

/-- The values of a table with one more entry. -/
theorem itemValues_set : itemValues (table.set key item).items =
    Dictionary.insert key item.toValue (itemValues table.items) := by
  have inserted (items : List (String × Item)) : itemValues (Dictionary.insert key item items) =
      Dictionary.insert key item.toValue (itemValues items) := by
    induction items with
    | nil => rfl
    | cons entry rest ih =>
        obtain ⟨k, inner⟩ := entry
        rw [itemValues, Dictionary.insert, Dictionary.insert]
        split
        · rfl
        · split
          · rfl
          · rw [itemValues, ih]
  exact inserted table.items

theorem itemValues_ofEntries : itemValues (ofEntries entries).items = Dictionary.ofPairs entries := by
  have general : ∀ table : Table, itemValues (table.fill entries).items =
      entries.foldl (fun values entry => Dictionary.insert entry.1 entry.2 values)
        (itemValues table.items) := by
    induction entries with
    | nil => exact fun _ => rfl
    | cons entry entries ih =>
        intro table
        rw [fill, List.foldl_cons, List.foldl_cons, ← fill, ih, itemValues_set]
        rfl
  exact general (start .header)

end Table

namespace Draft

variable {path : List String} {key : String} {value : Value} {inner : Table} {around : Table → Table}

theorem put_eq (leads : Table.Leads path around) (isHeader : inner.origin = .header)
    (free : Dictionary.get? key inner.items = none) :
    Draft.put ⟨around inner, path⟩ [] key value =
      some ⟨around (inner.set key (.value value)), path⟩ := by
  rw [Draft.put, leads, Table.put_of_get?_none isHeader free]
  rfl

theorem openHeader_eq (leads : Table.Leads path around) (current : List String)
    (free : Dictionary.get? key inner.items = none) :
    Draft.openHeader ⟨around inner, current⟩ path key =
      some ⟨around (inner.set key (.table (.start .header))), path ++ [key]⟩ := by
  rw [Draft.openHeader, leads, Table.openHeader_of_get?_none free]
  rfl

end Draft

end OptionSchema.Toml
