import OptionSchema.Dictionary
import OptionSchema.Toml.Value

/-!
# Tables under construction

A document names its tables in three ways: by a header, by the headers of tables inside them, and by
dotted keys. What may be added to a table later depends on how it came about: a header may come once
for a table, and not after its dotted keys; dotted keys do not reach into tables with a header; what
stands between braces or brackets is complete.
-/

namespace OptionSchema.Toml

/-- How a table came about. -/
inductive Origin where
  | header
  | implied
  | dotted
  deriving DecidableEq

mutual

/-- An entry of a table: a complete value, a table, or a list of tables with the last one first. -/
inductive Item where
  | value (value : Value)
  | table (table : Table)
  | tables (last : Table) (others : List Table)

structure Table where
  origin : Origin
  items : List (String × Item)

end

namespace Table

def start (origin : Origin) : Table :=
  ⟨origin, []⟩

instance : Inhabited Table := ⟨start .header⟩

def set (table : Table) (key : String) (item : Item) : Table :=
  { table with items := Dictionary.insert key item table.items }

/-- Changes the table that a path of headers leads to. Tables on the way come into being; of a list
of tables the last one is meant. -/
def descend (change : Table → Option Table) : List String → Table → Option Table
  | [], table => change table
  | key :: path, table =>
      match Dictionary.get? key table.items with
      | none => (descend change path (start .implied)).map fun inner => table.set key (.table inner)
      | some (.table inner) =>
          (descend change path inner).map fun inner => table.set key (.table inner)
      | some (.tables last others) =>
          (descend change path last).map fun last => table.set key (.tables last others)
      | some (.value _) => none

def openHeader (key : String) (table : Table) : Option Table :=
  match Dictionary.get? key table.items with
  | none => some (table.set key (.table (start .header)))
  | some (.table inner) =>
      if inner.origin = .implied then some (table.set key (.table { inner with origin := .header }))
      else none
  | some _ => none

def openNext (key : String) (table : Table) : Option Table :=
  match Dictionary.get? key table.items with
  | none => some (table.set key (.tables (start .header) []))
  | some (.tables last others) => some (table.set key (.tables (start .header) (last :: others)))
  | some _ => none

/-- Puts a value under the last key of a dotted key. The tables in front of the last key have to be
dotted ones, and the table of a key without dots must not be. -/
def put (dotted : Bool) (key : String) (value : Value) : List String → Table → Option Table
  | [], table =>
      if (table.origin = .dotted) ≠ (dotted = true) then none
      else if Dictionary.contains key table.items then none
      else some (table.set key (.value value))
  | name :: path, table =>
      match Dictionary.get? name table.items with
      | none =>
          (put true key value path (start .dotted)).map fun inner => table.set name (.table inner)
      | some (.table inner) =>
          if inner.origin = .header then none
          else (put true key value path inner).map fun inner => table.set name (.table inner)
      | some (.tables last others) =>
          (put true key value path last).map fun last => table.set name (.tables last others)
      | some (.value _) => none

end Table

mutual

def Item.toValue : Item → Value
  | .value value => value
  | .table table => table.toValue
  | .tables last others => .array ((last.toValue :: tableValues others).reverse)

def Table.toValue : Table → Value
  | ⟨_, items⟩ => .table (itemValues items)

def tableValues : List Table → List Value
  | [] => []
  | table :: rest => table.toValue :: tableValues rest

def itemValues : List (String × Item) → List (String × Value)
  | [] => []
  | (key, item) :: rest => (key, item.toValue) :: itemValues rest

end

end OptionSchema.Toml
