import Guidebook.Toml.Value

namespace Guidebook
namespace Toml

/-!
# Tables under construction

A table comes into being in three ways: under a header of its own, on the way
to another header, or by a dotted key.  What may still be added to it depends on
which: a header never adds to a table that has one, and a dotted key never to a
table that has one either, while a table that was only passed on the way to a
header can get its own header once.
-/

/-- How a table came into being. -/
inductive Origin where
  | header
  | path
  | dotted
deriving Repr, DecidableEq

mutual
/-- What stands under a key. -/
inductive Item where
  | value (value : Value)
  | table (table : Table)
  /-- The tables of repeated headers, the last one first. -/
  | tables (tables : List Table)

/-- A table under construction. -/
inductive Table where
  | mk (origin : Origin) (entries : List (String × Item))
end

namespace Table

/-- How the table came into being. -/
def origin : Table -> Origin
  | ⟨origin, _⟩ => origin

/-- The entries in the order in which their keys were first used. -/
def entries : Table -> List (String × Item)
  | ⟨_, entries⟩ => entries

/-- A table without entries. -/
def empty (origin : Origin) : Table := ⟨origin, []⟩

/-- The item under a key. -/
def find? (table : Table) (key : String) : Option Item :=
  (table.entries.find? fun entry => entry.1 = key).map Prod.snd

/-- Put an item under a key: in the place of the item there, or at the end. -/
def put (table : Table) (key : String) (item : Item) : Table :=
  if (table.find? key).isSome then
    ⟨table.origin, table.entries.map fun entry => if entry.1 = key then (key, item) else entry⟩
  else ⟨table.origin, table.entries ++ [(key, item)]⟩

/-- The table without what stands under a key. -/
def erase (table : Table) (key : String) : Table :=
  ⟨table.origin, table.entries.filter fun entry => entry.1 ≠ key⟩

/-- Put a value under a new key. -/
def add? (table : Table) (key : String) (value : Value) : Option Table :=
  if (table.find? key).isSome then none else some (table.put key (.value value))

/-- Change the table at the end of a path, where missing tables come into being
with the given origin.  A dotted key does not pass a table with a header. -/
def change? (origin : Origin) (change : Table -> Option Table) :
    (path : List String) -> Table -> Option Table
  | [], table => change table
  | key :: path, table =>
    match table.find? key with
    | none => (change? origin change path (.empty origin)).map fun inner =>
        table.put key (.table inner)
    | some (.value _) => none
    | some (.table inner) =>
      if origin = .dotted && inner.origin = .header then none
      else (change? origin change path inner).map fun inner => table.put key (.table inner)
    | some (.tables []) => none
    | some (.tables (last :: earlier)) =>
      (change? origin change path last).map fun last => table.put key (.tables (last :: earlier))

/-- Put a value under a dotted key: the table it ends in must be the given one
or must have come into being by dotted keys. -/
def insert? (table : Table) (path : List String) (key : String) (value : Value) : Option Table :=
  change? .dotted
    (fun inner => if path.isEmpty || inner.origin = .dotted then inner.add? key value else none)
    path table

/-- Open the table of a header: the entries it has already, when it was only
passed on the way to others. -/
def opened? (path : List String) (key : String) (root : Table) : Option Table :=
  match path with
  | [] =>
    match root.find? key with
    | none => some (.empty .header)
    | some (.table ⟨.path, entries⟩) => some ⟨.header, entries⟩
    | some _ => none
  | step :: path =>
    match root.find? step with
    | none => some (.empty .header)
    | some (.table inner) => opened? path key inner
    | some (.tables (last :: _)) => opened? path key last
    | some _ => none

/-- Close the table of a header: it takes its place at the end of the table
around it. -/
def closed? (root : Table) (path : List String) (key : String) (table : Table) : Option Table :=
  change? .path (fun outer => some ((outer.erase key).put key (.table table))) path root

/-- Close a table of a repeated header: it comes after the others. -/
def appended? (root : Table) (path : List String) (key : String) (table : Table) : Option Table :=
  change? .path
    (fun outer =>
      match outer.find? key with
      | none => some (outer.put key (.tables [table]))
      | some (.tables tables) => some (outer.put key (.tables (table :: tables)))
      | some _ => none)
    path root

end Table

mutual
/-- The value of an item. -/
def Item.toValue : Item -> Value
  | .value value => value
  | .table table => table.toValue
  | .tables tables => .list (Table.listValues tables).reverse

/-- The value of a table. -/
def Table.toValue : Table -> Value
  | ⟨_, entries⟩ => .table (Table.entryValues entries)

/-- The values of the tables of a list. -/
def Table.listValues : List Table -> List Value
  | [] => []
  | first :: rest => first.toValue :: Table.listValues rest

/-- The values of the entries of a table. -/
def Table.entryValues : List (String × Item) -> List (String × Value)
  | [] => []
  | (key, item) :: rest => (key, item.toValue) :: Table.entryValues rest
end

end Toml
end Guidebook
