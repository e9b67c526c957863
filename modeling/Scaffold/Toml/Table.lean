import Scaffold.Document

/-!
The tables of a TOML text while it is read. How a table came to be decides what may still be added to
it: a header may complete a table that only deeper headers have named, and a dotted key may go on
with one that dotted keys have made.
-/

namespace Scaffold.Toml

/-- How a table came to be. -/
inductive Origin where
  /-- its own header -/
  | header
  /-- the header of a table below it -/
  | implied
  /-- a dotted key -/
  | dotted
  deriving DecidableEq, Repr

inductive Item where
  | value (document : Document)
  | table (origin : Origin) (entries : List (String × Item))
  /-- the tables of a list of headers, the latest first -/
  | tables (latest : List (String × Item)) (earlier : List (List (String × Item)))

abbrev Entries := List (String × Item)

structure Table where
  origin : Origin
  entries : Entries

namespace Table

def find? (table : Table) (key : String) : Option Item :=
  (table.entries.find? (·.1 == key)).map (·.2)

/-- Puts an item under a key, in the place of the one that is there or at the end. -/
def set (table : Table) (key : String) (item : Item) : Table :=
  if table.entries.any (·.1 == key) then
    { table with entries := table.entries.map fun entry =>
        if entry.1 == key then (key, item) else entry }
  else { table with entries := table.entries ++ [(key, item)] }

def erase (table : Table) (key : String) : Table :=
  { table with entries := table.entries.filter (·.1 != key) }

/-- Changes the table at the end of a path, whose missing tables are made. In a list of tables the path
goes on in the latest one. A dotted key does not enter tables that have headers of their own. -/
def changeAt? (dotted : Bool) (change? : Table → Option Table) :
    (path : List String) → Table → Option Table
  | [], table => change? table
  | key :: path, table =>
    match table.find? key with
    | none => do
      let made ← changeAt? dotted change? path ⟨if dotted then .dotted else .implied, []⟩
      return table.set key (.table made.origin made.entries)
    | some (.value _) => none
    | some (.table origin entries) =>
      if dotted && origin == .header then none
      else do
        let inner ← changeAt? dotted change? path ⟨origin, entries⟩
        return table.set key (.table inner.origin inner.entries)
    | some (.tables latest earlier) => do
      let inner ← changeAt? dotted change? path ⟨.header, latest⟩
      return table.set key (.tables inner.entries earlier)

/-- Adds a value under a dotted key. Tables that dotted keys have made take values from such keys only,
and others from plain keys only. -/
def addValue? (table : Table) (path : List String) (key : String) (document : Document) :
    Option Table :=
  table.changeAt? true (fun inner =>
    if (inner.origin == .dotted) == path.isEmpty || (inner.find? key).isSome then none
    else some (inner.set key (.value document))) path

end Table

mutual

def Item.toDocument : Item → Document
  | .value document => document
  | .table _ entries => .table (entriesToDocument entries)
  | .tables latest earlier => .list (tablesToDocument earlier [.table (entriesToDocument latest)])

def entriesToDocument : List (String × Item) → List (String × Document)
  | [] => []
  | (key, item) :: rest => (key, item.toDocument) :: entriesToDocument rest

/-- Tables in reverse, before what comes after them. -/
def tablesToDocument : List (List (String × Item)) → List Document → List Document
  | [], after => after
  | entries :: rest, after => tablesToDocument rest (.table (entriesToDocument entries) :: after)

end

def Table.toDocument (table : Table) : Document := .table (entriesToDocument table.entries)

/-- The tables read so far: those that are complete, and the one of the last header. -/
structure Reading where
  root : Table
  current : Table
  /-- the header of the current table, and whether it is one of a list -/
  path : List String
  isListed : Bool

namespace Reading

def start : Reading := ⟨⟨.header, []⟩, ⟨.header, []⟩, [], false⟩

/-- Puts the current table into its place. -/
def finish? (reading : Reading) : Option Table :=
  match reading.path.getLast? with
  | none => some reading.current
  | some key =>
    reading.root.changeAt? false (fun table =>
      match reading.isListed, table.find? key with
      | false, none => some (table.set key (.table reading.current.origin reading.current.entries))
      | true, none => some (table.set key (.tables reading.current.entries []))
      | true, some (.tables latest earlier) =>
        some (table.set key (.tables reading.current.entries (latest :: earlier)))
      | _, _ => none) reading.path.dropLast

/-- The table at the end of a path below the root. -/
def tableAt? : (path : List String) → Table → Option Table
  | [], table => some table
  | key :: path, table =>
    match table.find? key with
    | none => some ⟨.implied, []⟩
    | some (.value _) => none
    | some (.table origin entries) => tableAt? path ⟨origin, entries⟩
    | some (.tables latest _) => tableAt? path ⟨.header, latest⟩

/-- Starts the table of a header. It may complete one that is only implied. -/
def openTable? (reading : Reading) (path : List String) : Option Reading := do
  let root ← reading.finish?
  let key ← path.getLast?
  let outer ← tableAt? path.dropLast root
  match outer.find? key with
  | none => return ⟨root, ⟨.header, []⟩, path, false⟩
  | some (.table .implied entries) =>
    let root ← root.changeAt? false (fun table => some (table.erase key)) path.dropLast
    return ⟨root, ⟨.header, entries⟩, path, false⟩
  | some _ => none

/-- Starts one more table of a list. -/
def openListed? (reading : Reading) (path : List String) : Option Reading := do
  let root ← reading.finish?
  let key ← path.getLast?
  let outer ← tableAt? path.dropLast root
  match outer.find? key with
  | none | some (.tables _ _) => return ⟨root, ⟨.header, []⟩, path, true⟩
  | some _ => none

def addValue? (reading : Reading) (path : List String) (key : String) (document : Document) :
    Option Reading := do
  return { reading with current := ← reading.current.addValue? path key document }

end Reading

end Scaffold.Toml
