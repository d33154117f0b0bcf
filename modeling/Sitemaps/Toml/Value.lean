/-!
Values of a configuration text, and how its tables are put together from headers and dotted keys.
What is written out once cannot be reopened; tables that are merely named on the way to others can.
-/

namespace Sitemaps.Toml

/-- How a table came up. -/
inductive Origin
  /-- It has a header, is the whole text, or is a table of an array with headers. -/
  | header
  /-- A header names it on the way to another table. -/
  | passed
  /-- A dotted key names it on the way to a value. -/
  | dotted
  /-- It is written out between braces. -/
  | inline
  deriving DecidableEq, Repr

inductive Value
  | text (content : String)
  | integer (number : Int)
  | boolean (truth : Bool)
  /-- A number that is no integer, a date, or a time. -/
  | other
  | list (items : List Value)
  | table (origin : Origin) (entries : List (String × Value))
  | tables (all : List (List (String × Value)))

abbrev Entries := List (String × Value)

structure Table where
  origin : Origin
  entries : Entries

structure Path where
  way : List String
  key : String

def Entries.set (entries : Entries) (key : String) (value : Value) : Entries :=
  match entries with
  | [] => [(key, value)]
  | (name, old) :: rest =>
    if name = key then (key, value) :: rest else (name, old) :: Entries.set rest key value

def Origin.admits (origin : Origin) (byDots : Bool) : Bool :=
  match origin with
  | .inline => false
  | .header => !byDots
  | .passed | .dotted => true

namespace Table

def value (table : Table) : Value := .table table.origin table.entries

/-- Changes the table at the end of a way. Tables missing on the way come up; the way through an
array of tables goes on in its last one. -/
def change (byDots : Bool) (f : Table → Option Table) (table : Table) : List String → Option Table
  | [] => f table
  | key :: way =>
    match table.entries.lookup key with
    | none =>
      (change byDots f ⟨if byDots then .dotted else .passed, []⟩ way).map fun inner =>
        { table with entries := table.entries.set key inner.value }
    | some (.table origin entries) =>
      if origin.admits byDots then
        (change byDots f ⟨origin, entries⟩ way).map fun inner =>
          { table with entries := table.entries.set key inner.value }
      else none
    | some (.tables all) =>
      match all.getLast? with
      | none => none
      | some last =>
        (change byDots f ⟨.header, last⟩ way).map fun inner =>
          { table with
            entries := table.entries.set key (.tables (all.dropLast ++ [inner.entries])) }
    | some _ => none

/-- A dotted key adds only to tables that dotted keys brought up, a plain key never to such a table.
-/
def add (path : Path) (value : Value) (table : Table) : Option Table :=
  if (table.origin == .dotted) == path.way.isEmpty || (table.entries.lookup path.key).isSome
  then none
  else some { table with entries := table.entries.set path.key value }

def insert (table : Table) (path : Path) (value : Value) : Option Table :=
  table.change true (add path value) path.way

/-- Opens the table of a header, which may so far have been named on the way only. -/
def openTable (key : String) (table : Table) : Option Table :=
  match table.entries.lookup key with
  | none => some { table with entries := table.entries.set key (.table .header []) }
  | some (.table .passed entries) =>
    some { table with entries := table.entries.set key (.table .header entries) }
  | some _ => none

def appendTable (key : String) (table : Table) : Option Table :=
  match table.entries.lookup key with
  | none => some { table with entries := table.entries.set key (.tables [[]]) }
  | some (.tables all) =>
    some { table with entries := table.entries.set key (.tables (all ++ [[]])) }
  | some _ => none

end Table

end Sitemaps.Toml
