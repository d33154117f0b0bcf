/-! Tables over ranges of code points, in ascending order. -/

namespace Sitemaps.Unicode

structure Row (α : Type) where
  first : Nat
  last : Nat
  value : α

structure Table (α : Type) where
  rows : Array (Row α)

namespace Table

variable {α : Type}

/-- How many rows, of those before `high`, start at or before `code`, if all before `low` do. -/
def rank (table : Table α) (code low high : Nat) : Nat :=
  if _open : low < high then
    let middle := (low + high) / 2
    match table.rows[middle]? with
    | none => low
    | some row =>
      if row.first ≤ code then rank table code (middle + 1) high else rank table code low middle
  else low
  termination_by high - low

def row? (table : Table α) (code : Nat) : Option (Row α) :=
  match table.rank code 0 table.rows.size with
  | 0 => none
  | count + 1 => (table.rows[count]?).filter (fun row => code ≤ row.last)

def find? (table : Table α) (code : Nat) : Option (Nat × α) :=
  (table.row? code).map (fun row => (row.first, row.value))

end Table

abbrev Ranges := Table Unit

def Ranges.ofPairs (pairs : List (Nat × Nat)) : Ranges :=
  ⟨(pairs.map fun (first, last) => ⟨first, last, ()⟩).toArray⟩

def Ranges.contains (ranges : Ranges) (code : Nat) : Bool := (ranges.row? code).isSome

def Ranges.start? (ranges : Ranges) (code : Nat) : Option Nat := (ranges.row? code).map (·.first)

def Table.ofMoves (moves : List (Nat × Nat × Int)) : Table Int :=
  ⟨(moves.map fun (first, last, number) => ⟨first, last, number⟩).toArray⟩

/-- Code points with the spellings of each and of those that follow it. -/
def Table.ofSpellings (rows : List (Nat × List (List Nat))) : Table (Array (List Char)) :=
  ⟨(rows.map fun (first, spellings) =>
    ⟨first, first + spellings.length - 1, (spellings.map (·.map Char.ofNat)).toArray⟩).toArray⟩

end Sitemaps.Unicode
