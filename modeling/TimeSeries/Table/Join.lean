import TimeSeries.Table.Basic

set_option autoImplicit false

/-!
# Outer joins

Tables are joined on the union of their dates. A cell that a table does not have at a date is
missing there, and a column whose name is taken gets the next free number behind it.
-/
namespace TimeSeries

/-- Puts a date at its place among ascending dates, unless it is there. -/
def insertDate (date : Date) : List Date → List Date
  | [] => [date]
  | other :: rest =>
    if date < other then date :: other :: rest
    else if date = other then other :: rest
    else other :: insertDate date rest

/-- The distinct members of a list of dates, ascending. -/
def distinctDates (dates : List Date) : List Date := dates.foldr insertDate []

def unionDates (tables : List Table) : List Date := distinctDates (tables.flatMap Table.dates)

/-- The cell at a date, missing where there is no such date. -/
def cellAt (dates : List Date) (cells : List Cell) (date : Date) : Cell :=
  ((dates.zip cells).lookup date).join

/-- Cells over one list of dates, read off at another. -/
def reindex (dates : List Date) (cells : List Cell) (others : List Date) : List Cell :=
  others.map (cellAt dates cells)

/-- The name itself when it is not taken, otherwise with the least number from 2 on that makes it
so. Of one more number than there are names, one is free. -/
def freeName (name : String) (taken : List String) : String :=
  if name ∈ taken then
    let candidates := (List.range (taken.length + 1)).map fun k => s!"{name}_{k + 2}"
    (candidates.find? (· ∉ taken)).getD name
  else name

/-- Adds the columns of a table, over other dates, to columns that are there already. -/
def addColumns (dates : List Date) (columns : List Column) (table : Table) : List Column :=
  table.columns.foldl (fun columns column =>
    columns ++ [Column.of (freeName column.name (columns.map Column.name))
      (reindex table.dates column.cells dates)]) columns

/-- The full outer join of tables on their dates. -/
def joinTables (tables : List Table) : Except TableError Table :=
  let dates := unionDates tables
  Table.ofColumns dates (tables.foldl (addColumns dates) [])

/-- The only columns of two tables over the union of their dates. -/
structure AlignedPair where
  dates : List Date
  left : List Cell
  right : List Cell

/-- The only columns of two tables, side by side. -/
def alignPair (left right : Table) : Except TableError AlignedPair := do
  let leftColumn ← left.valueColumn
  let rightColumn ← right.valueColumn
  let dates := unionDates [left, right]
  return ⟨dates, reindex left.dates leftColumn.cells dates,
    reindex right.dates rightColumn.cells dates⟩

end TimeSeries
