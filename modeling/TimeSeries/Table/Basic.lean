import TimeSeries.Calendar.Frequency
import TimeSeries.Table.Error

set_option autoImplicit false

/-!
# Tables

A table has named columns over one list of dates, which ascends without repetition. A cell is a
finite number or missing. `Table.ofColumns` checks dates and columns; the operations that keep the
shape of a table need no check.
-/
namespace TimeSeries

/-- A number, or `none` where nothing was observed. -/
abbrev Cell := Option Float

/-- Numbers that are not finite are missing. -/
def Cell.observed (cell : Cell) : Cell := cell.filter Float.isFinite

/-- A named list of cells, one for each date of a table. -/
structure Column where
  name : String
  cells : List Cell

/-- A column under the normal form of a name, with missing cells for numbers that are not finite. -/
def Column.of (name : String) (cells : List Cell) : Column :=
  ⟨Text.normalName name, cells.map Cell.observed⟩

def Column.observedCount (column : Column) : Nat := column.cells.countP Option.isSome

/-- Columns over a list of dates. Tables come from `Table.ofColumns`, so that dates ascend, names
differ and every column has a cell for every date. -/
structure Table where
  dates : List Date
  columns : List Column

namespace Table

/-- Dates ascend without repetition; the first offending pair is the fault. -/
def checkDates : List Date → Except TableError Unit
  | a :: b :: rest =>
    if a = b then .error (.duplicateDate b)
    else if b < a then .error (.unsortedDates a b)
    else checkDates (b :: rest)
  | _ => .ok ()

/-- Every column has `rows` cells and a name that no earlier column has. -/
def checkColumns (rows : Nat) (earlier : List String) : List Column → Except TableError Unit
  | [] => .ok ()
  | column :: rest =>
    if column.cells.length ≠ rows then
      .error (.lengthMismatch column.name rows column.cells.length)
    else if column.name ∈ earlier then .error (.duplicateColumn column.name)
    else checkColumns rows (column.name :: earlier) rest

/-- The table of these dates and columns, when they make one. -/
def ofColumns (dates : List Date) (columns : List Column) : Except TableError Table := do
  checkDates dates
  checkColumns dates.length [] columns
  return ⟨dates, columns⟩

def single (name : String) (dates : List Date) (cells : List Cell) : Except TableError Table :=
  ofColumns dates [Column.of name cells]

/-- Observations in the order of their dates; those of one date stay in their order. -/
def sortByDate {α : Type} (points : List (Date × α)) : List (Date × α) :=
  points.mergeSort fun a b => a.1 ≤ b.1

/-- A table with one column from observations in any order. -/
def ofPoints (name : String) (points : List (Date × Cell)) : Except TableError Table :=
  let sorted := sortByDate points
  single name (sorted.map Prod.fst) (sorted.map Prod.snd)

def rowCount (table : Table) : Nat := table.dates.length

def isEmpty (table : Table) : Bool := table.dates.isEmpty

/-- The column of a name, in any case and with blanks around it. -/
def column? (table : Table) (name : String) : Option Column :=
  let key := Text.normalName name
  table.columns.find? (·.name == key)

def valueColumn (table : Table) : Except TableError Column :=
  match table.columns with
  | [column] => .ok column
  | [] => .error (.columnNotFound "<value>")
  | columns => .error (.ambiguousColumn columns.length)

/-- The cell of a column in a row; missing where there is none. -/
def cell (table : Table) (name : String) (row : Nat) : Cell :=
  (table.column? name).bind fun column => column.cells.getD row none

/-- Every date with the cells of its row, column by column. -/
def rows (table : Table) : List (Date × List Cell) :=
  table.dates.zipIdx.map fun (date, row) =>
    (date, table.columns.map fun column => column.cells.getD row none)

def renameColumns (f : String → String) (table : Table) : Except TableError Table :=
  ofColumns table.dates (table.columns.map fun column => Column.of (f column.name) column.cells)

/-- Other numbers in the observed cells; missing cells stay missing. -/
def mapValues (f : Float → Cell) (table : Table) : Table :=
  ⟨table.dates, table.columns.map fun column => Column.of column.name (column.cells.map (·.bind f))⟩

def mapColumns (f : List Cell → List Cell) (table : Table) : Except TableError Table :=
  ofColumns table.dates (table.columns.map fun column => Column.of column.name (f column.cells))

def keepCells (keep : Date → Bool) (dates : List Date) (cells : List Cell) : List Cell :=
  ((dates.zip cells).filter fun row => keep row.1).map Prod.snd

def keepRows (keep : Date → Bool) (table : Table) : Table :=
  ⟨table.dates.filter keep,
    table.columns.map fun column => ⟨column.name, keepCells keep table.dates column.cells⟩⟩

/-- The rows from `start` to `stop`, both included; without a bound there is no limit. -/
def within (start stop : Option Date) (table : Table) : Table :=
  table.keepRows fun date => start.all (· ≤ date) && stop.all (date ≤ ·)

/-- Cells moved by `periods` rows, later when positive; missing cells move in. -/
def shiftCells (periods : Int) (cells : List Cell) : List Cell :=
  let n := min periods.natAbs cells.length
  if 0 ≤ periods then List.replicate n none ++ cells.take (cells.length - n)
  else cells.drop n ++ List.replicate n none

/-- A table with all cells moved by `periods` rows. -/
def shift (periods : Int) (table : Table) : Table :=
  ⟨table.dates, table.columns.map fun column => ⟨column.name, shiftCells periods column.cells⟩⟩

/-- The cell `periods` rows before a row, where row numbers are signed machine words: there is none
where their difference overflows. -/
def wordCell (cells : List Cell) (periods : Int64) (row : Nat) : Cell :=
  let row := Int64.ofNat row
  let source := row - periods
  if BitVec.ssubOverflow row.toBitVec periods.toBitVec then none
  else if 0 ≤ source ∧ source < Int64.ofNat cells.length then cells.getD source.toInt.toNat none
  else none

/-- The moved table, row by row with row numbers in machine words. -/
def shiftWords (periods : Int64) (table : Table) : Table :=
  ⟨table.dates, table.columns.map fun column =>
    ⟨column.name, (List.range column.cells.length).map (wordCell column.cells periods)⟩⟩

end Table

def detectFrequency (dates : List Date) : Except TableError Frequency :=
  match Frequency.detect? dates with
  | some frequency => .ok frequency
  | none => .error (.tooFewDates dates.length)

def parseFrequency (text : String) : Except TableError Frequency :=
  match Frequency.ofText? text with
  | some frequency => .ok frequency
  | none => .error (.invalidFrequency text)

end TimeSeries
