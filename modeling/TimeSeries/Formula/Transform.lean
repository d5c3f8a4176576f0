import TimeSeries.Formula.Arithmetic
import TimeSeries.Formula.Function
import TimeSeries.Table.Resample

set_option autoImplicit false

/-!
# Transformations of series

What the built-in functions compute: changes between rows, moves along the rows, aggregates across
series and functions of single numbers.
-/
namespace TimeSeries

/-! ## Changes -/

/-- Each cell combined with the one `lag` rows before it, when both are observed. -/
def changeCells (lag : Nat) (f : Float → Float → Cell) (cells : List Cell) : List Cell :=
  cells.zipWith (fun current? previous? =>
    match current?, previous? with
    | some current, some previous => f current previous
    | _, _ => none) (List.replicate lag none ++ cells)

def changes (lag : Nat) (f : Float → Float → Cell) (table : Table) : Except FormulaError Value :=
  (liftTable (table.mapColumns (changeCells lag f))).map .series

/-- The number of rows that make a year, when there are enough to tell. -/
def yearLag? (table : Table) : Except FormulaError (Option Nat) :=
  if table.rowCount < 2 then .ok none
  else (liftTable (detectFrequency table.dates)).map fun frequency => some frequency.periodsPerYear

/-- A table of the same shape without observations. -/
def allMissing (table : Table) : Except FormulaError Value :=
  (liftTable (table.mapColumns (·.map fun _ => none))).map .series

/-- Changes that need the number of rows in a year. -/
def yearlyChanges (table : Table) (run : Nat → Except FormulaError Value) :
    Except FormulaError Value := do
  match ← yearLag? table with
  | some lag => run lag
  | none => allMissing table

def difference (current previous : Float) : Cell := some (current - previous)

/-- The relative change in percent; there is none from zero. -/
def percentChange (current previous : Float) : Cell :=
  if previous == 0 then none else some ((current / previous - 1) * 100)

/-- Squares and multiplies: the factor `r` times the power of `x`, bit by bit from the lowest. -/
def powerFrom (fuel : Nat) (r x : Float) (n : Nat) : Float :=
  match fuel with
  | 0 => r
  | fuel + 1 =>
    let r := if n % 2 = 1 then r * x else r
    if n / 2 = 0 then r else powerFrom fuel r (x * x) (n / 2)

/-- A whole power by repeated squaring; a number has no more bits than its value. -/
def power (x : Float) (n : Nat) : Float := powerFrom (n + 1) 1 x n

/-- The relative change in percent, compounded over `n` periods. -/
def compoundChange (n : Nat) (current previous : Float) : Cell :=
  if previous == 0 then none else some ((power (current / previous) n - 1) * 100)

/-! ## Moves -/

/-- Cells moved down, or up, by a number of rows that is one when it is not given. -/
def lagSeries (table : Table) (periods : Option Nat) : Table :=
  table.shift (min (periods.getD 1) table.rowCount : Nat)

def leadSeries (table : Table) (periods : Option Nat) : Table :=
  table.shift (-(min (periods.getD 1) table.rowCount : Nat))

/-! ## Aggregates -/

/-- The aggregate of the observed cells of a row. It is missing without observations, and also with
only some unless missing cells may be left out. -/
def aggregateRow (fillMissing : Bool) (f : List Float → Float) (row : List Cell) : Cell :=
  let observed := row.filterMap id
  if observed.isEmpty || !(observed.length == row.length || fillMissing) then none
  else some (f observed)

/-- Aggregates series with one column each, row by row, under the name of the function. -/
def aggregateRows (name : String) (f : List Float → Float) (tables : List Table)
    (context : Context) : Except FormulaError Value := do
  tables.forM fun table => (liftTable table.valueColumn).map fun _ => ()
  let joined ← liftTable (joinTables tables)
  let cells := joined.rows.map fun row => aggregateRow context.fillMissing f row.2
  let result ← liftTable (Table.single name joined.dates cells)
  return .series result

/-- The smaller of two numbers, the left one when they are equal. -/
def smaller (a b : Float) : Float := if b < a then b else a

/-- The larger of two numbers, the left one when they are equal. -/
def larger (a b : Float) : Float := if a < b then b else a

def minimum (xs : List Float) : Float := xs.foldl smaller Decimal.infinity

def maximum (xs : List Float) : Float := xs.foldl larger (-Decimal.infinity)

/-! ## Functions of numbers -/

def logarithm (x : Float) : Cell := if x > 0 then some x.log else none

def exponential (x : Float) : Cell := some x.exp

def absolute (x : Float) : Cell := some x.abs

/-- The square root of a number that is not negative. -/
def squareRoot (x : Float) : Cell := if x >= 0 then some x.sqrt else none

end TimeSeries
