import TimeSeries.Table.Join

set_option autoImplicit false

/-!
# Lower frequencies

Resampling gathers the rows of each period into one row at the period's end. A table conforms to a
request for bounds and a frequency when it is cut to the bounds and, if the request is for fewer
periods a year than it has, resampled to means.
-/
namespace TimeSeries

/-- The sum from left to right, beginning with negative zero. -/
def total (xs : List Float) : Float := xs.foldl (· + ·) (-0.0)

def mean (xs : List Float) : Float := total xs / Float.ofNat xs.length

/-- How the observations of one period make one number. -/
inductive Aggregation where
  | mean
  | sum
  | first
  | last
  deriving DecidableEq, Repr

/-- Nothing observed gives nothing. -/
def Aggregation.apply (aggregation : Aggregation) (observed : List Float) : Cell :=
  if observed.isEmpty then none
  else
    match aggregation with
    | mean => some (TimeSeries.mean observed)
    | sum => some (total observed)
    | first => observed.head?
    | last => observed.getLast?

namespace Table

/-- The table with one row for each period, at the period's last day. -/
def resample (table : Table) (frequency : Frequency) (aggregation : Aggregation) :
    Except TableError Table :=
  let periods := distinctDates (table.dates.map (periodEnd frequency))
  let collapse (cells : List Cell) : List Cell := periods.map fun period =>
    aggregation.apply
      ((keepCells (fun date => periodEnd frequency date = period) table.dates cells).filterMap id)
  ofColumns periods
    (table.columns.map fun column => Column.of column.name (collapse column.cells))

/-- The rows within the bounds, at the requested frequency if that is lower than their own. -/
def conform (start stop : Option Date) (frequency : Option Frequency) (table : Table) :
    Except TableError Table :=
  let bounded := table.within start stop
  match frequency with
  | none => .ok bounded
  | some target =>
    if bounded.rowCount < 2 then .ok bounded
    else do
      let own ← detectFrequency bounded.dates
      if target.periodsPerYear < own.periodsPerYear then bounded.resample target .mean
      else return bounded

end Table

end TimeSeries
