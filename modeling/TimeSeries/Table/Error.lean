import TimeSeries.Calendar.Pattern

set_option autoImplicit false

/-!
# Why there is no table

The faults of dates and columns that keep them from being a table, and the faults of a table that
lacks what an operation needs.
-/
namespace TimeSeries

/-- What is wrong with dates, columns or the table that they make. -/
inductive TableError where
  | unsortedDates (earlier later : Date)
  | duplicateDate (date : Date)
  | lengthMismatch (column : String) (expected actual : Nat)
  | duplicateColumn (name : String)
  | columnNotFound (name : String)
  | ambiguousColumn (count : Nat)
  | tooFewDates (count : Nat)
  | invalidFrequency (text : String)
  deriving DecidableEq

def TableError.message : TableError → String
  | unsortedDates earlier later =>
    s!"Dates must be ascending: {later.toText} appears after {earlier.toText}"
  | duplicateDate date => s!"Duplicate date in table index: {date.toText}"
  | lengthMismatch column expected actual =>
    s!"Column {column} has {actual} values, expected {expected}"
  | duplicateColumn name => s!"Duplicate column name: {name}"
  | columnNotFound name => s!"Column not found: {name}"
  | ambiguousColumn count => s!"Expected a single value column, found {count}"
  | tooFewDates count =>
    s!"Insufficient data: need at least 2 dates to infer a frequency, got {count}"
  | invalidFrequency text => s!"Invalid frequency: {text}"

end TimeSeries
