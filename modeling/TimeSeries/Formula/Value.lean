import TimeSeries.Decimal.Numeral
import TimeSeries.Table.Basic

set_option autoImplicit false

/-!
# Values

What a formula evaluates to: a series, a number or a text.
-/
namespace TimeSeries

inductive Kind where
  | series
  | number
  | text
  deriving DecidableEq, Repr

def Kind.name : Kind → String
  | series => "series"
  | number => "number"
  | text => "text"

/-- A series, a number or a text. -/
inductive Value where
  | series (table : Table)
  | number (x : Float)
  | text (content : String)

namespace Value

def kind : Value → Kind
  | series _ => .series
  | number _ => .number
  | text _ => .text

/-- A short text of a value; of a series only its size. -/
def display : Value → String
  | series table => s!"series ({table.rowCount} rows x {table.columns.length} columns)"
  | number x => Decimal.write x
  | text content => String.ofList ('"' :: content.toList ++ ['"'])

end Value

end TimeSeries
