import TimeSeries.Formula.Error
import TimeSeries.Table.Join

set_option autoImplicit false

/-!
# Arithmetic on values

Operators on evaluated operands. Two series are joined on their dates, a number is combined with
every cell of a series, and the result has a single column.
-/
namespace TimeSeries

def resultColumn : String := "VALUE"

/-- The only column of a table with each cell replaced. -/
def broadcast (f : Cell → Cell) (table : Table) : Except FormulaError Value := do
  let column ← liftTable table.valueColumn
  let result ← liftTable (Table.single resultColumn table.dates (column.cells.map f))
  return .series result

/-- The result of an operator; texts have none. -/
def combine (op : Operator) (fillMissing : Bool) : Value → Value → Except FormulaError Value
  | .number l, .number r => .ok (.number (op.apply l r))
  | .series l, .series r => do
    let pair ← liftTable (alignPair l r)
    let cells := pair.left.zipWith (op.applyCells fillMissing) pair.right
    let result ← liftTable (Table.single resultColumn pair.dates cells)
    return .series result
  | .series table, .number x => broadcast (op.applyCells fillMissing · (some x)) table
  | .number x, .series table => broadcast (op.applyCells fillMissing (some x)) table
  | left, right => argumentError (.operands op left.kind right.kind)

end TimeSeries
