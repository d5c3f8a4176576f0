import TimeSeries.Table.Basic

set_option autoImplicit false

/-!
# Operators

The four binary operators on numbers and on cells. A missing operand makes the result missing,
unless missing operands count as the identity of the operator; then only two of them do.
-/
namespace TimeSeries

inductive Operator where
  | add
  | subtract
  | multiply
  | divide
  deriving DecidableEq, Repr

namespace Operator

def ofSymbol? : Char → Option Operator
  | '+' => some add
  | '-' => some subtract
  | '*' => some multiply
  | '/' => some divide
  | _ => none

def symbol : Operator → Char
  | add => '+'
  | subtract => '-'
  | multiply => '*'
  | divide => '/'

/-- The name under which provenance records the operator. -/
def name : Operator → String
  | add => "addition"
  | subtract => "subtraction"
  | multiply => "multiplication"
  | divide => "division"

/-- The operand that stands in for a missing one. -/
def identity : Operator → Float
  | add | subtract => 0
  | multiply | divide => 1

/-- The result on two numbers, finite or not. -/
def apply : Operator → Float → Float → Float
  | add, l, r => l + r
  | subtract, l, r => l - r
  | multiply, l, r => l * r
  | divide, l, r => l / r

/-- The result of two cells; it is missing when it is not finite. -/
def applyCells (op : Operator) (fillMissing : Bool) (left right : Cell) : Cell :=
  match left, right with
  | some l, some r => Cell.observed (some (op.apply l r))
  | none, none => none
  | some l, none => if fillMissing then Cell.observed (some (op.apply l op.identity)) else none
  | none, some r => if fillMissing then Cell.observed (some (op.apply op.identity r)) else none

end Operator

end TimeSeries
