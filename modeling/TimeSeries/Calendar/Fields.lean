import TimeSeries.Calendar.Pattern

set_option autoImplicit false

/-!
# Fields of a date

What a text says about a date is collected field by field. A field that is met twice must have the
same value both times, and a number must lie within the bounds of its field.
-/
namespace TimeSeries

inductive DateFault where
  | outOfRange
  | contradictory
  | incomplete
  | invalid
  | endsEarly
  | trailing
  | badPattern
  deriving DecidableEq, Repr

def DateFault.message : DateFault → String
  | outOfRange => "input is out of range"
  | contradictory => "no possible date and time matching input"
  | incomplete => "input is not enough for unique date and time"
  | invalid => "input contains invalid characters"
  | endsEarly => "premature end of input"
  | trailing => "trailing input"
  | badPattern => "bad or unsupported format string"

/-- What is known of a date while it is read. -/
inductive DateField where
  | year
  | century
  | yearOfCentury
  | isoYear
  | isoYearOfCentury
  | quarter
  | month
  | day
  | weekFromSunday
  | weekFromMonday
  | isoWeek
  | daysSinceMonday
  | ordinal
  | halfOfDay
  | hourOfHalf
  | minute
  | second
  | nanosecond
  | timestamp
  | offset
  deriving DecidableEq, Repr

abbrev DateFields := List (DateField × Int)

namespace DateFields

def get? (fields : DateFields) (field : DateField) : Option Int := fields.lookup field

def agrees (fields : DateFields) (field : DateField) (value : Int) : Bool :=
  match fields.get? field with
  | some known => known == value
  | none => true

/-- Records a field, unless it is known with another value. -/
def put (fields : DateFields) (field : DateField) (value : Int) : Except DateFault DateFields :=
  match fields.get? field with
  | some known => if known = value then .ok fields else .error .contradictory
  | none => .ok ((field, value) :: fields)

/-- Records a field whose value must lie between two bounds. -/
def putWithin (fields : DateFields) (field : DateField) (low high value : Int) :
    Except DateFault DateFields :=
  if low ≤ value ∧ value ≤ high then fields.put field value else .error .outOfRange

def putNumber (fields : DateFields) (item : NumberItem) (value : Int) :
    Except DateFault DateFields :=
  match item with
  | .year => fields.putWithin .year (-2147483648) 2147483647 value
  | .century => fields.putWithin .century 0 2147483647 value
  | .yearOfCentury => fields.putWithin .yearOfCentury 0 99 value
  | .isoYear => fields.putWithin .isoYear (-2147483648) 2147483647 value
  | .isoYearOfCentury => fields.putWithin .isoYearOfCentury 0 99 value
  | .quarter => fields.putWithin .quarter 1 4 value
  | .month => fields.putWithin .month 1 12 value
  | .day => fields.putWithin .day 1 31 value
  | .weekFromSunday => fields.putWithin .weekFromSunday 0 53 value
  | .weekFromMonday => fields.putWithin .weekFromMonday 0 53 value
  | .isoWeek => fields.putWithin .isoWeek 1 53 value
  | .daysSinceSunday =>
    if 0 ≤ value ∧ value ≤ 6 then fields.put .daysSinceMonday ((value + 6) % 7)
    else .error .outOfRange
  | .dayOfWeek =>
    if 1 ≤ value ∧ value ≤ 7 then fields.put .daysSinceMonday (value - 1) else .error .outOfRange
  | .ordinal => fields.putWithin .ordinal 1 366 value
  | .hour =>
    if 0 ≤ value ∧ value ≤ 23 then do
      let fields ← fields.put .halfOfDay (value / 12)
      fields.put .hourOfHalf (value % 12)
    else .error .outOfRange
  | .hourOfHalf =>
    if 1 ≤ value ∧ value ≤ 12 then fields.put .hourOfHalf (value % 12) else .error .outOfRange
  | .minute => fields.putWithin .minute 0 59 value
  | .second => fields.putWithin .second 0 60 value
  | .nanosecond => fields.putWithin .nanosecond 0 999999999 value
  | .timestamp => fields.put .timestamp value

end DateFields

end TimeSeries
