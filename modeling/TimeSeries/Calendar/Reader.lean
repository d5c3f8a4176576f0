import TimeSeries.Calendar.Parts
import TimeSeries.Calendar.Resolve

set_option autoImplicit false

/-!
# Reading dates

A pattern is matched against a text item by item, and what is read is collected as fields. In the
end the fields must determine one date.
-/
namespace TimeSeries

def readItem (fields : DateFields) (item : PatternItem) (text : List Char) :
    Except DateFault (DateFields × List Char) :=
  match item with
  | .literal expected =>
    if Text.byteLength text < Text.byteLength expected then .error .endsEarly
    else if expected.isPrefixOf text then .ok (fields, text.drop expected.length)
    else .error .invalid
  | .blanks _ => .ok (fields, Text.trimStart text)
  | .number item _ => do
    let (n, rest) ← readNumber item (Text.trimStart text)
    let fields ← fields.putNumber item n
    .ok (fields, rest)
  | .word item => do
    let ((field, value), rest) ← readWord item text
    let fields ← fields.put field value
    .ok (fields, rest)
  | .oneOf choices =>
    match text with
    | [] => .error .endsEarly
    | c :: rest => if choices.contains c then .ok (fields, rest) else .error .invalid
  | .fraction form => do
    match ← readFraction form text with
    | (some n, rest) => return (← fields.put .nanosecond n, rest)
    | (none, rest) => return (fields, rest)
  | .offset form => do
    let (seconds, rest) ← readOffset form (Text.trimStart text)
    let fields ← fields.put .offset seconds
    .ok (fields, rest)
  | .zoneName => .ok (fields, text.dropWhile fun c => !Text.isBlank c)
  | .unsupported => .error .badPattern

/-- Matches a pattern and nothing after it. -/
def readFields (fields : DateFields) : Pattern → List Char → Except DateFault DateFields
  | [], [] => .ok fields
  | [], _ :: _ => .error .trailing
  | item :: items, text => do
    let (fields, rest) ← readItem fields item text
    readFields fields items rest

/-- The date that a text in the form of a pattern names. -/
def Pattern.read (pattern : Pattern) (text : List Char) : Except DateFault Date :=
  (readFields [] pattern text).bind DateFields.toDate

/-- The pattern of a date by itself: year, month and day with hyphens and with blanks between. -/
def Pattern.loose : Pattern :=
  [.number .year .zeros, .blanks [], .literal ['-'], .number .month .zeros, .blanks [],
   .literal ['-'], .number .day .zeros, .blanks []]

end TimeSeries
