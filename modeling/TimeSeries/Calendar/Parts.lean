import TimeSeries.Calendar.Fields
import TimeSeries.Decimal.Exact
import TimeSeries.Text.Utf8

set_option autoImplicit false

/-!
# Reading the parts of a date

Numbers, words, fractions of a second and distances from universal time at the beginning of a text.
Each reader returns the rest of the text, or says why there is no such part.
-/
namespace TimeSeries

/-- A step of a reader: the rest of the text, with what was read. -/
abbrev Reading (α : Type) := Except DateFault (α × List Char)

def largestNumber : Nat := 9223372036854775807

def readDigits (width : Option Nat) (text : List Char) : Reading Nat :=
  let window := (width.map text.take).getD text
  let digits := window.takeWhile Char.isDigit
  if text = [] then .error .endsEarly
  else if digits = [] then .error .invalid
  else if largestNumber < Decimal.digitsValue digits then .error .outOfRange
  else .ok (Decimal.digitsValue digits, text.drop digits.length)

def readExactly (count : Nat) (text : List Char) : Reading Nat :=
  let digits := text.take count
  if Text.byteLength text < count then .error .endsEarly
  else if digits.all Char.isDigit then .ok (Decimal.digitsValue digits, text.drop count)
  else .error .invalid

/-- Years have four digits, or any number of them after a sign. -/
def readYear (text : List Char) : Reading Int :=
  match text with
  | '-' :: rest => (readDigits none rest).map fun (n, rest) => (-n, rest)
  | '+' :: rest => (readDigits none rest).map fun (n, rest) => (n, rest)
  | _ => (readDigits (some 4) text).map fun (n, rest) => (n, rest)

/-- The most digits that a number of a pattern has; `none` stands for any number of them. -/
def NumberItem.width : NumberItem → Option Nat
  | .year | .isoYear => some 4
  | .quarter | .daysSinceSunday | .dayOfWeek => some 1
  | .ordinal => some 3
  | .nanosecond => some 9
  | .timestamp => none
  | _ => some 2

def readNumber (item : NumberItem) (text : List Char) : Reading Int :=
  match item with
  | .year | .isoYear => readYear text
  | _ => (readDigits item.width text).map fun (n, rest) => (n, rest)

/-- A word of a list by its first letters, as many as `short`, in any case; its index. -/
def readShortWord (short : Nat) (words : List String) (text : List Char) : Reading Nat :=
  if Text.byteLength text < short then .error .endsEarly
  else
    let start := (text.take short).map Char.toLower
    match words.findIdx? fun w => (w.toList.take short).map Char.toLower == start with
    | some i => .ok (i, text.drop short)
    | none => .error .invalid

/-- A word of a list, in full or by its first three letters. -/
def readLongWord (words : List String) (text : List Char) : Reading Nat :=
  (readShortWord 3 words text).map fun (i, rest) =>
    let tail := ((words.getD i "").toList.drop 3).map Char.toLower
    let longer := (rest.take tail.length).map Char.toLower = tail
    (i, if longer then rest.drop tail.length else rest)

def readWord (item : WordItem) (text : List Char) : Reading (DateField × Int) :=
  match item with
  | .monthShort => (readShortWord 3 monthNames text).map fun (i, rest) => ((.month, i + 1), rest)
  | .monthLong => (readLongWord monthNames text).map fun (i, rest) => ((.month, i + 1), rest)
  | .weekdayShort =>
    (readShortWord 3 weekdayNames text).map fun (i, rest) => ((.daysSinceMonday, i), rest)
  | .weekdayLong =>
    (readLongWord weekdayNames text).map fun (i, rest) => ((.daysSinceMonday, i), rest)
  | .halfOfDay =>
    (readShortWord 2 ["am", "pm"] text).map fun (i, rest) => ((.halfOfDay, i), rest)

/-- The nanoseconds of the digits after the point of a second; those beyond the ninth do not
count. -/
def nanoseconds (digits : List Char) : Nat :=
  Decimal.digitsValue ((digits ++ List.replicate 9 '0').take 9)

/-- A fraction of a second in nanoseconds; where a point comes before it, both may be missing. -/
def readFraction (form : FractionForm) (text : List Char) : Reading (Option Nat) :=
  match form, text with
  | .point, '.' :: rest =>
    let digits := rest.takeWhile Char.isDigit
    if rest = [] then .error .endsEarly
    else if digits = [] then .error .invalid
    else .ok (some (nanoseconds digits), rest.drop digits.length)
  | .pointPlaces places, '.' :: rest =>
    (readExactly places rest).map fun (n, rest) => (some (n * Nat.pow 10 (9 - places)), rest)
  | .places places, _ =>
    (readExactly places text).map fun (n, rest) => (some (n * Nat.pow 10 (9 - places)), rest)
  | _, _ => .ok (none, text)

/-- Two digits of minutes below sixty; where minutes are optional, a text may end before them. -/
def readMinutes (optional : Bool) (text : List Char) : Reading Nat :=
  if optional && text.isEmpty then .ok (0, text)
  else
    match readExactly 2 text with
    | .ok (n, rest) => if n < 60 then .ok (n, rest) else .error .outOfRange
    | .error fault => .error fault

/-- A sign, two digits of hours and the minutes, in seconds; colons and blanks may stand between
hours and minutes. -/
def readSignedHours (minutesOptional : Bool) (text : List Char) :
    Except DateFault (Int × List Char) :=
  match text with
  | [] => .error .endsEarly
  | sign :: rest =>
    if sign = '+' ∨ sign = '-' ∨ sign = '−' then do
      let (hours, rest) ← readExactly 2 rest
      let (minutes, rest) ← readMinutes minutesOptional
        (rest.dropWhile fun c => c == ':' || Text.isBlank c)
      let seconds : Int := 3600 * hours + 60 * minutes
      return (if sign = '+' then seconds else -seconds, rest)
    else .error .invalid

def startsWithZ (text : List Char) : Bool := (text.take 1).map Char.toUpper == ['Z']

/-- A distance from universal time in seconds; Z and UTC stand for no distance. -/
def readOffset (form : OffsetForm) (text : List Char) : Reading Int :=
  match form with
  | .full => readSignedHours false text
  | .brief => if startsWithZ text then .ok (0, text.drop 1) else readSignedHours true text
  | .universal =>
    if (text.take 3).map Char.toUpper = ['U', 'T', 'C'] then .ok (0, text.drop 3)
    else if startsWithZ text then .ok (0, text.drop 1)
    else readSignedHours false text

end TimeSeries
