import TimeSeries.Calendar.Date
import TimeSeries.Text.Blank

set_option autoImplicit false

/-!
# Date patterns

A pattern describes the text of a date: literal text, blanks, and specifiers that begin with a
percent sign. `Pattern.ofText` takes a pattern apart and `Pattern.write` writes a date with it.
-/
namespace TimeSeries

inductive Padding where
  | zeros
  | blanks
  | nothing
  deriving DecidableEq, Repr

inductive NumberItem where
  | year
  | century
  | yearOfCentury
  | isoYear
  | isoYearOfCentury
  | quarter
  | month
  | day
  | weekFromSunday
  | weekFromMonday
  | isoWeek
  | daysSinceSunday
  | dayOfWeek
  | ordinal
  | hour
  | hourOfHalf
  | minute
  | second
  | nanosecond
  | timestamp
  deriving DecidableEq, Repr

inductive WordItem where
  | monthShort
  | monthLong
  | weekdayShort
  | weekdayLong
  | halfOfDay
  deriving DecidableEq, Repr

inductive FractionForm where
  /-- After a point, in any number of places. -/
  | point
  /-- After a point, in so many places. -/
  | pointPlaces (places : Nat)
  /-- Without a point, in so many places. -/
  | places (places : Nat)
  deriving DecidableEq, Repr

/-- How a distance from universal time is given. -/
inductive OffsetForm where
  /-- Hours and minutes. -/
  | full
  /-- Hours and minutes, hours alone, or the letter Z. -/
  | brief
  /-- Hours and minutes, the letter Z, or the letters UTC. -/
  | universal
  deriving DecidableEq, Repr

/-- An item of a pattern; a blank item stands for any number of blanks when a text is read. -/
inductive PatternItem where
  | literal (text : List Char)
  | blanks (text : List Char)
  | number (item : NumberItem) (padding : Padding)
  | word (item : WordItem)
  /-- A single character among several. -/
  | oneOf (choices : List Char)
  | fraction (form : FractionForm)
  | offset (form : OffsetForm)
  /-- The name of a time zone, which is not looked up. -/
  | zoneName
  | unsupported
  deriving DecidableEq, Repr

/-- A pattern is matched item by item, from left to right. -/
abbrev Pattern := List PatternItem

namespace Pattern

def ofSpecifier (c : Char) : Pattern :=
  let zeros (item : NumberItem) : PatternItem := .number item .zeros
  let clock : Pattern :=
    [zeros .hour, .literal [':'], zeros .minute, .literal [':'], zeros .second]
  match c with
  | 'Y' => [zeros .year]
  | 'C' => [zeros .century]
  | 'y' => [zeros .yearOfCentury]
  | 'G' => [zeros .isoYear]
  | 'g' => [zeros .isoYearOfCentury]
  | 'q' => [.number .quarter .nothing]
  | 'm' => [zeros .month]
  | 'd' => [zeros .day]
  | 'e' => [.number .day .blanks]
  | 'U' => [zeros .weekFromSunday]
  | 'W' => [zeros .weekFromMonday]
  | 'V' => [zeros .isoWeek]
  | 'w' => [.number .daysSinceSunday .nothing]
  | 'u' => [.number .dayOfWeek .nothing]
  | 'j' => [zeros .ordinal]
  | 'H' => [zeros .hour]
  | 'k' => [.number .hour .blanks]
  | 'I' => [zeros .hourOfHalf]
  | 'l' => [.number .hourOfHalf .blanks]
  | 'M' => [zeros .minute]
  | 'S' => [zeros .second]
  | 'f' => [zeros .nanosecond]
  | 's' => [.number .timestamp .nothing]
  | 'b' | 'h' => [.word .monthShort]
  | 'B' => [.word .monthLong]
  | 'a' => [.word .weekdayShort]
  | 'A' => [.word .weekdayLong]
  | 'p' | 'P' => [.word .halfOfDay]
  | 'D' | 'x' =>
    [zeros .month, .literal ['/'], zeros .day, .literal ['/'], zeros .yearOfCentury]
  | 'F' => [zeros .year, .literal ['-'], zeros .month, .literal ['-'], zeros .day]
  | 'v' =>
    [.number .day .blanks, .literal ['-'], .word .monthShort, .literal ['-'], zeros .year]
  | 'R' => [zeros .hour, .literal [':'], zeros .minute]
  | 'T' | 'X' => clock
  | 'r' =>
    [zeros .hourOfHalf, .literal [':'], zeros .minute, .literal [':'], zeros .second,
     .blanks [' '], .word .halfOfDay]
  | 'c' =>
    [.word .weekdayShort, .blanks [' '], .word .monthShort, .blanks [' '], .number .day .blanks,
     .blanks [' ']] ++ clock ++ [.blanks [' '], zeros .year]
  | '+' =>
    [zeros .year, .blanks [], .literal ['-'], zeros .month, .blanks [], .literal ['-'], zeros .day,
     .oneOf ['T', 't', ' '], zeros .hour, .blanks [], .literal [':'], zeros .minute, .blanks [],
     .literal [':'], zeros .second, .fraction .point, .blanks [], .offset .universal]
  | 'z' => [.offset .full]
  | 'Z' => [.zoneName]
  | 't' => [.blanks ['\t']]
  | 'n' => [.blanks ['\n']]
  | '%' => [.literal ['%']]
  | _ => [.unsupported]

/-- A specifier with another padding, which only a single number can have. -/
def withPadding (padding : Padding) : Pattern → Pattern
  | [.number item _] => [.number item padding]
  | _ => [.unsupported]

def ofCharacter (c : Char) : PatternItem :=
  if Text.isBlank c then .blanks [c] else .literal [c]

/-- Puts a character in front of the text that a pattern begins with. -/
def consCharacter (c : Char) : Pattern → Pattern
  | .literal text :: rest => .literal (c :: text) :: rest
  | .blanks text :: rest => .blanks (c :: text) :: rest
  | rest => ofCharacter c :: rest

/-- What the text of a pattern consists of. -/
inductive Piece where
  | character (c : Char)
  | specifier (items : Pattern)

/-- Takes the text of a pattern apart; a percent sign at the end specifies nothing. -/
def pieces : List Char → List Piece
  | [] => []
  | ['%'] => [.specifier [.unsupported]]
  | '%' :: '.' :: 'f' :: rest => .specifier [.fraction .point] :: pieces rest
  | '%' :: '.' :: '3' :: 'f' :: rest => .specifier [.fraction (.pointPlaces 3)] :: pieces rest
  | '%' :: '.' :: '6' :: 'f' :: rest => .specifier [.fraction (.pointPlaces 6)] :: pieces rest
  | '%' :: '.' :: '9' :: 'f' :: rest => .specifier [.fraction (.pointPlaces 9)] :: pieces rest
  | '%' :: '3' :: 'f' :: rest => .specifier [.fraction (.places 3)] :: pieces rest
  | '%' :: '6' :: 'f' :: rest => .specifier [.fraction (.places 6)] :: pieces rest
  | '%' :: '9' :: 'f' :: rest => .specifier [.fraction (.places 9)] :: pieces rest
  | '%' :: ':' :: 'z' :: rest => .specifier [.offset .full] :: pieces rest
  | '%' :: ':' :: ':' :: 'z' :: rest => .specifier [.offset .full] :: pieces rest
  | '%' :: ':' :: ':' :: ':' :: 'z' :: rest => .specifier [.offset .full] :: pieces rest
  | '%' :: '#' :: 'z' :: rest => .specifier [.offset .brief] :: pieces rest
  | '%' :: '-' :: c :: rest => .specifier (withPadding .nothing (ofSpecifier c)) :: pieces rest
  | '%' :: '0' :: c :: rest => .specifier (withPadding .zeros (ofSpecifier c)) :: pieces rest
  | '%' :: '_' :: c :: rest => .specifier (withPadding .blanks (ofSpecifier c)) :: pieces rest
  | '%' :: c :: rest => .specifier (ofSpecifier c) :: pieces rest
  | c :: rest => .character c :: pieces rest

/-- Joins neighbouring characters into one item when both or neither are blank. -/
def ofPieces : List Piece → Pattern
  | [] => []
  | .specifier items :: rest => items ++ ofPieces rest
  | .character c :: rest =>
    match rest with
    | .character d :: _ =>
      if Text.isBlank c = Text.isBlank d then consCharacter c (ofPieces rest)
      else ofCharacter c :: ofPieces rest
    | _ => ofCharacter c :: ofPieces rest

def ofText (text : List Char) : Pattern := ofPieces (pieces text)

/-- Four digits of the year, two of the month and two of the day, joined by hyphens. -/
def ymd : Pattern := ofSpecifier 'F'

end Pattern

def monthNames : List String :=
  ["January", "February", "March", "April", "May", "June", "July", "August", "September",
   "October", "November", "December"]

def weekdayNames : List String :=
  ["Monday", "Tuesday", "Wednesday", "Thursday", "Friday", "Saturday", "Sunday"]

namespace Pattern

def padLeft (fill : Char) (width : Nat) (text : List Char) : List Char :=
  List.replicate (width - text.length) fill ++ text

def paddedNumber (padding : Padding) (width n : Nat) : List Char :=
  match padding with
  | .zeros => padLeft '0' width (Nat.toDigits 10 n)
  | .blanks => padLeft ' ' width (Nat.toDigits 10 n)
  | .nothing => Nat.toDigits 10 n

/-- A year from 0 to 9999 has four digits, any other a sign before at least four digits. -/
def writeYear (padding : Padding) (year : Int) : List Char :=
  if 0 ≤ year ∧ year ≤ 9999 then paddedNumber padding 4 year.toNat
  else
    let sign := if year < 0 then '-' else '+'
    match padding with
    | .blanks => padLeft ' ' 5 (sign :: Nat.toDigits 10 year.natAbs)
    | _ => sign :: paddedNumber padding 4 year.natAbs

/-- Two places for a number of a byte; a number of three digits has its tens as one character. -/
def writeTwo (padding : Padding) (n : Int) : List Char :=
  let byte := (n % 256).toNat
  let tens := Char.ofNat ('0'.toNat + byte / 10)
  let ones := Char.ofNat ('0'.toNat + byte % 10)
  match padding with
  | .zeros => [tens, ones]
  | .blanks => [if byte < 10 then ' ' else tens, ones]
  | .nothing => if byte < 10 then [ones] else [tens, ones]

/-- A number of a date; numbers of the time of day have no text. -/
def writeNumber (padding : Padding) (date : Date) : NumberItem → List Char
  | .year => writeYear padding date.year
  | .century => writeTwo padding (date.year / 100)
  | .yearOfCentury => writeTwo padding (date.year % 100)
  | .isoYear => writeYear padding date.isoWeek.1
  | .isoYearOfCentury => writeTwo padding (date.isoWeek.1 % 100)
  | .quarter => Nat.toDigits 10 date.quarter
  | .month => writeTwo padding date.month
  | .day => writeTwo padding date.day
  | .weekFromSunday => writeTwo padding date.weekFromSunday
  | .weekFromMonday => writeTwo padding date.weekFromMonday
  | .isoWeek => writeTwo padding date.isoWeek.2
  | .daysSinceSunday => Nat.toDigits 10 date.daysSinceSunday
  | .dayOfWeek => Nat.toDigits 10 (date.daysSinceMonday + 1)
  | .ordinal => paddedNumber padding 3 date.ordinal
  | .hour | .hourOfHalf | .minute | .second | .nanosecond | .timestamp => []

def writeWord (date : Date) : WordItem → List Char
  | .monthShort => (monthNames.getD (date.month - 1) "").toList.take 3
  | .monthLong => (monthNames.getD (date.month - 1) "").toList
  | .weekdayShort => (weekdayNames.getD date.daysSinceMonday "").toList.take 3
  | .weekdayLong => (weekdayNames.getD date.daysSinceMonday "").toList
  | .halfOfDay => []

/-- An item of a date; the time of day and its zone have no text. -/
def writeItem (date : Date) : PatternItem → List Char
  | .literal text => text
  | .blanks text => text
  | .number item padding => writeNumber padding date item
  | .word item => writeWord date item
  | .oneOf _ | .fraction _ | .offset _ | .zoneName | .unsupported => []

def write (pattern : Pattern) (date : Date) : List Char := pattern.flatMap (writeItem date)

end Pattern

def Date.toText (date : Date) : String := String.ofList (Pattern.ymd.write date)

end TimeSeries
