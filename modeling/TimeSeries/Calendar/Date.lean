set_option autoImplicit false

/-!
# Dates

Days of the proleptic Gregorian calendar, from 1 January -262143 to 31 December 262142. A date is
its year, month and day, compared in this order; `dayNumber` counts days without gaps, so that
durations and weekdays come from it.
-/
namespace TimeSeries

/-- Every fourth year is a leap year, except the centuries that 400 does not divide. -/
def isLeapYear (year : Int) : Bool :=
  year % 4 == 0 && (year % 100 != 0 || year % 400 == 0)

def monthLength (year : Int) (month : Nat) : Nat :=
  match month with
  | 2 => if isLeapYear year then 29 else 28
  | 4 | 6 | 9 | 11 => 30
  | _ => 31

/-- The number of days of a year before the first of a month. -/
def daysBeforeMonth (year : Int) : Nat → Nat
  | 0 => 0
  | 1 => 0
  | month + 2 => daysBeforeMonth year (month + 1) + monthLength year (month + 1)

def yearLength (year : Int) : Nat := if isLeapYear year then 366 else 365

/-- The number of days from 1 January of year 1 to 1 January of a year. -/
def daysBeforeYear (year : Int) : Int :=
  365 * (year - 1) + (year - 1) / 4 - (year - 1) / 100 + (year - 1) / 400

def firstYear : Int := -262143

def lastYear : Int := 262142

/-- Whether a year, a month and a day name a day of the calendar. -/
def IsDate (year : Int) (month day : Nat) : Prop :=
  (firstYear ≤ year ∧ year ≤ lastYear) ∧ (1 ≤ month ∧ month ≤ 12) ∧
    (1 ≤ day ∧ day ≤ monthLength year month)

instance (year : Int) (month day : Nat) : Decidable (IsDate year month day) :=
  inferInstanceAs (Decidable (_ ∧ _ ∧ _))

/-- A day of the calendar, with the evidence that there is such a day. -/
structure Date where
  year : Int
  month : Nat
  day : Nat
  isDate : IsDate year month day
  deriving DecidableEq

namespace Date

def of? (year : Int) (month day : Nat) : Option Date :=
  if h : IsDate year month day then some ⟨year, month, day, h⟩ else none

instance : LT Date where
  lt a b := a.year < b.year ∨ a.year = b.year ∧
    (a.month < b.month ∨ a.month = b.month ∧ a.day < b.day)

instance : LE Date where
  le a b := ¬ b < a

instance (a b : Date) : Decidable (a < b) := inferInstanceAs (Decidable (_ ∨ _))

instance (a b : Date) : Decidable (a ≤ b) := inferInstanceAs (Decidable (¬ _))

/-- The position within the year, from 1. -/
def ordinal (date : Date) : Nat := daysBeforeMonth date.year date.month + date.day

/-- The position among all days; day 1 is 1 January of year 1. -/
def dayNumber (date : Date) : Int := daysBeforeYear date.year + date.ordinal

/-- The number of days since the last Monday: 0 on a Monday, 6 on a Sunday. -/
def daysSinceMonday (date : Date) : Nat := ((date.dayNumber - 1) % 7).toNat

def daysSinceSunday (date : Date) : Nat := (date.daysSinceMonday + 1) % 7

def isWorkday (date : Date) : Bool := date.daysSinceMonday < 5

def next? (date : Date) : Option Date :=
  if date.day < monthLength date.year date.month then of? date.year date.month (date.day + 1)
  else if date.month < 12 then of? date.year (date.month + 1) 1
  else of? (date.year + 1) 1 1

/-- The day that is `n` days later, unless the calendar ends before it. -/
def plusDays? : Nat → Date → Option Date
  | 0, date => some date
  | n + 1, date => date.next?.bind (plusDays? n)

def ofOrdinal? (year : Int) (n : Nat) : Option Date :=
  [1, 2, 3, 4, 5, 6, 7, 8, 9, 10, 11, 12].findSome? fun month =>
    if daysBeforeMonth year month < n ∧ n ≤ daysBeforeMonth year month + monthLength year month then
      of? year month (n - daysBeforeMonth year month)
    else none

/-- Weeks begin on Monday and belong to the year of their Thursday: that year and the week's number
in it. -/
def isoWeek (date : Date) : Int × Nat :=
  let thursday : Int := (date.ordinal : Int) - date.daysSinceMonday + 3
  if thursday < 1 then
    (date.year - 1, ((thursday + yearLength (date.year - 1) + 6) / 7).toNat)
  else if yearLength date.year < thursday then
    (date.year + 1, ((thursday - yearLength date.year + 6) / 7).toNat)
  else (date.year, ((thursday + 6) / 7).toNat)

/-- The number of the week within the year, when weeks begin on Sunday and the days before the
first Sunday are week 0. -/
def weekFromSunday (date : Date) : Nat := (date.ordinal + 6 - date.daysSinceSunday) / 7

def weekFromMonday (date : Date) : Nat := (date.ordinal + 6 - date.daysSinceMonday) / 7

def quarter (date : Date) : Nat := (date.month - 1) / 3 + 1

end Date

end TimeSeries
