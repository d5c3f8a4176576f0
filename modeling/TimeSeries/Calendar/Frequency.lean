import TimeSeries.Calendar.Date
import TimeSeries.Text.Case

set_option autoImplicit false

/-!
# Frequencies

How often a series is observed. A frequency cuts the calendar into periods, each named by its last
day; the frequency of a list of dates is inferred from the median gap between neighbours.
-/
namespace TimeSeries

/-- How often a series is observed; business days are the days from Monday to Friday. -/
inductive Frequency where
  | daily
  | business
  | weekly
  | monthly
  | quarterly
  | annual
  deriving DecidableEq, Repr

namespace Frequency

def code : Frequency → String
  | daily => "D"
  | business => "B"
  | weekly => "W"
  | monthly => "M"
  | quarterly => "Q"
  | annual => "A"

/-- The number of periods in a year, which turns changes into annual rates. -/
def periodsPerYear : Frequency → Nat
  | daily => 365
  | business => 260
  | weekly => 52
  | monthly => 12
  | quarterly => 4
  | annual => 1

/-- A code or a word, in any case and with blanks around it. -/
def ofText? (text : String) : Option Frequency :=
  match Text.normalName text with
  | "D" | "DAILY" => some daily
  | "B" | "BUSINESS" => some business
  | "W" | "WEEKLY" => some weekly
  | "M" | "MONTHLY" => some monthly
  | "Q" | "QUARTERLY" => some quarterly
  | "A" | "Y" | "ANNUAL" | "YEARLY" => some annual
  | _ => none

/-- The frequency of dates whose median gap is `gap` days. -/
def ofGap (gap : Int) (workdaysOnly : Bool) : Frequency :=
  if gap ≤ 1 then (if workdaysOnly then business else daily)
  else if gap ≤ 3 then business
  else if gap ≤ 8 then weekly
  else if gap ≤ 35 then monthly
  else if gap ≤ 100 then quarterly
  else annual

def gaps : List Date → List Int
  | a :: b :: rest => (b.dayNumber - a.dayNumber) :: gaps (b :: rest)
  | _ => []

/-- The upper median of a list of numbers. -/
def median (ns : List Int) : Int := (ns.mergeSort (· ≤ ·)).getD (ns.length / 2) 0

/-- The frequency that the gaps between neighbours suggest, if there are two dates. -/
def detect? (dates : List Date) : Option Frequency :=
  if dates.length < 2 then none
  else some (ofGap (median (gaps dates)) (dates.all Date.isWorkday))

end Frequency

/-- The last day of a month, unless the calendar ends with it: the day before the first of the next
month. -/
def monthEnd? (year : Int) (month : Nat) : Option Date :=
  if month = 12 ∧ year = lastYear then none else Date.of? year month (monthLength year month)

/-- The last day of the period around a date. Weeks end on Sunday; a period that the calendar cuts
off is the date itself. -/
def periodEnd (frequency : Frequency) (date : Date) : Date :=
  match frequency with
  | .daily | .business => date
  | .weekly => (Date.plusDays? (6 - date.daysSinceMonday) date).getD date
  | .monthly => (monthEnd? date.year date.month).getD date
  | .quarterly => (monthEnd? date.year (3 * date.quarter)).getD date
  | .annual => (Date.of? date.year 12 31).getD date

end TimeSeries
