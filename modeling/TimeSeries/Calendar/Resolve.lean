import TimeSeries.Calendar.Fields

set_option autoImplicit false

/-!
# The date that fields determine

A date follows from a year with a month and a day, with a day of the year, or with a week and a day
of the week. Every further field must agree with it.
-/
namespace TimeSeries

namespace DateFields

/-- The year that a full year, a century and a year of the century determine, if any. Of a year
alone, 70 to 99 lie before 2000 and 0 to 69 after. -/
def resolveYear (full hundreds rest : Option Int) : Except DateFault (Option Int) :=
  match full, hundreds, rest with
  | some y, none, none => .ok (some y)
  | some y, c, r =>
    if 0 ≤ y ∧ c.getD (y / 100) = y / 100 ∧ r.getD (y % 100) = y % 100 then .ok (some y)
    else .error .contradictory
  | none, some c, some r =>
    if 100 * c + r ≤ 2147483647 then .ok (some (100 * c + r)) else .error .outOfRange
  | none, none, some r => .ok (some (if r < 70 then r + 2000 else r + 1900))
  | none, some _, none => .error .incomplete
  | none, none, none => .ok none

/-- Whether the parts of a year agree with the fields; a negative year has no century. -/
def agreesWithYear (fields : DateFields) (full hundreds rest : DateField) (year : Int) : Bool :=
  fields.agrees full year &&
    (if 0 ≤ year then fields.agrees hundreds (year / 100) && fields.agrees rest (year % 100)
    else (fields.get? hundreds).isNone && (fields.get? rest).isNone)

def agreesWithDay (fields : DateFields) (date : Date) : Bool :=
  fields.agreesWithYear .year .century .yearOfCentury date.year &&
    fields.agrees .month date.month && fields.agrees .day date.day

def agreesWithIsoWeek (fields : DateFields) (date : Date) : Bool :=
  let (year, week) := date.isoWeek
  fields.agrees .isoYear year &&
    (if 0 ≤ year then fields.agrees .isoYearOfCentury (year % 100)
      else (fields.get? .isoYearOfCentury).isNone) &&
    fields.agrees .isoWeek week && fields.agrees .daysSinceMonday date.daysSinceMonday

def agreesWithOrdinal (fields : DateFields) (date : Date) : Bool :=
  fields.agrees .ordinal date.ordinal && fields.agrees .weekFromSunday date.weekFromSunday &&
    fields.agrees .weekFromMonday date.weekFromMonday

/-- The day `weekday` of a numbered week of a year, where weeks begin `weekStart` days after
Monday. -/
def ofWeek (year week weekday weekStart : Int) : Except DateFault Date :=
  match Date.ofOrdinal? year 1 with
  | none => .error .outOfRange
  | some first =>
    let firstWeek := 1 + (weekStart - first.daysSinceMonday) % 7
    let n := firstWeek + (week - 1) * 7 + (weekday - weekStart) % 7
    if n ≤ 0 then .error .contradictory
    else
      match Date.ofOrdinal? year n.toNat with
      | some date => .ok date
      | none => .error .contradictory

/-- The day `weekday` of a week that belongs to the year of its Thursday. -/
def ofIsoWeek (year week weekday : Int) : Option Date :=
  let newYear := (daysBeforeYear year) % 7
  let firstMonday := if newYear ≤ 3 then 1 - newYear else 8 - newYear
  let longYear := newYear = 3 ∨ newYear = 2 ∧ isLeapYear year
  if week < 1 ∨ (if longYear then 53 else 52) < week then none
  else
    let n := firstMonday + (week - 1) * 7 + weekday
    if n < 1 then Date.ofOrdinal? (year - 1) (n + yearLength (year - 1)).toNat
    else if yearLength year < n then Date.ofOrdinal? (year + 1) (n - yearLength year).toNat
    else Date.ofOrdinal? year n.toNat

def required (date : Option Date) : Except DateFault Date :=
  match date with
  | some date => .ok date
  | none => .error .outOfRange

/-- A date that the fields determine, and whether the fields that did not agree with it. -/
def candidate (fields : DateFields) : Except DateFault (Date × Bool) := do
  let year ← resolveYear (fields.get? .year) (fields.get? .century) (fields.get? .yearOfCentury)
  let isoYear ← resolveYear (fields.get? .isoYear) none (fields.get? .isoYearOfCentury)
  let weekday := fields.get? .daysSinceMonday
  match year, fields.get? .month, fields.get? .day with
  | some year, some month, some day =>
    let date ← required (Date.of? year month.toNat day.toNat)
    return (date, fields.agreesWithIsoWeek date && fields.agreesWithOrdinal date)
  | _, _, _ =>
  match year, fields.get? .ordinal with
  | some year, some n =>
    let date ← required (Date.ofOrdinal? year n.toNat)
    return (date, fields.agreesWithDay date && fields.agreesWithIsoWeek date
      && fields.agreesWithOrdinal date)
  | _, _ =>
  match year, fields.get? .weekFromSunday, weekday with
  | some year, some week, some weekday =>
    let date ← ofWeek year week weekday 6
    return (date, fields.agreesWithDay date && fields.agreesWithIsoWeek date
      && fields.agreesWithOrdinal date)
  | _, _, _ =>
  match year, fields.get? .weekFromMonday, weekday with
  | some year, some week, some weekday =>
    let date ← ofWeek year week weekday 0
    return (date, fields.agreesWithDay date && fields.agreesWithIsoWeek date
      && fields.agreesWithOrdinal date)
  | _, _, _ =>
  match isoYear, fields.get? .isoWeek, weekday with
  | some year, some week, some weekday =>
    let date ← required (ofIsoWeek year week weekday)
    return (date, fields.agreesWithDay date && fields.agreesWithOrdinal date)
  | _, _, _ => throw .incomplete

/-- The date that the fields determine, when all of them agree. -/
def toDate (fields : DateFields) : Except DateFault Date := do
  let (date, agree) ← fields.candidate
  if agree && fields.agrees .quarter date.quarter then return date
  else throw .contradictory

end DateFields

end TimeSeries
