import Mathlib.Order.Monotone.Basic
import TimeSeries.Proofs.Calendar.Period

set_option autoImplicit false

/-!
# Day numbers

A later date has a larger day number, and the day after has the next one: the numbers count the days
of the calendar without gaps.
-/
namespace TimeSeries

theorem monthLength_bounds (year : Int) (month : Nat) :
    28 ≤ monthLength year month ∧ monthLength year month ≤ 31 := by
  unfold monthLength
  split
  · split <;> omega
  all_goals omega

theorem daysBeforeMonth_succ (year : Int) {month : Nat} (h : 1 ≤ month) :
    daysBeforeMonth year (month + 1) = daysBeforeMonth year month + monthLength year month := by
  cases month with
  | zero => omega
  | succ month => rfl

theorem daysBeforeMonth_mono (year : Int) {a b : Nat} (h : a ≤ b) :
    daysBeforeMonth year a ≤ daysBeforeMonth year b := by
  refine monotone_nat_of_le_succ (fun month => ?_) h
  cases month with
  | zero => exact Nat.le_refl 0
  | succ month =>
    rw [daysBeforeMonth_succ year (Nat.succ_pos month)]
    exact Nat.le_add_right _ _

theorem daysBeforeMonth_thirteen (year : Int) : daysBeforeMonth year 13 = yearLength year := by
  simp only [daysBeforeMonth, monthLength, yearLength]
  split <;> rfl

theorem daysBeforeYear_succ (year : Int) :
    daysBeforeYear (year + 1) = daysBeforeYear year + yearLength year := by
  have hleap : isLeapYear year = true ↔ year % 4 = 0 ∧ (year % 100 ≠ 0 ∨ year % 400 = 0) := by
    simp [isLeapYear]
  unfold daysBeforeYear yearLength
  split
  · rename_i h
    have hyear := hleap.1 h
    omega
  · rename_i h
    have hyear := mt hleap.2 h
    omega

theorem daysBeforeYear_mono {a b : Int} (h : a ≤ b) : daysBeforeYear a ≤ daysBeforeYear b := by
  refine monotone_int_of_le_succ (fun year => ?_) h
  rw [daysBeforeYear_succ]
  omega

namespace Date

variable {a b date later : Date}

theorem ordinal_le_daysBeforeMonth (date : Date) :
    date.ordinal ≤ daysBeforeMonth date.year (date.month + 1) := by
  have hday := date.day_le_monthLength
  rw [daysBeforeMonth_succ _ date.isDate.2.1.1, ordinal]
  omega

theorem ordinal_le_yearLength (date : Date) : date.ordinal ≤ yearLength date.year := by
  have hmonth := date.isDate.2.1.2
  have hlast := daysBeforeMonth_mono date.year (show date.month + 1 ≤ 13 by omega)
  rw [daysBeforeMonth_thirteen] at hlast
  exact Nat.le_trans date.ordinal_le_daysBeforeMonth hlast

theorem daysBeforeMonth_lt_ordinal (date : Date) :
    daysBeforeMonth date.year date.month < date.ordinal := by
  have hday := date.isDate.2.2.1
  rw [ordinal]
  omega

theorem dayNumber_lt_of_lt (h : a < b) : a.dayNumber < b.dayNumber := by
  have hlast := a.ordinal_le_daysBeforeMonth
  have hfirst := b.daysBeforeMonth_lt_ordinal
  rw [dayNumber, dayNumber]
  rw [lt_iff] at h
  rcases h with hyear | ⟨hyear, hmonth | ⟨hmonth, hday⟩⟩
  · have hlength := a.ordinal_le_yearLength
    have hyears := daysBeforeYear_mono (show a.year + 1 ≤ b.year by omega)
    rw [daysBeforeYear_succ] at hyears
    omega
  · have hmonths := daysBeforeMonth_mono b.year (show a.month + 1 ≤ b.month by omega)
    rw [hyear] at hlast ⊢
    omega
  · rw [ordinal, ordinal, hyear, hmonth]
    omega

theorem lt_of_dayNumber_lt (h : a.dayNumber < b.dayNumber) : a < b := by
  rcases lt_or_eq_or_gt a b with hlt | rfl | hgt
  · exact hlt
  · omega
  · have := dayNumber_lt_of_lt hgt
    omega

theorem dayNumber_next? (h : date.next? = some later) :
    later.dayNumber = date.dayNumber + 1 := by
  have hday := date.day_le_monthLength
  have hmonths := daysBeforeMonth_succ date.year date.isDate.2.1.1
  unfold next? at h
  rw [dayNumber, dayNumber, ordinal, ordinal]
  split at h
  · obtain ⟨hyear, hmonth, hnext⟩ := eq_of_of? h
    rw [hyear, hmonth, hnext]
    omega
  · split at h
    · obtain ⟨hyear, hmonth, hnext⟩ := eq_of_of? h
      rw [hyear, hmonth, hnext]
      omega
    · rename_i hfull hmonth
      obtain ⟨hyear, hfirst, hnext⟩ := eq_of_of? h
      have hlast : date.month = 12 := by
        have := date.isDate.2.1.2
        omega
      have hlength : daysBeforeMonth date.year (12 + 1) = yearLength date.year :=
        daysBeforeMonth_thirteen date.year
      have hzero : daysBeforeMonth (date.year + 1) 1 = 0 := rfl
      rw [hlast] at hmonths hfull hday
      rw [hyear, hfirst, hnext, daysBeforeYear_succ, hzero, hlast]
      omega

theorem le_of_lt_next? {next : Date} (hnext : date.next? = some next) (h : a < next) : a ≤ date := by
  intro hlt
  have hnumber := dayNumber_lt_of_lt h
  have hafter := dayNumber_lt_of_lt hlt
  rw [dayNumber_next? hnext] at hnumber
  omega

theorem of?_eq_some {year : Int} {month day : Nat} (h : IsDate year month day) :
    of? year month day = some ⟨year, month, day, h⟩ :=
  dif_pos h

theorem exists_next? (h : date < ⟨lastYear, 12, 31, by decide⟩) : ∃ later, date.next? = some later := by
  obtain ⟨hyear, hmonth, hday⟩ := date.isDate
  have hlength := (monthLength_bounds date.year (date.month + 1)).1
  unfold next?
  split
  · exact ⟨_, of?_eq_some ⟨hyear, hmonth, by omega⟩⟩
  · split
    · exact ⟨_, of?_eq_some ⟨hyear, by omega, by omega⟩⟩
    · have hlast : monthLength date.year date.month = 31 := by
        rw [show date.month = 12 by omega]
        rfl
      rw [lt_iff] at h
      dsimp only at h
      have hnext : date.year + 1 ≤ lastYear := by omega
      refine ⟨_, of?_eq_some ⟨⟨by omega, hnext⟩, by omega, Nat.le_refl 1, ?_⟩⟩
      have := (monthLength_bounds (date.year + 1) 1).1
      omega

theorem exists_plusDays? {n : Nat}
    (h : date.dayNumber + n ≤ dayNumber ⟨lastYear, 12, 31, by decide⟩) :
    ∃ later, plusDays? n date = some later ∧ later.dayNumber = date.dayNumber + n := by
  induction n generalizing date with
  | zero => exact ⟨date, rfl, by simp⟩
  | succ n ih =>
    obtain ⟨next, hnext⟩ := exists_next? (@lt_of_dayNumber_lt date _ (by omega))
    have hnumber := dayNumber_next? hnext
    obtain ⟨later, hlater, hsum⟩ := @ih next (by omega)
    refine ⟨later, ?_, by omega⟩
    rw [plusDays?, hnext]
    exact hlater

end Date

end TimeSeries
