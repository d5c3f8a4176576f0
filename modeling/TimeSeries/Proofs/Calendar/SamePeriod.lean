import TimeSeries.Proofs.Calendar.PeriodOrder

set_option autoImplicit false

/-!
# Dates of one period

Main statement: the end of the period is a closure operator on the whole calendar, and up to the
calendar's last quarter two dates have the same end exactly when the calendar has them in one week,
month, quarter or year. What is shown of the later of two dates is that it comes before the end of
the earlier one's period exactly when the two are of one period.
-/
namespace TimeSeries

namespace Date

/-- Weeks begin with Mondays: of two dates of one week every Monday has come for both or for
neither. -/
def SameWeek (a b : Date) : Prop :=
  ∀ monday : Date, monday.daysSinceMonday = 0 → (monday ≤ a ↔ monday ≤ b)

/-- A quarter has three months, from January on. -/
def SameQuarter (a b : Date) : Prop := a.year = b.year ∧ (a.month - 1) / 3 = (b.month - 1) / 3

def SameMonth (a b : Date) : Prop := a.year = b.year ∧ a.month = b.month

end Date

/-- Whether the calendar has two dates in one period. -/
def Frequency.SamePeriod : Frequency → Date → Date → Prop
  | daily, a, b | business, a, b => a = b
  | weekly, a, b => a.SameWeek b
  | monthly, a, b => a.SameMonth b
  | quarterly, a, b => a.SameQuarter b
  | annual, a, b => a.year = b.year

section SamePeriod

variable {f : Frequency} {a b last : Date}

theorem Frequency.SamePeriod.symm (h : f.SamePeriod a b) : f.SamePeriod b a := by
  cases f with
  | daily | business | annual => exact Eq.symm h
  | weekly => exact fun monday hmonday => (h monday hmonday).symm
  | monthly | quarterly => exact ⟨h.1.symm, h.2.symm⟩

theorem Date.le_lastDay_iff {year : Int} {month : Nat}
    (h : last.year = year ∧ last.month = month ∧ last.day = monthLength year month) :
    b ≤ last ↔ b.year < year ∨ b.year = year ∧ b.month ≤ month := by
  obtain ⟨hyear, hmonth, hday⟩ := h
  have hlength : b.year = year → b.month = month → b.day ≤ last.day := by
    rintro rfl rfl
    exact hday ▸ b.day_le_monthLength
  change ¬ (last < b) ↔ _
  rw [lt_iff]
  omega

theorem le_periodEnd_weekly_iff (hab : a ≤ b) (ha : a < lastQuarter) :
    b ≤ periodEnd .weekly a ↔ a.SameWeek b := by
  have hnumber := dayNumber_periodEnd_weekly ha
  have hsince : a.daysSinceMonday = ((a.dayNumber - 1) % 7).toNat := rfl
  constructor
  · intro hb monday hmonday
    refine ⟨fun hle => Date.le_trans hle hab, fun hle hlt => ?_⟩
    -- From a date to the Sunday after it there is no other Monday.
    have hfirst := Date.dayNumber_lt_of_lt hlt
    have hlast := Date.dayNumber_le_of_le (Date.le_trans hle hb)
    have hzero : monday.daysSinceMonday = ((monday.dayNumber - 1) % 7).toNat := rfl
    omega
  · intro hsame hlt
    -- The day after the Sunday is a Monday that has come for `b` only.
    obtain ⟨monday, hnext⟩ := Date.exists_next? (Date.lt_of_lt_of_le hlt b.le_last)
    have hafter := Date.dayNumber_next? hnext
    have hzero : monday.daysSinceMonday = ((monday.dayNumber - 1) % 7).toNat := rfl
    have hcome : monday ≤ b := fun hearlier => Date.le_of_lt_next? hnext hearlier hlt
    have hle := Date.dayNumber_le_of_le ((hsame monday (by omega)).2 hcome)
    omega

theorem le_periodEnd_iff (f : Frequency) (hab : a ≤ b) (ha : a < lastQuarter) :
    b ≤ periodEnd f a ↔ f.SamePeriod a b := by
  have horder : ¬ (b < a) := hab
  have hmonths := month_lt_of_lt_lastQuarter ha
  obtain ⟨hyear, hmonth, -⟩ := a.isDate
  rw [Date.lt_iff] at horder
  cases f with
  | daily | business =>
    exact ⟨fun hba => Date.eq_of_le_of_le hab hba, fun heq => heq ▸ Date.le_refl b⟩
  | weekly => exact le_periodEnd_weekly_iff hab ha
  | monthly =>
    obtain ⟨last, hlast, -⟩ := monthEnd?_eq_some hyear hmonth (by omega)
    rw [periodEnd, hlast, Option.getD_some, Date.le_lastDay_iff (Date.eq_of_monthEnd? hlast)]
    unfold Frequency.SamePeriod Date.SameMonth
    omega
  | quarterly =>
    have hquarter : a.quarter = (a.month - 1) / 3 + 1 := rfl
    have hpositive := b.isDate.2.1.1
    obtain ⟨last, hlast, -⟩ := @monthEnd?_eq_some a.year (3 * a.quarter) hyear (by omega) (by omega)
    rw [periodEnd, hlast, Option.getD_some, Date.le_lastDay_iff (Date.eq_of_monthEnd? hlast)]
    unfold Frequency.SamePeriod Date.SameQuarter
    omega
  | annual =>
    have hdecember : IsDate a.year 12 31 := ⟨hyear, by omega, by omega, Nat.le_refl 31⟩
    have hlast := Date.of?_eq_some hdecember
    have hlength := b.isDate.2.1.2
    rw [periodEnd, hlast, Option.getD_some, Date.le_lastDay_iff (Date.eq_of_of? hlast)]
    unfold Frequency.SamePeriod
    omega

theorem periodEnd_eq_iff_le (hab : a ≤ b) :
    periodEnd f a = periodEnd f b ↔ b ≤ periodEnd f a := by
  constructor
  · intro heq
    rw [heq]
    exact le_periodEnd f b
  · exact fun hb => (periodEnd_eq_of_between hab hb).symm

theorem periodEnd_eq_iff (ha : a < lastQuarter) (hb : b < lastQuarter) :
    periodEnd f a = periodEnd f b ↔ f.SamePeriod a b := by
  have ordered {a b : Date} (ha : a < lastQuarter) (hab : a ≤ b) :
      periodEnd f a = periodEnd f b ↔ f.SamePeriod a b := by
    rw [periodEnd_eq_iff_le hab, le_periodEnd_iff f hab ha]
  by_cases hab : a ≤ b
  · exact ordered ha hab
  · have hba : b ≤ a := Date.le_of_lt (not_not.1 hab)
    rw [eq_comm, ordered hb hba]
    exact ⟨.symm, .symm⟩

end SamePeriod

/-- The end of the period is no earlier than the date, later for later dates and its own end, over
the whole calendar; and it tells the periods of the calendar apart. -/
theorem periodEnd_closure (f : Frequency) :
    (∀ date, date ≤ periodEnd f date) ∧
    (∀ a b, a ≤ b → periodEnd f a ≤ periodEnd f b) ∧
    (∀ date, periodEnd f (periodEnd f date) = periodEnd f date) ∧
    ∀ a b, a < lastQuarter → b < lastQuarter →
      (periodEnd f a = periodEnd f b ↔ f.SamePeriod a b) :=
  ⟨le_periodEnd f, fun _ _ => periodEnd_mono, periodEnd_periodEnd f,
    fun _ _ => periodEnd_eq_iff⟩

/-- A week that begins in December and ends in January. -/
theorem periodEnd_closure_newYear :
    let monday : Date := ⟨2024, 12, 30, by decide⟩
    let sunday : Date := ⟨2025, 1, 5, by decide⟩
    monday ≤ sunday ∧ periodEnd .weekly monday ≤ periodEnd .weekly sunday ∧
    monday < lastQuarter ∧ sunday < lastQuarter ∧
    periodEnd .weekly monday = sunday ∧ periodEnd .weekly sunday = sunday ∧
    monday.SameWeek sunday :=
  have hclosure := periodEnd_closure .weekly
  ⟨by decide, hclosure.2.1 _ _ (by decide), by decide, by decide, by decide, by decide,
    (hclosure.2.2.2 _ _ (by decide) (by decide)).1 (by decide)⟩

end TimeSeries
