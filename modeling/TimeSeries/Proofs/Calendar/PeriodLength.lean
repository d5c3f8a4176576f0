import TimeSeries.Proofs.Calendar.PeriodOrder

set_option autoImplicit false

/-!
# Lengths of periods

A date is fewer days away from the end of its period than the longest such period has. So the end of
the period that follows another one is at most that many days later.
-/
namespace TimeSeries

def Frequency.longest : Frequency → Int
  | daily | business => 1
  | weekly => 7
  | monthly => 31
  | quarterly => 92
  | annual => 366

variable {f : Frequency} {date last next : Date}

theorem Date.sub_of_year_eq (h : last.year = date.year) :
    last.dayNumber - date.dayNumber = last.ordinal - date.ordinal := by
  rw [dayNumber, dayNumber, h]
  omega

theorem periodEnd_sub_lt (f : Frequency) (date : Date) :
    (periodEnd f date).dayNumber - date.dayNumber < f.longest := by
  -- where the calendar ends before the period does, the date stands for the end
  have hgetD {last? : Option Date} (h : ∀ last, last? = some last →
      last.dayNumber - date.dayNumber < f.longest) :
      (last?.getD date).dayNumber - date.dayNumber < f.longest := by
    cases last? with
    | none =>
      rw [Option.getD_none, Int.sub_self]
      cases f <;> decide
    | some last => exact h last rfl
  have hfirst := date.daysBeforeMonth_lt_ordinal
  cases f with
  | daily | business =>
    rw [periodEnd, Int.sub_self]
    decide
  | weekly =>
    refine hgetD fun last hlast => ?_
    have hnumber := Date.dayNumber_plusDays? hlast
    dsimp only [Frequency.longest]
    omega
  | monthly =>
    refine hgetD fun last hlast => ?_
    obtain ⟨hyear, hmonth, -⟩ := Date.eq_of_monthEnd? hlast
    have hordinal := last.ordinal_le_daysBeforeMonth
    have hlength := (monthLength_bounds date.year date.month).2
    rw [hyear, hmonth, daysBeforeMonth_succ _ date.isDate.2.1.1] at hordinal
    rw [Date.sub_of_year_eq hyear]
    dsimp only [Frequency.longest]
    omega
  | quarterly =>
    refine hgetD fun last hlast => ?_
    obtain ⟨hyear, hmonth, -⟩ := Date.eq_of_monthEnd? hlast
    have hordinal := last.ordinal_le_daysBeforeMonth
    have hlength := (@quarter_length last.year _ last.isDate.2.1 ⟨_, hmonth⟩).2
    have hbegin : last.month + 1 - 3 ≤ date.month := by
      have hpositive := date.isDate.2.1.1
      rw [hmonth]
      unfold Date.quarter
      omega
    have hmonths := daysBeforeMonth_mono last.year hbegin
    rw [← hyear] at hfirst
    rw [Date.sub_of_year_eq hyear]
    dsimp only [Frequency.longest]
    omega
  | annual =>
    refine hgetD fun last hlast => ?_
    obtain ⟨hyear, -, -⟩ := Date.eq_of_of? hlast
    have hordinal := last.ordinal_le_yearLength
    have hlength : yearLength last.year ≤ 366 := by
      unfold yearLength
      split <;> omega
    rw [Date.sub_of_year_eq hyear]
    dsimp only [Frequency.longest]
    omega

theorem sub_le_longest (h : last.next? = some next) :
    (periodEnd f next).dayNumber - last.dayNumber ≤ f.longest := by
  have hlt := periodEnd_sub_lt f next
  rw [Date.dayNumber_next? h] at hlt
  omega

end TimeSeries
