import TimeSeries.Proofs.Calendar.PeriodGaps

set_option autoImplicit false

/-!
# The order of periods

The dates from one date to the end of its period lie in the same period, also where the calendar cuts
the period off. So a later date has no earlier end of period, and the end of a month or a quarter
lies in the same longer period as the days before it.
-/
namespace TimeSeries

namespace Date

variable {a b : Date}

theorem eq_of_le_of_le (hab : a ≤ b) (hba : b ≤ a) : a = b := by
  rcases lt_or_eq_or_gt a b with h | h | h
  · exact absurd h hba
  · exact h
  · exact absurd h hab

theorem dayNumber_le_of_le (h : a ≤ b) : a.dayNumber ≤ b.dayNumber := by
  rcases lt_or_eq_or_gt a b with hlt | rfl | hgt
  · exact Int.le_of_lt (dayNumber_lt_of_lt hlt)
  · exact Int.le_refl _
  · exact absurd hgt h

theorem eq_of_parts (hyear : a.year = b.year) (hmonth : a.month = b.month) (hday : a.day = b.day) :
    a = b := by
  cases a
  cases b
  cases hyear
  cases hmonth
  cases hday
  rfl

theorem eq_of_dayNumber_eq (h : a.dayNumber = b.dayNumber) : a = b := by
  rcases lt_or_eq_or_gt a b with hlt | heq | hgt
  · have := dayNumber_lt_of_lt hlt
    omega
  · exact heq
  · have := dayNumber_lt_of_lt hgt
    omega

theorem le_last (date : Date) : date ≤ ⟨lastYear, 12, 31, by decide⟩ := by
  have hyear := date.isDate.1.2
  have hmonth := date.isDate.2.1.2
  have hday := date.day_le
  intro hlt
  rw [lt_iff] at hlt
  dsimp only at hlt
  omega

theorem dayNumber_plusDays? {n : Nat} (h : plusDays? n a = some b) :
    b.dayNumber = a.dayNumber + n := by
  induction n generalizing a with
  | zero =>
    cases h
    simp
  | succ n ih =>
    obtain ⟨next, hnext, hrest⟩ := Option.bind_eq_some_iff.1 h
    have hnumber := dayNumber_next? hnext
    have hsum := ih hrest
    omega

theorem plusDays?_eq_some {n : Nat} (h : b.dayNumber = a.dayNumber + n) :
    plusDays? n a = some b := by
  have hlast := dayNumber_le_of_le b.le_last
  obtain ⟨later, hlater, hnumber⟩ := @exists_plusDays? a n (by omega)
  rw [hlater, eq_of_dayNumber_eq (hnumber.trans h.symm)]

theorem same_year_of_between {first last date : Date} (hfirst : first ≤ date) (hlast : date ≤ last)
    (hyear : last.year = first.year) :
    date.year = first.year ∧ first.month ≤ date.month ∧ date.month ≤ last.month := by
  have hle : ¬ (date < first) := hfirst
  have hge : ¬ (last < date) := hlast
  rw [lt_iff] at hle hge
  omega

end Date

section Closure

variable {f : Frequency} {a b : Date}

theorem exists_of_le_getD {last? : Option Date} (hab : a ≤ b) (hne : b ≠ a)
    (hb : b ≤ last?.getD a) : ∃ last, last? = some last ∧ b ≤ last := by
  cases last? with
  | none => exact absurd (Date.eq_of_le_of_le hb hab) hne
  | some last => exact ⟨last, rfl, hb⟩

theorem periodEnd_eq_of_between (hab : a ≤ b) (hb : b ≤ periodEnd f a) :
    periodEnd f b = periodEnd f a := by
  by_cases heq : b = a
  · rw [heq]
  -- A period with more than one date is not cut off, so that its end is computed.
  cases f with
  | daily | business => exact absurd (Date.eq_of_le_of_le hb hab) heq
  | weekly =>
    obtain ⟨sunday, hsunday, hle⟩ := exists_of_le_getD hab heq hb
    have hnumber := Date.dayNumber_plusDays? hsunday
    have hfirst := Date.dayNumber_le_of_le hab
    have hlast := Date.dayNumber_le_of_le hle
    have hmonday : a.daysSinceMonday = ((a.dayNumber - 1) % 7).toNat := rfl
    have hlater : b.daysSinceMonday = ((b.dayNumber - 1) % 7).toNat := rfl
    have hsame : Date.plusDays? (6 - b.daysSinceMonday) b = some sunday :=
      Date.plusDays?_eq_some (by omega)
    rw [periodEnd, periodEnd, hsame, hsunday]
    rfl
  | monthly =>
    obtain ⟨last, hlast, hle⟩ := exists_of_le_getD hab heq hb
    obtain ⟨hyear, hmonth, -⟩ := Date.eq_of_monthEnd? hlast
    obtain ⟨hsame, hlow, hhigh⟩ := Date.same_year_of_between hab hle hyear
    rw [periodEnd, periodEnd, hsame, show b.month = a.month by omega, hlast]
    rfl
  | quarterly =>
    obtain ⟨last, hlast, hle⟩ := exists_of_le_getD hab heq hb
    obtain ⟨hyear, hmonth, -⟩ := Date.eq_of_monthEnd? hlast
    obtain ⟨hsame, hlow, hhigh⟩ := Date.same_year_of_between hab hle hyear
    have hquarter : b.quarter = a.quarter := by
      unfold Date.quarter at hmonth ⊢
      omega
    rw [periodEnd, periodEnd, hsame, hquarter, hlast]
    rfl
  | annual =>
    obtain ⟨last, hlast, hle⟩ := exists_of_le_getD hab heq hb
    obtain ⟨hyear, -, -⟩ := Date.eq_of_of? hlast
    obtain ⟨hsame, -, -⟩ := Date.same_year_of_between hab hle hyear
    rw [periodEnd, periodEnd, hsame, hlast]
    rfl

theorem periodEnd_mono (h : a ≤ b) : periodEnd f a ≤ periodEnd f b := by
  by_cases hb : b ≤ periodEnd f a
  · rw [periodEnd_eq_of_between h hb]
    exact Date.le_refl _
  · exact Date.le_trans (Date.le_of_lt (not_not.1 hb)) (le_periodEnd f b)

theorem periodEnd_periodEnd (f : Frequency) (date : Date) :
    periodEnd f (periodEnd f date) = periodEnd f date :=
  periodEnd_eq_of_between (le_periodEnd f date) (Date.le_refl _)

end Closure

/-! ## Periods within periods -/

/-- The shorter periods make up the longer ones: months make quarters, and months and quarters make
years. -/
inductive Frequency.MakesUp : Frequency → Frequency → Prop
  | quarters : MakesUp .monthly .quarterly
  | years : MakesUp .monthly .annual
  | fourQuarters : MakesUp .quarterly .annual

section Nesting

variable {fine coarse : Frequency} {date : Date} {span : Nat}

theorem Date.Ends.getD_monthEnd? (h : date.Ends span) :
    (monthEnd? date.year date.month).getD date = date := by
  cases hlast : monthEnd? date.year date.month with
  | none => rfl
  | some last =>
    obtain ⟨hyear, hmonth, hday⟩ := eq_of_monthEnd? hlast
    exact eq_of_parts hyear hmonth (hday.trans h.day.symm)

theorem Date.Ends.periodEnd_quarterly (h : date.Ends span) (hspan : 3 ∣ span) :
    periodEnd .quarterly date = date := by
  have hthird := Nat.dvd_trans hspan h.month
  have hbounds := date.isDate.2.1
  have hquarter : 3 * date.quarter = date.month := by
    unfold quarter
    omega
  rw [periodEnd, hquarter]
  exact h.getD_monthEnd?

theorem periodEnd_periodEnd_coarse (h : fine.MakesUp coarse) (hdate : date < lastQuarter) :
    periodEnd fine (periodEnd coarse date) = periodEnd coarse date := by
  cases h with
  | quarters => exact (ends_periodEnd_quarterly hdate).getD_monthEnd?
  | years => exact (ends_periodEnd_annual date).getD_monthEnd?
  | fourQuarters => exact (ends_periodEnd_annual date).periodEnd_quarterly ⟨4, rfl⟩

/-- The end of a shorter period lies in the same longer period. -/
theorem periodEnd_periodEnd_fine (h : fine.MakesUp coarse) (hdate : date < lastQuarter) :
    periodEnd coarse (periodEnd fine date) = periodEnd coarse date := by
  have hends : periodEnd fine date ≤ periodEnd fine (periodEnd coarse date) :=
    periodEnd_mono (le_periodEnd coarse date)
  rw [periodEnd_periodEnd_coarse h hdate] at hends
  exact periodEnd_eq_of_between (le_periodEnd fine date) hends

end Nesting

end TimeSeries
