import Mathlib.Data.List.Chain
import TimeSeries.Proofs.Calendar.DayNumber

set_option autoImplicit false

/-!
# Gaps between the ends of periods

Two periods of one frequency end at least as far apart as the shortest such period is long, where
the calendar does not cut them off. The median of the gaps is one of them, so that a list of period
ends is never taken for a list of a higher frequency.
-/
namespace TimeSeries

def Frequency.shortest : Frequency → Int
  | daily | business => 1
  | weekly => 7
  | monthly => 28
  | quarterly => 90
  | annual => 365

/-- The first day of the calendar's last quarter. The period around an earlier date is whole. -/
def lastQuarter : Date := ⟨lastYear, 10, 1, by decide⟩

namespace Date

variable {a b date : Date} {span : Nat}

/-- The last day of `span` months, when the year is cut into stretches of `span` months. -/
structure Ends (span : Nat) (date : Date) : Prop where
  day : date.day = monthLength date.year date.month
  month : span ∣ date.month

theorem Ends.dayNumber_eq (h : date.Ends span) :
    date.dayNumber = daysBeforeYear date.year + daysBeforeMonth date.year (date.month + 1) := by
  rw [dayNumber, ordinal, h.day, daysBeforeMonth_succ date.year date.isDate.2.1.1]

theorem Ends.le_sub (ha : a.Ends span) (hb : b.Ends span) (h : a < b) :
    (daysBeforeMonth b.year (b.month + 1) : Int) - daysBeforeMonth b.year (b.month + 1 - span) ≤
      b.dayNumber - a.dayNumber := by
  have hnumber := hb.dayNumber_eq
  rw [lt_iff] at h
  rcases h with hyear | ⟨hyear, hrest⟩
  · have hlength := a.ordinal_le_yearLength
    have hyears := daysBeforeYear_mono (show a.year + 1 ≤ b.year by omega)
    rw [daysBeforeYear_succ] at hyears
    have hbefore : a.dayNumber = daysBeforeYear a.year + a.ordinal := rfl
    omega
  · have hmonth : a.month < b.month := by
      have haday := ha.day
      have hbday := hb.day
      rcases hrest with hlt | ⟨heq, hlt⟩
      · exact hlt
      · rw [hyear, heq] at haday
        omega
    -- Both months are multiples of `span`.
    have hspan : span ≤ b.month - a.month :=
      Nat.le_of_dvd (by omega) (Nat.dvd_sub hb.month ha.month)
    have hmonths := daysBeforeMonth_mono b.year (show a.month + 1 ≤ b.month + 1 - span by omega)
    have hbefore := ha.dayNumber_eq
    rw [hyear] at hbefore
    omega

end Date

/-! ## Ends of periods within the calendar -/

section Within

variable {a b date : Date}

theorem monthEnd?_eq_some {year : Int} {month : Nat} (hyear : firstYear ≤ year ∧ year ≤ lastYear)
    (hmonth : 1 ≤ month ∧ month ≤ 12) (h : ¬ (month = 12 ∧ year = lastYear)) :
    ∃ last, monthEnd? year month = some last ∧ last.month = month ∧
      last.day = monthLength last.year last.month := by
  have hdate : IsDate year month (monthLength year month) := by
    have hlength := (monthLength_bounds year month).1
    exact ⟨hyear, hmonth, by omega, Nat.le_refl _⟩
  rw [monthEnd?, if_neg h]
  exact ⟨_, Date.of?_eq_some hdate, rfl, rfl⟩

theorem month_lt_of_lt_lastQuarter (h : date < lastQuarter) :
    date.year < lastYear ∨ date.year = lastYear ∧ date.month < 10 := by
  have hday := date.isDate.2.2.1
  rw [Date.lt_iff] at h
  dsimp only [lastQuarter] at h
  omega

theorem ends_periodEnd_monthly (h : date < lastQuarter) : (periodEnd .monthly date).Ends 1 := by
  have hmonth := month_lt_of_lt_lastQuarter h
  obtain ⟨last, hlast, -, hday⟩ :=
    monthEnd?_eq_some date.isDate.1 date.isDate.2.1 (by omega)
  rw [periodEnd, hlast]
  exact ⟨hday, Nat.one_dvd _⟩

theorem ends_periodEnd_quarterly (h : date < lastQuarter) : (periodEnd .quarterly date).Ends 3 := by
  have hmonth := month_lt_of_lt_lastQuarter h
  have hbounds := date.isDate.2.1
  have hquarter : date.quarter = (date.month - 1) / 3 + 1 := rfl
  obtain ⟨last, hlast, hthird, hday⟩ := @monthEnd?_eq_some date.year (3 * date.quarter)
    date.isDate.1 (by omega) (by omega)
  rw [periodEnd, hlast]
  exact ⟨hday, date.quarter, hthird⟩

theorem ends_periodEnd_annual (date : Date) : (periodEnd .annual date).Ends 12 := by
  have hdate : IsDate date.year 12 31 := ⟨date.isDate.1, by omega, by omega, Nat.le_refl 31⟩
  rw [periodEnd, Date.of?_eq_some hdate]
  exact ⟨rfl, Nat.dvd_refl 12⟩

theorem dayNumber_periodEnd_weekly (h : date < lastQuarter) :
    (periodEnd .weekly date).dayNumber = date.dayNumber + (6 - date.daysSinceMonday : Nat) := by
  have hbefore := Date.dayNumber_lt_of_lt h
  have hlast : lastQuarter.dayNumber + 6 ≤ Date.dayNumber ⟨lastYear, 12, 31, by decide⟩ := by
    decide
  obtain ⟨sunday, hsunday, hnumber⟩ :=
    @Date.exists_plusDays? date (6 - date.daysSinceMonday) (by omega)
  rw [periodEnd, hsunday, Option.getD_some, hnumber]

theorem seven_dvd_periodEnd_weekly (h : date < lastQuarter) :
    7 ∣ (periodEnd .weekly date).dayNumber := by
  have hmonday : date.daysSinceMonday = ((date.dayNumber - 1) % 7).toNat := rfl
  rw [dayNumber_periodEnd_weekly h]
  omega

theorem quarter_length {year : Int} {month : Nat} (hbounds : 1 ≤ month ∧ month ≤ 12)
    (h : 3 ∣ month) :
    daysBeforeMonth year (month + 1 - 3) + 90 ≤ daysBeforeMonth year (month + 1) ∧
      daysBeforeMonth year (month + 1) ≤ daysBeforeMonth year (month + 1 - 3) + 92 := by
  have hmonth : month = 3 ∨ month = 6 ∨ month = 9 ∨ month = 12 := by omega
  rcases hmonth with rfl | rfl | rfl | rfl
  all_goals
    simp only [Nat.reduceAdd, Nat.reduceSub, daysBeforeMonth, monthLength]
    split <;> omega

theorem shortest_le_sub {f : Frequency} (ha : a < lastQuarter) (hb : b < lastQuarter)
    (h : periodEnd f a < periodEnd f b) :
    f.shortest ≤ (periodEnd f b).dayNumber - (periodEnd f a).dayNumber := by
  have hlt := Date.dayNumber_lt_of_lt h
  cases f with
  | daily | business =>
    dsimp only [Frequency.shortest]
    omega
  | weekly =>
    have hasunday := seven_dvd_periodEnd_weekly ha
    have hbsunday := seven_dvd_periodEnd_weekly hb
    dsimp only [Frequency.shortest]
    omega
  | monthly =>
    have hgap := (ends_periodEnd_monthly ha).le_sub (ends_periodEnd_monthly hb) h
    generalize periodEnd .monthly b = last at hgap
    have hlength := (monthLength_bounds last.year last.month).1
    rw [daysBeforeMonth_succ _ last.isDate.2.1.1, Nat.add_sub_cancel] at hgap
    dsimp only [Frequency.shortest]
    omega
  | quarterly =>
    have hends := ends_periodEnd_quarterly hb
    have hgap := (ends_periodEnd_quarterly ha).le_sub hends h
    generalize periodEnd .quarterly b = last at hends hgap
    have hlength := (@quarter_length last.year _ last.isDate.2.1 hends.month).1
    dsimp only [Frequency.shortest]
    omega
  | annual =>
    have hends := ends_periodEnd_annual b
    have hgap := (ends_periodEnd_annual a).le_sub hends h
    generalize periodEnd .annual b = last at hends hgap
    have hdecember : last.month = 12 := by
      have hbounds := last.isDate.2.1
      have hmonth := hends.month
      omega
    have hlength : 365 ≤ yearLength last.year := by
      unfold yearLength
      split <;> omega
    have hfirst : daysBeforeMonth last.year (12 + 1 - 12) = 0 := rfl
    have hwhole : daysBeforeMonth last.year (12 + 1) = yearLength last.year :=
      daysBeforeMonth_thirteen last.year
    rw [hdecember, hwhole, hfirst] at hgap
    dsimp only [Frequency.shortest]
    omega

end Within

/-! ## Detection -/

namespace Frequency

variable {dates : List Date}

theorem forall_mem_gaps {P : Int → Prop}
    (h : dates.IsChain fun a b => P (b.dayNumber - a.dayNumber)) : ∀ gap ∈ gaps dates, P gap := by
  induction dates with
  | nil => nofun
  | cons first rest ih =>
    cases rest with
    | nil => nofun
    | cons second rest =>
      obtain ⟨hfirst, hrest⟩ := List.isChain_cons_cons.1 h
      intro gap hgap
      rcases List.mem_cons.1 hgap with rfl | hgap
      · exact hfirst
      · exact ih hrest gap hgap

theorem length_gaps (dates : List Date) : (gaps dates).length = dates.length - 1 := by
  induction dates with
  | nil => rfl
  | cons first rest ih =>
    cases rest with
    | nil => rfl
    | cons second rest =>
      rw [gaps, List.length_cons, ih]
      simp

theorem median_mem {ns : List Int} (h : ns ≠ []) : median ns ∈ ns := by
  have hlength : ns.length / 2 < (ns.mergeSort (· ≤ ·)).length := by
    have hpos := List.length_pos_iff.2 h
    rw [List.length_mergeSort]
    omega
  have hmem : median ns ∈ ns.mergeSort (· ≤ ·) := by
    rw [median, List.getD_eq_getElem?_getD, List.getElem?_eq_getElem hlength, Option.getD_some]
    exact List.getElem_mem hlength
  exact List.mem_mergeSort.1 hmem

theorem exists_gap_of_detect? {found : Frequency} (h : detect? dates = some found) :
    ∃ gap ∈ gaps dates, ofGap gap (dates.all Date.isWorkday) = found := by
  unfold detect? at h
  split at h
  · cases h
  · rename_i hlength
    have hne : gaps dates ≠ [] := by
      apply List.ne_nil_of_length_pos
      rw [length_gaps]
      omega
    exact ⟨_, median_mem hne, Option.some.inj h⟩

/-- A gap of a whole period does not suggest a higher frequency. Business days are the exception:
what has a row on every day is daily. -/
theorem ofGap_le {f : Frequency} (hf : f ≠ business) {gap : Int} (h : f.shortest ≤ gap)
    (workdaysOnly : Bool) : (ofGap gap workdaysOnly).periodsPerYear ≤ f.periodsPerYear := by
  cases f with
  | business => exact absurd rfl hf
  | daily | weekly | monthly | quarterly | annual =>
    dsimp only [shortest] at h
    unfold ofGap
    repeat' split
    all_goals first | omega | exact Nat.le_of_ble_eq_true rfl

theorem detect?_le {f found : Frequency} (hf : f ≠ business)
    (h : dates.Pairwise fun a b => f.shortest ≤ b.dayNumber - a.dayNumber)
    (hfound : detect? dates = some found) : found.periodsPerYear ≤ f.periodsPerYear := by
  obtain ⟨gap, hgap, rfl⟩ := exists_gap_of_detect? hfound
  exact ofGap_le hf (forall_mem_gaps h.isChain gap hgap) _

end Frequency

end TimeSeries
