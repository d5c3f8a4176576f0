import TimeSeries.Calendar.Frequency
import TimeSeries.Proofs.Calendar.Order

set_option autoImplicit false

/-!
# Ends of periods

A period ends on the date itself or later, for every frequency and also where the calendar cuts the
period off.
-/
namespace TimeSeries

namespace Date

variable {date later : Date}

theorem eq_of_of? {year : Int} {month day : Nat} (h : of? year month day = some date) :
    date.year = year ∧ date.month = month ∧ date.day = day := by
  unfold of? at h
  split at h
  · cases h
    exact ⟨rfl, rfl, rfl⟩
  · cases h

theorem le_of_same_year (hyear : later.year = date.year)
    (h : date.month < later.month ∨ date.month = later.month ∧ date.day ≤ later.day) :
    date ≤ later := by
  intro hlt
  rw [lt_iff] at hlt
  omega

theorem lt_of_next? (h : date.next? = some later) : date < later := by
  unfold next? at h
  rw [lt_iff]
  split at h
  · obtain ⟨hyear, hmonth, hday⟩ := eq_of_of? h
    omega
  · split at h
    · obtain ⟨hyear, hmonth, hday⟩ := eq_of_of? h
      omega
    · obtain ⟨hyear, hmonth, hday⟩ := eq_of_of? h
      omega

theorem le_of_plusDays? {n : Nat} (h : plusDays? n date = some later) : date ≤ later := by
  induction n generalizing date with
  | zero =>
    cases h
    exact le_refl _
  | succ n ih =>
    obtain ⟨next, hnext, hrest⟩ := Option.bind_eq_some_iff.1 h
    exact le_trans (le_of_lt (lt_of_next? hnext)) (ih hrest)

theorem eq_of_monthEnd? {year : Int} {month : Nat} (h : monthEnd? year month = some date) :
    date.year = year ∧ date.month = month ∧ date.day = monthLength year month := by
  unfold monthEnd? at h
  split at h
  · cases h
  · exact eq_of_of? h

end Date

theorem le_of_monthEnd? {date later : Date} {month : Nat} (hmonth : date.month ≤ month)
    (h : monthEnd? date.year month = some later) : date ≤ later := by
  obtain ⟨hyear, hlater, hday⟩ := Date.eq_of_monthEnd? h
  refine Date.le_of_same_year hyear ?_
  rcases Nat.lt_or_eq_of_le hmonth with hlt | rfl
  · exact Or.inl (hlater ▸ hlt)
  · exact Or.inr ⟨hlater.symm, hday ▸ date.day_le_monthLength⟩

theorem le_getD {date : Date} {later? : Option Date} (h : ∀ later, later? = some later → date ≤ later) :
    date ≤ later?.getD date := by
  cases later? with
  | none => exact Date.le_refl date
  | some later => exact h later rfl

theorem le_periodEnd (frequency : Frequency) (date : Date) : date ≤ periodEnd frequency date := by
  cases frequency with
  | daily => exact Date.le_refl date
  | business => exact Date.le_refl date
  | weekly => exact le_getD fun later h => Date.le_of_plusDays? h
  | monthly => exact le_getD fun later h => le_of_monthEnd? (Nat.le_refl _) h
  | quarterly =>
    refine le_getD fun later h => le_of_monthEnd? ?_ h
    unfold Date.quarter
    omega
  | annual =>
    refine le_getD fun later h => ?_
    obtain ⟨hyear, hmonth, hday⟩ := Date.eq_of_of? h
    have hlast := date.day_le
    have hmonths := date.isDate.2.1.2
    exact Date.le_of_same_year hyear (by omega)

end TimeSeries
