import Mathlib.Order.Defs.Unbundled
import TimeSeries.Calendar.Date

set_option autoImplicit false

/-!
# The order of dates

Dates are compared by year, month and day, and of two different dates one is earlier.
-/
namespace TimeSeries.Date

theorem lt_iff {a b : Date} : a < b ↔ a.year < b.year ∨ a.year = b.year ∧
    (a.month < b.month ∨ a.month = b.month ∧ a.day < b.day) :=
  Iff.rfl

theorem lt_irrefl (a : Date) : ¬ a < a := by
  rw [lt_iff]
  omega

theorem lt_trans {a b c : Date} (hab : a < b) (hbc : b < c) : a < c := by
  rw [lt_iff] at hab hbc ⊢
  omega

theorem lt_or_eq_or_gt (a b : Date) : a < b ∨ a = b ∨ b < a := by
  by_cases h : a.year = b.year ∧ a.month = b.month ∧ a.day = b.day
  · refine Or.inr (Or.inl ?_)
    cases a
    cases b
    obtain ⟨rfl, rfl, rfl⟩ := h
    rfl
  · have hne : a < b ∨ b < a := by
      rw [lt_iff, lt_iff]
      omega
    exact hne.imp_right Or.inr

theorem ne_of_lt {a b : Date} (h : a < b) : a ≠ b := by
  rintro rfl
  exact lt_irrefl a h

theorem le_of_lt {a b : Date} (h : a < b) : a ≤ b :=
  fun hba => lt_irrefl a (lt_trans h hba)

theorem le_refl (a : Date) : a ≤ a :=
  lt_irrefl a

theorem le_trans {a b c : Date} (hab : a ≤ b) (hbc : b ≤ c) : a ≤ c := by
  intro hca
  rcases lt_or_eq_or_gt a b with h | rfl | h
  · exact hbc (lt_trans hca h)
  · exact hbc hca
  · exact hab h

theorem lt_of_lt_of_le {a b c : Date} (hab : a < b) (hbc : b ≤ c) : a < c := by
  rcases lt_or_eq_or_gt a c with h | rfl | h
  · exact h
  · exact absurd hab hbc
  · exact absurd (lt_trans h hab) hbc

theorem day_le_monthLength (date : Date) : date.day ≤ monthLength date.year date.month :=
  date.isDate.2.2.2

theorem day_le (date : Date) : date.day ≤ 31 := by
  have hlength : monthLength date.year date.month ≤ 31 := by
    unfold monthLength
    split <;> try omega
    split <;> omega
  exact Nat.le_trans date.day_le_monthLength hlength

instance : IsTrans Date (· < ·) := ⟨fun _ _ _ => lt_trans⟩

end TimeSeries.Date
