import TimeSeries.Proofs.Calendar.PeriodLength
import TimeSeries.Proofs.Table.Runs

set_option autoImplicit false

/-!
# Rows on a grid

A table with a row in every period, collapsed to one row for each, has the ends of neighbouring periods
as neighbouring dates. All gaps are then those of one frequency, and so is the median of them,
whatever the number of rows.
-/
namespace TimeSeries

/-! ## Neighbours -/

theorem isChain_of_adjacent {R : Date → Date → Prop} {dates : List Date}
    (h : dates.Pairwise (· < ·))
    (hR : ∀ a ∈ dates, ∀ b ∈ dates, a < b → (∀ c ∈ dates, a < c → ¬ c < b) → R a b) :
    dates.IsChain R := by
  induction dates with
  | nil => exact .nil
  | cons first rest ih =>
    obtain ⟨hfirst, hrest⟩ := List.pairwise_cons.1 h
    have htail : rest.IsChain R := by
      refine ih hrest fun a ha b hb hab hnone => ?_
      refine hR a (List.mem_cons_of_mem _ ha) b (List.mem_cons_of_mem _ hb) hab ?_
      exact List.forall_mem_cons.2 ⟨fun hlt => absurd hlt (Date.le_of_lt (hfirst a ha)), hnone⟩
    cases rest with
    | nil => exact .singleton _
    | cons second rest =>
      -- only the first two are left: no date is between them, as all others follow the second
      refine .cons_cons ?_ htail
      have hsecond := (List.pairwise_cons.1 hrest).1
      refine hR first List.mem_cons_self second (by simp) (hfirst second List.mem_cons_self) ?_
      refine List.forall_mem_cons.2 ⟨fun hlt => absurd hlt (Date.lt_irrefl first),
        List.forall_mem_cons.2 ⟨fun _ => Date.lt_irrefl second, fun c hc _ => ?_⟩⟩
      exact Date.le_of_lt (hsecond c hc)

namespace Frequency

variable {f : Frequency} {dates : List Date}

/-- The frequencies whose periods have more than one day. -/
def grids : List Frequency := [weekly, monthly, quarterly, annual]

/-- The days from the end of one period to the end of the next one. -/
def IsGap (f : Frequency) (gap : Int) : Prop := f.shortest ≤ gap ∧ gap ≤ f.longest

theorem ofGap_eq (hf : f ∈ grids) {gap : Int} (h : f.IsGap gap) (workdaysOnly : Bool) :
    ofGap gap workdaysOnly = f := by
  simp only [grids, List.mem_cons, List.not_mem_nil, or_false] at hf
  unfold ofGap
  rcases hf with rfl | rfl | rfl | rfl
  all_goals
    dsimp only [IsGap, shortest, longest] at h
    repeat' split
    all_goals first | omega | rfl

theorem detect?_eq (hf : f ∈ grids) (hlength : 2 ≤ dates.length)
    (h : dates.IsChain fun a b => f.IsGap (b.dayNumber - a.dayNumber)) :
    detect? dates = some f := by
  obtain ⟨found, hfound⟩ := Table.exists_detectFrequency hlength
  rw [Table.detectFrequency_eq_ok] at hfound
  obtain ⟨gap, hgap, rfl⟩ := exists_gap_of_detect? hfound
  rw [hfound, ofGap_eq hf (forall_mem_gaps h gap hgap)]

end Frequency

namespace Table

/-- Every period between two rows has a row, and there is more than one period. -/
structure FillsPeriods (f : Frequency) (table : Table) : Prop where
  every : ∀ first ∈ table.dates, ∀ last ∈ table.dates, ∀ date, first ≤ date → date ≤ last →
    ∃ own ∈ table.dates, periodEnd f own = periodEnd f date
  several : ∃ first ∈ table.dates, ∃ last ∈ table.dates, periodEnd f first ≠ periodEnd f last

variable {f : Frequency} {table : Table}

theorem FillsPeriods.two_le (h : table.FillsPeriods f) : 2 ≤ (table.periods f).length := by
  obtain ⟨first, hfirst, last, hlast, hne⟩ := h.several
  have hfirst : periodEnd f first ∈ table.periods f := mem_periods.2 ⟨first, hfirst, rfl⟩
  have hlast : periodEnd f last ∈ table.periods f := mem_periods.2 ⟨last, hlast, rfl⟩
  by_contra hlength
  obtain ⟨only, hsub⟩ := List.length_eq_one_iff.1
    (show (table.periods f).length = 1 by have := List.length_pos_of_mem hfirst; omega)
  rw [hsub, List.mem_singleton] at hfirst hlast
  exact hne (hfirst.trans hlast.symm)

theorem FillsPeriods.exists_next (h : table.FillsPeriods f) {a b : Date} (ha : a ∈ table.dates)
    (hb : b ∈ table.dates) (hlt : periodEnd f a < periodEnd f b)
    (hnone : ∀ own ∈ table.dates, periodEnd f a < periodEnd f own →
      ¬ periodEnd f own < periodEnd f b) :
    ∃ next, (periodEnd f a).next? = some next ∧ periodEnd f next = periodEnd f b := by
  obtain ⟨next, hnext⟩ := Date.exists_next? (Date.lt_of_lt_of_le hlt (periodEnd f b).le_last)
  have hafter := Date.lt_of_next? hnext
  -- a next day after `b` would put `b` into the period of `a`
  have hbefore : next ≤ b := by
    intro hbnext
    have hle := periodEnd_mono (f := f) (Date.le_of_lt_next? hnext hbnext)
    rw [periodEnd_periodEnd] at hle
    exact hle hlt
  obtain ⟨own, hown, hsame⟩ := h.every a ha b hb next
    (Date.le_trans (le_periodEnd f a) (Date.le_of_lt hafter)) hbefore
  refine ⟨next, hnext, Date.eq_of_le_of_le (periodEnd_mono hbefore) ?_⟩
  rw [← hsame]
  exact hnone own hown (by rw [hsame]; exact Date.lt_of_lt_of_le hafter (le_periodEnd f next))

theorem FillsPeriods.isChain (h : table.FillsPeriods f)
    (hdates : ∀ date ∈ table.dates, date < lastQuarter) :
    (table.periods f).IsChain fun a b => f.IsGap (b.dayNumber - a.dayNumber) := by
  refine isChain_of_adjacent (pairwise_distinctDates _) fun x hx y hy hlt hnone => ?_
  obtain ⟨a, ha, rfl⟩ := mem_periods.1 hx
  obtain ⟨b, hb, rfl⟩ := mem_periods.1 hy
  obtain ⟨next, hnext, hsame⟩ := h.exists_next ha hb hlt fun own hown =>
    hnone _ (mem_periods.2 ⟨own, hown, rfl⟩)
  exact ⟨shortest_le_sub (hdates a ha) (hdates b hb) hlt, hsame ▸ sub_le_longest hnext⟩

/-- A table with a row in every period has, once it is collapsed to these periods, their
frequency. -/
theorem detectFrequency_resample (hf : f ∈ Frequency.grids) (htable : table.IsValid)
    (hdates : ∀ date ∈ table.dates, date < lastQuarter) (hfills : table.FillsPeriods f)
    (aggregation : Aggregation) :
    ∃ result, table.resample f aggregation = .ok result ∧
      detectFrequency result.dates = .ok f := by
  obtain ⟨result, hresult⟩ := htable.isShaped.exists_resample f aggregation
  refine ⟨result, hresult, detectFrequency_eq_ok.2 ?_⟩
  rw [eq_of_resample hresult]
  exact Frequency.detect?_eq hf hfills.two_le (hfills.isChain hdates)

theorem fillsPeriods_gapped : gapped.FillsPeriods .monthly where
  every := by
    have hrows : ∀ own ∈ gapped.dates, own.year = 2020 ∧ 1 ≤ own.month ∧ own.month ≤ 4 := by decide
    intro first hfirst last hlast date hlow hhigh
    have hfirst := hrows first hfirst
    have hlast := hrows last hlast
    have hbetween := Date.same_year_of_between hlow hhigh (by omega)
    have hyear : date.year = 2020 := by omega
    have hmonth : date.month = 1 ∨ date.month = 2 ∨ date.month = 3 ∨ date.month = 4 := by omega
    have hend (own : Date) : periodEnd .monthly own = (monthEnd? own.year own.month).getD own := rfl
    -- the end of the month does not depend on the day, so each month is one closed case
    rcases hmonth with hmonth | hmonth | hmonth | hmonth
    all_goals rw [hend date, hyear, hmonth]
    · exact ⟨⟨2020, 1, 15, by decide⟩, by decide, rfl⟩
    · exact ⟨⟨2020, 2, 29, by decide⟩, by decide, rfl⟩
    · exact ⟨⟨2020, 3, 1, by decide⟩, by decide, rfl⟩
    · exact ⟨⟨2020, 4, 30, by decide⟩, by decide, rfl⟩
  several := ⟨_, List.mem_cons_self, _, List.mem_cons_of_mem _ List.mem_cons_self, by decide⟩

/-- Four months with one row each, at the middle, at the end and at the beginning of the month. -/
theorem detectFrequency_resample_gapped :
    Frequency.monthly ∈ Frequency.grids ∧ gapped.IsValid ∧
      (∀ date ∈ gapped.dates, date < lastQuarter) ∧ gapped.FillsPeriods .monthly ∧
      ∃ result, gapped.resample .monthly .mean = .ok result ∧
        detectFrequency result.dates = .ok .monthly :=
  ⟨by decide, isValid_gapped, by decide, fillsPeriods_gapped,
    detectFrequency_resample (by decide) isValid_gapped (by decide) fillsPeriods_gapped .mean⟩

end Table

end TimeSeries
