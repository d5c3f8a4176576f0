import TimeSeries.Formula.Source
import TimeSeries.Proofs.Calendar.PeriodGaps
import TimeSeries.Proofs.Table.Checks

set_option autoImplicit false

/-!
# Requested frequencies

A table that conforms to a request for a frequency is not of a higher one. The exception are rows on
every day of the week under a request for business days: a business period is the date itself, so
that collapsing such rows keeps them all.
-/
namespace TimeSeries

namespace Table

variable {table result : Table} {f : Frequency}

theorem dates_of_resample {aggregation : Aggregation} (h : table.resample f aggregation = .ok result) :
    result.dates = distinctDates (table.dates.map (periodEnd f)) := by
  rw [(ofColumns_eq_ok.1 h).1]

theorem pairwise_of_resample {aggregation : Aggregation}
    (hdates : ∀ date ∈ table.dates, date < lastQuarter)
    (h : table.resample f aggregation = .ok result) :
    result.dates.Pairwise fun a b => f.shortest ≤ b.dayNumber - a.dayNumber := by
  rw [dates_of_resample h]
  refine (pairwise_distinctDates _).imp_of_mem fun ha hb hlt => ?_
  obtain ⟨a, hamem, rfl⟩ := List.mem_map.1 (mem_distinctDates.1 ha)
  obtain ⟨b, hbmem, rfl⟩ := List.mem_map.1 (mem_distinctDates.1 hb)
  exact shortest_le_sub (hdates a hamem) (hdates b hbmem) hlt

theorem dates_of_resample_business {aggregation : Aggregation}
    (hdates : table.dates.Pairwise (· < ·)) (h : table.resample .business aggregation = .ok result) :
    result.dates = table.dates := by
  rw [dates_of_resample h]
  apply eq_of_mem_iff (pairwise_distinctDates _) hdates
  intro date
  have hmap : table.dates.map (periodEnd .business) = table.dates := List.map_id' table.dates
  rw [hmap, mem_distinctDates]

theorem conform_cases {start stop : Option Date}
    (h : table.conform start stop (some f) = .ok result) (hrows : 2 ≤ result.rowCount) :
    (∃ own, detectFrequency result.dates = .ok own ∧ own.periodsPerYear ≤ f.periodsPerYear ∧
        result = table.within start stop) ∨
      ∃ own, detectFrequency (table.within start stop).dates = .ok own ∧
        f.periodsPerYear < own.periodsPerYear ∧
        (table.within start stop).resample f .mean = .ok result := by
  unfold conform at h
  dsimp only at h
  split at h
  · cases h
    omega
  · obtain ⟨own, hown, h⟩ := bind_eq_ok.1 h
    split at h
    · exact Or.inr ⟨own, hown, by assumption, h⟩
    · cases h
      exact Or.inl ⟨own, hown, by omega, rfl⟩

theorem conform_of_lower {start stop : Option Date} {own : Frequency}
    (hrows : ¬ (table.within start stop).rowCount < 2)
    (hown : detectFrequency (table.within start stop).dates = .ok own)
    (hlower : f.periodsPerYear < own.periodsPerYear) :
    table.conform start stop (some f) = (table.within start stop).resample f .mean := by
  unfold conform
  dsimp only
  rw [if_neg hrows, hown]
  exact if_pos hlower

end Table

theorem Frequency.eq_daily_of_lt {own : Frequency}
    (h : Frequency.business.periodsPerYear < own.periodsPerYear) : own = .daily := by
  revert h
  cases own <;> decide

/-- A request for a frequency is honoured, unless it is for business days and the rows within the
bounds are daily: then their dates are kept. -/
theorem Context.detectFrequency_of_conform {context : Context} {table result : Table}
    {f : Frequency} (htable : table.IsValid) (hdates : ∀ date ∈ table.dates, date < lastQuarter)
    (hfrequency : context.frequency = some f) (hconform : context.conform table = .ok result)
    (hrows : 2 ≤ result.rowCount) :
    ∃ found, detectFrequency result.dates = .ok found ∧
      (¬ (f = .business ∧
          detectFrequency (table.within context.start context.stop).dates = .ok .daily) →
        found.periodsPerYear ≤ f.periodsPerYear) ∧
      (f = .business →
        detectFrequency (table.within context.start context.stop).dates = .ok .daily →
          found = .daily ∧ result.dates = (table.within context.start context.stop).dates) := by
  have hbounded := htable.within context.start context.stop
  obtain ⟨found, hfound⟩ := Table.exists_detectFrequency hrows
  refine ⟨found, hfound, ?_⟩
  rw [Context.conform, hfrequency] at hconform
  rcases Table.conform_cases hconform hrows with ⟨own, hown, hle, rfl⟩ | ⟨own, hown, hlt, hresample⟩
  · rw [hfound] at hown
    cases hown
    refine ⟨fun _ => hle, fun _ hdaily => ?_⟩
    rw [hfound] at hdaily
    cases hdaily
    exact ⟨rfl, rfl⟩
  · by_cases hf : f = .business
    · subst hf
      have hdaily := Frequency.eq_daily_of_lt hlt
      have hkept := Table.dates_of_resample_business hbounded.ascending hresample
      rw [hkept, hown] at hfound
      cases hfound
      exact ⟨fun hnot => absurd ⟨rfl, hdaily ▸ hown⟩ hnot, fun _ _ => ⟨hdaily, hkept⟩⟩
    · have hgaps := Table.pairwise_of_resample
        (fun date hdate => hdates date (List.mem_filter.1 hdate).1) hresample
      have hle := Frequency.detect?_le hf hgaps (Table.detectFrequency_eq_ok.1 hfound)
      exact ⟨fun _ => hle, fun heq => absurd heq hf⟩

/-- A Friday, a Saturday and a Sunday about the end of a month, without observations. -/
def longWeekend : Table :=
  ⟨[⟨2025, 1, 31, by decide⟩, ⟨2025, 2, 1, by decide⟩, ⟨2025, 2, 2, by decide⟩],
    [⟨"GDP", [none, none, none]⟩]⟩

theorem isValid_longWeekend : longWeekend.IsValid :=
  Table.isValid_of_column (by decide) rfl rfl rfl

theorem longWeekend_before : ∀ date ∈ longWeekend.dates, date < lastQuarter := by
  decide

theorem detectFrequency_longWeekend : detectFrequency longWeekend.dates = .ok .daily := by
  have hgaps : Frequency.gaps longWeekend.dates = [1, 1] := rfl
  have hsorted : ([1, 1] : List Int).mergeSort (· ≤ ·) = [1, 1] :=
    List.mergeSort_of_pairwise (by decide)
  unfold detectFrequency Frequency.detect? Frequency.median
  rw [hgaps, hsorted]
  rfl

theorem conform_longWeekend {f : Frequency} (h : f.periodsPerYear < 365) :
    Context.conform { Context.default with frequency := some f } longWeekend =
      longWeekend.resample f .mean := by
  have hbounded : longWeekend.within none none = longWeekend := rfl
  have hconform : longWeekend.conform none none (some f) =
      (longWeekend.within none none).resample f .mean :=
    Table.conform_of_lower (by decide) detectFrequency_longWeekend h
  rwa [hbounded] at hconform

/-- Collapsed to months, the three days are the ends of two of them. -/
theorem Context.detectFrequency_of_conform_months :
    ∃ result found, conform { Context.default with frequency := some .monthly } longWeekend =
        .ok result ∧
      result.dates = [⟨2025, 1, 31, by decide⟩, ⟨2025, 2, 28, by decide⟩] ∧
      detectFrequency result.dates = .ok found ∧
      found.periodsPerYear ≤ Frequency.monthly.periodsPerYear := by
  obtain ⟨result, hresult⟩ := isValid_longWeekend.isShaped.exists_resample .monthly .mean
  have hconform := (conform_longWeekend (f := .monthly) (by decide)).trans hresult
  have hdates : result.dates = [⟨2025, 1, 31, by decide⟩, ⟨2025, 2, 28, by decide⟩] := by
    rw [Table.dates_of_resample hresult]
    decide
  have hrows : 2 ≤ result.rowCount := by
    rw [Table.rowCount, hdates]
    decide
  obtain ⟨found, hfound, hle, -⟩ := detectFrequency_of_conform isValid_longWeekend
    longWeekend_before rfl hconform hrows
  exact ⟨result, found, hconform, hdates, hfound, hle fun h => nomatch h.1⟩

/-- Business days are asked for, and the weekend stays. -/
theorem Context.conform_keeps_weekend :
    longWeekend.IsValid ∧ (∀ date ∈ longWeekend.dates, date < lastQuarter) ∧
      ∃ result, conform { Context.default with frequency := some .business } longWeekend =
        .ok result ∧ 2 ≤ result.rowCount ∧ detectFrequency result.dates = .ok .daily ∧
          ¬ Frequency.daily.periodsPerYear ≤ Frequency.business.periodsPerYear := by
  obtain ⟨result, hresult⟩ := isValid_longWeekend.isShaped.exists_resample .business .mean
  have hconform := (conform_longWeekend (f := .business) (by decide)).trans hresult
  have hdates := Table.dates_of_resample_business isValid_longWeekend.ascending hresult
  refine ⟨isValid_longWeekend, longWeekend_before, result, hconform, ?_⟩
  rw [Table.rowCount, hdates]
  exact ⟨by decide, detectFrequency_longWeekend, by decide⟩

end TimeSeries
