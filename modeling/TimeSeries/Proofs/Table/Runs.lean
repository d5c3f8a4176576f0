import TimeSeries.Proofs.Calendar.PeriodOrder
import TimeSeries.Proofs.Table.Checks
import TimeSeries.Proofs.Table.Selecting

set_option autoImplicit false

/-!
# Runs of rows

Periods are in the order of their dates, so that the rows of one period are neighbours. Resampling
makes one row of each such run: every column has what the aggregation gives for the observations of
the run.
-/
namespace TimeSeries

/-! ## Items by their keys -/

section Keys

variable {α : Type} {key : α → Date} {items : List α} {keys : List Date} {least : Date}

theorem filter_append_filter_ne (h : items.Pairwise fun a b => key a ≤ key b)
    (hleast : ∀ a ∈ items, least ≤ key a) :
    (items.filter fun a => key a = least) ++ (items.filter fun a => key a ≠ least) = items := by
  induction items with
  | nil => rfl
  | cons first rest ih =>
    obtain ⟨hfirst, hrest⟩ := List.pairwise_cons.1 h
    obtain ⟨hle, hleast⟩ := List.forall_mem_cons.1 hleast
    by_cases heq : key first = least
    · simpa [heq] using ih hrest hleast
    · -- Behind a greater key there is no least one.
      have hgreater : ∀ a ∈ first :: rest, key a ≠ least := by
        refine List.forall_mem_cons.2 ⟨heq, fun a ha hkey => heq ?_⟩
        exact Date.eq_of_le_of_le (hkey ▸ hfirst a ha) hle
      have hnone : (first :: rest).filter (fun a => key a = least) = [] :=
        List.filter_eq_nil_iff.2 fun a ha => by simpa using hgreater a ha
      have hall : (first :: rest).filter (fun a => key a ≠ least) = first :: rest :=
        List.filter_eq_self.2 fun a ha => by simpa using hgreater a ha
      rw [hnone, hall, List.nil_append]

theorem flatMap_filter_key (h : items.Pairwise fun a b => key a ≤ key b)
    (hkeys : keys.Pairwise (· < ·)) (hmem : ∀ a ∈ items, key a ∈ keys) :
    (keys.flatMap fun k => items.filter fun a => key a = k) = items := by
  -- The items of the least key come first; the others are left for the keys that follow.
  induction keys generalizing items with
  | nil =>
    cases items with
    | nil => rfl
    | cons first rest => cases hmem first List.mem_cons_self
  | cons least keys ih =>
    obtain ⟨hleast, hkeys⟩ := List.pairwise_cons.1 hkeys
    have hlow : ∀ a ∈ items, least ≤ key a := by
      intro a ha
      rcases List.mem_cons.1 (hmem a ha) with heq | hlater
      · exact heq ▸ Date.le_refl _
      · exact Date.le_of_lt (hleast _ hlater)
    have hrest : (keys.flatMap fun k => items.filter fun a => key a = k) =
        items.filter fun a => key a ≠ least := by
      have hmem : ∀ a ∈ items.filter (fun a => key a ≠ least), key a ∈ keys := by
        intro a ha
        obtain ⟨ha, hne⟩ := List.mem_filter.1 ha
        exact (List.mem_cons.1 (hmem a ha)).resolve_left (by simpa using hne)
      rw [← ih (h.filter _) hkeys hmem]
      refine List.flatMap_congr fun k hk => ?_
      rw [List.filter_filter]
      refine List.filter_congr fun a _ => ?_
      have hne := (Date.ne_of_lt (hleast k hk)).symm
      by_cases hkey : key a = k
      · simp [hkey, hne]
      · simp [hkey]
    rw [List.flatMap_cons, hrest, filter_append_filter_ne h hlow]

theorem flatMap_filter_sent (h : items.Pairwise fun a b => key a ≤ key b)
    (hkeys : keys.Pairwise (· < ·)) (hmem : ∀ a ∈ items, key a ∈ keys) (send : Date → Date)
    (place : Date) :
    ((keys.filter fun k => send k = place).flatMap fun k => items.filter fun a => key a = k) =
      items.filter fun a => send (key a) = place := by
  have hsent : ∀ a ∈ items.filter (fun a => send (key a) = place),
      key a ∈ keys.filter fun k => send k = place := by
    intro a ha
    obtain ⟨ha, hplace⟩ := List.mem_filter.1 ha
    exact List.mem_filter.2 ⟨hmem a ha, hplace⟩
  rw [← flatMap_filter_key (h.filter _) (hkeys.filter _) hsent]
  refine List.flatMap_congr fun k hk => ?_
  have hplace := of_decide_eq_true (List.mem_filter.1 hk).2
  rw [List.filter_filter]
  refine List.filter_congr fun a _ => ?_
  by_cases hkey : key a = k
  · simp [hkey, hplace]
  · simp [hkey]

end Keys

/-! ## What an aggregation gives -/

namespace Aggregation

variable {aggregation : Aggregation} {observed : List Float}

/-- The number that stands for observations, of which there is at least one. -/
def summary (aggregation : Aggregation) (observed : List Float) (h : observed ≠ []) : Float :=
  match aggregation with
  | mean => observed.foldl (· + ·) (-0.0) / Float.ofNat observed.length
  | sum => observed.foldl (· + ·) (-0.0)
  | first => observed.head h
  | last => observed.getLast h

/-- A cell that stands for observations: it is missing where there are none or where their summary
is not finite. -/
structure Gives (aggregation : Aggregation) (observed : List Float) (cell : Cell) : Prop where
  unobserved : observed = [] → cell = none
  finite : ∀ h : observed ≠ [], (aggregation.summary observed h).isFinite = true →
    cell = some (aggregation.summary observed h)
  infinite : ∀ h : observed ≠ [], (aggregation.summary observed h).isFinite = false → cell = none
  head : aggregation = first → cell = observed.head?
  getLast : aggregation = last → cell = observed.getLast?

theorem apply_of_ne_nil (h : observed ≠ []) :
    aggregation.apply observed = some (aggregation.summary observed h) := by
  unfold apply
  rw [if_neg (mt List.isEmpty_iff.1 h)]
  cases aggregation with
  | mean => rfl
  | sum => rfl
  | first => exact List.head?_eq_some_head h
  | last => exact List.getLast?_eq_some_getLast h

theorem apply_first (observed : List Float) : first.apply observed = observed.head? := by
  cases observed <;> rfl

theorem apply_last (observed : List Float) : last.apply observed = observed.getLast? := by
  cases observed <;> rfl

theorem observed_eq_self {cell : Cell} (h : ∀ x, cell = some x → x.isFinite = true) :
    cell.observed = cell := by
  cases cell with
  | none => rfl
  | some x => exact Option.filter_some_pos (h x rfl)

theorem gives_observed_apply (aggregation : Aggregation)
    (hfinite : ∀ x ∈ observed, x.isFinite = true) :
    aggregation.Gives observed (aggregation.apply observed).observed where
  unobserved h := by
    rw [h]
    rfl
  finite h hx := by
    rw [apply_of_ne_nil h]
    exact Option.filter_some_pos hx
  infinite h hx := by
    rw [apply_of_ne_nil h]
    exact Option.filter_some_neg (by simp [hx])
  head h := by
    rw [h, apply_first]
    exact observed_eq_self fun x hx => hfinite x (List.mem_of_mem_head? hx)
  getLast h := by
    rw [h, apply_last]
    exact observed_eq_self fun x hx => hfinite x (List.mem_of_mem_getLast? hx)

end Aggregation

/-! ## Resampled tables -/

/-- The observations of a column in some rows, in their order. -/
def observations (index : Nat) (rows : List (Date × List Cell)) : List Float :=
  rows.filterMap fun row => row.2.getD index none

namespace Table

/-- The rows of a table cut into runs, one for each of some periods in turn. -/
structure IsCutInto (f : Frequency) (table : Table) (periods : List Date)
    (runs : List (List (Date × List Cell))) : Prop where
  whole : runs.flatten = table.rows
  periods : List.Forall₂ (fun period run => run ≠ [] ∧ ∀ row ∈ run, periodEnd f row.1 = period)
    periods runs

/-- What a table becomes when its periods are collapsed. -/
structure IsResampled (f : Frequency) (aggregation : Aggregation) (table result : Table) : Prop where
  names : result.columns.map Column.name = table.columns.map Column.name
  ascending : result.dates.Pairwise (· < ·)
  dates : ∀ date, date ∈ result.dates ↔ ∃ own ∈ table.dates, periodEnd f own = date
  runs : ∃ runs, table.IsCutInto f result.dates runs ∧
    ∀ (index : Nat) (column : Column), result.columns[index]? = some column →
      List.Forall₂ (fun run cell => aggregation.Gives (observations index run) cell) runs
        column.cells

variable {f : Frequency} {aggregation : Aggregation} {table result : Table} {column : Column}

def periods (f : Frequency) (table : Table) : List Date :=
  distinctDates (table.dates.map (periodEnd f))

def runs (f : Frequency) (table : Table) : List (List (Date × List Cell)) :=
  (table.periods f).map fun period => table.rows.filter fun row => periodEnd f row.1 = period

def observedIn (f : Frequency) (table : Table) (column : Column) (period : Date) : List Float :=
  (keepCells (fun date => periodEnd f date = period) table.dates column.cells).filterMap id

theorem mem_periods {date : Date} :
    date ∈ table.periods f ↔ ∃ own ∈ table.dates, periodEnd f own = date := by
  rw [periods, mem_distinctDates, List.mem_map]

theorem pairwise_periodEnd {α : Type} {points : List (Date × α)} (f : Frequency)
    (h : (points.map Prod.fst).Pairwise (· < ·)) :
    points.Pairwise fun a b => periodEnd f a.1 ≤ periodEnd f b.1 :=
  (List.pairwise_map.1 h).imp fun hlt => periodEnd_mono (Date.le_of_lt hlt)

theorem mem_dates_of_mem_rows {row : Date × List Cell} (h : row ∈ table.rows) :
    row.1 ∈ table.dates := by
  rw [← map_fst_rows]
  exact List.mem_map_of_mem h

theorem IsValid.isCutInto_runs (h : table.IsValid) (f : Frequency) :
    table.IsCutInto f (table.periods f) (table.runs f) where
  whole := by
    have hordered := pairwise_periodEnd f (table.map_fst_rows.symm ▸ h.ascending)
    rw [runs, ← List.flatMap_def]
    refine flatMap_filter_key hordered (pairwise_distinctDates _) fun row hrow => ?_
    exact mem_periods.2 ⟨row.1, mem_dates_of_mem_rows hrow, rfl⟩
  periods := by
    refine List.forall₂_map_right_iff.2 (List.forall₂_same.2 fun period hperiod => ⟨?_, ?_⟩)
    · obtain ⟨own, hown, hend⟩ := mem_periods.1 hperiod
      rw [← map_fst_rows] at hown
      obtain ⟨row, hrow, rfl⟩ := List.mem_map.1 hown
      exact List.ne_nil_of_mem (List.mem_filter.2 ⟨hrow, decide_eq_true hend⟩)
    · exact fun row hrow => of_decide_eq_true (List.mem_filter.1 hrow).2

theorem IsValid.observations_filter (h : table.IsValid) {index : Nat}
    (hc : table.columns[index]? = some column) (period : Date) :
    observations index (table.rows.filter fun row => periodEnd f row.1 = period) =
      table.observedIn f column period := by
  have hkept := keepCells_of_map (fun date => periodEnd f date = period) table.rows Prod.fst
    fun row => row.2.getD index none
  rw [map_fst_rows, h.map_rows hc] at hkept
  rw [observedIn, hkept, List.filterMap_map]
  rfl

theorem IsValid.finite_observedIn (h : table.IsValid) (hc : column ∈ table.columns) (period : Date) :
    ∀ x ∈ table.observedIn f column period, x.isFinite = true := by
  intro x hx
  obtain ⟨cell, hcell, heq⟩ := List.mem_filterMap.1 hx
  obtain rfl : cell = some x := heq
  exact h.finite column hc x (mem_of_mem_keepCells hcell)

theorem resample_eq (f : Frequency) (aggregation : Aggregation) (table : Table) :
    table.resample f aggregation = ofColumns (table.periods f) (table.columns.map fun column =>
      Column.of column.name ((table.periods f).map fun period =>
        aggregation.apply (table.observedIn f column period))) :=
  rfl

theorem eq_of_resample (h : table.resample f aggregation = .ok result) :
    result = ⟨table.periods f, table.columns.map fun column =>
      Column.of column.name ((table.periods f).map fun period =>
        aggregation.apply (table.observedIn f column period))⟩ :=
  (ofColumns_eq_ok.1 (resample_eq f aggregation table ▸ h)).1

theorem IsValid.isResampled (h : table.IsValid) (hr : table.resample f aggregation = .ok result) :
    table.IsResampled f aggregation result where
  names := by
    rw [eq_of_resample hr]
    simp only [List.map_map, Function.comp_def, Column.name_of]
    exact List.map_congr_left h.isShaped.normal
  ascending := (isValid_of_resample hr).ascending
  dates date := by
    rw [eq_of_resample hr]
    exact mem_periods
  runs := by
    rw [eq_of_resample hr]
    refine ⟨table.runs f, h.isCutInto_runs f, fun index column hindex => ?_⟩
    rw [List.getElem?_map] at hindex
    obtain ⟨own, hown, rfl⟩ := Option.map_eq_some_iff.1 hindex
    rw [runs, Column.of, List.map_map]
    refine List.forall₂_map_left_iff.2 (List.forall₂_map_right_iff.2
      (List.forall₂_same.2 fun period _ => ?_))
    rw [h.observations_filter hown]
    exact Aggregation.gives_observed_apply aggregation
      (h.finite_observedIn (List.mem_of_getElem? hown) period)

/-- Resampling makes one row of each run of rows of one period, and never fails. -/
theorem resample_collapses_runs (h : table.IsValid) (f : Frequency) (aggregation : Aggregation) :
    ∃ result, table.resample f aggregation = .ok result ∧ table.IsResampled f aggregation result := by
  obtain ⟨result, hresult⟩ := h.isShaped.exists_resample f aggregation
  exact ⟨result, hresult, h.isResampled hresult⟩

/-- Two months of the first quarter, with a gap, and one day of the second, without observation. -/
def gapped : Table :=
  ⟨[⟨2020, 1, 15, by decide⟩, ⟨2020, 2, 29, by decide⟩, ⟨2020, 3, 1, by decide⟩,
    ⟨2020, 4, 30, by decide⟩], [⟨"GDP", [some 1, some 2, none, none]⟩]⟩

theorem isValid_gapped : gapped.IsValid :=
  isValid_of_column (by decide) rfl rfl (by decide)

theorem resample_collapses_runs_gapped :
    gapped.IsValid ∧ ∃ result, gapped.resample .quarterly .last = .ok result ∧
      gapped.IsResampled .quarterly .last result ∧
      result = ⟨[⟨2020, 3, 31, by decide⟩, ⟨2020, 6, 30, by decide⟩], [⟨"GDP", [some 2, none]⟩]⟩ := by
  obtain ⟨result, hresult, hspec⟩ := resample_collapses_runs isValid_gapped .quarterly .last
  refine ⟨isValid_gapped, result, hresult, hspec, ?_⟩
  rw [eq_of_resample hresult]
  rfl

end Table

end TimeSeries
