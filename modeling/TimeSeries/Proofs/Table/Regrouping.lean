import TimeSeries.Proofs.Table.Runs

set_option autoImplicit false

/-!
# Resampling in steps

Rows may be collapsed to months before they are collapsed to quarters or years, and to quarters
before years. The end of a shorter period lies in the longer one, so that a longer period gathers the
same observations either way; a shorter period without observations adds none, and the first or last
of the observations is the first or last of those that the shorter periods have.
-/
namespace TimeSeries

/-- The aggregations that pick one of the observations. -/
inductive Aggregation.Picks : Aggregation → Prop
  | first : Picks .first
  | last : Picks .last

theorem Aggregation.Picks.apply_filterMap {α : Type} {aggregation : Aggregation}
    (h : aggregation.Picks) (items : List α) (observed : α → List Float) :
    aggregation.apply (items.filterMap fun item => aggregation.apply (observed item)) =
      aggregation.apply (items.flatMap observed) := by
  cases h with
  | first => simp only [apply_first, List.head?_filterMap, List.head?_flatMap]
  | last => simp only [apply_last, List.getLast?_filterMap, List.getLast?_flatMap]

theorem Aggregation.Picks.mem_of_apply {aggregation : Aggregation} (h : aggregation.Picks)
    {observed : List Float} {x : Float} (hx : aggregation.apply observed = some x) : x ∈ observed := by
  cases h with
  | first => exact List.mem_of_mem_head? (apply_first observed ▸ hx)
  | last => exact List.mem_of_mem_getLast? (apply_last observed ▸ hx)

namespace Table

variable {fine coarse : Frequency} {aggregation : Aggregation} {table result : Table}
  {column : Column}

theorem distinctDates_periods (hnest : fine.MakesUp coarse)
    (hdates : ∀ date ∈ table.dates, date < lastQuarter) :
    distinctDates ((table.periods fine).map (periodEnd coarse)) = table.periods coarse := by
  refine eq_of_mem_iff (pairwise_distinctDates _) (pairwise_distinctDates _) fun date => ?_
  rw [mem_distinctDates, List.mem_map, mem_periods]
  constructor
  · rintro ⟨period, hperiod, rfl⟩
    obtain ⟨own, hown, rfl⟩ := mem_periods.1 hperiod
    exact ⟨own, hown, (periodEnd_periodEnd_fine hnest (hdates own hown)).symm⟩
  · rintro ⟨own, hown, rfl⟩
    exact ⟨periodEnd fine own, mem_periods.2 ⟨own, hown, rfl⟩,
      periodEnd_periodEnd_fine hnest (hdates own hown)⟩

theorem observedIn_eq (f : Frequency) (table : Table) (column : Column) :
    table.observedIn f column = fun period => ((table.dates.zip column.cells).filter fun point =>
      periodEnd f point.1 = period).filterMap Prod.snd := by
  funext period
  rw [observedIn, keepCells, List.filterMap_map]
  rfl

theorem IsValid.observedIn_coarse (h : table.IsValid) (hc : column ∈ table.columns)
    (hnest : fine.MakesUp coarse) (hdates : ∀ date ∈ table.dates, date < lastQuarter)
    (period : Date) :
    ((table.periods fine).filter fun date => periodEnd coarse date = period).flatMap
      (table.observedIn fine column) = table.observedIn coarse column period := by
  have hfst : (table.dates.zip column.cells).map Prod.fst = table.dates :=
    List.map_fst_zip (Nat.le_of_eq (h.lengths column hc).symm)
  have hordered := pairwise_periodEnd fine (hfst.symm ▸ h.ascending)
  have hmem : ∀ point ∈ table.dates.zip column.cells, point.1 ∈ table.dates :=
    fun point hpoint => (List.of_mem_zip hpoint).1
  have hgathered := flatMap_filter_sent hordered (pairwise_distinctDates _)
    (fun point hpoint => mem_periods.2 ⟨point.1, hmem point hpoint, rfl⟩) (periodEnd coarse) period
  have hcoarse : ((table.dates.zip column.cells).filter fun point =>
      periodEnd coarse (periodEnd fine point.1) = period) =
      (table.dates.zip column.cells).filter fun point => periodEnd coarse point.1 = period := by
    refine List.filter_congr fun point hpoint => ?_
    rw [periodEnd_periodEnd_fine hnest (hdates _ (hmem point hpoint))]
  simp only [observedIn_eq]
  rw [← hcoarse, ← hgathered, List.filterMap_flatMap]
  rfl

theorem IsValid.observedIn_collapsed (h : table.IsValid) (hpicks : aggregation.Picks)
    (hc : column ∈ table.columns) (period : Date) :
    keepCells (fun date => periodEnd coarse date = period) (table.periods fine)
        (((table.periods fine).map fun date =>
          aggregation.apply (table.observedIn fine column date)).map Cell.observed) =
      ((table.periods fine).filter fun date => periodEnd coarse date = period).map fun date =>
        aggregation.apply (table.observedIn fine column date) := by
  -- What is picked was observed, so that no cell of a shorter period is lost as infinite.
  have hcells : ((table.periods fine).map fun date =>
      aggregation.apply (table.observedIn fine column date)).map Cell.observed =
      (table.periods fine).map fun date => aggregation.apply (table.observedIn fine column date) := by
    rw [List.map_map]
    refine List.map_congr_left fun date _ => Aggregation.observed_eq_self fun x hx => ?_
    exact h.finite_observedIn hc date x (hpicks.mem_of_apply hx)
  have hkept := keepCells_of_map (fun date => periodEnd coarse date = period) (table.periods fine) id
    fun date => aggregation.apply (table.observedIn fine column date)
  rw [List.map_id] at hkept
  rw [hcells, hkept]
  rfl

theorem IsValid.resample_of_resample (h : table.IsValid) (hpicks : aggregation.Picks)
    (hnest : fine.MakesUp coarse) (hdates : ∀ date ∈ table.dates, date < lastQuarter)
    (hr : table.resample fine aggregation = .ok result) :
    result.resample coarse aggregation = table.resample coarse aggregation := by
  have hperiods : result.periods coarse = table.periods coarse := by
    rw [eq_of_resample hr, periods]
    exact distinctDates_periods hnest hdates
  rw [resample_eq, resample_eq, hperiods]
  rw [eq_of_resample hr, List.map_map]
  refine congrArg _ (List.map_congr_left fun column hc => ?_)
  rw [Function.comp_apply, Column.name_of, h.isShaped.normal column hc]
  refine congrArg _ (List.map_congr_left fun period _ => ?_)
  rw [observedIn, Column.of, h.observedIn_collapsed hpicks hc, List.filterMap_map,
    ← h.observedIn_coarse hc hnest hdates]
  exact hpicks.apply_filterMap _ _

/-- The first or the last observation of every longer period is picked from those of its shorter
periods, so that two steps make the table that one step makes. -/
theorem resample_stepwise (h : table.IsValid) (hdates : ∀ date ∈ table.dates, date < lastQuarter)
    (hnest : fine.MakesUp coarse) (hpicks : aggregation.Picks) :
    ∃ shorter longer, table.resample fine aggregation = .ok shorter ∧
      shorter.resample coarse aggregation = .ok longer ∧
      table.resample coarse aggregation = .ok longer := by
  obtain ⟨shorter, hshorter⟩ := h.isShaped.exists_resample fine aggregation
  obtain ⟨longer, hlonger⟩ := h.isShaped.exists_resample coarse aggregation
  have hsame := h.resample_of_resample hpicks hnest hdates hshorter
  exact ⟨shorter, longer, hshorter, hsame.trans hlonger, hlonger⟩

/-- The quarter's last observation is that of its second month. -/
theorem resample_stepwise_gapped :
    gapped.IsValid ∧ (∀ date ∈ gapped.dates, date < lastQuarter) ∧
      Frequency.MakesUp .monthly .quarterly ∧ Aggregation.Picks .last ∧
      ∃ shorter longer, gapped.resample .monthly .last = .ok shorter ∧
        shorter.resample .quarterly .last = .ok longer ∧
        gapped.resample .quarterly .last = .ok longer ∧
        shorter.columns = [⟨"GDP", [some 1, some 2, none, none]⟩] ∧
        longer.columns = [⟨"GDP", [some 2, none]⟩] := by
  have hdates : ∀ date ∈ gapped.dates, date < lastQuarter := by decide
  obtain ⟨shorter, longer, hshorter, hlonger, hdirect⟩ :=
    resample_stepwise isValid_gapped hdates .quarters .last
  refine ⟨isValid_gapped, hdates, .quarters, .last, shorter, longer, hshorter, hlonger, hdirect, ?_, ?_⟩
  · rw [eq_of_resample hshorter]
    rfl
  · rw [eq_of_resample hdirect]
    rfl

end Table

end TimeSeries
