import TimeSeries.Proofs.Decimal.Doubles
import TimeSeries.Proofs.Formula.Conforming
import TimeSeries.Proofs.Table.Runs

set_option autoImplicit false

/-!
# Tables that conform already

Rows at the ends of different periods stay as they are when they are collapsed: each is alone in its
period, and a single observation is its own mean, sum, first and last. So it does not matter which
frequency is detected when a table is made to conform once more.
-/
namespace TimeSeries

namespace Aggregation

variable {aggregation : Aggregation}

theorem apply_singleton {x : Float} (h : x.isFinite = true) : aggregation.apply [x] = some x := by
  have hsum : -0.0 + x = x := Double.negative_zero_add h
  cases aggregation with
  | mean =>
    change some ((-0.0 + x) / Float.ofNat 1) = some x
    rw [hsum, Double.div_ofNat_one h]
  | sum => exact congrArg some hsum
  | first => rfl
  | last => rfl

theorem apply_cell {cell : Cell} (h : ∀ x, cell = some x → x.isFinite = true) :
    aggregation.apply ([cell].filterMap id) = cell := by
  cases cell with
  | none => rfl
  | some x => exact apply_singleton (h x rfl)

end Aggregation

namespace Table

section Cells

variable {keep keep' : Date → Bool} {dates : List Date}

theorem keepCells_congr (h : ∀ date ∈ dates, keep date = keep' date) (cells : List Cell) :
    keepCells keep dates cells = keepCells keep' dates cells := by
  rw [keepCells, keepCells]
  exact congrArg (List.map Prod.snd)
    (List.filter_congr fun row hrow => h row.1 (List.of_mem_zip hrow).1)

theorem keepCells_eq_nil (h : ∀ date ∈ dates, keep date = false) (cells : List Cell) :
    keepCells keep dates cells = [] := by
  rw [keepCells, List.map_eq_nil_iff, List.filter_eq_nil_iff]
  intro row hrow
  rw [h row.1 (List.of_mem_zip hrow).1]
  exact Bool.false_ne_true

theorem map_keepCells_eq {cells : List Cell} (hdates : dates.Pairwise (· < ·))
    (h : cells.length = dates.length) :
    (dates.map fun own => keepCells (fun date => date = own) dates cells) =
      cells.map fun cell => [cell] := by
  induction dates generalizing cells with
  | nil =>
    rw [List.length_nil, List.length_eq_zero_iff] at h
    rw [h]
    rfl
  | cons first dates ih =>
    obtain ⟨hfirst, hrest⟩ := List.pairwise_cons.1 hdates
    cases cells with
    | nil => cases h
    | cons cell cells =>
      have hnone : keepCells (fun date => date = first) dates cells = [] :=
        keepCells_eq_nil (fun date hd => decide_eq_false (Date.ne_of_lt (hfirst date hd)).symm) cells
      have hothers : (dates.map fun own =>
          keepCells (fun date => date = own) (first :: dates) (cell :: cells)) =
          cells.map fun cell => [cell] := by
        rw [← ih hrest (Nat.succ.inj h)]
        refine List.map_congr_left fun own hown => ?_
        rw [keepCells_cons, if_neg (by simpa using Date.ne_of_lt (hfirst own hown))]
      rw [List.map_cons, List.map_cons, hothers, keepCells_cons, if_pos (decide_eq_true rfl), hnone]

end Cells

variable {table result : Table} {f : Frequency} {start stop : Option Date}

theorem periods_eq_self (hdates : table.dates.Pairwise (· < ·))
    (hends : ∀ date ∈ table.dates, periodEnd f date = date) : table.periods f = table.dates := by
  refine eq_of_mem_iff (pairwise_distinctDates _) hdates fun date => ?_
  refine mem_periods.trans ?_
  constructor
  · rintro ⟨own, hown, rfl⟩
    rwa [hends own hown]
  · exact fun hdate => ⟨date, hdate, hends date hdate⟩

theorem IsValid.resample_eq_self (h : table.IsValid)
    (hends : ∀ date ∈ table.dates, periodEnd f date = date) (aggregation : Aggregation) :
    table.resample f aggregation = .ok table := by
  have hcells : ∀ column ∈ table.columns, (table.dates.map fun period =>
      aggregation.apply (table.observedIn f column period)) = column.cells := by
    intro column hc
    have hown (period : Date) : table.observedIn f column period =
        (keepCells (fun date => date = period) table.dates column.cells).filterMap id := by
      rw [observedIn, keepCells_congr fun date hdate => by rw [hends date hdate]]
    have hsingle := map_keepCells_eq h.ascending (h.lengths column hc)
    calc
      _ = (table.dates.map fun own => keepCells (fun date => date = own) table.dates
            column.cells).map fun cells => aggregation.apply (cells.filterMap id) := by
        rw [List.map_map]
        exact List.map_congr_left fun period _ => congrArg aggregation.apply (hown period)
      _ = column.cells := by
        rw [hsingle, List.map_map]
        refine (List.map_congr_left fun cell hcell => ?_).trans (List.map_id _)
        exact Aggregation.apply_cell fun x hx => h.finite column hc x (hx ▸ hcell)
  have hcolumns : (table.columns.map fun column => Column.of column.name
      (table.dates.map fun period => aggregation.apply (table.observedIn f column period))) =
      table.columns := by
    refine (List.map_congr_left fun column hc => ?_).trans (List.map_id _)
    rw [hcells column hc, h.column_of hc]
    rfl
  rw [resample_eq, periods_eq_self h.ascending hends, hcolumns, h.ofColumns_eq]

theorem IsValid.within_eq_self (h : table.IsValid)
    (hstart : ∀ date ∈ table.dates, start.all (· ≤ date) = true)
    (hstop : ∀ date ∈ table.dates, stop.all (date ≤ ·) = true) : table.within start stop = table :=
  h.keepRows_eq_self fun date hdate => by rw [hstart date hdate, hstop date hdate, Bool.and_self]

theorem mem_dates_within {date : Date} : date ∈ (table.within start stop).dates ↔
    date ∈ table.dates ∧ start.all (· ≤ date) = true ∧ stop.all (date ≤ ·) = true := by
  change date ∈ table.dates.filter _ ↔ _
  rw [List.mem_filter, Bool.and_eq_true]

theorem IsValid.within_within (h : table.IsValid) (start stop : Option Date) :
    (table.within start stop).within start stop = table.within start stop :=
  (h.within start stop).within_eq_self (fun _ hdate => (mem_dates_within.1 hdate).2.1)
    fun _ hdate => (mem_dates_within.1 hdate).2.2

theorem IsValid.conform_within (h : table.IsValid) (start stop : Option Date)
    (frequency : Option Frequency) : (table.within start stop).conform start stop frequency =
      table.conform start stop frequency := by
  unfold conform
  rw [h.within_within]

theorem conform_eq_self (hwithin : table.within start stop = table)
    (hresample : table.resample f .mean = .ok table) :
    table.conform start stop (some f) = .ok table := by
  unfold conform
  rw [hwithin]
  dsimp only
  split
  · rfl
  · rename_i hrows
    obtain ⟨own, hown⟩ := exists_detectFrequency (Nat.not_lt.1 hrows)
    rw [hown]
    change (if _ then _ else _) = _
    split
    · exact hresample
    · rfl

theorem start_le_of_resample {aggregation : Aggregation}
    (h : (table.within start stop).resample f aggregation = .ok result) :
    ∀ date ∈ result.dates, start.all (· ≤ date) = true := by
  intro date hdate
  rw [eq_of_resample h] at hdate
  obtain ⟨own, hown, rfl⟩ := mem_periods.1 hdate
  have hstart := (mem_dates_within.1 hown).2.1
  cases start with
  | none => rfl
  | some first =>
    exact decide_eq_true (Date.le_trans (of_decide_eq_true hstart) (le_periodEnd f own))

end Table

/-- Without an end bound, a table that was made to conform conforms. -/
theorem Context.conform_conform {context : Context} {table : Table} (htable : table.IsValid)
    (hstop : context.stop = none) :
    ∃ result, context.conform table = .ok result ∧ context.conform result = .ok result := by
  obtain ⟨result, hresult⟩ :=
    htable.isShaped.exists_conform context.start context.stop context.frequency
  refine ⟨result, hresult, ?_⟩
  rw [conform]
  -- the first run either has only cut rows off, or its rows are ends of periods
  rcases Table.eq_of_conform hresult with rfl | ⟨target, hfrequency, hresample⟩
  · rw [htable.conform_within]
    exact hresult
  · have hvalid := Table.isValid_of_resample hresample
    have hends : ∀ date ∈ result.dates, periodEnd target date = date := by
      intro date hdate
      rw [Table.eq_of_resample hresample] at hdate
      obtain ⟨own, -, rfl⟩ := Table.mem_periods.1 hdate
      exact periodEnd_periodEnd target own
    rw [hfrequency]
    refine Table.conform_eq_self ?_ (hvalid.resample_eq_self hends .mean)
    exact hvalid.within_eq_self (Table.start_le_of_resample hresample) fun _ _ => by rw [hstop]; rfl

/-- A Friday, a Saturday and a Sunday about the end of January, and the day before them. -/
def lateJanuary : Table :=
  ⟨⟨2025, 1, 30, by decide⟩ :: longWeekend.dates, [⟨"GDP", [some 9, some 1, some 2, some 4]⟩]⟩

theorem isValid_lateJanuary : lateJanuary.IsValid :=
  Table.isValid_of_column (by decide) rfl rfl (by decide)

def monthsSinceJanuary : Context :=
  { Context.default with start := longWeekend.dates.head?, frequency := some .monthly }

/-- The last day of January and two of February, collapsed to the ends of the two months. -/
theorem Context.conform_conform_lateJanuary :
    lateJanuary.IsValid ∧ monthsSinceJanuary.stop = none ∧ ∃ result,
      monthsSinceJanuary.conform lateJanuary = .ok result ∧
        monthsSinceJanuary.conform result = .ok result ∧
        result.dates = [⟨2025, 1, 31, by decide⟩, ⟨2025, 2, 28, by decide⟩] ∧
          result.columns.map Column.cells = [[some 1, some 3]] := by
  obtain ⟨result, hresult, hagain⟩ :=
    conform_conform isValid_lateJanuary (show monthsSinceJanuary.stop = none from rfl)
  refine ⟨isValid_lateJanuary, rfl, result, hresult, hagain, ?_⟩
  have hresample : monthsSinceJanuary.conform lateJanuary =
      (lateJanuary.within monthsSinceJanuary.start monthsSinceJanuary.stop).resample .monthly .mean :=
    Table.conform_of_lower (by decide) detectFrequency_longWeekend (by decide)
  rw [Table.eq_of_resample (hresample.symm.trans hresult)]
  exact ⟨by decide +kernel, by decide +kernel⟩

end TimeSeries
