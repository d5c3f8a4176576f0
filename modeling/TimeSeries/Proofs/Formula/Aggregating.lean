import TimeSeries.Proofs.Formula.BuiltIn
import TimeSeries.Proofs.Table.OuterJoin

set_option autoImplicit false

/-!
# Aggregates of series

`SUM`, `AVG`, `MIN` and `MAX` join their series and aggregate the rows of the join. A row of the join
has the cells of the series at its date, in the order of the series, whatever their columns are named;
a series without this date counts like one whose cell is missing there.
-/
namespace TimeSeries

namespace Table

/-- The cell of the first column at a date, missing where there is no such date. -/
def cellOn (date : Date) (table : Table) : Cell :=
  table.columns.head?.bind fun column => cellAt table.dates column.cells date

/-- What a series has at a date. -/
structure IsCellOn (table : Table) (date : Date) (cell : Cell) : Prop where
  own : ∃ column, table.columns = [column] ∧
    ∀ row : Nat, table.dates[row]? = some date → column.cells[row]? = some cell
  missing : date ∉ table.dates → cell = none

variable {table : Table} {column : Column} {tables : List Table} {joined : Table}

theorem cellOn_eq (hc : table.columns = [column]) (date : Date) :
    table.cellOn date = cellAt table.dates column.cells date := by
  rw [cellOn, hc]
  rfl

theorem IsValid.isCellOn (h : table.IsValid) (hc : table.columns = [column]) (date : Date) :
    table.IsCellOn date (table.cellOn date) := by
  have hnodup : table.dates.Nodup := h.ascending.imp Date.ne_of_lt
  have hlength := h.lengths column (hc ▸ List.mem_cons_self)
  rw [cellOn_eq hc]
  refine ⟨⟨column, hc, fun row hrow => ?_⟩, fun hdate => cellAt_of_not_mem _ hdate⟩
  exact (cellAt_of_getElem? hnodup hrow hlength).symm

theorem map_tableColumns (hcolumns : ∀ table ∈ tables, ∃ column, table.columns = [column])
    (date : Date) : ((tableColumns tables).map fun source =>
      cellAt source.1.dates source.2.cells date) = tables.map (cellOn date) := by
  induction tables with
  | nil => rfl
  | cons table tables ih =>
    obtain ⟨column, hc⟩ := hcolumns table List.mem_cons_self
    have hrest := ih fun other hother => hcolumns other (List.mem_cons_of_mem _ hother)
    rw [tableColumns, List.flatMap_cons, List.map_append, List.map_cons, cellOn_eq hc, hc]
    exact congrArg (List.cons _) hrest

theorem rows_of_joinTables (htables : ∀ table ∈ tables, table.IsValid)
    (hcolumns : ∀ table ∈ tables, ∃ column, table.columns = [column])
    (h : joinTables tables = .ok joined) :
    joined.rows = joined.dates.map fun date => (date, tables.map (cellOn date)) := by
  refine List.ext_getElem? fun row => ?_
  rw [rows, List.getElem?_map, List.getElem?_map, List.getElem?_zipIdx, Nat.zero_add]
  cases hdate : joined.dates[row]? with
  | none => rfl
  | some date =>
    have hcells := congrArg (List.map fun cells : List Cell => cells.getD row none)
      (cells_of_joinTables htables h)
    rw [List.map_map, List.map_map] at hcells
    refine congrArg (fun cells => some (date, cells)) (hcells.trans ?_)
    rw [← map_tableColumns hcolumns]
    refine List.map_congr_left fun source _ => ?_
    rw [Function.comp_apply, reindex, List.getD_eq_getElem?_getD, List.getElem?_map, hdate]
    rfl

end Table

/-! ## Rows -/

/-- The functions that aggregate rows, each with the aggregate of numbers that it computes. -/
inductive Aggregates : String → (List Float → Float) → Prop
  | sum : Aggregates "SUM" fun xs => xs.foldl (· + ·) (-0.0)
  | average : Aggregates "AVG" fun xs => xs.foldl (· + ·) (-0.0) / Float.ofNat xs.length
  | minimum : Aggregates "MIN" fun xs =>
      xs.foldl (fun least x => if x < least then x else least) Decimal.infinity
  | maximum : Aggregates "MAX" fun xs =>
      xs.foldl (fun greatest x => if greatest < x then x else greatest) (-Decimal.infinity)

/-- The cell that stands for the aggregate of some cells: it is observed when one of them is, when all
of them are unless missing ones are left out, and when the aggregate is finite. -/
def IsAggregate (f : List Float → Float) (fillMissing : Bool) (row : List Cell) (cell : Cell) : Prop :=
  ∀ x, cell = some x ↔ row.filterMap id ≠ [] ∧ (fillMissing = true ∨ none ∉ row) ∧
    f (row.filterMap id) = x ∧ x.isFinite = true

section Rows

variable {f : List Float → Float} {row : List Cell} {tables : List Table} {context : Context}
  {name : String}

theorem length_filterMap_eq_iff : (row.filterMap id).length = row.length ↔ none ∉ row := by
  rw [List.filterMap_length_eq_length]
  constructor
  · intro h hnone
    cases h none hnone
  · intro h cell hcell
    cases cell with
    | none => exact absurd hcell h
    | some x => rfl

theorem aggregateRow_eq_some {fillMissing : Bool} {x : Float} :
    aggregateRow fillMissing f row = some x ↔
      row.filterMap id ≠ [] ∧ (fillMissing = true ∨ none ∉ row) ∧ f (row.filterMap id) = x := by
  rw [aggregateRow, ← length_filterMap_eq_iff]
  generalize row.filterMap id = observed
  cases observed with
  | nil => simp
  | cons y ys => by_cases hlength : (y :: ys).length = row.length <;> cases fillMissing <;> simp_all

theorem isAggregate_aggregateRow (f : List Float → Float) (fillMissing : Bool) (row : List Cell) :
    IsAggregate f fillMissing row (Cell.observed (aggregateRow fillMissing f row)) := by
  intro x
  rw [Cell.observed, Option.filter_eq_some_iff, aggregateRow_eq_some, and_assoc, and_assoc]

/-- The result of an aggregate function of series. -/
structure IsAggregated (f : List Float → Float) (fillMissing : Bool) (tables : List Table)
    (name : String) (result : Table) : Prop where
  ascending : result.dates.Pairwise (· < ·)
  dates : ∀ date, date ∈ result.dates ↔ ∃ table ∈ tables, date ∈ table.dates
  column : ∃ cells, result.columns = [⟨name, cells⟩] ∧ cells.length = result.dates.length ∧
    ∀ (row : Nat) (date : Date), result.dates[row]? = some date → ∃ inputs cell,
      cells[row]? = some cell ∧ List.Forall₂ (Table.IsCellOn · date ·) tables inputs ∧
      IsAggregate f fillMissing inputs cell

theorem forM_valueColumn_eq_ok :
    (tables.forM fun table => (liftTable table.valueColumn).map fun _ => ()) = .ok () ↔
      ∀ table ∈ tables, ∃ column, table.columns = [column] := by
  rw [forM_eq_ok]
  refine forall₂_congr fun table _ => ?_
  constructor
  · intro h
    obtain ⟨column, hcolumn, -⟩ := map_eq_ok.1 h
    exact ⟨column, Table.valueColumn_eq_ok (mapError_eq_ok.1 hcolumn)⟩
  · rintro ⟨column, hc⟩
    rw [Table.valueColumn_eq hc]
    rfl

theorem aggregateRows_of_columns (htables : ∀ table ∈ tables, table.IsValid)
    (hcolumns : ∀ table ∈ tables, ∃ column, table.columns = [column])
    (hname : Text.normalName name = name) (f : List Float → Float) (context : Context) :
    ∃ result, aggregateRows name f tables context = .ok (.series result) ∧
      IsAggregated f context.fillMissing tables name result := by
  obtain ⟨joined, hjoined⟩ := exists_joinTables fun table ht => (htables table ht).isShaped
  have hjoin := isOuterJoin_of_joinTables htables hjoined
  have hrows : (joined.rows.map fun row => aggregateRow context.fillMissing f row.2) =
      joined.dates.map fun date =>
        aggregateRow context.fillMissing f (tables.map (Table.cellOn date)) := by
    rw [Table.rows_of_joinTables htables hcolumns hjoined, List.map_map]
    rfl
  generalize hcells : (joined.dates.map fun date =>
    aggregateRow context.fillMissing f (tables.map (Table.cellOn date))) = cells at hrows
  have hlength : cells.length = joined.dates.length := by
    rw [← hcells, List.length_map]
  have hsingle : Table.single name joined.dates cells =
      .ok ⟨joined.dates, [⟨name, cells.map Cell.observed⟩]⟩ := by
    rw [Table.single_eq name hjoin.ascending hlength, Column.of, hname]
  refine ⟨⟨joined.dates, [⟨name, cells.map Cell.observed⟩]⟩, ?_, hjoin.ascending, hjoin.dates,
    _, rfl, (List.length_map _).trans hlength, fun row date hdate => ?_⟩
  · rw [aggregateRows, forM_valueColumn_eq_ok.2 hcolumns, hjoined]
    change liftTable (Table.single name joined.dates (joined.rows.map _)) >>= _ = _
    rw [hrows, hsingle]
    rfl
  · refine ⟨tables.map (Table.cellOn date), _, ?_, ?_, isAggregate_aggregateRow f _ _⟩
    · rw [← hcells, List.map_map, List.getElem?_map, hdate]
      rfl
    · rw [List.forall₂_map_right_iff, List.forall₂_same]
      intro table htable
      obtain ⟨column, hc⟩ := hcolumns table htable
      exact (htables table htable).isCellOn hc date

theorem exists_aggregateRows_eq_error (h : ∃ table ∈ tables, table.columns.length ≠ 1) :
    ∃ cause : TableError, cause.IsColumnCount ∧ ∀ name f context,
      aggregateRows name f tables context = .error (.table cause) := by
  cases hcheck : tables.forM fun table => (liftTable table.valueColumn).map fun _ => () with
  | ok _ =>
    obtain ⟨table, htable, hcount⟩ := h
    obtain ⟨column, hc⟩ := forM_valueColumn_eq_ok.1 hcheck table htable
    exact absurd (congrArg List.length hc) hcount
  | error e =>
    obtain ⟨table, -, herror⟩ := forM_eq_error hcheck
    obtain ⟨cause, hcause, rfl⟩ := mapError_eq_error.1 (map_eq_error.1 herror)
    refine ⟨cause, Table.valueColumn_eq_error hcause, fun name f context => ?_⟩
    rw [aggregateRows, hcheck]
    rfl

end Rows

/-! ## Calls -/

section Calls

variable {f : List Float → Float} {name : String}

theorem Aggregates.exists_mem (h : Aggregates name f) : ∃ description,
    ⟨name, description, .seriesList (aggregateRows name f)⟩ ∈ aggregateFunctions := by
  cases h with
  | sum => exact ⟨_, List.mem_cons_self⟩
  | average => exact ⟨_, List.mem_cons_of_mem _ List.mem_cons_self⟩
  | minimum => exact ⟨_, List.mem_cons_of_mem _ (List.mem_cons_of_mem _ List.mem_cons_self)⟩
  | maximum =>
    exact ⟨_, List.mem_cons_of_mem _ (List.mem_cons_of_mem _ (List.mem_cons_of_mem _
      List.mem_cons_self))⟩

theorem Aggregates.call_eq (h : Aggregates name f) : ∃ description, ∀ arguments context,
    FunctionRegistry.standard.call name arguments context =
      Function.invoke ⟨name, description, .seriesList (aggregateRows name f)⟩ arguments context := by
  obtain ⟨description, hmem⟩ := h.exists_mem
  have hbuiltIn := List.mem_append_left numberFunctions
    (List.mem_append_right (changeFunctions ++ shiftFunctions) hmem)
  exact ⟨description, fun arguments context =>
    FunctionRegistry.call_standard hbuiltIn arguments context⟩

theorem Aggregates.normalName_eq (h : Aggregates name f) : Text.normalName name = name := by
  cases h <;> rfl

theorem Function.allSeries_map (name : String) (position : Nat) (tables : List Table) :
    Function.allSeries name position (tables.map .series) = .ok tables := by
  induction tables generalizing position with
  | nil => rfl
  | cons table tables ih =>
    change (Function.allSeries name (position + 1) (tables.map .series) >>= _) = _
    rw [ih]
    rfl

theorem Function.invoke_seriesList {description : String}
    {run : List Table → Context → Except FormulaError Value} (context : Context) {tables : List Table}
    (hne : tables ≠ []) :
    Function.invoke ⟨name, description, .seriesList run⟩ (tables.map .series) context =
      run tables context := by
  obtain ⟨table, rest, rfl⟩ := List.exists_cons_of_ne_nil hne
  change (Function.allSeries name 1 ((table :: rest).map .series) >>= fun tables =>
    run tables context) = _
  rw [Function.allSeries_map]
  rfl

theorem Aggregates.exists_of_call (h : Aggregates name f) {arguments : List Value} {context : Context}
    {value : Value} (hcall : FunctionRegistry.standard.call name arguments context = .ok value) :
    ∃ tables, arguments = tables.map .series ∧ aggregateRows name f tables context = .ok value := by
  obtain ⟨description, heq⟩ := h.call_eq
  rw [heq] at hcall
  cases hcheck : Function.check ⟨name, description, .seriesList (aggregateRows name f)⟩ arguments with
  | error fault =>
    rw [Function.invoke_of_check_error hcheck] at hcall
    cases hcall
  | ok _ =>
    have hruns := @Function.runs_of_check _ _ context hcheck
    rw [hcall] at hruns
    cases hruns with
    | seriesList hrun => exact ⟨_, rfl, hrun⟩

/-- The functions that aggregate rows compute at each date the aggregate of what their series have
there, and none at all when one of their arguments is a table without a single column. -/
theorem aggregates_rows (h : Aggregates name f) (context : Context) :
    (∀ tables : List Table, tables ≠ [] → (∀ table ∈ tables, table.IsValid) →
      (∀ table ∈ tables, ∃ column, table.columns = [column]) →
      ∃ result, FunctionRegistry.standard.call name (tables.map .series) context =
          .ok (.series result) ∧ IsAggregated f context.fillMissing tables name result) ∧
    (∀ tables : List Table, (∃ table ∈ tables, table.columns.length ≠ 1) →
      ∃ cause : TableError, cause.IsColumnCount ∧
        FunctionRegistry.standard.call name (tables.map .series) context = .error (.table cause) ∧
        ∀ other, aggregateRows name other tables context = .error (.table cause)) ∧
    ∀ (arguments : List Value) (table : Table), .series table ∈ arguments →
      table.columns.length ≠ 1 →
      ∃ e, FunctionRegistry.standard.call name arguments context = .error e := by
  obtain ⟨description, heq⟩ := h.call_eq
  refine ⟨fun tables hne htables hcolumns => ?_, fun tables hcount => ?_,
    fun arguments table hmem hcount => ?_⟩
  · obtain ⟨result, hresult, hspec⟩ :=
      aggregateRows_of_columns htables hcolumns h.normalName_eq f context
    refine ⟨result, ?_, hspec⟩
    rw [heq, Function.invoke_seriesList context hne, hresult]
  · obtain ⟨cause, hcause, herror⟩ := exists_aggregateRows_eq_error hcount
    have hne : tables ≠ [] := by
      rintro rfl
      obtain ⟨_, hmem, -⟩ := hcount
      cases hmem
    refine ⟨cause, hcause, ?_, fun other => herror name other context⟩
    rw [heq, Function.invoke_seriesList context hne, herror]
  · cases hcall : FunctionRegistry.standard.call name arguments context with
    | error e => exact ⟨e, rfl⟩
    | ok value =>
      obtain ⟨tables, rfl, hrun⟩ := h.exists_of_call hcall
      obtain ⟨_, htable, heqTable⟩ := List.mem_map.1 hmem
      cases heqTable
      obtain ⟨cause, -, herror⟩ := exists_aggregateRows_eq_error ⟨table, htable, hcount⟩
      rw [herror] at hrun
      cases hrun

theorem columns_clashing : ∀ table ∈ clashing, ∃ column, table.columns = [column] := by
  simp [clashing, observation]

theorem aggregateRows_clashing (hname : Text.normalName name = name) (f : List Float → Float)
    (context : Context) : aggregateRows name f clashing context =
      .ok (.series ⟨[⟨2024, 2, 28, by decide⟩, ⟨2024, 2, 29, by decide⟩],
        [⟨name, [Cell.observed (aggregateRow context.fillMissing f [none, some 2, some 3]),
          Cell.observed (aggregateRow context.fillMissing f [some 1, none, none])]⟩]⟩) := by
  have hjoined : joinTables clashing = .ok ⟨[⟨2024, 2, 28, by decide⟩, ⟨2024, 2, 29, by decide⟩],
      [⟨"GDP_2", [none, some 1]⟩, ⟨"GDP", [some 2, none]⟩, ⟨"GDP_3", [some 3, none]⟩]⟩ := rfl
  have hcolumn (cells : List Cell) : Column.of name cells = ⟨name, cells.map Cell.observed⟩ := by
    rw [Column.of, hname]
  rw [aggregateRows, forM_valueColumn_eq_ok.2 columns_clashing, hjoined]
  change (.ok (.series ⟨_, [Column.of name _]⟩) : Except FormulaError Value) = _
  rw [hcolumn]
  rfl

/-- Two observations of one day and one of another, with and without leaving missing ones out. -/
theorem aggregates_rows_clashing :
    (∀ table ∈ clashing, table.IsValid) ∧
      (∀ aggregated ∈ [("SUM", 5.0, 1.0), ("AVG", 2.5, 1), ("MIN", 2, 1), ("MAX", 3, 1)],
        ∃ f result, Aggregates aggregated.1 f ∧
          FunctionRegistry.standard.call aggregated.1 (clashing.map .series)
            { Context.default with fillMissing := true } = .ok (.series result) ∧
          IsAggregated f true clashing aggregated.1 result ∧
          result.columns = [⟨aggregated.1, [some aggregated.2.1, some aggregated.2.2]⟩]) ∧
      ∃ f result, Aggregates "SUM" f ∧
        FunctionRegistry.standard.call "SUM" (clashing.map .series) .default = .ok (.series result) ∧
        IsAggregated f false clashing "SUM" result ∧ result.columns = [⟨"SUM", [none, none]⟩] := by
  have hruns {name : String} {f : List Float → Float} (h : Aggregates name f) (context : Context)
      {first second : Cell}
      (hcells : [Cell.observed (aggregateRow context.fillMissing f [none, some 2, some 3]),
        Cell.observed (aggregateRow context.fillMissing f [some 1, none, none])] = [first, second]) :
      ∃ result, Aggregates name f ∧ FunctionRegistry.standard.call name (clashing.map .series) context =
          .ok (.series result) ∧ IsAggregated f context.fillMissing clashing name result ∧
        result.columns = [⟨name, [first, second]⟩] := by
    obtain ⟨result, hresult, hspec⟩ := (aggregates_rows h context).1 clashing (List.cons_ne_nil _ _)
      isValid_clashing columns_clashing
    obtain ⟨tables, htables, hrun⟩ := h.exists_of_call hresult
    obtain rfl := List.map_injective_iff.2 (fun _ _ => Value.series.inj) htables
    rw [aggregateRows_clashing h.normalName_eq, hcells] at hrun
    cases hrun
    exact ⟨_, h, hresult, hspec, rfl⟩
  refine ⟨isValid_clashing, fun aggregated hmem => ?_, _, hruns .sum .default (by decide +kernel)⟩
  simp only [List.mem_cons, List.not_mem_nil, or_false] at hmem
  rcases hmem with rfl | rfl | rfl | rfl
  · exact ⟨_, hruns .sum { Context.default with fillMissing := true } (by decide +kernel)⟩
  · exact ⟨_, hruns .average { Context.default with fillMissing := true } (by decide +kernel)⟩
  · exact ⟨_, hruns .minimum { Context.default with fillMissing := true } (by decide +kernel)⟩
  · exact ⟨_, hruns .maximum { Context.default with fillMissing := true } (by decide +kernel)⟩

end Calls

end TimeSeries
