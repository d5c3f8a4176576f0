import TimeSeries.Proofs.Formula.BuiltIn
import TimeSeries.Proofs.Formula.Memory
import TimeSeries.Proofs.Formula.Plain
import TimeSeries.Proofs.Formula.Valid
import TimeSeries.Proofs.Table.Selecting

set_option autoImplicit false

/-!
# Bounds of pointwise formulas

Operators, aggregates of rows and functions of numbers compute each row from this row alone. Over
them it makes no difference whether all fetched series are cut to the bounds or only the result.
-/
namespace TimeSeries

open Table

variable {keep : Date → Bool} {c c' : Context} {t t' : Table}

theorem agree_broadcast_selected (h : t.Selected keep t') (f : Cell → Cell) :
    Agree (Value.Related (Selected keep)) (broadcast f t) (broadcast f t') := by
  refine ((agree_valueColumn h.columns).mapError _).bind fun column column' hc => ?_
  rw [h.dates, hc.2.2, ← keepCells_map]
  have hlength : (column.cells.map f).length = t.dates.length := (List.length_map _).trans hc.2.1
  exact (agree_single_selected h.ascending hlength resultColumn).bind_series

structure AlignedPair.Selected (keep : Date → Bool) (pair kept : AlignedPair) : Prop where
  ascending : pair.dates.Pairwise (· < ·)
  dates : kept.dates = pair.dates.filter keep
  lengthLeft : pair.left.length = pair.dates.length
  lengthRight : pair.right.length = pair.dates.length
  left : kept.left = keepCells keep pair.dates pair.left
  right : kept.right = keepCells keep pair.dates pair.right

theorem agree_alignPair_selected {l l' r r' : Table} (hl : l.Selected keep l')
    (hr : r.Selected keep r') :
    Agree (AlignedPair.Selected keep) (alignPair l r) (alignPair l' r') := by
  have hdates : unionDates [l', r'] = (unionDates [l, r]).filter keep :=
    unionDates_selected (.cons hl (.cons hr .nil))
  refine (agree_valueColumn hl.columns).bind fun left left' hleft => ?_
  refine (agree_valueColumn hr.columns).bind fun right right' hright => .ok ?_
  refine ⟨pairwise_unionDates _, hdates, length_reindex .., length_reindex .., ?_, ?_⟩
  · rw [hdates, hl.dates, hleft.2.2]
    exact reindex_keepCells _ _
  · rw [hdates, hr.dates, hright.2.2]
    exact reindex_keepCells _ _

theorem agree_combine_selected (op : Operator) (fillMissing : Bool) {l l' r r' : Value}
    (hl : Value.Related (Selected keep) l l') (hr : Value.Related (Selected keep) r r') :
    Agree (Value.Related (Selected keep)) (combine op fillMissing l r)
      (combine op fillMissing l' r') := by
  refine agree_combine_of (fun l l' r r' hl hr => ?_) (fun t t' x ht => ?_) (fun t t' x ht => ?_) hl hr
  · refine ((agree_alignPair_selected hl hr).mapError _).bind fun pair kept hpair => ?_
    dsimp only
    rw [hpair.dates, hpair.left, hpair.right, ← keepCells_zipWith]
    have hlength : (pair.left.zipWith (op.applyCells fillMissing) pair.right).length =
        pair.dates.length := by
      rw [List.length_zipWith, hpair.lengthLeft, hpair.lengthRight, Nat.min_self]
    exact (agree_single_selected hpair.ascending hlength resultColumn).bind_series
  · exact agree_broadcast_selected ht _
  · exact agree_broadcast_selected ht _

theorem agree_aggregateRows_selected (hfill : c.fillMissing = c'.fillMissing)
    {tables tables' : List Table} (h : List.Forall₂ (Selected keep) tables tables') (name : String)
    (f : List Float → Float) :
    Agree (Value.Related (Selected keep)) (aggregateRows name f tables c)
      (aggregateRows name f tables' c') := by
  refine agree_aggregateRows_of (fun t t' ht => (agree_valueColumn ht.columns).mono fun _ _ _ => trivial)
    (fun ts ts' => agree_joinTables_selected) (fun t t' ht => ?_) h
  rw [ht.dates, ← hfill, ht.map_rows (aggregateRow c.fillMissing f)]
  refine agree_single_selected ht.ascending ?_ name
  rw [← map_fst_rows, List.length_map, List.length_map]

/-- A context without bounds and frequency, and the same with bounds. -/
structure Context.Bounds (start stop : Option Date) (c c' : Context) : Prop where
  unbounded : c.start = none ∧ c.stop = none
  bounded : c'.start = start ∧ c'.stop = stop
  frequency : c.frequency = none ∧ c'.frequency = none
  source : c.source = c'.source
  fillMissing : c.fillMissing = c'.fillMissing

namespace Context.Bounds

variable {start stop : Option Date}

theorem conform_left (h : Bounds start stop c c') (ht : t.IsValid) : c.conform t = .ok t := by
  have hall : t.within none none = t := ht.keepRows_eq_self fun _ _ => rfl
  rw [conform, h.unbounded.1, h.unbounded.2, h.frequency.1, Table.conform, hall]

theorem conform_right (h : Bounds start stop c c') (t : Table) :
    c'.conform t = .ok (t.within start stop) := by
  rw [conform, h.bounded.1, h.bounded.2, h.frequency.2, Table.conform]

end Context.Bounds

def isWithin (start stop : Option Date) (date : Date) : Bool :=
  start.all (· ≤ date) && stop.all (date ≤ ·)

def RunRelation.within (start stop : Option Date) : RunRelation where
  Settings _ := False
  Contexts := Context.Bounds start stop
  Supplied _ _ := False
  Tables _ _ := Selected (isWithin start stop)
  Provenances _ _ := True

theorem simulation_within (start stop : Option Date) {functions : FunctionRegistry}
    {sources : SourceRegistry}
    (hfunctions : functions.DrawnFrom (aggregateFunctions ++ numberFunctions))
    (hsources : sources.Keeps Table.IsValid) :
    Simulation (.within start stop) functions sources sources where
  leaf _ _ := trivial
  node _ _ _ _ := trivial
  supplied _ _ _ := False.elim
  source h := h.source
  overlay _ _ := False.elim
  contains _ := rfl
  fetch h id series := by
    refine (hsources.related.agree_fetch ?_ id series).mono fun _ _ hr => ⟨hr.1, trivial⟩
    rintro t _ ⟨ht, rfl⟩
    rw [h.conform_left ht, h.conform_right]
    exact .ok (ht.selected_keepRows _)
  combine h op _ _ _ _ hl hr := h.fillMissing ▸ agree_combine_selected op _ hl hr
  call h function hf := by
    rcases List.mem_append.1 (hfunctions function hf) with hf | hf
    · exact Function.respects_aggregate
        (fun name f _ _ hts => agree_aggregateRows_selected h.fillMissing hts name f)
        (fun _ _ => agree_joinTables_selected) hf
    · exact Function.respects_number (fun f _ _ ht => ht.mapValues f) hf

/-- A formula without options and placeholders over pointwise functions fails with the same error, or
has the same number or text, or a series of which the run with bounds has the rows within them. -/
theorem Interpreter.evaluate_within (interpreter : Interpreter)
    (hfunctions : interpreter.functions.DrawnFrom (aggregateFunctions ++ numberFunctions))
    (hsources : interpreter.sources.Keeps Table.IsValid) (formula : String)
    (hoptions : '#' ∉ formula.toList) (hplaceholders : ¬ ['%', 'd'] <:+: formula.toList)
    (context : Context) (hfrequency : context.frequency = none) (start stop : Option Date)
    (tables : List Table) :
    Agree (fun result bounded => Value.Related
        (fun table cut => cut = table.within start stop) result.value bounded.value)
      (interpreter.evaluate formula { context with start := none, stop := none } tables)
      (interpreter.evaluate formula { context with start := start, stop := stop } tables) := by
  have hbounds : Context.Bounds start stop { context with start := none, stop := none }
      { context with start := start, stop := stop } :=
    ⟨⟨rfl, rfl⟩, ⟨rfl, rfl⟩, ⟨hfrequency, hfrequency⟩, rfl, rfl⟩
  cases tables with
  | nil =>
    refine ((simulation_within start stop hfunctions hsources).agree_evaluate hbounds .nil formula
      (Expr.everySetting_parse _ hoptions)).mono fun result bounded h => ?_
    exact h.1.mono fun _ _ ht => ht.eq
  | cons table tables =>
    -- No table is asked for, so that both runs end before anything is read.
    unfold evaluate
    dsimp only
    split
    · exact .error _
    · cases hcount : countPlaceholders formula.toList with
      | error e => exact .error e
      | ok n =>
        obtain rfl := countPlaceholders_eq_zero hplaceholders hcount
        exact .error _

def FunctionRegistry.pointwise : FunctionRegistry :=
  ⟨byName (aggregateFunctions ++ numberFunctions), byName []⟩

theorem drawnFrom_pointwise :
    FunctionRegistry.pointwise.DrawnFrom (aggregateFunctions ++ numberFunctions) := by
  have hdrawn := FunctionRegistry.drawnFrom_byName (aggregateFunctions ++ numberFunctions) []
  rwa [List.append_nil] at hdrawn

/-- Of two months the bounds leave the second one, in both columns of a join. -/
theorem Interpreter.evaluate_within_join :
    evaluate ⟨.pointwise, .holding "GDP" (monthly none (some (-4)))⟩ "MERGE(GDP, ABS(GDP))" .default
        [] =
      .ok ⟨.series ⟨twoMonths.dates,
          [⟨"GDP", [none, some (-4)]⟩, ⟨"GDP_2", [none, some 4]⟩]⟩,
        .node "MERGE" [fetchedMonths, .node "ABS" [fetchedMonths]]⟩ ∧
    ∃ provenance, evaluate ⟨.pointwise, .holding "GDP" (monthly none (some (-4)))⟩
        "MERGE(GDP, ABS(GDP))" { Context.default with start := some ⟨2020, 2, 1, by decide⟩ } [] =
      .ok ⟨.series ⟨[⟨2020, 2, 1, by decide⟩], [⟨"GDP", [some (-4)]⟩, ⟨"GDP_2", [some 4]⟩]⟩,
        provenance⟩ := by
  have hresult : evaluate ⟨.pointwise, .holding "GDP" (monthly none (some (-4)))⟩
      "MERGE(GDP, ABS(GDP))" .default [] =
        .ok ⟨.series ⟨twoMonths.dates,
            [⟨"GDP", [none, some (-4)]⟩, ⟨"GDP_2", [none, some 4]⟩]⟩,
          .node "MERGE" [fetchedMonths, .node "ABS" [fetchedMonths]]⟩ :=
    evaluate_of_evaluateTo 3 rfl
  have hsource : (monthly none (some (-4))).IsValid := isValid_monthlyAs rfl rfl
  have hagree := evaluate_within ⟨.pointwise, .holding "GDP" (monthly none (some (-4)))⟩
    drawnFrom_pointwise (SourceRegistry.keeps_holding hsource "GDP") "MERGE(GDP, ABS(GDP))"
    (by decide +kernel) (by decide +kernel) .default rfl (some ⟨2020, 2, 1, by decide⟩) none []
  obtain ⟨⟨bounded, provenance⟩, hbounded, hrelated⟩ := hagree.of_ok hresult
  refine ⟨hresult, provenance, ?_⟩
  cases hrelated with
  | series h =>
    rw [h] at hbounded
    exact hbounded

end TimeSeries
