import TimeSeries.Proofs.Formula.Aggregating
import TimeSeries.Proofs.Formula.Changes
import TimeSeries.Proofs.Formula.Rowwise
import TimeSeries.Proofs.Formula.Valid

set_option autoImplicit false

/-!
# Filling in missing operands

Letting missing operands count changes a result only where it was missing. Options may switch it on
or off below any expression; there the two runs are the same.
-/
namespace TimeSeries

/-- The same cell, or, where the contexts differ, one that was missing. -/
def CellRelation.filling (differ : Prop) : CellRelation where
  holds _ a b := a = b ∨ differ ∧ a = none
  refl _ _ := Or.inl rfl
  strict := by
    rintro f hf - a b (rfl | ⟨hdiffer, rfl⟩)
    · exact Or.inl rfl
    · exact Or.inr ⟨hdiffer, hf⟩
  strict₂ := by
    rintro f hleft hright - a b a' b' (rfl | ⟨hdiffer, rfl⟩) (rfl | ⟨hdiffer', rfl⟩)
    · exact Or.inl rfl
    · exact Or.inr ⟨hdiffer', hright a⟩
    · exact Or.inr ⟨hdiffer, hleft a'⟩
    · exact Or.inr ⟨hdiffer, hleft none⟩
  later _ _ _ _ _ h := h

/-- The same settings, except that only in the second context missing operands may count. -/
structure Context.Fills (c c' : Context) : Prop where
  source : c.source = c'.source
  start : c.start = c'.start
  stop : c.stop = c'.stop
  frequency : c.frequency = c'.frequency
  overrides : c.overrides = c'.overrides
  fillMissing : c.fillMissing = true → c'.fillMissing = true

def Context.filling (c c' : Context) : CellRelation := .filling (c.fillMissing ≠ c'.fillMissing)

variable {c c' : Context}

theorem Context.Fills.differ (h : c.Fills c') (hdiffer : c.fillMissing ≠ c'.fillMissing) :
    c.fillMissing = false ∧ c'.fillMissing = true := by
  cases hc : c.fillMissing with
  | false =>
    rw [hc] at hdiffer
    exact ⟨rfl, Bool.eq_true_of_not_eq_false (Ne.symm hdiffer)⟩
  | true => exact absurd (hc.trans (h.fillMissing hc).symm) hdiffer

theorem Operator.applyCells_false {op : Operator} {l r : Cell} (h : l = none ∨ r = none) :
    op.applyCells false l r = none := by
  rcases h with rfl | rfl
  · cases r <;> rfl
  · cases l <;> rfl

theorem aggregateRow_false {f : List Float → Float} {row : List Cell} (h : none ∈ row) :
    aggregateRow false f row = none := by
  refine Option.eq_none_iff_forall_ne_some.2 fun x hx => ?_
  obtain ⟨-, hfill | hall, -⟩ := aggregateRow_eq_some.1 hx
  · cases hfill
  · exact hall h

theorem aggregateRow_observed {f : List Float → Float} {row : List Cell} (h : none ∉ row)
    (fillMissing : Bool) : aggregateRow fillMissing f row = aggregateRow true f row := by
  refine Option.ext fun x => ?_
  rw [aggregateRow_eq_some, aggregateRow_eq_some]
  simp [h]

theorem Context.Fills.carries (h : c.Fills c') : (c.filling c').Carries c c' where
  operator := by
    intro op date l l' r r' hl hr
    by_cases hdiffer : c.fillMissing = c'.fillMissing
    · obtain rfl : l = l' := hl.resolve_right fun hright => hright.1 hdiffer
      obtain rfl : r = r' := hr.resolve_right fun hright => hright.1 hdiffer
      exact Or.inl (by rw [hdiffer])
    · obtain ⟨hc, hc'⟩ := h.differ hdiffer
      rw [hc, hc']
      -- The first run observes a result only when it observes both operands, as the second one does.
      by_cases hnone : l = none ∨ r = none
      · exact Or.inr ⟨hdiffer, Operator.applyCells_false hnone⟩
      · rw [not_or] at hnone
        obtain rfl : l = l' := hl.resolve_right fun hright => hnone.1 hright.2
        obtain rfl : r = r' := hr.resolve_right fun hright => hnone.2 hright.2
        obtain ⟨x, rfl⟩ := Option.ne_none_iff_exists'.1 hnone.1
        obtain ⟨y, rfl⟩ := Option.ne_none_iff_exists'.1 hnone.2
        exact Or.inl rfl
  aggregate := by
    intro f date row row' hrow
    by_cases hdiffer : c.fillMissing = c'.fillMissing
    · obtain rfl : row = row' := List.forall₂_eq_eq_eq ▸ hrow.imp fun _ _ hcell =>
        hcell.resolve_right fun hright => hright.1 hdiffer
      exact Or.inl (by rw [hdiffer])
    · obtain ⟨hc, hc'⟩ := h.differ hdiffer
      rw [hc, hc']
      by_cases hnone : none ∈ row
      · exact Or.inr ⟨hdiffer, aggregateRow_false hnone⟩
      · obtain rfl : row = row' := by
          have hobserved := (List.forall₂_and_left (p := (· ≠ none)) row row').2
            ⟨fun cell hcell heq => hnone (heq ▸ hcell), hrow⟩
          exact List.forall₂_eq_eq_eq ▸ hobserved.imp fun cell _ hcell =>
            hcell.2.resolve_right fun hright => hcell.1 hright.2
        exact Or.inl (aggregateRow_observed hnone false)

/-- A change keeps the contexts related and does not tell them further apart. -/
theorem Context.Fills.applyTo (h : c.Fills c') (change : Change) :
    (change.applyTo c).Fills (change.applyTo c') ∧
      ((change.applyTo c).fillMissing ≠ (change.applyTo c').fillMissing →
        c.fillMissing ≠ c'.fillMissing) := by
  cases change with
  | source => exact ⟨{ h with source := rfl }, id⟩
  | start => exact ⟨{ h with start := rfl }, id⟩
  | stop => exact ⟨{ h with stop := rfl }, id⟩
  | frequency => exact ⟨{ h with frequency := rfl }, id⟩
  -- The option itself sets both contexts alike, and what is below it runs the same twice.
  | fillMissing => exact ⟨{ h with fillMissing := id }, fun hne => absurd rfl hne⟩
  | override key value =>
    exact ⟨{ h with overrides := congrArg (·.insert key value) h.overrides }, id⟩

theorem Context.Fills.agree_applyOption (h : c.Fills c') (setting : Setting) :
    Agree (fun d d' => d.Fills d' ∧ (d.fillMissing ≠ d'.fillMissing → c.fillMissing ≠ c'.fillMissing))
      (c.applyOption setting.1 setting.2) (c'.applyOption setting.1 setting.2) := by
  rw [applyOption_eq, applyOption_eq]
  exact .map_same _ h.applyTo

theorem Context.Fills.agree_applySettings (h : c.Fills c') (settings : List Setting) :
    Agree (fun d d' => d.Fills d' ∧ (d.fillMissing ≠ d'.fillMissing → c.fillMissing ≠ c'.fillMissing))
      (c.applySettings settings) (c'.applySettings settings) := by
  unfold applySettings
  induction settings generalizing c c' with
  | nil => exact .ok ⟨h, id⟩
  | cons setting settings ih =>
    rw [List.foldlM_cons, List.foldlM_cons]
    refine (h.agree_applyOption setting).bind fun d d' hd => (ih hd.1).mono fun e e' he => ?_
    exact ⟨he.1, hd.2 ∘ he.2⟩

theorem Context.Fills.conform_eq (h : c.Fills c') (table : Table) :
    c.conform table = c'.conform table := by
  rw [conform, conform, h.start, h.stop, h.frequency]

/-- A run is related to one whose context fills, if only missing cells differ. -/
def RunRelation.filling : RunRelation where
  Settings _ := True
  Contexts := Context.Fills
  Supplied := Table.SameValid
  Tables c c' := Table.Rowwise (c.filling c')
  Provenances := Eq

theorem simulation_filling {functions : FunctionRegistry} {sources : SourceRegistry}
    (hfunctions : functions.DrawnFrom builtIns) (hsources : sources.Keeps Table.IsValid) :
    Simulation .filling functions sources sources where
  leaf _ _ := rfl
  node _ _ _ h := congrArg _ (List.forall₂_eq_eq_eq ▸ h)
  supplied _ _ _ h := h.2 ▸ h.1.rowwise _
  source h := h.source
  overlay h settings _ := (h.agree_applySettings settings).mono fun _ _ hd =>
    ⟨hd.1, fun _ _ ht => ht.mono fun _ _ _ => Or.imp_right (And.imp_left hd.2)⟩
  contains _ := rfl
  fetch {c c'} h id series := by
    refine (hsources.related.agree_fetch (S := Table.SameValid) ?_ id series).mono ?_
    · rintro t _ ⟨ht, rfl⟩
      rw [← h.conform_eq]
      exact .refl fun result hr => ⟨ht.of_conform hr, rfl⟩
    · rintro ⟨t, tree⟩ ⟨t', tree'⟩ ⟨⟨ht, heq⟩, htree⟩
      exact ⟨heq ▸ ht.rowwise _, htree (congrArg Table.rowCount heq)⟩
  combine h op _ _ _ _ hl hr := agree_combine h.carries op hl hr
  call h function hf := by
    refine Function.respects_builtIn h.carries.respectsOperations (Or.inr ?_) (hfunctions _ hf)
    exact fun periods t t' ht => leadSeries_congr ht (fun _ _ _ _ hcell => hcell) periods

/-- The same dates and names, and every cell that is observed in the first table the same in the
second. -/
structure Table.FilledIn (table filled : Table) : Prop where
  dates : table.dates = filled.dates
  columns : List.Forall₂ (fun column column' => column.name = column'.name ∧
    List.Forall₂ (fun cell cell' => ∀ x, cell = some x → cell' = some x) column.cells column'.cells)
    table.columns filled.columns

theorem Table.Rowwise.filledIn {differ : Prop} {t t' : Table}
    (h : Table.Rowwise (.filling differ) t t') : t.FilledIn t' := by
  refine ⟨h.dates, h.columns.imp fun column column' hc => ⟨hc.1, ?_⟩⟩
  refine (hc.2.forall₂ fun _ _ _ _ hcell => hcell).imp fun cell cell' hcell x hx => ?_
  rcases hcell ⟨2020, 1, 1, by decide⟩ with rfl | ⟨-, rfl⟩
  · exact hx
  · cases hx

/-- Letting missing operands count gives the same error, or the same provenance and the same number,
text or series, but for cells of the series that were missing. -/
theorem Interpreter.evaluate_fillMissing (interpreter : Interpreter)
    (hfunctions : interpreter.functions.DrawnFrom builtIns)
    (hsources : interpreter.sources.Keeps Table.IsValid) (formula : String) (context : Context)
    (tables : List Table) (htables : ∀ table ∈ tables, table.IsValid) :
    Agree (fun result filled => Value.Related Table.FilledIn result.value filled.value ∧
        result.provenance = filled.provenance)
      (interpreter.evaluate formula { context with fillMissing := false } tables)
      (interpreter.evaluate formula { context with fillMissing := true } tables) := by
  have hfills : Context.Fills { context with fillMissing := false }
      { context with fillMissing := true } :=
    ⟨rfl, rfl, rfl, rfl, rfl, fun _ => rfl⟩
  have hsupplied : List.Forall₂ Table.SameValid tables tables :=
    List.forall₂_same.2 fun t ht => ⟨htables t ht, rfl⟩
  refine ((simulation_filling hfunctions hsources).agree_evaluate hfills hsupplied formula
    (Expr.everySetting_of_forall (fun _ => trivial) _)).mono fun result filled h => ?_
  exact ⟨h.1.mono fun _ _ ht => ht.filledIn, h.2⟩

/-- A row-wise sum keeps the month that both series have and gets the one that only one of them has. -/
theorem Interpreter.evaluate_fillMissing_sum :
    evaluate ⟨.standard, .holding "GDP" twoMonths⟩ "SUM(GDP, %d)"
        { Context.default with fillMissing := false } [monthly (some 2) (some 3)] =
      .ok ⟨.series (monthlyAs "SUM" (some 3) none),
        .node "SUM" [fetchedMonths, .leaf "input[0]" none "input"]⟩ ∧
    evaluate ⟨.standard, .holding "GDP" twoMonths⟩ "SUM(GDP, %d)"
        { Context.default with fillMissing := true } [monthly (some 2) (some 3)] =
      .ok ⟨.series (monthlyAs "SUM" (some 3) (some 3)),
        .node "SUM" [fetchedMonths, .leaf "input[0]" none "input"]⟩ ∧
    Table.FilledIn (monthlyAs "SUM" (some 3) none) (monthlyAs "SUM" (some 3) (some 3)) := by
  have hresult : evaluate ⟨.standard, .holding "GDP" twoMonths⟩ "SUM(GDP, %d)"
      { Context.default with fillMissing := false } [monthly (some 2) (some 3)] =
        .ok ⟨.series (monthlyAs "SUM" (some 3) none),
          .node "SUM" [fetchedMonths, .leaf "input[0]" none "input"]⟩ :=
    evaluate_of_evaluateTo 2 rfl
  have hfilled : evaluate ⟨.standard, .holding "GDP" twoMonths⟩ "SUM(GDP, %d)"
      { Context.default with fillMissing := true } [monthly (some 2) (some 3)] =
        .ok ⟨.series (monthlyAs "SUM" (some 3) (some 3)),
          .node "SUM" [fetchedMonths, .leaf "input[0]" none "input"]⟩ :=
    evaluate_of_evaluateTo 2 rfl
  have hsupplied : (monthly (some 2) (some 3)).IsValid := isValid_monthlyAs rfl rfl
  have hagree := evaluate_fillMissing ⟨.standard, .holding "GDP" twoMonths⟩
    FunctionRegistry.drawnFrom_standard (SourceRegistry.keeps_holding isValid_twoMonths "GDP")
    "SUM(GDP, %d)" .default [monthly (some 2) (some 3)] (by simp [hsupplied])
  rw [hresult, hfilled] at hagree
  refine ⟨hresult, hfilled, ?_⟩
  cases hagree with
  | ok h =>
    cases h.1 with
    | series hfilled => exact hfilled

end TimeSeries
