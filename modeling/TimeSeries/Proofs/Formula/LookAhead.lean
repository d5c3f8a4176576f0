import TimeSeries.Proofs.Calendar.Period
import TimeSeries.Proofs.Formula.Memory
import TimeSeries.Proofs.Formula.Parsing
import TimeSeries.Proofs.Formula.Rowwise

set_option autoImplicit false

/-!
# No look-ahead

Without `LEAD` the rows up to a date depend only on rows up to this date. A row of a lower frequency
is dated with the end of its period, so that it comes from no later row.
-/
namespace TimeSeries

/-- The same cell up to a date; after it anything. -/
def CellRelation.upTo (last : Date) : CellRelation where
  holds date a b := date ≤ last → a = b
  refl _ _ _ := rfl
  strict f _ _ _ _ h hdate := congrArg f (h hdate)
  strict₂ f _ _ _ _ _ _ _ h h' hdate := congrArg₂ f (h hdate) (h' hdate)
  later _ _ _ _ hlt h hdate := h (Date.le_trans (Date.le_of_lt hlt) hdate)

theorem CellRelation.carries_upTo (last : Date) (context : Context) :
    (CellRelation.upTo last).Carries context context where
  operator _ _ _ _ _ _ hl hr hdate := by rw [hl hdate, hr hdate]
  aggregate _ _ _ _ hrow hdate :=
    congrArg _ (List.forall₂_eq_eq_eq ▸ hrow.imp fun _ _ hcell => hcell hdate)

theorem CellsRelated.eq_of_forall_le {last : Date} {dates : List Date} {as bs : List Cell}
    (h : CellsRelated (CellRelation.upTo last).holds dates as bs) (hle : ∀ date ∈ dates, date ≤ last) :
    as = bs := by
  induction h with
  | nil => rfl
  | cons head _ ih =>
    rw [head (hle _ List.mem_cons_self), ih fun date hd => hle date (List.mem_cons_of_mem _ hd)]

theorem CellsRelated.collapse {last : Date} {dates : List Date} {as bs : List Cell}
    (h : CellsRelated (CellRelation.upTo last).holds dates as bs) (frequency : Frequency)
    (aggregation : Aggregation) (periods : List Date) :
    CellsRelated (CellRelation.upTo last).holds periods
      (periods.map fun period => aggregation.apply
        ((Table.keepCells (fun date => periodEnd frequency date = period) dates as).filterMap id))
      (periods.map fun period => aggregation.apply
        ((Table.keepCells (fun date => periodEnd frequency date = period) dates bs).filterMap id)) := by
  have hperiod : ∀ period ∈ periods, period ≤ last →
      Table.keepCells (fun date => periodEnd frequency date = period) dates as =
        Table.keepCells (fun date => periodEnd frequency date = period) dates bs := by
    intro period _ hlast
    refine (h.keepCells _).eq_of_forall_le fun date hdate => ?_
    -- A kept date lies in this period, and so before its end.
    have hend : periodEnd frequency date = period := of_decide_eq_true (List.mem_filter.1 hdate).2
    exact Date.le_trans (hend ▸ le_periodEnd frequency date) hlast
  have hrelated := CellsRelated.of_map (R := (CellRelation.upTo last).holds)
    fun period hp hlast => congrArg (fun cells => aggregation.apply (cells.filterMap id))
      (hperiod period hp hlast)
  rwa [List.map_id'] at hrelated

namespace Table

variable {last : Date} {t t' : Table}

theorem Rowwise.agree_resample (h : Rowwise (.upTo last) t t') (frequency : Frequency)
    (aggregation : Aggregation) :
    Agree (Rowwise (.upTo last)) (t.resample frequency aggregation)
      (t'.resample frequency aggregation) := by
  rw [resample, resample, ← h.dates]
  exact h.agree_ofColumns_map (pairwise_distinctDates _) fun _ _ hcells =>
    hcells.collapse frequency aggregation _

theorem Rowwise.agree_conform (h : Rowwise (.upTo last) t t') (start stop : Option Date)
    (frequency : Option Frequency) :
    Agree (Rowwise (.upTo last)) (t.conform start stop frequency)
      (t'.conform start stop frequency) := by
  have hwithin : Rowwise (.upTo last) (t.within start stop) (t'.within start stop) := h.keepRows _
  unfold conform
  dsimp only
  cases frequency with
  | none => exact .ok hwithin
  | some target =>
    dsimp only
    rw [← hwithin.rowCount_eq, ← hwithin.dates]
    split
    · exact .ok hwithin
    · refine .bind_same _ fun own => ?_
      split
      · exact hwithin.agree_resample target .mean
      · exact .ok hwithin

end Table

def RunRelation.upTo (last : Date) : RunRelation where
  Settings _ := True
  Contexts := Eq
  Supplied := Table.Rowwise (.upTo last)
  Tables _ _ := Table.Rowwise (.upTo last)
  Provenances := Eq

theorem simulation_upTo {functions : FunctionRegistry} {sources sources' : SourceRegistry}
    {last : Date} (hfunctions : functions.DrawnFrom (builtIns.filter (·.name ≠ "LEAD")))
    (hsources : sources.Related (Table.Rowwise (.upTo last)) sources') :
    Simulation (.upTo last) functions sources sources' where
  leaf _ _ := rfl
  node _ _ _ h := congrArg _ (List.forall₂_eq_eq_eq ▸ h)
  supplied _ _ _ h := h
  source h := h ▸ rfl
  overlay := by
    rintro c _ rfl settings -
    exact .refl fun d _ => ⟨rfl, fun _ _ h => h⟩
  contains := hsources.contains_eq
  fetch := by
    rintro c _ rfl id series
    refine (hsources.agree_fetch (fun t t' ht => ht.agree_conform _ _ _) id series).mono ?_
    exact fun r r' h => ⟨h.1, h.2 h.1.rowCount_eq⟩
  combine := by
    rintro c _ rfl op l l' r r' hl hr
    exact agree_combine (CellRelation.carries_upTo last c) op hl hr
  call := by
    rintro c _ rfl function hf
    obtain ⟨hmem, hname⟩ := List.mem_filter.1 (hfunctions function hf)
    exact Function.respects_builtIn (CellRelation.carries_upTo last c).respectsOperations
      (Or.inl (of_decide_eq_true hname)) hmem

/-- Over tables that are the same up to a date, in shape as a whole and in cells up to the date, a
formula without `LEAD` fails with the same error or has the same provenance and the same number, text
or series up to the date. -/
theorem Interpreter.evaluate_upTo (last : Date) {functions : FunctionRegistry}
    (hfunctions : functions.DrawnFrom (builtIns.filter (·.name ≠ "LEAD")))
    {sources sources' : SourceRegistry}
    (hsources : sources.Related (Table.Rowwise (.upTo last)) sources') (formula : String)
    (context : Context) {tables tables' : List Table}
    (htables : List.Forall₂ (Table.Rowwise (.upTo last)) tables tables') :
    Agree (fun result result' =>
        Value.Related (Table.Rowwise (.upTo last)) result.value result'.value ∧
        result.provenance = result'.provenance)
      (evaluate ⟨functions, sources⟩ formula context tables)
      (evaluate ⟨functions, sources'⟩ formula context tables') :=
  (simulation_upTo hfunctions hsources).agree_evaluate (c := context) rfl htables formula
    (Expr.everySetting_of_forall (fun _ => trivial) _)

def FunctionRegistry.withoutLead : FunctionRegistry :=
  ⟨byName ((changeFunctions ++ shiftFunctions ++ aggregateFunctions ++ numberFunctions).filter
    (·.name ≠ "LEAD")), byName legacyFunctions⟩

theorem drawnFrom_withoutLead :
    FunctionRegistry.withoutLead.DrawnFrom (builtIns.filter (·.name ≠ "LEAD")) := by
  have hlegacy : legacyFunctions.filter (·.name ≠ "LEAD") = legacyFunctions := rfl
  rw [builtIns, List.filter_append, hlegacy]
  exact FunctionRegistry.drawnFrom_byName _ _

def figures (second : Float) : Table :=
  monthly (some 1) (some second)

theorem rowwise_figures (second revised : Float) :
    (figures second).Rowwise (.upTo ⟨2020, 1, 1, by decide⟩) (figures revised) := by
  refine ⟨List.pairwise_pair.2 (by decide), rfl, .cons ⟨rfl, ?_⟩ .nil⟩
  exact .cons (fun _ => rfl) (.cons (fun hlast => absurd hlast (by decide)) .nil)

/-- A revision of the second month leaves the first month of a difference as it was. -/
theorem Interpreter.evaluate_upTo_revision :
    ∃ result revised,
      evaluate ⟨.withoutLead, .holding "GDP" (figures 2)⟩ "DIFF(GDP)-%d" .default [figures 2] =
        .ok result ∧
      evaluate ⟨.withoutLead, .holding "GDP" (figures 3)⟩ "DIFF(GDP)-%d" .default [figures 3] =
        .ok revised ∧
      Value.Related (Table.Rowwise (.upTo ⟨2020, 1, 1, by decide⟩)) result.value revised.value ∧
        result.provenance = revised.provenance := by
  have hresult : evaluate ⟨.withoutLead, .holding "GDP" (figures 2)⟩ "DIFF(GDP)-%d" .default
      [figures 2] = .ok ⟨.series (monthlyAs "VALUE" none (some (-1))),
        .node "subtraction" [.node "DIFF" [fetchedMonths], .leaf "input[0]" none "input"]⟩ :=
    evaluate_of_evaluateTo 3 rfl
  have hagree := evaluate_upTo ⟨2020, 1, 1, by decide⟩ drawnFrom_withoutLead
    (SourceRegistry.related_holding (rowwise_figures 2 3) "GDP") "DIFF(GDP)-%d" .default
    (.cons (rowwise_figures 2 3) .nil)
  obtain ⟨revised, hrevised, hrelated⟩ := hagree.of_ok hresult
  exact ⟨_, revised, hresult, hrevised, hrelated⟩

end TimeSeries
