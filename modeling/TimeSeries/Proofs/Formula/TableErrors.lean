import TimeSeries.Proofs.Formula.Safe
import TimeSeries.Proofs.Formula.Valid
import TimeSeries.Proofs.Formula.Visits

set_option autoImplicit false

/-!
# Errors about tables

All tables that an evaluation comes by are in shape, when those that are supplied and those that the
sources keep are. So no formula fails about the dates, lengths or names of a table that it makes.
-/
namespace TimeSeries

namespace Visit

variable {interpreter : Interpreter} {visit visit' : Visit} {e : FormulaError}

def IsShaped (visit : Visit) : Prop := ∀ table ∈ visit.supply.tables, table.IsShaped

theorem Remaining.tables_subset {start : Nat} {arguments : List (List Char)} {supply : Supply}
    {results : List Evaluation} (h : Remaining interpreter visit start arguments supply results) :
    supply.tables ⊆ visit.supply.tables := by
  induction h with
  | first => exact List.Subset.refl _
  | next _ _ _ ih => exact List.Subset.trans (List.drop_subset _ _) ih

theorem Calls.tables_subset (h : Calls interpreter visit visit') :
    visit'.supply.tables ⊆ visit.supply.tables := by
  cases h with
  | left => exact List.take_subset _ _
  | right => exact List.drop_subset _ _
  | head => exact List.take_subset _ _
  | group => exact List.Subset.refl _
  | argument hr => exact List.Subset.trans (List.take_subset _ _) hr.tables_subset

theorem Calls.isShaped (h : Calls interpreter visit visit') (hshaped : visit.IsShaped) :
    visit'.IsShaped :=
  fun table ht => hshaped table (h.tables_subset ht)

theorem Reaches.isShaped (h : Reaches interpreter visit visit') (hshaped : visit.IsShaped) :
    visit'.IsShaped := by
  induction h with
  | refl => exact hshaped
  | tail _ hcall ih => exact hcall.isShaped ih

section Fails

variable (hfunctions : interpreter.functions.DrawnFrom builtIns)
  (hsources : interpreter.sources.Keeps Table.IsShaped)

include hfunctions hsources

theorem isShaped_value (hshaped : visit.IsShaped) {result : Evaluation}
    (h : visit.value interpreter = .ok result) : result.value.IsShaped := by
  cases hvalue : result.value with
  | series table => exact of_evalExpr Table.isKept_isShaped hfunctions hsources hshaped h hvalue
  | number x => trivial
  | text content => trivial

theorem Fails.onlyColumnCount (h : Fails interpreter visit e) (hshaped : visit.IsShaped) :
    e.OnlyColumnCount := by
  cases h with
  | refused hrefused => exact hrefused.onlyColumnCount
  | supply _ he =>
    unfold Interpreter.supplied at he
    split at he <;> cases he
    trivial
  | source _ he => exact onlyColumnCount_of_fetch hsources he
  | operator hleft hl hright hr he =>
    have hlshaped := isShaped_value hfunctions hsources (hleft.isShaped hshaped) hl
    have hrshaped := isShaped_value hfunctions hsources (hright.isShaped hshaped) hr
    rcases combine_eq_error he with hrefused | ⟨cause, rfl, hcause⟩
    · exact hrefused.onlyColumnCount
    · exact hcause hlshaped hrshaped
  | function hfinished _ he =>
    refine onlyColumnCount_of_call hfunctions ?_ he
    rw [List.forall_mem_map]
    intro result hresult
    obtain ⟨argument, hcall, hvalue⟩ := hfinished.exists_calls result hresult
    exact isShaped_value hfunctions hsources (hcall.isShaped hshaped) hvalue

end Fails

end Visit

theorem Interpreter.onlyColumnCount_of_evaluate {interpreter : Interpreter}
    (hfunctions : interpreter.functions.DrawnFrom builtIns)
    (hsources : interpreter.sources.Keeps Table.IsShaped) {formula : String} {context : Context}
    {tables : List Table} (htables : ∀ table ∈ tables, table.IsShaped) {e : FormulaError}
    (h : interpreter.evaluate formula context tables = .error e) : e.OnlyColumnCount := by
  rcases evaluate_eq_error h with hrefused | ⟨expected, -, -, rfl⟩ | ⟨hscans, he⟩
  · exact hrefused.onlyColumnCount
  · trivial
  · obtain ⟨visit, hreach, -, hfails⟩ := hscans.exists_fails he
    exact hfails.onlyColumnCount hfunctions hsources (hreach.isShaped htables)

/-- Over the built-in functions, sources in memory and tables in shape, no formula fails about a
table but for its number of columns, and no source fails about a table. A built-in function of one
series has a value exactly for the arguments that it accepts. -/
theorem table_errors_unreachable :
    (∀ interpreter : Interpreter, interpreter.functions.DrawnFrom builtIns →
      interpreter.sources.Keeps Table.IsShaped → ∀ (formula : String) (context : Context)
      (tables : List Table), (∀ table ∈ tables, table.IsShaped) →
      (∀ cause, interpreter.evaluate formula context tables = .error (.table cause) →
        (∃ count, cause = .ambiguousColumn count) ∨ ∃ name, cause = .columnNotFound name) ∧
      ∀ source series cause, interpreter.evaluate formula context tables ≠
        .error (.sourceFetch source series (.table cause))) ∧
    ∀ function ∈ builtIns, (∀ run, function.transformation ≠ .seriesList run) →
      ∀ (arguments : List Value) (context : Context),
      (∀ table, .series table ∈ arguments → table.IsShaped) →
      ((∃ value, function.invoke arguments context = .ok value) ↔
        function.check arguments = .ok ()) := by
  refine ⟨fun interpreter hfunctions hsources formula context tables htables => ⟨?_, ?_⟩,
    fun function hf hone arguments context hshaped => Function.exists_invoke_iff hf hone hshaped⟩
  · intro cause he
    have hcause : cause.IsColumnCount :=
      interpreter.onlyColumnCount_of_evaluate hfunctions hsources htables he
    cases cause with
    | columnNotFound name => exact .inr ⟨name, rfl⟩
    | ambiguousColumn count => exact .inl ⟨count, rfl⟩
    | _ => exact hcause.elim
  · exact fun source series cause he =>
      interpreter.onlyColumnCount_of_evaluate hfunctions hsources htables he

/-- A sum over a table of two columns fails for their number, and a change of one series has a
value. -/
theorem table_errors_unreachable_join :
    (∃ cause, Interpreter.evaluate ⟨.standard, .holding "GDP" twoMonths⟩ "SUM(MERGE(GDP, %d))" .default
        [twoMonths] = .error (.table cause) ∧
      ((∃ count, cause = .ambiguousColumn count) ∨ ∃ name, cause = .columnNotFound name)) ∧
    ∃ function ∈ builtIns, function.name = "DIFF" ∧
      ∃ value, function.invoke [.series twoMonths] .default = .ok value := by
  have heval : Interpreter.evaluate ⟨.standard, .holding "GDP" twoMonths⟩ "SUM(MERGE(GDP, %d))"
      .default [twoMonths] = .error (.table (.ambiguousColumn 2)) :=
    Interpreter.evaluate_of_evaluateTo 3 rfl
  obtain ⟨hformulas, hcalls⟩ := table_errors_unreachable
  refine ⟨⟨_, heval, ?_⟩, ?_⟩
  · exact (hformulas _ FunctionRegistry.drawnFrom_standard
      (SourceRegistry.keeps_holding isValid_twoMonths.isShaped "GDP") _ _ _
      (by simp [isValid_twoMonths.isShaped])).1 _ heval
  · have hmem : ∀ function ∈ changeFunctions, function ∈ builtIns := fun _ hf =>
      List.mem_append_left _ (List.mem_append_left _ (List.mem_append_left _
        (List.mem_append_left _ hf)))
    refine ⟨_, hmem _ List.mem_cons_self, rfl, ?_⟩
    refine (hcalls _ (hmem _ List.mem_cons_self) nofun _ _ ?_).2 rfl
    simp [isValid_twoMonths.isShaped]

end TimeSeries
