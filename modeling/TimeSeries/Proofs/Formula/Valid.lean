import TimeSeries.Proofs.Formula.BuiltIn
import TimeSeries.Proofs.Formula.Memory
import TimeSeries.Proofs.Formula.Parsing
import TimeSeries.Proofs.Table.Operations

set_option autoImplicit false

/-!
# Evaluation gives valid tables

Operators and aggregates check the tables that they make, and moves and functions of numbers keep
tables valid. Hence every series that a formula evaluates to is valid, when those that sources keep
and those that are supplied are.
-/
namespace TimeSeries

section Results

variable {table result : Table}

theorem liftTable_eq_ok {α : Type} {x : Except TableError α} {a : α} :
    liftTable x = .ok a ↔ x = .ok a :=
  mapError_eq_ok

theorem isValid_of_broadcast {f : Cell → Cell} (h : broadcast f table = .ok (.series result)) :
    result.IsValid := by
  obtain ⟨column, -, h⟩ := bind_eq_ok.1 h
  obtain ⟨made, hmade, h⟩ := bind_eq_ok.1 h
  cases h
  exact Table.isValid_of_single (liftTable_eq_ok.1 hmade)

theorem isValid_of_combine {op : Operator} {fillMissing : Bool} {left right : Value}
    (h : combine op fillMissing left right = .ok (.series result)) : result.IsValid := by
  cases left with
  | series l =>
    cases right with
    | series r =>
      obtain ⟨pair, -, h⟩ := bind_eq_ok.1 h
      obtain ⟨made, hmade, h⟩ := bind_eq_ok.1 h
      cases h
      exact Table.isValid_of_single (liftTable_eq_ok.1 hmade)
    | number x => exact isValid_of_broadcast h
    | text content => cases h
  | number x =>
    cases right with
    | series r => exact isValid_of_broadcast h
    | number y => cases h
    | text content => cases h
  | text content => cases h

theorem eq_ok_of_series {made : Except TableError Table}
    (h : (liftTable made).map Value.series = .ok (.series result)) : made = .ok result := by
  obtain ⟨t, ht, heq⟩ := map_eq_ok.1 h
  cases heq
  exact liftTable_eq_ok.1 ht

theorem isValid_of_changes {lag : Nat} {f : Float → Float → Cell}
    (h : changes lag f table = .ok (.series result)) : result.IsValid :=
  Table.isValid_of_mapColumns (eq_ok_of_series h)

theorem isValid_of_allMissing (h : allMissing table = .ok (.series result)) : result.IsValid :=
  Table.isValid_of_mapColumns (eq_ok_of_series h)

theorem isValid_of_aggregateRows {name : String} {f : List Float → Float} {tables : List Table}
    {context : Context} (h : aggregateRows name f tables context = .ok (.series result)) :
    result.IsValid := by
  obtain ⟨_, -, h⟩ := bind_eq_ok.1 h
  obtain ⟨joined, -, h⟩ := bind_eq_ok.1 h
  obtain ⟨made, hmade, h⟩ := bind_eq_ok.1 h
  cases h
  exact Table.isValid_of_single (liftTable_eq_ok.1 hmade)

end Results

def Table.Same (P : Table → Prop) (t t' : Table) : Prop := P t ∧ t = t'

def Table.SameValid : Table → Table → Prop := Table.Same Table.IsValid

section Same

variable {P : Table → Prop}

theorem agree_same {x : Except FormulaError Value} (h : ∀ table, x = .ok (.series table) → P table) :
    Agree (Value.Related (Table.Same P)) x x :=
  .refl fun _ hv => .refl fun table ht => ⟨h table (ht ▸ hv), rfl⟩

theorem forall₂_same_of_forall {tables : List Table} (h : ∀ table ∈ tables, P table) :
    List.Forall₂ (Table.Same P) tables tables :=
  List.forall₂_same.2 fun table ht => ⟨h table ht, rfl⟩

theorem eq_of_forall₂_same {tables tables' : List Table}
    (h : List.Forall₂ (Table.Same P) tables tables') : tables = tables' :=
  List.forall₂_eq_eq_eq ▸ h.imp fun _ _ => And.right

variable (hP : Table.IsKept P)

include hP

theorem respectsOperations_same (context : Context) :
    Function.RespectsOperations (Table.Same P) context context where
  changes := by
    rintro lag f t _ ⟨-, rfl⟩
    exact agree_same fun _ h => hP.of_isValid (isValid_of_changes h)
  yearLag := by
    rintro t _ ⟨-, rfl⟩
    rfl
  allMissing := by
    rintro t _ ⟨-, rfl⟩
    exact agree_same fun _ h => hP.of_isValid (isValid_of_allMissing h)
  size := by
    rintro t _ ⟨-, rfl⟩
    rfl
  lag := by
    rintro periods t _ ⟨ht, rfl⟩
    exact ⟨hP.shift ht _, rfl⟩
  aggregate := by
    intro name f ts ts' hts
    rw [← eq_of_forall₂_same hts]
    exact agree_same fun _ h => hP.of_isValid (isValid_of_aggregateRows h)
  join := by
    intro ts ts' hts
    rw [← eq_of_forall₂_same hts]
    exact .refl fun table h => ⟨hP.of_isValid (isValid_of_joinTables h), rfl⟩
  mapValues := by
    rintro f t _ ⟨ht, rfl⟩
    exact ⟨hP.mapValues ht f, rfl⟩

end Same

def RunRelation.same (P : Table → Prop) : RunRelation where
  Settings _ := True
  Contexts := Eq
  Supplied := Table.Same P
  Tables _ _ := Table.Same P
  Provenances := Eq

section Evaluation

variable {P : Table → Prop} (hP : Table.IsKept P) {functions : FunctionRegistry}
  {sources : SourceRegistry} (hfunctions : functions.DrawnFrom builtIns) (hsources : sources.Keeps P)

include hP hfunctions hsources

theorem simulation_same : Simulation (.same P) functions sources sources where
  leaf _ _ := rfl
  node _ _ _ h := congrArg _ (List.forall₂_eq_eq_eq ▸ h)
  supplied _ _ _ h := h
  source h := h ▸ rfl
  overlay := by
    rintro c _ rfl settings -
    exact .refl fun d _ => ⟨rfl, fun _ _ h => h⟩
  contains _ := rfl
  fetch := by
    rintro c _ rfl id series
    refine (hsources.related.agree_fetch (S := Table.Same P) ?_ id series).mono ?_
    · rintro t _ ⟨ht, rfl⟩
      exact .refl fun result hr => ⟨hP.of_conform ht hr, rfl⟩
    · exact fun r r' h => ⟨h.1, h.2 (congrArg Table.rowCount h.1.2)⟩
  combine := by
    rintro c _ rfl op l l' r r' hl hr
    rw [← hl.eq_of_forall_eq fun _ _ => And.right, ← hr.eq_of_forall_eq fun _ _ => And.right]
    exact agree_same fun _ h => hP.of_isValid (isValid_of_combine h)
  call := by
    rintro c _ rfl function hf
    refine Function.respects_builtIn (respectsOperations_same hP c) (Or.inr ?_) (hfunctions _ hf)
    rintro periods t _ ⟨ht, rfl⟩
    exact ⟨hP.shift ht _, rfl⟩

/-- Every series that an expression evaluates to satisfies the condition. -/
theorem of_evalExpr {context : Context} {supply : Supply} {expr : Expr}
    (hsupply : ∀ table ∈ supply.tables, P table) {result : Evaluation}
    (h : Interpreter.evalExpr ⟨functions, sources⟩ context supply expr = .ok result) {table : Table}
    (hvalue : result.value = .series table) : P table := by
  have hagree := (simulation_same hP hfunctions hsources).agree_evalExpr expr
    (Expr.everySetting_of_forall (fun _ => trivial) _) (c := context) rfl
    ⟨rfl, forall₂_same_of_forall hsupply⟩
  -- The second run is this one again; only what the relation says of the first matters.
  obtain ⟨⟨value', _⟩, -, hrelated, -⟩ := hagree.of_ok h
  rw [hvalue] at hrelated
  cases hrelated with
  | series related => exact related.1

end Evaluation

theorem isValid_of_evaluate {interpreter : Interpreter}
    (hfunctions : interpreter.functions.DrawnFrom builtIns)
    (hsources : interpreter.sources.Keeps Table.IsValid) {formula : String} {context : Context}
    {tables : List Table} (htables : ∀ table ∈ tables, table.IsValid) {result : Evaluation}
    (h : interpreter.evaluate formula context tables = .ok result) {table : Table}
    (hvalue : result.value = .series table) : table.IsValid :=
  of_evalExpr Table.isKept_isValid hfunctions hsources htables
    (Interpreter.evalExpr_of_evaluate h) hvalue

/-- Columns are checked for exactly what makes a valid table, every operation keeps tables valid,
and so does every formula over the built-in functions. -/
theorem tables_stay_valid :
    (∀ (dates : List Date) (named : List (String × List Cell)) (result : Table),
      Table.ofColumns dates (named.map fun (name, cells) => Column.of name cells) = .ok result ↔
        result = ⟨dates, named.map fun (name, cells) => Column.of name cells⟩ ∧ result.IsValid) ∧
    (∀ (name : String) (points : List (Date × Cell)) (result : Table),
      Table.ofPoints name points = .ok result → result.IsValid) ∧
    (∀ (options : Csv.ReadOptions) (bytes : List UInt8) (result : Table),
      Csv.readTable options bytes = .ok result → result.IsValid) ∧
    (∀ table : Table, table.IsValid →
      (∀ (f : String → String) (result : Table),
        table.renameColumns f = .ok result → result.IsValid) ∧
      (∀ f : Float → Cell, (table.mapValues f).IsValid) ∧
      (∀ (f : List Cell → List Cell) (result : Table),
        table.mapColumns f = .ok result → result.IsValid) ∧
      (∀ start stop : Option Date, (table.within start stop).IsValid) ∧
      (∀ periods : Int, (table.shift periods).IsValid) ∧
      (∀ (frequency : Frequency) (aggregation : Aggregation) (result : Table),
        table.resample frequency aggregation = .ok result → result.IsValid) ∧
      (∀ (context : Context) (result : Table),
        context.conform table = .ok result → result.IsValid)) ∧
    (∀ (tables : List Table) (result : Table), (∀ table ∈ tables, table.IsValid) →
      joinTables tables = .ok result → result.IsValid) ∧
    (∀ (interpreter : Interpreter) (formula : String) (context : Context) (tables : List Table)
      (table : Table) (provenance : Provenance), interpreter.functions.DrawnFrom builtIns →
      interpreter.sources.Keeps Table.IsValid → (∀ supplied ∈ tables, supplied.IsValid) →
      interpreter.evaluate formula context tables = .ok ⟨.series table, provenance⟩ →
      table.IsValid) := by
  refine ⟨fun dates named result => ?_, fun _ _ _ => Table.isValid_of_ofPoints,
    fun _ _ _ => isValid_of_readTable, fun table ht => ⟨?_, ht.mapValues, ?_, ht.within, ht.shift,
      ?_, ?_⟩, fun _ _ _ => isValid_of_joinTables, ?_⟩
  · refine Table.ofColumns_eq_ok_iff_isValid fun column hc => ?_
    obtain ⟨⟨name, cells⟩, -, rfl⟩ := List.mem_map.1 hc
    exact Column.isNormal_of name cells
  · exact fun _ _ => Table.isValid_of_renameColumns
  · exact fun _ _ => Table.isValid_of_mapColumns
  · exact fun _ _ _ => Table.isValid_of_resample
  · exact fun _ _ => ht.of_conform
  · intro interpreter formula context tables table provenance hfunctions hsources htables h
    exact isValid_of_evaluate hfunctions hsources htables h rfl

def twoMonths : Table :=
  monthly (some 1) none

theorem isValid_monthlyAs {name : String} (hname : Text.normalName name = name) {first second : Cell}
    (hfinite : ([first, second].all fun cell => cell.all Float.isFinite) = true) :
    (monthlyAs name first second).IsValid :=
  Table.isValid_of_column (by decide) rfl hname hfinite

theorem isValid_twoMonths : twoMonths.IsValid :=
  isValid_monthlyAs rfl rfl

/-- The join of a series with its own lag gives the second column another name. -/
theorem tables_stay_valid_merge :
    twoMonths.IsValid ∧ (twoMonths.shift 1).IsValid ∧
      ∃ table, Interpreter.evaluate ⟨.standard, .holding "GDP" twoMonths⟩ "MERGE(GDP, LAG(%d))"
          .default [twoMonths] =
            .ok ⟨.series table, .node "MERGE"
              [fetchedMonths, .node "LAG" [.leaf "input[0]" none "input"]]⟩ ∧
        table.dates = twoMonths.dates ∧
        table.columns = [⟨"GDP", [some 1, none]⟩, ⟨"GDP_2", [none, some 1]⟩] ∧ table.IsValid := by
  have hresult : Interpreter.evaluate ⟨.standard, .holding "GDP" twoMonths⟩ "MERGE(GDP, LAG(%d))"
      .default [twoMonths] =
        .ok ⟨.series ⟨twoMonths.dates, [⟨"GDP", [some 1, none]⟩, ⟨"GDP_2", [none, some 1]⟩]⟩,
          .node "MERGE" [fetchedMonths, .node "LAG" [.leaf "input[0]" none "input"]]⟩ :=
    Interpreter.evaluate_of_evaluateTo 3 rfl
  obtain ⟨-, -, -, hkept, -, hevaluated⟩ := tables_stay_valid
  refine ⟨isValid_twoMonths, (hkept _ isValid_twoMonths).2.2.2.2.1 1, _, hresult, rfl, rfl, ?_⟩
  exact hevaluated _ _ _ _ _ _ FunctionRegistry.drawnFrom_standard
    (SourceRegistry.keeps_holding isValid_twoMonths "GDP") (by simp [isValid_twoMonths]) hresult

end TimeSeries
