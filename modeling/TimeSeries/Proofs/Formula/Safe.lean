import TimeSeries.Proofs.Formula.BuiltIn
import TimeSeries.Proofs.Formula.Invocation
import TimeSeries.Proofs.Formula.Memory
import TimeSeries.Proofs.Table.Checks

set_option autoImplicit false

/-!
# Operations on tables in shape

The operators, the built-in functions and the sources in memory make tables with ascending dates,
cells for all of them and different names, so that the checks of tables do not fail. Only the number
of columns may be wrong, and for functions of one series not even that.
-/
namespace TimeSeries

def FormulaError.OnlyColumnCount : FormulaError → Prop
  | table cause => cause.IsColumnCount
  | sourceFetch _ _ (.table _) => False
  | _ => True

theorem FormulaError.IsRefusal.onlyColumnCount {e : FormulaError} (h : e.IsRefusal) :
    e.OnlyColumnCount := by
  cases e with
  | table cause => exact h.elim
  | sourceFetch source series cause => exact h.elim
  | _ => trivial

def Value.IsShaped : Value → Prop
  | series table => table.IsShaped
  | _ => True

variable {table : Table} {tables : List Table} {context : Context} {e : FormulaError}

theorem onlyColumnCount_of_liftTable {α : Type} {x : Except TableError α}
    (hx : ∀ cause, x = .error cause → cause.IsColumnCount) (h : liftTable x = .error e) :
    e.OnlyColumnCount := by
  obtain ⟨cause, hcause, rfl⟩ := liftTable_eq_error h
  exact hx cause hcause

theorem made_eq_error {made : Except TableError Table}
    (h : (liftTable made >>= fun result => pure (Value.series result)) = .error e) :
    ∃ cause, e = .table cause ∧ made = .error cause := by
  rcases bind_eq_error.1 h with h | ⟨result, -, h⟩
  · obtain ⟨cause, hcause, rfl⟩ := liftTable_eq_error h
    exact ⟨cause, rfl, hcause⟩
  · cases h

/-! ## Operators -/

theorem broadcast_eq_error {f : Cell → Cell} (h : broadcast f table = .error e) :
    ∃ cause, e = .table cause ∧ (table.IsShaped → cause.IsColumnCount) := by
  rcases bind_eq_error.1 h with hcolumn | ⟨column, hcolumn, h⟩
  · obtain ⟨cause, hcause, rfl⟩ := liftTable_eq_error hcolumn
    exact ⟨cause, rfl, fun _ => Table.valueColumn_eq_error hcause⟩
  · obtain ⟨cause, rfl, hcause⟩ := made_eq_error h
    refine ⟨cause, rfl, fun hshaped => ?_⟩
    have hlength : (column.cells.map f).length = table.dates.length := by
      rw [List.length_map, hshaped.length_valueColumn (mapError_eq_ok.1 hcolumn)]
    exact absurd hcause (Table.single_ne_error hshaped.ascending hlength)

theorem combine_eq_error {op : Operator} {fillMissing : Bool} {left right : Value}
    (h : combine op fillMissing left right = .error e) : e.IsRefusal ∨
      ∃ cause, e = .table cause ∧ (left.IsShaped → right.IsShaped → cause.IsColumnCount) := by
  unfold combine at h
  split at h
  · cases h
  · rcases bind_eq_error.1 h with hpair | ⟨pair, hpair, h⟩
    · obtain ⟨cause, hcause, rfl⟩ := liftTable_eq_error hpair
      exact .inr ⟨cause, rfl, fun _ _ => alignPair_eq_error hcause⟩
    · obtain ⟨hdates, hl, hr⟩ := alignPair_eq_ok (mapError_eq_ok.1 hpair)
      obtain ⟨cause, rfl, hcause⟩ := made_eq_error h
      have hlength : (pair.left.zipWith (op.applyCells fillMissing) pair.right).length =
          pair.dates.length := by
        rw [List.length_zipWith, hl, hr, Nat.min_self]
      exact absurd hcause (Table.single_ne_error hdates hlength)
  · obtain ⟨cause, rfl, hcause⟩ := broadcast_eq_error h
    exact .inr ⟨cause, rfl, fun hleft _ => hcause hleft⟩
  · obtain ⟨cause, rfl, hcause⟩ := broadcast_eq_error h
    exact .inr ⟨cause, rfl, fun _ hright => hcause hright⟩
  · cases h
    exact .inl trivial

/-! ## Functions -/

theorem length_changeCells (lag : Nat) (f : Float → Float → Cell) (cells : List Cell) :
    (changeCells lag f cells).length = cells.length := by
  rw [changeCells, List.length_zipWith, List.length_append]
  omega

theorem exists_changes (h : table.IsShaped) (lag : Nat) (f : Float → Float → Cell) :
    ∃ result, changes lag f table = .ok (.series result) := by
  rw [changes, h.mapColumns_eq (length_changeCells lag f)]
  exact ⟨_, rfl⟩

theorem exists_allMissing (h : table.IsShaped) :
    ∃ result, allMissing table = .ok (.series result) := by
  rw [allMissing, h.mapColumns_eq fun _ => List.length_map _]
  exact ⟨_, rfl⟩

theorem exists_yearLag (table : Table) : ∃ lag, yearLag? table = .ok lag := by
  unfold yearLag?
  split
  · exact ⟨_, rfl⟩
  · rename_i hrows
    obtain ⟨frequency, hfrequency⟩ := Table.exists_detectFrequency (Nat.not_lt.1 hrows)
    rw [hfrequency]
    exact ⟨_, rfl⟩

theorem exists_yearlyChanges (h : table.IsShaped) {run : Nat → Except FormulaError Value}
    (hrun : ∀ lag, ∃ result, run lag = .ok (.series result)) :
    ∃ result, yearlyChanges table run = .ok (.series result) := by
  obtain ⟨lag, hlag⟩ := exists_yearLag table
  rw [yearlyChanges, hlag]
  cases lag with
  | none => exact exists_allMissing h
  | some lag => exact hrun lag

theorem onlyColumnCount_of_joinTables (hshaped : ∀ table ∈ tables, table.IsShaped)
    (h : liftTable (joinTables tables) = .error e) : e.OnlyColumnCount := by
  obtain ⟨result, hresult⟩ := exists_joinTables hshaped
  rw [hresult] at h
  cases h

theorem onlyColumnCount_of_aggregateRows (hshaped : ∀ table ∈ tables, table.IsShaped)
    {name : String} {f : List Float → Float} (h : aggregateRows name f tables context = .error e) :
    e.OnlyColumnCount := by
  rcases bind_eq_error.1 h with hcheck | ⟨_, -, h⟩
  · obtain ⟨table, -, hcolumn⟩ := forM_eq_error hcheck
    exact onlyColumnCount_of_liftTable (fun _ => Table.valueColumn_eq_error) (map_eq_error.1 hcolumn)
  · rcases bind_eq_error.1 h with hjoin | ⟨joined, hjoin, h⟩
    · exact onlyColumnCount_of_joinTables hshaped hjoin
    · have hdates := (isValid_of_joinTables (mapError_eq_ok.1 hjoin)).ascending
      have hlength : (joined.rows.map fun row =>
          aggregateRow context.fillMissing f row.2).length = joined.dates.length := by
        rw [List.length_map, ← List.length_map Prod.fst, Table.map_fst_rows]
      obtain ⟨cause, rfl, hcause⟩ := made_eq_error h
      exact absurd hcause (Table.single_ne_error hdates hlength)

/-- Of tables in shape, a transformation of one series makes a series, and one of several fails at
most about the number of columns. -/
def Transformation.IsSafe : Transformation → Prop
  | series run => ∀ table context, table.IsShaped →
      ∃ result, run table context = .ok (.series result)
  | seriesWithPeriods run => ∀ table periods context, table.IsShaped →
      ∃ result, run table periods context = .ok (.series result)
  | seriesList run => ∀ tables context e, (∀ table ∈ tables, table.IsShaped) →
      run tables context = .error e → e.OnlyColumnCount

namespace Function

variable {function : Function}

theorem isSafe_change (hf : function ∈ changeFunctions) : function.transformation.IsSafe := by
  simp only [changeFunctions, List.mem_cons, List.not_mem_nil, or_false] at hf
  rcases hf with rfl | rfl | rfl | rfl | rfl | rfl | rfl
  · exact fun table _ h => exists_changes h 1 difference
  · exact fun table _ h => exists_yearlyChanges h fun _ => exists_changes h 1 _
  · exact fun table _ h => exists_yearlyChanges h fun lag => exists_changes h lag _
  · exact fun table _ h => exists_changes h 1 percentChange
  · exact fun table _ h => exists_yearlyChanges h fun _ => exists_changes h 1 _
  · exact fun table _ h => exists_yearlyChanges h fun lag => exists_changes h lag _
  · exact fun table _ h => exists_yearlyChanges h fun lag => exists_changes h lag _

theorem isSafe_shift (hf : function ∈ shiftFunctions) : function.transformation.IsSafe := by
  simp only [shiftFunctions, List.mem_cons, List.not_mem_nil, or_false] at hf
  rcases hf with rfl | rfl
  · exact fun table periods _ _ => ⟨_, rfl⟩
  · exact fun table periods _ _ => ⟨_, rfl⟩

theorem isSafe_aggregate (hf : function ∈ aggregateFunctions) : function.transformation.IsSafe := by
  simp only [aggregateFunctions, List.mem_cons, List.not_mem_nil, or_false] at hf
  rcases hf with rfl | rfl | rfl | rfl | rfl
  · exact fun tables _ e h => onlyColumnCount_of_aggregateRows h
  · exact fun tables _ e h => onlyColumnCount_of_aggregateRows h
  · exact fun tables _ e h => onlyColumnCount_of_aggregateRows h
  · exact fun tables _ e h => onlyColumnCount_of_aggregateRows h
  · exact fun tables _ e h he => onlyColumnCount_of_joinTables h (map_eq_error.1 he)

theorem isSafe_number (hf : function ∈ numberFunctions) : function.transformation.IsSafe := by
  have helementwise (f : Float → Cell) : (elementwise f).IsSafe := fun table _ _ => ⟨_, rfl⟩
  simp only [numberFunctions, List.mem_cons, List.not_mem_nil, or_false] at hf
  rcases hf with rfl | rfl | rfl | rfl <;> exact helementwise _

theorem isSafe_legacy (hf : function ∈ legacyFunctions) : function.transformation.IsSafe := by
  simp only [legacyFunctions, List.mem_cons, List.not_mem_nil, or_false] at hf
  rcases hf with rfl | rfl
  · exact fun table _ h => exists_yearlyChanges h fun lag => exists_changes h lag _
  · exact fun table _ h => exists_changes h 1 percentChange

theorem isSafe_builtIn (hf : function ∈ builtIns) : function.transformation.IsSafe := by
  simp only [builtIns, List.mem_append] at hf
  rcases hf with (((hf | hf) | hf) | hf) | hf
  · exact isSafe_change hf
  · exact isSafe_shift hf
  · exact isSafe_aggregate hf
  · exact isSafe_number hf
  · exact isSafe_legacy hf

theorem exists_series_of_check (hf : function ∈ builtIns)
    (hone : ∀ run, function.transformation ≠ .seriesList run) {arguments : List Value}
    (hshaped : ∀ table, .series table ∈ arguments → table.IsShaped)
    (hcheck : function.check arguments = .ok ()) :
    ∃ result, function.invoke arguments context = .ok (.series result) := by
  have hsafe := isSafe_builtIn hf
  have hruns := @runs_of_check _ _ context hcheck
  generalize function.transformation = transformation,
    function.invoke arguments context = result at hone hsafe hruns ⊢
  cases hruns with
  | series hrun => exact hrun ▸ hsafe _ context (hshaped _ List.mem_cons_self)
  | seriesWithPeriods hrun => exact hrun ▸ hsafe _ _ context (hshaped _ List.mem_cons_self)
  | @seriesList run => exact absurd rfl (hone run)

theorem exists_invoke_iff (hf : function ∈ builtIns)
    (hone : ∀ run, function.transformation ≠ .seriesList run) {arguments : List Value}
    (hshaped : ∀ table, .series table ∈ arguments → table.IsShaped) :
    (∃ value, function.invoke arguments context = .ok value) ↔ function.check arguments = .ok () := by
  constructor
  · rintro ⟨value, hvalue⟩
    cases hcheck : function.check arguments with
    | ok _ => rfl
    | error fault =>
      rw [invoke_of_check_error hcheck] at hvalue
      cases hvalue
  · intro hcheck
    obtain ⟨result, hresult⟩ := exists_series_of_check hf hone hshaped hcheck
    exact ⟨_, hresult⟩

end Function

section Calls

variable {transformation : Transformation} {arguments : List Value}

theorem Transformation.Runs.onlyColumnCount (h : transformation.Runs context (.error e) arguments)
    (hsafe : transformation.IsSafe) (hshaped : ∀ value ∈ arguments, value.IsShaped) :
    e.OnlyColumnCount := by
  cases h with
  | @series run table he =>
    obtain ⟨value, hvalue⟩ := hsafe table context (hshaped _ List.mem_cons_self)
    rw [hvalue] at he
    cases he
  | @seriesWithPeriods run table periods rest he =>
    obtain ⟨value, hvalue⟩ := hsafe table periods context (hshaped _ List.mem_cons_self)
    rw [hvalue] at he
    cases he
  | @seriesList run tables he =>
    exact hsafe tables context e (fun table ht => hshaped _ (List.mem_map_of_mem ht)) he

theorem onlyColumnCount_of_call {registry : FunctionRegistry} {name : String}
    (hfunctions : registry.DrawnFrom builtIns) (hshaped : ∀ value ∈ arguments, value.IsShaped)
    (h : registry.call name arguments context = .error e) : e.OnlyColumnCount := by
  rcases FunctionRegistry.call_eq_error h with hrefused | ⟨function, hmem, h⟩
  · exact hrefused.onlyColumnCount
  · rcases Function.invoke_eq_error h with hrefused | hruns
    · exact hrefused.onlyColumnCount
    · exact hruns.onlyColumnCount (Function.isSafe_builtIn (hfunctions function hmem)) hshaped

end Calls

/-! ## Sources -/

theorem MemorySource.fetch_eq_error {memory : MemorySource}
    (hkeeps : ∀ series ∈ memory.series.entries, series.2.IsShaped) {name : String}
    {cause : SourceFault} (h : memory.fetch name context = .error cause) : cause = .notFound name := by
  unfold fetch at h
  cases hfind : memory.series.find? name with
  | none =>
    rw [hfind] at h
    cases h
    rfl
  | some table =>
    obtain ⟨entry, hentry, rfl⟩ := List.mem_map.1 (NameMap.mem_values_of_find? hfind)
    obtain ⟨result, hresult⟩ :=
      (hkeeps entry hentry).exists_conform context.start context.stop context.frequency
    rw [hfind] at h
    dsimp only at h
    rw [Context.conform, hresult] at h
    cases h

theorem onlyColumnCount_of_fetch {registry : SourceRegistry} (hkeeps : registry.Keeps Table.IsShaped)
    {id series : String} (h : registry.fetch id series context = .error e) : e.OnlyColumnCount := by
  rcases SourceRegistry.fetch_eq_error h with rfl | ⟨source, cause, hget, hfetch, rfl⟩
  · trivial
  · obtain ⟨entry, hentry, rfl⟩ := List.mem_map.1 (NameMap.mem_values_of_find? hget)
    obtain ⟨memory, hmemory, hseries⟩ := hkeeps entry hentry
    rw [hmemory] at hfetch
    rw [MemorySource.fetch_eq_error hseries hfetch]
    trivial

end TimeSeries
