import TimeSeries.Proofs.Formula.Refusals

set_option autoImplicit false

/-!
# Invocations

A function refuses arguments of the wrong shape; with others its transformation runs, and what that
returns is the result. A call has no other errors than these.
-/
namespace TimeSeries

/-- The transformation has this result on arguments of the shape that it asks for. -/
inductive Transformation.Runs (context : Context) (result : Except FormulaError Value) :
    Transformation → List Value → Prop
  | series {run : Table → Context → Except FormulaError Value} {table : Table} :
      run table context = result → Runs context result (.series run) [.series table]
  | seriesWithPeriods {run : Table → Option Nat → Context → Except FormulaError Value}
      {table : Table} {periods : Option Nat} {rest : List Value} :
      run table periods context = result →
      Runs context result (.seriesWithPeriods run) (.series table :: rest)
  | seriesList {run : List Table → Context → Except FormulaError Value} {tables : List Table} :
      run tables context = result → Runs context result (.seriesList run) (tables.map .series)

namespace Function

variable {function : Function} {arguments : List Value} {context : Context} {name : String}
  {position : Nat} {e : FormulaError}

def check (function : Function) (arguments : List Value) : Except FormulaError Unit := do
  checkCount function arguments.length
  match function.transformation, arguments with
  | .seriesWithPeriods _, value :: rest =>
    let _ ← seriesAt function.name 1 value
    let _ ← rest.head?.mapM (periodsOf function.name)
    return ()
  | _, values =>
    let _ ← allSeries function.name 1 values
    return ()

theorem seriesAt_eq_ok {value : Value} {table : Table} (h : seriesAt name position value = .ok table) :
    value = .series table := by
  cases value with
  | series found => cases h; rfl
  | number x => cases h
  | text content => cases h

theorem allSeries_eq_ok {values : List Value} {tables : List Table}
    (h : allSeries name position values = .ok tables) : values = tables.map .series := by
  induction values generalizing position tables with
  | nil => cases h; rfl
  | cons value rest ih =>
    obtain ⟨table, hvalue, h⟩ := bind_eq_ok.1 h
    obtain ⟨others, hrest, h⟩ := bind_eq_ok.1 h
    cases h
    rw [seriesAt_eq_ok hvalue, ih hrest, List.map_cons]

theorem isRefusal_of_checkCount {count : Nat} (h : checkCount function count = .error e) :
    e.IsRefusal := by
  simp only [checkCount] at h
  split at h
  · cases h
    trivial
  · split at h
    · split at h
      · cases h
        trivial
      · cases h
    · cases h

theorem isRefusal_of_seriesAt {value : Value} (h : seriesAt name position value = .error e) :
    e.IsRefusal := by
  cases value with
  | series table => cases h
  | number x => cases h; trivial
  | text content => cases h; trivial

theorem isRefusal_of_allSeries {values : List Value}
    (h : allSeries name position values = .error e) : e.IsRefusal := by
  induction values generalizing position with
  | nil => cases h
  | cons value rest ih =>
    rcases bind_eq_error.1 h with h | ⟨table, -, h⟩
    · exact isRefusal_of_seriesAt h
    · rcases bind_eq_error.1 h with h | ⟨tables, -, h⟩
      · exact ih h
      · cases h

theorem isRefusal_of_periodsOf {value : Value} (h : periodsOf name value = .error e) :
    e.IsRefusal := by
  unfold periodsOf at h
  split at h
  · split at h
    · split at h
      · cases h
      · cases h
        trivial
    · cases h
      trivial
  · cases h
    trivial

theorem isRefusal_of_check (h : function.check arguments = .error e) : e.IsRefusal := by
  have hall : ∀ values, (allSeries function.name 1 values >>= fun _ => pure ()) = .error e →
      e.IsRefusal := by
    intro values hvalues
    rcases bind_eq_error.1 hvalues with hvalues | ⟨tables, -, hvalues⟩
    · exact isRefusal_of_allSeries hvalues
    · cases hvalues
  obtain ⟨name, description, transformation⟩ := function
  rcases bind_eq_error.1 h with hcount | ⟨_, -, hshape⟩
  · exact isRefusal_of_checkCount hcount
  · cases transformation with
    | series run => exact hall arguments hshape
    | seriesList run => exact hall arguments hshape
    | seriesWithPeriods run =>
      match arguments with
      | [] => exact hall [] hshape
      | value :: rest =>
        rcases bind_eq_error.1 hshape with hfirst | ⟨table, -, hshape⟩
        · exact isRefusal_of_seriesAt hfirst
        · rcases bind_eq_error.1 hshape with hperiods | ⟨periods, -, hshape⟩
          · match rest with
            | [] => cases hperiods
            | second :: others => exact isRefusal_of_periodsOf (map_eq_error.1 hperiods)
          · cases hshape

theorem invoke_of_check_error (h : function.check arguments = .error e) :
    function.invoke arguments context = .error e := by
  obtain ⟨name, description, transformation⟩ := function
  unfold invoke
  rcases bind_eq_error.1 h with hcount | ⟨⟨⟩, hcount, hshape⟩
  · rw [hcount]
    rfl
  rw [hcount]
  cases transformation with
  | series run =>
    match arguments with
    | [] => cases hcount
    | _ :: _ :: _ => simp [checkCount, Transformation.arity] at hcount
    | [value] =>
      cases value with
      | series table => cases hshape
      | number x => cases hshape; rfl
      | text content => cases hshape; rfl
  | seriesWithPeriods run =>
    match arguments with
    | [] => cases hcount
    | value :: rest =>
      change (seriesAt name 1 value >>= fun table => rest.head?.mapM (periodsOf name) >>= fun periods =>
        run table periods context) = .error e
      rcases bind_eq_error.1 hshape with hfirst | ⟨table, hfirst, hshape⟩
      · rw [hfirst]
        rfl
      · rcases bind_eq_error.1 hshape with hperiods | ⟨periods, -, hshape⟩
        · rw [hfirst, hperiods]
          rfl
        · cases hshape
  | seriesList run =>
    match arguments with
    | [] => cases hcount
    | value :: rest =>
      change (allSeries name 1 (value :: rest) >>= fun tables => run tables context) = .error e
      rcases bind_eq_error.1 hshape with hall | ⟨tables, -, hshape⟩
      · rw [hall]
        rfl
      · cases hshape

theorem runs_of_check (h : function.check arguments = .ok ()) :
    function.transformation.Runs context (function.invoke arguments context) arguments := by
  obtain ⟨name, description, transformation⟩ := function
  obtain ⟨⟨⟩, hcount, hshape⟩ := bind_eq_ok.1 h
  unfold invoke
  rw [hcount]
  cases transformation with
  | series run =>
    obtain ⟨tables, htables, -⟩ := bind_eq_ok.1 hshape
    obtain rfl := allSeries_eq_ok htables
    match tables with
    | [] => cases hcount
    | [table] => exact .series rfl
    | _ :: _ :: _ => simp [checkCount, Transformation.arity] at hcount
  | seriesWithPeriods run =>
    match arguments with
    | [] => cases hcount
    | value :: rest =>
      obtain ⟨table, hfirst, hshape⟩ := bind_eq_ok.1 hshape
      obtain ⟨periods, hperiods, -⟩ := bind_eq_ok.1 hshape
      obtain rfl := seriesAt_eq_ok hfirst
      refine .seriesWithPeriods (?_ : run table periods context = _)
      change _ = (rest.head?.mapM (periodsOf name) >>= fun periods => run table periods context)
      rw [hperiods]
      rfl
  | seriesList run =>
    obtain ⟨tables, htables, -⟩ := bind_eq_ok.1 hshape
    match arguments with
    | [] => cases hcount
    | value :: rest =>
      have hinvoke : (allSeries name 1 (value :: rest) >>= fun tables => run tables context) =
          run tables context := by
        rw [htables]
        rfl
      rw [allSeries_eq_ok htables]
      exact .seriesList (allSeries_eq_ok htables ▸ hinvoke.symm)

theorem invoke_eq_error (h : function.invoke arguments context = .error e) :
    e.IsRefusal ∨ function.transformation.Runs context (.error e) arguments := by
  cases hcheck : function.check arguments with
  | error fault =>
    rw [invoke_of_check_error hcheck] at h
    cases h
    exact .inl (isRefusal_of_check hcheck)
  | ok _ =>
    have hruns := @runs_of_check _ _ context hcheck
    rw [h] at hruns
    exact .inr hruns

end Function

theorem NameMap.mem_values_of_find? {α : Type} {map : NameMap α} {name : String} {value : α}
    (h : map.find? name = some value) : value ∈ map.values := by
  obtain ⟨l₁, l₂, hentries, -⟩ := List.lookup_eq_some_iff.1 h
  rw [NameMap.values, hentries]
  simp

namespace FunctionRegistry

variable {registry : FunctionRegistry} {name : String} {function : Function}

theorem mem_definitions_of_get? (h : registry.get? name = some function) :
    function ∈ registry.definitions :=
  List.mem_append_left _ (NameMap.mem_values_of_find? h)

theorem mem_definitions_of_getLegacy? (h : registry.getLegacy? name = some function) :
    function ∈ registry.definitions :=
  List.mem_append_right _ (NameMap.mem_values_of_find? h)

theorem call_eq_error {arguments : List Value} {context : Context} {e : FormulaError}
    (h : registry.call name arguments context = .error e) :
    e.IsRefusal ∨ ∃ function ∈ registry.definitions,
      function.invoke arguments context = .error e := by
  unfold call at h
  cases hg : registry.get? name with
  | none =>
    cases hl : registry.getLegacy? name with
    | none =>
      rw [hg, hl] at h
      cases h
      exact .inl trivial
    | some legacy =>
      rw [hg, hl] at h
      exact .inr ⟨legacy, mem_definitions_of_getLegacy? hl, h⟩
  | some function =>
    have hmem := mem_definitions_of_get? hg
    cases hl : registry.getLegacy? name with
    | none =>
      rw [hg, hl] at h
      exact .inr ⟨function, hmem, h⟩
    | some legacy =>
      rw [hg, hl] at h
      cases hfirst : function.invoke arguments context with
      | ok value => simp [hfirst] at h
      | error first =>
        -- The legacy function may fail as well, and then the error of the first one stands.
        simp only [hfirst] at h
        obtain ⟨_, -, rfl⟩ := mapError_eq_error.1 h
        exact .inr ⟨function, hmem, hfirst⟩

end FunctionRegistry

end TimeSeries
