import TimeSeries.Formula.Library
import TimeSeries.Proofs.Formula.Registering
import TimeSeries.Proofs.Formula.Simulation

set_option autoImplicit false

/-!
# Two runs of operators and of the built-in functions

Operators and built-in functions respect a relation of tables when the operations on tables that they
are made of do. The functions come in families, and all members of a family are made of the same
operation.
-/
namespace TimeSeries

def builtIns : List Function :=
  changeFunctions ++ shiftFunctions ++ aggregateFunctions ++ numberFunctions ++ legacyFunctions

namespace NameMap

theorem mem_values_insert {α : Type} {map : NameMap α} {name : String} {value v : α}
    (h : v ∈ (map.insert name value).values) : v = value ∨ v ∈ map.values := by
  obtain ⟨entries⟩ := map
  change v ∈ (NameMap.insertEntry name value entries).map Prod.snd at h
  change _ ∨ v ∈ entries.map Prod.snd
  induction entries with
  | nil => exact Or.inl (List.mem_singleton.1 h)
  | cons entry rest ih =>
    obtain ⟨other, old⟩ := entry
    rw [NameMap.insertEntry] at h
    split at h
    · exact List.mem_cons.1 h
    · split at h
      · exact (List.mem_cons.1 h).imp_right (List.mem_cons_of_mem _)
      · rcases List.mem_cons.1 h with rfl | h
        · exact Or.inr List.mem_cons_self
        · exact (ih h).imp_right (List.mem_cons_of_mem _)

end NameMap

theorem mem_of_mem_values_byName {functions : List Function} {function : Function}
    (h : function ∈ (byName functions).values) : function ∈ functions := by
  have hfold {map : NameMap Function} {entries : List (String × Function)}
      (h : function ∈ (entries.foldl (fun map (name, value) => map.insert name value) map).values) :
      function ∈ map.values ∨ function ∈ entries.map Prod.snd := by
    induction entries generalizing map with
    | nil => exact Or.inl h
    | cons entry rest ih =>
      rcases ih h with h | h
      · rcases NameMap.mem_values_insert h with rfl | h
        · exact Or.inr List.mem_cons_self
        · exact Or.inl h
      · exact Or.inr (List.mem_cons_of_mem _ h)
  rcases hfold h with h | h
  · cases h
  · simpa using h

theorem find?_byName {functions : List Function} (hdistinct : (functions.map Function.name).Nodup)
    {function : Function} (h : function ∈ functions) :
    (byName functions).find? function.name = some function := by
  let add (map : NameMap Function) (function : Function) := map.insert function.name function
  have hothers (functions : List Function) (map : NameMap Function) (name : String)
      (hname : name ∉ functions.map Function.name) :
      (functions.foldl add map).find? name = map.find? name := by
    induction functions generalizing map with
    | nil => rfl
    | cons first rest ih =>
      obtain ⟨hne, hrest⟩ := not_or.1 (mt List.mem_cons.2 hname)
      exact (ih _ hrest).trans (NameMap.find?_insert_of_ne hne)
  rw [show byName functions = functions.foldl add .empty from List.foldl_map]
  generalize NameMap.empty = map
  induction functions generalizing map with
  | nil => cases h
  | cons first rest ih =>
    obtain ⟨hnew, hrest⟩ := List.nodup_cons.1 hdistinct
    rcases List.mem_cons.1 h with rfl | h
    · exact (hothers rest _ _ hnew).trans NameMap.find?_insert_self
    · exact ih hrest h _

namespace FunctionRegistry

def DrawnFrom (registry : FunctionRegistry) (functions : List Function) : Prop :=
  ∀ function ∈ registry.definitions, function ∈ functions

theorem drawnFrom_byName (functions legacy : List Function) :
    DrawnFrom ⟨byName functions, byName legacy⟩ (functions ++ legacy) := by
  intro function h
  rcases List.mem_append.1 h with h | h
  · exact List.mem_append_left _ (mem_of_mem_values_byName h)
  · exact List.mem_append_right _ (mem_of_mem_values_byName h)

theorem drawnFrom_standard : standard.DrawnFrom builtIns :=
  drawnFrom_byName _ _

theorem call_standard {function : Function}
    (hf : function ∈ changeFunctions ++ shiftFunctions ++ aggregateFunctions ++ numberFunctions)
    (arguments : List Value) (context : Context) :
    standard.call function.name arguments context = function.invoke arguments context := by
  have hnames : ∀ function ∈ changeFunctions ++ shiftFunctions ++ aggregateFunctions ++
      numberFunctions, Function.lookupName function.name = function.name ∧
        standard.getLegacy? function.name = none := by
    simp only [changeFunctions, shiftFunctions, aggregateFunctions, numberFunctions,
      List.cons_append, List.nil_append, List.forall_mem_cons, List.not_mem_nil]
    repeat' apply And.intro
    all_goals first | rfl | nofun
  obtain ⟨hname, hlegacy⟩ := hnames function hf
  have hget : standard.get? function.name = some function := by
    rw [get?, hname]
    exact find?_byName (by decide) hf
  rw [call, hget, hlegacy]

end FunctionRegistry

section Operations

variable {R : Table → Table → Prop} {c c' : Context}

theorem Agree.series {x x' : Except TableError Table} (h : Agree R x x') :
    Agree (Value.Related R) ((liftTable x).map .series) ((liftTable x').map .series) :=
  (h.mapError _).map fun _ _ ht => .series ht

theorem Agree.bind_series {x x' : Except TableError Table} (h : Agree R x x') :
    Agree (Value.Related R) (liftTable x >>= fun table => pure (Value.series table))
      (liftTable x' >>= fun table => pure (Value.series table)) :=
  (h.mapError _).bind fun _ _ ht => .ok (.series ht)

theorem agree_combine_of {op : Operator} {fillMissing fillMissing' : Bool}
    (hpair : ∀ l l' r r', R l l' → R r r' → Agree (Value.Related R)
      (combine op fillMissing (.series l) (.series r))
      (combine op fillMissing' (.series l') (.series r')))
    (hright : ∀ t t' x, R t t' → Agree (Value.Related R)
      (combine op fillMissing (.series t) (.number x))
      (combine op fillMissing' (.series t') (.number x)))
    (hleft : ∀ t t' x, R t t' → Agree (Value.Related R)
      (combine op fillMissing (.number x) (.series t))
      (combine op fillMissing' (.number x) (.series t')))
    {l l' r r' : Value} (hl : Value.Related R l l') (hr : Value.Related R r r') :
    Agree (Value.Related R) (combine op fillMissing l r) (combine op fillMissing' l' r') := by
  cases hl with
  | series hl =>
    cases hr with
    | series hr => exact hpair _ _ _ _ hl hr
    | number x => exact hright _ _ x hl
    | text content => exact .error _
  | number x =>
    cases hr with
    | series hr => exact hleft _ _ x hr
    | number y => exact .ok (.number _)
    | text content => exact .error _
  | text content => cases hr <;> exact .error _

theorem agree_aggregateRows_of {name : String} {f : List Float → Float}
    (hcolumn : ∀ t t', R t t' → Agree (fun _ _ => True) t.valueColumn t'.valueColumn)
    (hjoin : ∀ ts ts', List.Forall₂ R ts ts' → Agree R (joinTables ts) (joinTables ts'))
    (hsingle : ∀ t t', R t t' → Agree R
      (Table.single name t.dates (t.rows.map fun row => aggregateRow c.fillMissing f row.2))
      (Table.single name t'.dates (t'.rows.map fun row => aggregateRow c'.fillMissing f row.2)))
    {tables tables' : List Table} (h : List.Forall₂ R tables tables') :
    Agree (Value.Related R) (aggregateRows name f tables c) (aggregateRows name f tables' c') := by
  have hcheck : Agree (fun _ _ => True)
      (tables.forM fun table => (liftTable table.valueColumn).map fun _ => ())
      (tables'.forM fun table => (liftTable table.valueColumn).map fun _ => ()) :=
    .forM h fun t t' ht => ((hcolumn t t' ht).mapError _).map fun _ _ _ => trivial
  refine hcheck.bind fun _ _ _ => ((hjoin _ _ h).mapError _).bind fun joined joined' hj => ?_
  exact (hsingle joined joined' hj).bind_series

end Operations

namespace Function

variable {R : Table → Table → Prop} {c c' : Context} {function : Function}

/-- What changes between rows are made of keeps to the relation. -/
structure RespectsChanges (R : Table → Table → Prop) : Prop where
  changes : ∀ lag f t t', R t t' → Agree (Value.Related R) (changes lag f t) (changes lag f t')
  yearLag : ∀ t t', R t t' → yearLag? t = yearLag? t'
  allMissing : ∀ t t', R t t' → Agree (Value.Related R) (allMissing t) (allMissing t')

theorem RespectsChanges.yearlyChanges (h : RespectsChanges R) {t t' : Table} (ht : R t t')
    {run run' : Nat → Except FormulaError Value}
    (hrun : ∀ n, Agree (Value.Related R) (run n) (run' n)) :
    Agree (Value.Related R) (yearlyChanges t run) (yearlyChanges t' run') := by
  unfold TimeSeries.yearlyChanges
  rw [h.yearLag t t' ht]
  refine .bind_same _ fun lag => ?_
  cases lag with
  | none => exact h.allMissing t t' ht
  | some lag => exact hrun lag

theorem RespectsChanges.yearOverYear (h : RespectsChanges R) {t t' : Table} (ht : R t t') :
    Agree (Value.Related R) (yearOverYear t) (yearOverYear t') :=
  h.yearlyChanges ht fun lag => h.changes lag percentChange t t' ht

theorem respects_change (h : RespectsChanges R) (hf : function ∈ changeFunctions) :
    function.Respects R c c' := by
  simp only [changeFunctions, List.mem_cons, List.not_mem_nil, or_false] at hf
  rcases hf with rfl | rfl | rfl | rfl | rfl | rfl | rfl
  · exact respects_series fun t t' ht => h.changes 1 difference t t' ht
  · exact respects_series fun t t' ht => h.yearlyChanges ht fun _ => h.changes 1 _ t t' ht
  · exact respects_series fun t t' ht => h.yearlyChanges ht fun lag => h.changes lag _ t t' ht
  · exact respects_series fun t t' ht => h.changes 1 percentChange t t' ht
  · exact respects_series fun t t' ht => h.yearlyChanges ht fun _ => h.changes 1 _ t t' ht
  · exact respects_series fun t t' ht => h.yearOverYear ht
  · exact respects_series fun t t' ht => h.yearOverYear ht

theorem respects_legacy (h : RespectsChanges R) (hf : function ∈ legacyFunctions) :
    function.Respects R c c' := by
  simp only [legacyFunctions, List.mem_cons, List.not_mem_nil, or_false] at hf
  rcases hf with rfl | rfl
  · exact respects_series fun t t' ht => h.yearOverYear ht
  · exact respects_series fun t t' ht => h.changes 1 percentChange t t' ht

theorem respects_shift
    (hsize : ∀ t t', R t t' → (Value.series t).display = (Value.series t').display)
    (hlag : ∀ periods t t', R t t' → R (lagSeries t periods) (lagSeries t' periods))
    (hlead : function.name ≠ "LEAD" ∨
      ∀ periods t t', R t t' → R (leadSeries t periods) (leadSeries t' periods))
    (hf : function ∈ shiftFunctions) : function.Respects R c c' := by
  simp only [shiftFunctions, List.mem_cons, List.not_mem_nil, or_false] at hf
  rcases hf with rfl | rfl
  · exact respects_seriesWithPeriods hsize fun periods t t' ht =>
      .ok (.series (hlag periods t t' ht))
  · rcases hlead with hname | hlead
    · exact absurd rfl hname
    · exact respects_seriesWithPeriods hsize fun periods t t' ht =>
        .ok (.series (hlead periods t t' ht))

theorem respects_aggregate
    (haggregate : ∀ name f ts ts', List.Forall₂ R ts ts' →
      Agree (Value.Related R) (aggregateRows name f ts c) (aggregateRows name f ts' c'))
    (hjoin : ∀ ts ts', List.Forall₂ R ts ts' → Agree R (joinTables ts) (joinTables ts'))
    (hf : function ∈ aggregateFunctions) : function.Respects R c c' := by
  simp only [aggregateFunctions, List.mem_cons, List.not_mem_nil, or_false] at hf
  rcases hf with rfl | rfl | rfl | rfl | rfl
  · exact respects_seriesList (haggregate "SUM" total)
  · exact respects_seriesList (haggregate "AVG" mean)
  · exact respects_seriesList (haggregate "MIN" minimum)
  · exact respects_seriesList (haggregate "MAX" maximum)
  · exact respects_seriesList fun ts ts' hts => (hjoin ts ts' hts).series

theorem respects_number (hmap : ∀ f t t', R t t' → R (t.mapValues f) (t'.mapValues f))
    (hf : function ∈ numberFunctions) : function.Respects R c c' := by
  have helementwise (name description : String) (f : Float → Cell) :
      Respects R c c' ⟨name, description, elementwise f⟩ :=
    respects_series fun t t' ht => .ok (.series (hmap f t t' ht))
  simp only [numberFunctions, List.mem_cons, List.not_mem_nil, or_false] at hf
  rcases hf with rfl | rfl | rfl | rfl <;> exact helementwise _ _ _

/-- All operations of the built-in functions but moves up keep to the relation. -/
structure RespectsOperations (R : Table → Table → Prop) (c c' : Context) : Prop
    extends RespectsChanges R where
  size : ∀ t t', R t t' → (Value.series t).display = (Value.series t').display
  lag : ∀ periods t t', R t t' → R (lagSeries t periods) (lagSeries t' periods)
  aggregate : ∀ name f ts ts', List.Forall₂ R ts ts' →
    Agree (Value.Related R) (aggregateRows name f ts c) (aggregateRows name f ts' c')
  join : ∀ ts ts', List.Forall₂ R ts ts' → Agree R (joinTables ts) (joinTables ts')
  mapValues : ∀ f t t', R t t' → R (t.mapValues f) (t'.mapValues f)

theorem respects_builtIn (h : RespectsOperations R c c')
    (hlead : function.name ≠ "LEAD" ∨
      ∀ periods t t', R t t' → R (leadSeries t periods) (leadSeries t' periods))
    (hf : function ∈ builtIns) : function.Respects R c c' := by
  simp only [builtIns, List.mem_append] at hf
  rcases hf with (((hf | hf) | hf) | hf) | hf
  · exact respects_change h.toRespectsChanges hf
  · exact respects_shift h.size h.lag hlead hf
  · exact respects_aggregate h.aggregate h.join hf
  · exact respects_number h.mapValues hf
  · exact respects_legacy h.toRespectsChanges hf

end Function

end TimeSeries
