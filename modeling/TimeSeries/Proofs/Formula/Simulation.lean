import Mathlib.Data.List.Forall2
import TimeSeries.Formula.Evaluation
import TimeSeries.Proofs.Agreement
import TimeSeries.Proofs.Formula.Invocation

set_option autoImplicit false

/-!
# Two evaluations of one formula

Two runs of one formula, over different sources, contexts or supplied tables, are compared step by
step. A simulation says how the tables of the two runs are related; when every step of an evaluation
keeps to it, so does every formula: both runs fail with the same error or have related values.
-/
namespace TimeSeries

inductive Value.Related (tables : Table → Table → Prop) : Value → Value → Prop
  | series {t t' : Table} (related : tables t t') : Related tables (.series t) (.series t')
  | number (x : Float) : Related tables (.number x) (.number x)
  | text (content : String) : Related tables (.text content) (.text content)

namespace Value.Related

variable {R : Table → Table → Prop} {v v' : Value}

theorem mono {S : Table → Table → Prop} (h : Related R v v') (hle : ∀ t t', R t t' → S t t') :
    Related S v v' := by
  cases h with
  | series related => exact .series (hle _ _ related)
  | number x => exact .number x
  | text content => exact .text content

theorem refl (h : ∀ table, v = .series table → R table table) : Related R v v := by
  cases v with
  | series table => exact .series (h table rfl)
  | number x => exact .number x
  | text content => exact .text content

theorem eq_of_forall_eq (h : Related R v v') (heq : ∀ t t', R t t' → t = t') : v = v' := by
  cases h with
  | series related => rw [heq _ _ related]
  | number x => rfl
  | text content => rfl

end Value.Related

def Function.Respects (R : Table → Table → Prop) (c c' : Context) (function : Function) : Prop :=
  ∀ values values', List.Forall₂ (Value.Related R) values values' →
    Agree (Value.Related R) (function.invoke values c) (function.invoke values' c')

section Functions

variable {R : Table → Table → Prop} {c c' : Context} {values values' : List Value} {name : String}

theorem checkCount_congr (function : Function) (h : List.Forall₂ (Value.Related R) values values') :
    function.checkCount values.length = function.checkCount values'.length := by
  rw [h.length_eq]

theorem agree_seriesAt {v v' : Value} (function : String) (position : Nat)
    (h : Value.Related R v v') :
    Agree R (Function.seriesAt function position v) (Function.seriesAt function position v') := by
  cases h with
  | series related => exact .ok related
  | number x => exact .error _
  | text content => exact .error _

theorem agree_allSeries (function : String) (position : Nat)
    (h : List.Forall₂ (Value.Related R) values values') :
    Agree (List.Forall₂ R) (Function.allSeries function position values)
      (Function.allSeries function position values') := by
  induction h generalizing position with
  | nil => exact .ok .nil
  | cons hv _ ih =>
    refine (agree_seriesAt function position hv).bind fun t t' ht => ?_
    refine (ih (position + 1)).bind fun ts ts' hts => ?_
    exact .ok (.cons ht hts)

theorem periodsOf_congr (function : String)
    (hsize : ∀ t t', R t t' → (Value.series t).display = (Value.series t').display) {v v' : Value}
    (h : Value.Related R v v') : Function.periodsOf function v = Function.periodsOf function v' := by
  cases h with
  | series related => simp only [Function.periodsOf, hsize _ _ related]
  | number x => rfl
  | text content => rfl

theorem respects_series {description : String} {run : Table → Context → Except FormulaError Value}
    (h : ∀ t t', R t t' → Agree (Value.Related R) (run t c) (run t' c')) :
    Function.Respects R c c' ⟨name, description, .series run⟩ := by
  intro values values' hvalues
  unfold Function.invoke
  rw [checkCount_congr _ hvalues]
  refine .bind_same _ fun _ => ?_
  cases hvalues with
  | nil => exact .error _
  | cons hv _ => exact (agree_seriesAt _ _ hv).bind h

theorem respects_seriesWithPeriods {description : String}
    {run : Table → Option Nat → Context → Except FormulaError Value}
    (hsize : ∀ t t', R t t' → (Value.series t).display = (Value.series t').display)
    (h : ∀ periods t t', R t t' → Agree (Value.Related R) (run t periods c) (run t' periods c')) :
    Function.Respects R c c' ⟨name, description, .seriesWithPeriods run⟩ := by
  intro values values' hvalues
  unfold Function.invoke
  rw [checkCount_congr _ hvalues]
  refine .bind_same _ fun _ => ?_
  cases hvalues with
  | nil => exact .error _
  | @cons v v' rest rest' hv hrest =>
    refine (agree_seriesAt _ _ hv).bind fun t t' ht => ?_
    have hperiods : rest.head?.mapM (Function.periodsOf name) =
        rest'.head?.mapM (Function.periodsOf name) := by
      cases hrest with
      | nil => rfl
      | cons hw _ => simp [periodsOf_congr name hsize hw]
    dsimp only
    rw [hperiods]
    exact .bind_same _ fun periods => h periods t t' ht

theorem respects_seriesList {description : String}
    {run : List Table → Context → Except FormulaError Value}
    (h : ∀ ts ts', List.Forall₂ R ts ts' → Agree (Value.Related R) (run ts c) (run ts' c')) :
    Function.Respects R c c' ⟨name, description, .seriesList run⟩ := by
  intro values values' hvalues
  unfold Function.invoke
  rw [checkCount_congr _ hvalues]
  refine .bind_same _ fun _ => ?_
  cases hvalues with
  | nil => exact (agree_allSeries _ _ .nil).bind h
  | cons hv hrest => exact (agree_allSeries _ _ (.cons hv hrest)).bind h

/-- A legacy function that is tried after an error does not tell the two runs apart. -/
theorem agree_call {registry : FunctionRegistry}
    (hregistry : ∀ function ∈ registry.definitions, function.Respects R c c')
    (h : List.Forall₂ (Value.Related R) values values') :
    Agree (Value.Related R) (registry.call name values c) (registry.call name values' c') := by
  have hfunction {function : Function} (hg : registry.get? name = some function) :=
    hregistry function (FunctionRegistry.mem_definitions_of_get? hg) values values' h
  have hlegacy {function : Function} (hg : registry.getLegacy? name = some function) :=
    hregistry function (FunctionRegistry.mem_definitions_of_getLegacy? hg) values values' h
  unfold FunctionRegistry.call
  cases hg : registry.get? name with
  | none =>
    cases hl : registry.getLegacy? name with
    | none => exact .error _
    | some legacy => exact hlegacy hl
  | some function =>
    cases hl : registry.getLegacy? name with
    | none => exact hfunction hg
    | some legacy =>
      -- Both first calls end alike, so that the legacy function is reached in both runs or in none.
      have hfirst := hfunction hg
      dsimp only
      generalize function.invoke values c = result, function.invoke values' c' = result' at hfirst ⊢
      cases hfirst with
      | ok related => exact .ok related
      | error e => exact (hlegacy hl).mapError _

end Functions

namespace Expr

mutual

def EverySetting (P : List Setting → Prop) : Expr → Prop
  | malformed _ => True
  | table => True
  | number _ _ => True
  | literal _ => True
  | reference _ _ _ => True
  | operation _ _ left right => left.EverySetting P ∧ right.EverySetting P
  | overlay settings _ body => P settings ∧ body.EverySetting P
  | call _ arguments => EverySettingOf P arguments

def EverySettingOf (P : List Setting → Prop) : List (Argument Expr) → Prop
  | [] => True
  | ⟨_, _, body⟩ :: rest => body.EverySetting P ∧ EverySettingOf P rest

end

mutual

theorem everySetting_of_forall {P : List Setting → Prop} (h : ∀ settings, P settings) :
    (expr : Expr) → expr.EverySetting P
  | malformed _ => trivial
  | table => trivial
  | number _ _ => trivial
  | literal _ => trivial
  | reference _ _ _ => trivial
  | operation _ _ left right => ⟨everySetting_of_forall h left, everySetting_of_forall h right⟩
  | overlay settings _ body => ⟨h settings, everySetting_of_forall h body⟩
  | call _ arguments => everySettingOf_of_forall h arguments

theorem everySettingOf_of_forall {P : List Setting → Prop} (h : ∀ settings, P settings) :
    (arguments : List (Argument Expr)) → EverySettingOf P arguments
  | [] => trivial
  | ⟨_, _, body⟩ :: rest => ⟨everySetting_of_forall h body, everySettingOf_of_forall h rest⟩

end

end Expr

/-- How two runs of a formula are related. The relation of their tables may depend on the contexts
that hold where the tables arise. -/
structure RunRelation where
  /-- the settings of overlays that the relation speaks of -/
  Settings : List Setting → Prop
  Contexts : Context → Context → Prop
  Supplied : Table → Table → Prop
  Tables : Context → Context → Table → Table → Prop
  Provenances : Provenance → Provenance → Prop

namespace RunRelation

variable (R : RunRelation)

def Evaluations (c c' : Context) (result result' : Evaluation) : Prop :=
  Value.Related (R.Tables c c') result.value result'.value ∧
    R.Provenances result.provenance result'.provenance

def Supplies (supply supply' : Supply) : Prop :=
  supply.offset = supply'.offset ∧ List.Forall₂ R.Supplied supply.tables supply'.tables

variable {R} {supply supply' : Supply}

theorem Supplies.take (h : R.Supplies supply supply') (n : Nat) :
    R.Supplies (supply.take n) (supply'.take n) :=
  ⟨h.1, List.forall₂_take n h.2⟩

theorem Supplies.drop (h : R.Supplies supply supply') (n : Nat) :
    R.Supplies (supply.drop n) (supply'.drop n) := by
  refine ⟨?_, List.forall₂_drop n h.2⟩
  rw [Supply.drop, Supply.drop, h.1, h.2.length_eq]

end RunRelation

/-- Every step of two runs, with the same functions over different sources, keeps a relation. Below
an overlay the relation of tables is at least as strong as around it. -/
structure Simulation (R : RunRelation) (functions : FunctionRegistry)
    (sources sources' : SourceRegistry) : Prop where
  leaf : ∀ id operation, R.Provenances (.leaf id none operation) (.leaf id none operation)
  node : ∀ operation trees trees', List.Forall₂ R.Provenances trees trees' →
    R.Provenances (.node operation trees) (.node operation trees')
  supplied : ∀ {c c'}, R.Contexts c c' → ∀ t t', R.Supplied t t' → R.Tables c c' t t'
  source : ∀ {c c'}, R.Contexts c c' → c.source = c'.source
  overlay : ∀ {c c'}, R.Contexts c c' → ∀ settings, R.Settings settings →
    Agree (fun d d' => R.Contexts d d' ∧ ∀ t t', R.Tables d d' t t' → R.Tables c c' t t')
      (c.applySettings settings) (c'.applySettings settings)
  contains : ∀ id, sources.contains id = sources'.contains id
  fetch : ∀ {c c'}, R.Contexts c c' → ∀ id series,
    Agree (fun r r' => R.Tables c c' r.1 r'.1 ∧ R.Provenances r.2 r'.2) (sources.fetch id series c)
      (sources'.fetch id series c')
  combine : ∀ {c c'}, R.Contexts c c' → ∀ op l l' r r', Value.Related (R.Tables c c') l l' →
    Value.Related (R.Tables c c') r r' → Agree (Value.Related (R.Tables c c'))
      (combine op c.fillMissing l r) (combine op c'.fillMissing l' r')
  call : ∀ {c c'}, R.Contexts c c' → ∀ function ∈ functions.definitions,
    function.Respects (R.Tables c c') c c'

namespace Simulation

variable {R : RunRelation} {functions : FunctionRegistry} {sources sources' : SourceRegistry}
  {c c' : Context} {supply supply' : Supply}

section Steps

variable (sim : Simulation R functions sources sources')

include sim

theorem agree_supplied (hc : R.Contexts c c') (hs : R.Supplies supply supply') :
    Agree (R.Evaluations c c') (Interpreter.supplied supply) (Interpreter.supplied supply') := by
  obtain ⟨tables, offset⟩ := supply
  obtain ⟨tables', offset'⟩ := supply'
  obtain ⟨rfl, htables⟩ := hs
  cases htables with
  | nil => exact .error _
  | cons ht _ => exact .ok ⟨.series (sim.supplied hc _ _ ht), sim.leaf _ _⟩

theorem agree_fetch (hc : R.Contexts c c') (id series : String) :
    Agree (R.Evaluations c c') (Interpreter.fetch ⟨functions, sources⟩ id series c)
      (Interpreter.fetch ⟨functions, sources'⟩ id series c') :=
  (sim.fetch hc id series).map fun _ _ h => ⟨.series h.1, h.2⟩

theorem agree_resolve (hc : R.Contexts c c') (text name : List Char)
    (source : Option (List Char)) :
    Agree (R.Evaluations c c') (Interpreter.resolve ⟨functions, sources⟩ c text name source)
      (Interpreter.resolve ⟨functions, sources'⟩ c' text name source) := by
  unfold Interpreter.resolve
  rw [sim.source hc]
  dsimp only
  split
  · exact .error _
  · split
    · exact .error _
    · split
      · exact .error _
      · exact sim.agree_fetch hc _ _

theorem agree_fetchByCall (hc : R.Contexts c c') (source : String)
    (arguments : List (Argument Expr)) :
    Agree (R.Evaluations c c') (Interpreter.fetchByCall ⟨functions, sources⟩ c source arguments)
      (Interpreter.fetchByCall ⟨functions, sources'⟩ c' source arguments) := by
  unfold Interpreter.fetchByCall
  split
  · refine .bind_same _ fun count => ?_
    split
    · exact .error _
    · refine .bind_same _ fun literal => ?_
      dsimp only
      split
      · exact .error _
      · exact sim.agree_fetch hc _ _
  · exact .error _

theorem agree_operate (hc : R.Contexts c c') (op : Operator) {l l' r r' : Evaluation}
    (hl : R.Evaluations c c' l l') (hr : R.Evaluations c c' r r') :
    Agree (R.Evaluations c c') (Interpreter.operate op c l r)
      (Interpreter.operate op c' l' r') :=
  (sim.combine hc op _ _ _ _ hl.1 hr.1).map fun _ _ hvalue =>
    ⟨hvalue, sim.node _ _ _ (.cons hl.2 (.cons hr.2 .nil))⟩

theorem agree_apply (hc : R.Contexts c c') (name : String) {results results' : List Evaluation}
    (h : List.Forall₂ (R.Evaluations c c') results results') :
    Agree (R.Evaluations c c') (Interpreter.apply ⟨functions, sources⟩ c name results)
      (Interpreter.apply ⟨functions, sources'⟩ c' name results') := by
  have hvalues : List.Forall₂ (Value.Related (R.Tables c c')) (results.map Evaluation.value)
      (results'.map Evaluation.value) :=
    List.forall₂_map_left_iff.2 (List.forall₂_map_right_iff.2 (h.imp fun _ _ hr => hr.1))
  have htrees : List.Forall₂ R.Provenances (results.map Evaluation.provenance)
      (results'.map Evaluation.provenance) :=
    List.forall₂_map_left_iff.2 (List.forall₂_map_right_iff.2 (h.imp fun _ _ hr => hr.2))
  exact (agree_call (sim.call hc) hvalues).map fun _ _ hvalue => ⟨hvalue, sim.node _ _ _ htrees⟩

end Steps

mutual

/-- Every expression keeps to a simulation of its steps. -/
theorem agree_evalExpr (sim : Simulation R functions sources sources') :
    (expr : Expr) → expr.EverySetting R.Settings →
    ∀ {c c' : Context} {supply supply' : Supply}, R.Contexts c c' → R.Supplies supply supply' →
    Agree (R.Evaluations c c') (Interpreter.evalExpr ⟨functions, sources⟩ c supply expr)
      (Interpreter.evalExpr ⟨functions, sources'⟩ c' supply' expr)
  | .malformed e, _, _, _, _, _, _, _ => by
    rw [Interpreter.evalExpr, Interpreter.evalExpr]
    exact .error e
  | .table, _, _, _, _, _, hc, hs => by
    rw [Interpreter.evalExpr, Interpreter.evalExpr]
    exact sim.agree_supplied hc hs
  | .number text value, _, _, _, _, _, _, _ => by
    rw [Interpreter.evalExpr, Interpreter.evalExpr]
    exact .ok ⟨.number value, sim.leaf _ _⟩
  | .literal content, _, _, _, _, _, _, _ => by
    rw [Interpreter.evalExpr, Interpreter.evalExpr]
    exact .ok ⟨.text _, sim.leaf _ _⟩
  | .reference text name source, _, _, _, _, _, hc, _ => by
    rw [Interpreter.evalExpr, Interpreter.evalExpr]
    exact sim.agree_resolve hc text name source
  | .operation op leftTables left right, hsettings, _, _, _, _, hc, hs => by
    rw [Interpreter.evalExpr, Interpreter.evalExpr]
    have hleft := agree_evalExpr sim left hsettings.1 hc (hs.take leftTables)
    have hright := agree_evalExpr sim right hsettings.2 hc (hs.drop leftTables)
    exact hleft.bind fun l l' hl => hright.bind fun r r' hr => sim.agree_operate hc op hl hr
  | .overlay settings tables body, hsettings, _, _, _, _, hc, hs => by
    rw [Interpreter.evalExpr, Interpreter.evalExpr]
    refine (sim.overlay hc settings hsettings.1).bind fun d d' hd => ?_
    -- The body runs under contexts of its own, whose relation implies the one outside.
    refine (agree_evalExpr sim body hsettings.2 hd.1 (hs.take tables)).mono fun r r' hr => ?_
    exact ⟨hr.1.mono hd.2, hr.2⟩
  | .call name arguments, hsettings, _, _, _, _, hc, hs => by
    rw [Interpreter.evalExpr, Interpreter.evalExpr]
    dsimp only
    rw [sim.contains]
    split
    · refine (agree_evalArguments sim arguments hsettings hc hs).bind fun results results' hr => ?_
      exact sim.agree_apply hc _ hr
    · split
      · exact sim.agree_fetchByCall hc _ arguments
      · exact .error _

theorem agree_evalArguments (sim : Simulation R functions sources sources') :
    (arguments : List (Argument Expr)) → Expr.EverySettingOf R.Settings arguments →
    ∀ {c c' : Context} {supply supply' : Supply}, R.Contexts c c' → R.Supplies supply supply' →
    Agree (List.Forall₂ (R.Evaluations c c'))
      (Interpreter.evalArguments ⟨functions, sources⟩ c supply arguments)
      (Interpreter.evalArguments ⟨functions, sources'⟩ c' supply' arguments)
  | [], _, _, _, _, _, _, _ => by
    rw [Interpreter.evalArguments, Interpreter.evalArguments]
    exact .ok .nil
  | ⟨_, tables, body⟩ :: rest, hsettings, _, _, _, _, hc, hs => by
    rw [Interpreter.evalArguments, Interpreter.evalArguments]
    have hbody := agree_evalExpr sim body hsettings.1 hc (hs.take tables)
    have hrest := agree_evalArguments sim rest hsettings.2 hc (hs.drop tables)
    exact hbody.bind fun r r' hr => hrest.bind fun rs rs' hrs => .ok (.cons hr hrs)

end

theorem agree_evaluate (sim : Simulation R functions sources sources') (hc : R.Contexts c c')
    {tables tables' : List Table} (htables : List.Forall₂ R.Supplied tables tables') (formula : String)
    (hsettings : (Expr.parse formula.toList).EverySetting R.Settings) :
    Agree (R.Evaluations c c') (Interpreter.evaluate ⟨functions, sources⟩ formula c tables)
      (Interpreter.evaluate ⟨functions, sources'⟩ formula c' tables') := by
  unfold Interpreter.evaluate
  dsimp only
  rw [htables.length_eq]
  split
  · exact .error _
  · refine .bind_same _ fun expected => ?_
    split
    · exact .error _
    · exact sim.agree_evalExpr _ hsettings hc ⟨rfl, htables⟩

end Simulation

end TimeSeries
