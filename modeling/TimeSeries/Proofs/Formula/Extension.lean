import TimeSeries.Formula.Evaluation
import TimeSeries.Proofs.Formula.Memory
import TimeSeries.Proofs.Formula.Parsing
import TimeSeries.Proofs.Formula.Registering

set_option autoImplicit false

/-!
# More sources

One more source, or one more identifier, changes no result but that its identifier was missing: a
name before parentheses stands for a source only when no function has it, and evaluation ends at the
first error.
-/
namespace TimeSeries

/-- That no source, or neither a function nor a source, has this name in normal form. -/
def FormulaError.Misses (key : String) : FormulaError → Prop
  | unknownSource id => id = key
  | unknownFunction name => Text.normalName name = key
  | _ => False

/-- The second result is the first one, unless this says that a name is missing. -/
def Unaffected {α : Type} (key : String) (x x' : Except FormulaError α) : Prop :=
  (∀ e, x = .error e → ¬ e.Misses key) → x' = x

namespace Unaffected

variable {α β : Type} {key : String} {x x' : Except FormulaError α}

theorem refl (x : Except FormulaError α) : Unaffected key x x :=
  fun _ => rfl

theorem of_misses {e : FormulaError} (h : e.Misses key) (x' : Except FormulaError α) :
    Unaffected key (.error e) x' :=
  fun hnot => absurd h (hnot e rfl)

theorem bind (h : Unaffected key x x') {f f' : α → Except FormulaError β}
    (hf : ∀ a, Unaffected key (f a) (f' a)) : Unaffected key (x >>= f) (x' >>= f') := by
  intro hnot
  cases x with
  | error e =>
    have hsame : x' = .error e := h fun e' he => hnot e' (by rw [he]; rfl)
    rw [hsame]
    rfl
  | ok a =>
    have hsame : x' = .ok a := h fun e he => nomatch he
    rw [hsame]
    exact hf a hnot

theorem map (h : Unaffected key x x') (f : α → β) : Unaffected key (x.map f) (x'.map f) := by
  intro hnot
  have hsame : x' = x := by
    refine h fun e he => hnot e ?_
    rw [he]
    rfl
  rw [hsame]

end Unaffected

section Evaluation

variable {functions : FunctionRegistry} {registry registry' : SourceRegistry}
  {registration : Registration}

theorem unaffected_fetch (h : registration.perform registry = .ok registry') (id series : String)
    (context : Context) : Unaffected registration.key (registry.fetch id series context)
      (registry'.fetch id series context) := by
  unfold SourceRegistry.fetch
  by_cases heq : Text.normalName id = registration.key
  · have hmisses : (FormulaError.unknownSource (Text.normalName id)).Misses registration.key := heq
    rw [Registration.get?_of_eq h heq]
    exact .of_misses hmisses _
  · rw [Registration.get?_of_ne h heq]
    exact .refl _

theorem unaffected_interpreterFetch (h : registration.perform registry = .ok registry')
    (id series : String) (context : Context) :
    Unaffected registration.key (Interpreter.fetch ⟨functions, registry⟩ id series context)
      (Interpreter.fetch ⟨functions, registry'⟩ id series context) :=
  (unaffected_fetch h id series context).map _

theorem unaffected_resolve (h : registration.perform registry = .ok registry') (context : Context)
    (text name : List Char) (source : Option (List Char)) :
    Unaffected registration.key
      (Interpreter.resolve ⟨functions, registry⟩ context text name source)
      (Interpreter.resolve ⟨functions, registry'⟩ context text name source) := by
  unfold Interpreter.resolve
  dsimp only
  split
  · exact .refl _
  · split
    · exact .refl _
    · split
      · exact .refl _
      · exact unaffected_interpreterFetch h _ _ context

theorem unaffected_fetchByCall (h : registration.perform registry = .ok registry')
    (context : Context) (source : String) (arguments : List (Argument Expr)) :
    Unaffected registration.key
      (Interpreter.fetchByCall ⟨functions, registry⟩ context source arguments)
      (Interpreter.fetchByCall ⟨functions, registry'⟩ context source arguments) := by
  unfold Interpreter.fetchByCall
  split
  · refine Unaffected.bind (.refl _) fun count => ?_
    split
    · exact .refl _
    · refine Unaffected.bind (.refl _) fun literal => ?_
      dsimp only
      split
      · exact .refl _
      · exact unaffected_interpreterFetch h _ _ context
  · exact .refl _

/-- A call of a name that no function has: to have a source of the name is to know the function. -/
theorem unaffected_sourceCall (h : registration.perform registry = .ok registry')
    (context : Context) (name : String) (arguments : List (Argument Expr)) :
    Unaffected registration.key
      (if registry.contains name then
        Interpreter.fetchByCall ⟨functions, registry⟩ context name arguments
      else .error (.unknownFunction name))
      (if registry'.contains name then
        Interpreter.fetchByCall ⟨functions, registry'⟩ context name arguments
      else .error (.unknownFunction name)) := by
  unfold SourceRegistry.contains
  by_cases heq : Text.normalName name = registration.key
  · have hmisses : (FormulaError.unknownFunction name).Misses registration.key := heq
    rw [Registration.get?_of_eq h heq]
    exact .of_misses hmisses _
  · rw [Registration.get?_of_ne h heq]
    split
    · exact unaffected_fetchByCall h context name arguments
    · exact .refl _

mutual

theorem unaffected_evalExpr (h : registration.perform registry = .ok registry') :
    (expr : Expr) → ∀ (context : Context) (supply : Supply), Unaffected registration.key
      (Interpreter.evalExpr ⟨functions, registry⟩ context supply expr)
      (Interpreter.evalExpr ⟨functions, registry'⟩ context supply expr)
  | .malformed e, _, _ => by
    rw [Interpreter.evalExpr, Interpreter.evalExpr]
    exact .refl _
  | .table, _, _ => by
    rw [Interpreter.evalExpr, Interpreter.evalExpr]
    exact .refl _
  | .number text value, _, _ => by
    rw [Interpreter.evalExpr, Interpreter.evalExpr]
    exact .refl _
  | .literal content, _, _ => by
    rw [Interpreter.evalExpr, Interpreter.evalExpr]
    exact .refl _
  | .reference text name source, context, _ => by
    rw [Interpreter.evalExpr, Interpreter.evalExpr]
    exact unaffected_resolve h context text name source
  | .operation op leftTables left right, context, supply => by
    rw [Interpreter.evalExpr, Interpreter.evalExpr]
    have hleft := unaffected_evalExpr h left context (supply.take leftTables)
    have hright := unaffected_evalExpr h right context (supply.drop leftTables)
    exact hleft.bind fun l => hright.bind fun r => .refl _
  | .overlay settings tables body, context, supply => by
    rw [Interpreter.evalExpr, Interpreter.evalExpr]
    exact Unaffected.bind (.refl _) fun inner =>
      unaffected_evalExpr h body inner (supply.take tables)
  | .call name arguments, context, supply => by
    rw [Interpreter.evalExpr, Interpreter.evalExpr]
    dsimp only
    split
    · have harguments := unaffected_evalArguments h arguments context supply
      exact harguments.bind fun results => .refl _
    · exact unaffected_sourceCall h context _ arguments

theorem unaffected_evalArguments (h : registration.perform registry = .ok registry') :
    (arguments : List (Argument Expr)) → ∀ (context : Context) (supply : Supply),
      Unaffected registration.key
        (Interpreter.evalArguments ⟨functions, registry⟩ context supply arguments)
        (Interpreter.evalArguments ⟨functions, registry'⟩ context supply arguments)
  | [], _, _ => by
    rw [Interpreter.evalArguments, Interpreter.evalArguments]
    exact .refl _
  | ⟨_, tables, body⟩ :: rest, context, supply => by
    rw [Interpreter.evalArguments, Interpreter.evalArguments]
    have hbody := unaffected_evalExpr h body context (supply.take tables)
    have hrest := unaffected_evalArguments h rest context (supply.drop tables)
    exact hbody.bind fun first => hrest.bind fun others => .refl _

end

end Evaluation

/-- A registry may grow: a formula keeps its value and its error, unless the error is that the added
identifier is missing. -/
theorem Interpreter.evaluate_extended (functions : FunctionRegistry)
    {registry registry' : SourceRegistry} {registration : Registration}
    (hperform : registration.perform registry = .ok registry') (formula : String)
    (context : Context) (tables : List Table)
    (hresult : ∀ e, evaluate ⟨functions, registry⟩ formula context tables = .error e →
      ¬ e.Misses registration.key) :
    evaluate ⟨functions, registry'⟩ formula context tables =
      evaluate ⟨functions, registry⟩ formula context tables := by
  have hunaffected : Unaffected registration.key
      (evaluate ⟨functions, registry⟩ formula context tables)
      (evaluate ⟨functions, registry'⟩ formula context tables) := by
    unfold evaluate
    dsimp only
    split
    · exact .refl _
    · refine Unaffected.bind (.refl _) fun expected => ?_
      have hexpr := @unaffected_evalExpr functions _ _ _ hperform (Expr.parse formula.toList) context
        ⟨tables, 0⟩
      split
      · exact Unaffected.bind (.refl _) fun _ => hexpr
      · exact hexpr
  exact hunaffected hresult

def lagSource : Source := (MemorySource.of "lag" none).toSource

/-- Behind the name of a function the source of the same name is not consulted. -/
theorem Interpreter.evaluate_extended_lag :
    ∃ registry', (Registration.source lagSource).perform (.holding "GDP" (monthly none none)) =
        .ok registry' ∧ registry'.contains "LAG" = true ∧
      ∃ result, evaluate ⟨.standard, .holding "GDP" (monthly none none)⟩ "LAG(GDP)" .default [] =
          .ok result ∧
        evaluate ⟨.standard, registry'⟩ "LAG(GDP)" .default [] = .ok result := by
  have hadded : ((Registration.source lagSource).perform
      (.holding "GDP" (monthly none none))).toOption.map (·.contains "LAG") = some true := by
    decide +kernel
  obtain ⟨registry', hregistry, hcontains⟩ := Option.map_eq_some_iff.1 hadded
  have hperform := eq_ok_of_toOption hregistry
  have hresult : evaluate ⟨.standard, .holding "GDP" (monthly none none)⟩ "LAG(GDP)" .default [] =
      .ok ⟨.series (monthly none none), .node "LAG" [fetchedMonths]⟩ :=
    evaluate_of_evaluateTo 2 rfl
  have hextended := evaluate_extended .standard hperform "LAG(GDP)" .default [] fun e he => by
    rw [hresult] at he
    cases he
  exact ⟨registry', hperform, hcontains, _, hresult, hextended.trans hresult⟩

end TimeSeries
