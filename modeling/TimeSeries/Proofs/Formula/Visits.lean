import Mathlib.Logic.Relation
import TimeSeries.Proofs.Formula.Refusals
import TimeSeries.Proofs.Formula.Rescanning

set_option autoImplicit false

/-!
# Visits of an evaluation

An evaluation visits texts: it comes to each with a context and with the supplied tables that the
text sees, and it may go on from there to the parts of the text. `Calls` is one such step, and
`Scans.evalExpr_eq` says that the evaluator makes these steps. What holds of the visit of the formula
and is kept by every step holds of all visits, and an error of the formula has its cause at one of
them.
-/
namespace TimeSeries

/-- A text that is evaluated: where it stands in the formula, under which settings, and the tables
that it sees. -/
structure Visit where
  start : Nat
  text : List Char
  context : Context
  supply : Supply

/-- The number of characters before the first top-level parenthesis. -/
def MarkedText.opening (marked : MarkedText) : Nat :=
  (marked.takeWhile (!MarkedText.isTop '(' ·)).length

namespace Visit

def ofFormula (formula : String) (context : Context) (tables : List Table) : Visit :=
  ⟨0, formula.toList, context, ⟨tables, 0⟩⟩

def value (interpreter : Interpreter) (visit : Visit) : Except FormulaError Evaluation :=
  interpreter.evalExpr visit.context visit.supply (Expr.parse visit.text)

def layer (visit : Visit) : Layer := Layer.of (Text.trim visit.text)

def inside (visit : Visit) : Nat := visit.start + (visit.text.takeWhile Text.isBlank).length

variable (interpreter : Interpreter) (visit : Visit)

/-- The loop over the arguments of a function: where the arguments stand that are left, these
arguments, the tables that are left for them, and the results so far. -/
inductive Remaining : Nat → List (List Char) → Supply → List Evaluation → Prop
  | first {application : Call} {marked : MarkedText} :
      visit.layer = .call application →
      interpreter.functions.contains (String.ofList application.name) = true →
      scan (Text.trim visit.text) = .ok marked →
      Remaining (visit.inside + marked.opening + 1) application.arguments visit.supply []
  | next {start n : Nat} {argument : List Char} {rest : List (List Char)} {supply : Supply}
      {results : List Evaluation} {result : Evaluation} :
      Remaining start (argument :: rest) supply results →
      countPlaceholders argument = .ok n →
      value interpreter ⟨start, argument, visit.context, supply.take n⟩ = .ok result →
      Remaining (start + argument.length + 1) rest (supply.drop n) (results ++ [result])

/-- One visit leads to another. -/
inductive Calls : Visit → Prop
  | left {split : OperatorSplit} {n : Nat} :
      visit.layer = .operation split → countPlaceholders split.left = .ok n →
      Calls ⟨visit.inside, split.left, visit.context, visit.supply.take n⟩
  | right {split : OperatorSplit} {n : Nat} {result : Evaluation} :
      visit.layer = .operation split → countPlaceholders split.left = .ok n →
      value interpreter ⟨visit.inside, split.left, visit.context, visit.supply.take n⟩ =
        .ok result →
      Calls ⟨visit.inside + split.left.length + 1, split.right, visit.context, visit.supply.drop n⟩
  | head {head settings : List Char} {parsed : List Setting} {inner : Context} {n : Nat} :
      visit.layer = .overlay head settings → parseSettings settings = .ok parsed →
      visit.context.applySettings parsed = .ok inner → countPlaceholders head = .ok n →
      Calls ⟨visit.inside, head, inner, visit.supply.take n⟩
  | group {content : List Char} {marked : MarkedText} :
      visit.layer = .group content → scan (Text.trim visit.text) = .ok marked →
      Calls ⟨visit.inside + marked.opening + 1, content, visit.context, visit.supply⟩
  | argument {start n : Nat} {argument : List Char} {rest : List (List Char)} {supply : Supply}
      {results : List Evaluation} :
      Remaining interpreter visit start (argument :: rest) supply results →
      countPlaceholders argument = .ok n →
      Calls ⟨start, argument, visit.context, supply.take n⟩

/-- One visit leads to another in any number of steps. -/
def Reaches : Visit → Visit → Prop := Relation.ReflTransGen (Calls interpreter)

/-- The visit asks a source for a series, both by the names that the formula gives them. -/
inductive Asks : String → String → Prop
  | reference {content text name : List Char} {source : Option (List Char)} :
      visit.layer = .leaf content → Expr.ofLeaf content = .reference text name source →
      name ≠ [] → isSeriesName name = true →
      (source.map String.ofList).getD visit.context.source ≠ "" →
      Asks ((source.map String.ofList).getD visit.context.source) (String.ofList name)
  | call {application : Call} {argument : List Char} {literal : Option (List Char)} :
      visit.layer = .call application →
      interpreter.functions.contains (String.ofList application.name) = false →
      interpreter.sources.contains (String.ofList application.name) = true →
      application.arguments = [argument] → countPlaceholders argument = .ok 0 →
      unquote argument = .ok literal → Text.trim (literal.getD argument) ≠ [] →
      Asks (String.ofList application.name)
        (String.ofList (Text.trim (literal.getD argument)))

end Visit

/-- Why evaluation stops at a visit and at none that this visit leads to. -/
inductive Visit.Fails (interpreter : Interpreter) (visit : Visit) : FormulaError → Prop
  | refused {e : FormulaError} : e.IsRefusal → Fails interpreter visit e
  | supply {e : FormulaError} : visit.layer = .leaf ['%', 'd'] →
      Interpreter.supplied visit.supply = .error e → Fails interpreter visit e
  | source {id series : String} {e : FormulaError} : Asks interpreter visit id series →
      interpreter.sources.fetch id series visit.context = .error e → Fails interpreter visit e
  | operator {left right : Visit} {l r : Evaluation} {op : Operator} {e : FormulaError} :
      Calls interpreter visit left → left.value interpreter = .ok l →
      Calls interpreter visit right → right.value interpreter = .ok r →
      combine op visit.context.fillMissing l.value r.value = .error e → Fails interpreter visit e
  | function {start : Nat} {supply : Supply} {results : List Evaluation} {name : String}
      {e : FormulaError} : Remaining interpreter visit start [] supply results →
      interpreter.functions.contains name = true →
      interpreter.functions.call name (results.map Evaluation.value) visit.context = .error e →
      Fails interpreter visit e

namespace Visit

variable {interpreter : Interpreter} {visit visit' : Visit} {e : FormulaError}

theorem found {layer : Layer} (hl : visit.layer = layer) :
    Layer.Found (Text.trim visit.text) layer :=
  hl ▸ Layer.found_of (Text.trim visit.text)

/-! ## Visited texts scan -/

def Scans (visit : Visit) : Prop := ∃ marked, scan visit.text = .ok marked

theorem Scans.part (h : visit.Scans) {part : List Char} (hp : part ∈ visit.layer.parts) :
    ∃ marked, scan part = .ok marked :=
  h.elim fun _ hs => (counts_trim hs).exists_scan part hp

theorem Scans.exists_count (h : visit.Scans) {part : List Char} (hp : part ∈ visit.layer.parts) :
    ∃ n, countPlaceholders part = .ok n :=
  (h.part hp).elim fun marked hs => ⟨marked.placeholders, countPlaceholders_of_scan hs⟩

theorem Scans.exists_core (h : visit.Scans) : ∃ core, scan (Text.trim visit.text) = .ok core := by
  obtain ⟨marked, hmarked⟩ := h
  obtain ⟨-, core, -, -, -, -, hcore⟩ := scan_trim hmarked
  exact ⟨core, hcore⟩

theorem Remaining.subset_parts {start : Nat} {arguments : List (List Char)} {supply : Supply}
    {results : List Evaluation} (h : Remaining interpreter visit start arguments supply results) :
    arguments ⊆ visit.layer.parts := by
  induction h with
  | first hl => rw [hl, Layer.parts]; exact List.Subset.refl _
  | next _ _ _ ih => exact fun argument ha => ih (List.mem_cons_of_mem _ ha)

theorem Remaining.exists_layer {start : Nat} {arguments : List (List Char)} {supply : Supply}
    {results : List Evaluation} (h : Remaining interpreter visit start arguments supply results) :
    ∃ application, visit.layer = .call application := by
  induction h with
  | first hl => exact ⟨_, hl⟩
  | next _ _ _ ih => exact ih

theorem Calls.mem_parts (h : Calls interpreter visit visit') : visit'.text ∈ visit.layer.parts := by
  cases h with
  | left hl | right hl => simp [hl, Layer.parts]
  | head hl | group hl => simp [hl, Layer.parts]
  | argument hr => exact hr.subset_parts List.mem_cons_self

theorem Calls.length_lt (h : Calls interpreter visit visit') :
    visit'.text.length < visit.text.length :=
  Expr.length_lt_of_mem_parts h.mem_parts

theorem Reaches.scans (h : Reaches interpreter visit visit') (hs : visit.Scans) :
    visit'.Scans := by
  induction h with
  | refl => exact hs
  | tail _ hcall ih => exact ih.part hcall.mem_parts

theorem Reaches.readIn (h : Reaches interpreter visit visit') : ReadIn visit.text visit'.text := by
  induction h with
  | refl => exact .whole
  | tail _ hcall ih => exact ih.part hcall.mem_parts

theorem Remaining.exists_calls {start : Nat} {arguments : List (List Char)} {supply : Supply}
    {results : List Evaluation} (h : Remaining interpreter visit start arguments supply results) :
    ∀ result ∈ results, ∃ visit', Calls interpreter visit visit' ∧
      visit'.value interpreter = .ok result := by
  induction h with
  | first => simp
  | next hr hn hvalue ih =>
    intro result hresult
    rcases List.mem_append.1 hresult with hresult | hresult
    · exact ih result hresult
    · rw [List.mem_singleton.1 hresult]
      exact ⟨_, .argument hr hn, hvalue⟩

/-! ## The value of a visit by those it leads to -/

section Values

variable {n : Nat}

theorem value_malformed (h : visit.layer = .malformed e) : visit.value interpreter = .error e := by
  rw [value, Expr.parse_eq_malformed h, Interpreter.evalExpr]

theorem value_leaf {content : List Char} (h : visit.layer = .leaf content) :
    visit.value interpreter =
      interpreter.evalExpr visit.context visit.supply (Expr.ofLeaf content) := by
  rw [value, Expr.parse_eq_leaf h]

theorem value_operation {split : OperatorSplit} (h : visit.layer = .operation split)
    (hn : countPlaceholders split.left = .ok n) :
    visit.value interpreter = (do
      let l ← value interpreter ⟨visit.inside, split.left, visit.context, visit.supply.take n⟩
      let r ← value interpreter ⟨visit.inside + split.left.length + 1, split.right, visit.context,
        visit.supply.drop n⟩
      Interpreter.operate split.operator visit.context l r) := by
  rw [value, Expr.parse_eq_operation h hn, Interpreter.evalExpr]
  rfl

theorem value_overlay {head settings : List Char} (h : visit.layer = .overlay head settings)
    (hn : countPlaceholders head = .ok n) :
    visit.value interpreter = (do
      let parsed ← parseSettings settings
      let inner ← visit.context.applySettings parsed
      value interpreter ⟨visit.inside, head, inner, visit.supply.take n⟩) := by
  rw [value, Expr.parse_eq_overlay h hn]
  cases parseSettings settings with
  | error e => rw [Expr.withSettings, Interpreter.evalExpr]; rfl
  | ok parsed => rw [Expr.withSettings, Interpreter.evalExpr]; rfl

theorem value_group {content : List Char} (h : visit.layer = .group content) (start : Nat) :
    visit.value interpreter =
      value interpreter ⟨start, content, visit.context, visit.supply⟩ := by
  rw [value, Expr.parse_eq_group h, value]

def readArguments (arguments : List (List Char)) : List (Argument Expr) :=
  arguments.map fun argument => Expr.ofArgument argument (Expr.parse argument)

theorem evalArguments_cons {argument : List Char} (hn : countPlaceholders argument = .ok n)
    (start : Nat) (context : Context) (supply : Supply) (rest : List (List Char)) :
    interpreter.evalArguments context supply (readArguments (argument :: rest)) = (do
      let first ← value interpreter ⟨start, argument, context, supply.take n⟩
      let others ← interpreter.evalArguments context (supply.drop n) (readArguments rest)
      return first :: others) := by
  rw [readArguments, List.map_cons, Expr.ofArgument, hn]
  dsimp only
  rw [Interpreter.evalArguments]
  rfl

theorem fetchByCall_singleton {argument : List Char} (hn : countPlaceholders argument = .ok n)
    (context : Context) (source : String) :
    interpreter.fetchByCall context source (readArguments [argument]) =
      if 0 < n then argumentError (.tableAsSeriesName source)
      else (unquote argument).bind fun literal =>
        if Text.trim (literal.getD argument) = [] then argumentError (.noSeriesNameIn source)
        else interpreter.fetch source (String.ofList (Text.trim (literal.getD argument))) context := by
  have htext : (Expr.ofArgument argument (Expr.parse argument)).text = argument := by
    rw [Expr.ofArgument, hn]
  rw [readArguments, List.map_singleton, Interpreter.fetchByCall, htext, hn]
  rfl

theorem value_call {application : Call} (h : visit.layer = .call application) :
    visit.value interpreter =
      let name := String.ofList application.name
      if interpreter.functions.contains name then do
        let evaluations ← interpreter.evalArguments visit.context visit.supply
          (readArguments application.arguments)
        interpreter.apply visit.context name evaluations
      else if interpreter.sources.contains name then
        interpreter.fetchByCall visit.context name (readArguments application.arguments)
      else .error (.unknownFunction name) := by
  rw [value, Expr.parse_eq_call h, Interpreter.evalExpr]
  rfl

theorem Remaining.evalArguments_eq {start : Nat} {argument : List Char} {rest : List (List Char)}
    {supply : Supply} {results : List Evaluation} (hscans : visit.Scans)
    (h : Remaining interpreter visit start (argument :: rest) supply results) :
    ∃ n, countPlaceholders argument = .ok n ∧
      Calls interpreter visit ⟨start, argument, visit.context, supply.take n⟩ ∧
      interpreter.evalArguments visit.context supply (readArguments (argument :: rest)) = (do
        let first ← interpreter.evalExpr visit.context (supply.take n) (Expr.parse argument)
        let others ← interpreter.evalArguments visit.context (supply.drop n) (readArguments rest)
        return first :: others) ∧
      ∀ first, interpreter.evalExpr visit.context (supply.take n) (Expr.parse argument) = .ok first →
        Remaining interpreter visit (start + argument.length + 1) rest (supply.drop n)
          (results ++ [first]) := by
  obtain ⟨n, hn⟩ := hscans.exists_count (h.subset_parts List.mem_cons_self)
  exact ⟨n, hn, .argument h hn, evalArguments_cons hn start visit.context supply rest,
    fun first hfirst => h.next hn hfirst⟩

theorem Remaining.contains {start : Nat} {arguments : List (List Char)} {supply : Supply}
    {results : List Evaluation} (h : Remaining interpreter visit start arguments supply results)
    {application : Call} (hl : visit.layer = .call application) :
    interpreter.functions.contains (String.ofList application.name) = true := by
  induction h with
  | first hcall hcontains =>
    rw [hl] at hcall
    cases hcall
    exact hcontains
  | next _ _ _ ih => exact ih

/-- The visits are those of the evaluator. In each layer a text is worth what the evaluator makes of
its parts, and each part is visited in its turn, with the context and the tables that the evaluator
gives it; what has no parts or calls a source leads nowhere. -/
theorem Scans.evalExpr_eq (hscans : visit.Scans) :
    (∀ split, visit.layer = .operation split → ∃ n, countPlaceholders split.left = .ok n ∧
      Calls interpreter visit ⟨visit.inside, split.left, visit.context, visit.supply.take n⟩ ∧
      interpreter.evalExpr visit.context visit.supply (Expr.parse visit.text) = (do
        let l ← interpreter.evalExpr visit.context (visit.supply.take n) (Expr.parse split.left)
        let r ← interpreter.evalExpr visit.context (visit.supply.drop n) (Expr.parse split.right)
        Interpreter.operate split.operator visit.context l r) ∧
      ∀ l, interpreter.evalExpr visit.context (visit.supply.take n) (Expr.parse split.left) = .ok l →
        Calls interpreter visit ⟨visit.inside + split.left.length + 1, split.right, visit.context,
          visit.supply.drop n⟩) ∧
    (∀ head settings, visit.layer = .overlay head settings → ∃ n, countPlaceholders head = .ok n ∧
      interpreter.evalExpr visit.context visit.supply (Expr.parse visit.text) = (do
        let parsed ← parseSettings settings
        let inner ← visit.context.applySettings parsed
        interpreter.evalExpr inner (visit.supply.take n) (Expr.parse head)) ∧
      ∀ parsed inner, parseSettings settings = .ok parsed →
        visit.context.applySettings parsed = .ok inner →
        Calls interpreter visit ⟨visit.inside, head, inner, visit.supply.take n⟩) ∧
    (∀ content, visit.layer = .group content → ∃ start,
      Calls interpreter visit ⟨start, content, visit.context, visit.supply⟩ ∧
      interpreter.evalExpr visit.context visit.supply (Expr.parse visit.text) =
        interpreter.evalExpr visit.context visit.supply (Expr.parse content)) ∧
    (∀ application, visit.layer = .call application →
      interpreter.functions.contains (String.ofList application.name) = true → ∃ start,
        Remaining interpreter visit start application.arguments visit.supply [] ∧
        interpreter.evalExpr visit.context visit.supply (Expr.parse visit.text) = (do
          let evaluations ← interpreter.evalArguments visit.context visit.supply
            (readArguments application.arguments)
          interpreter.apply visit.context (String.ofList application.name) evaluations)) ∧
    ((visit.layer.parts = [] ∨ ∃ application, visit.layer = .call application ∧
        interpreter.functions.contains (String.ofList application.name) = false) →
      ∀ visit', ¬ Calls interpreter visit visit') := by
  refine ⟨fun split hl => ?_, fun head settings hl => ?_, fun content hl => ?_,
    fun application hl hcontains => ?_, ?_⟩
  · obtain ⟨n, hn⟩ := hscans.exists_count (show split.left ∈ visit.layer.parts by
      simp [hl, Layer.parts])
    exact ⟨n, hn, .left hl hn, value_operation hl hn, fun l hleft => .right hl hn hleft⟩
  · obtain ⟨n, hn⟩ := hscans.exists_count (show head ∈ visit.layer.parts by
      simp [hl, Layer.parts])
    exact ⟨n, hn, value_overlay hl hn, fun parsed inner hparsed hinner => .head hl hparsed hinner hn⟩
  · obtain ⟨core, hcore⟩ := hscans.exists_core
    exact ⟨_, .group hl hcore, value_group hl 0⟩
  · obtain ⟨core, hcore⟩ := hscans.exists_core
    refine ⟨_, .first hl hcontains hcore, (value_call hl).trans ?_⟩
    exact if_pos hcontains
  · rintro (hnone | ⟨application, hl, hsource⟩) visit' hcall
    · have hmem := hcall.mem_parts
      rw [hnone] at hmem
      cases hmem
    · cases hcall with
      | left hlayer | right hlayer | head hlayer | group hlayer =>
        rw [hl] at hlayer
        cases hlayer
      | argument hr =>
        rw [hr.contains hl] at hsource
        cases hsource

theorem Remaining.evalArguments_eq_error {start : Nat} {arguments : List (List Char)}
    {supply : Supply} {results : List Evaluation}
    (h : Remaining interpreter visit start arguments supply results)
    (he : interpreter.evalArguments visit.context supply (readArguments arguments) = .error e) :
    visit.value interpreter = .error e := by
  induction h with
  | first hl hcontains =>
    rw [value_call hl]
    exact (if_pos hcontains).trans (bind_eq_error.2 (.inl he))
  | @next start n argument _ _ _ _ _ hn hvalue ih =>
    refine ih ?_
    rw [evalArguments_cons hn start]
    exact bind_eq_error.2 (.inr ⟨_, hvalue, bind_eq_error.2 (.inl he)⟩)

/-- Every visit is needed: an error at it is an error of the visit that leads to it. -/
theorem Calls.value_eq_error (h : Calls interpreter visit visit')
    (he : visit'.value interpreter = .error e) : visit.value interpreter = .error e := by
  cases h with
  | left hl hn =>
    rw [value_operation hl hn]
    exact bind_eq_error.2 (.inl he)
  | right hl hn hleft =>
    rw [value_operation hl hn]
    exact bind_eq_error.2 (.inr ⟨_, hleft, bind_eq_error.2 (.inl he)⟩)
  | head hl hparsed hinner hn =>
    rw [value_overlay hl hn]
    exact bind_eq_error.2 (.inr ⟨_, hparsed, bind_eq_error.2 (.inr ⟨_, hinner, he⟩)⟩)
  | group hl hs =>
    rw [value_group hl]
    exact he
  | @argument start n argument _ _ _ hr hn =>
    refine hr.evalArguments_eq_error ?_
    rw [evalArguments_cons hn start]
    exact bind_eq_error.2 (.inl he)

theorem Reaches.value_eq_error (h : Reaches interpreter visit visit')
    (he : visit'.value interpreter = .error e) : visit.value interpreter = .error e := by
  induction h with
  | refl => exact he
  | tail _ hcall ih => exact ih (hcall.value_eq_error he)

end Values

/-! ## Where an error comes from -/

section Origin

variable {start : Nat} {arguments : List (List Char)} {supply : Supply}
  {results : List Evaluation}

theorem Remaining.exists_calls_error (hscans : visit.Scans)
    (h : Remaining interpreter visit start arguments supply results)
    (he : interpreter.evalArguments visit.context supply (readArguments arguments) = .error e) :
    ∃ visit', Calls interpreter visit visit' ∧ visit'.value interpreter = .error e := by
  induction arguments generalizing start supply results with
  | nil =>
    rw [readArguments, List.map_nil, Interpreter.evalArguments] at he
    cases he
  | cons argument rest ih =>
    obtain ⟨n, hn⟩ := hscans.exists_count (h.subset_parts List.mem_cons_self)
    rw [evalArguments_cons hn start] at he
    rcases bind_eq_error.1 he with he | ⟨result, hresult, he⟩
    · exact ⟨_, .argument h hn, he⟩
    · rcases bind_eq_error.1 he with he | ⟨others, -, he⟩
      · exact ih (h.next hn hresult) he
      · cases he

theorem Remaining.exists_finished (hscans : visit.Scans)
    (h : Remaining interpreter visit start arguments supply results) {others : List Evaluation}
    (ho : interpreter.evalArguments visit.context supply (readArguments arguments) = .ok others) :
    ∃ stop rest, Remaining interpreter visit stop [] rest (results ++ others) := by
  induction arguments generalizing start supply results others with
  | nil =>
    rw [readArguments, List.map_nil, Interpreter.evalArguments] at ho
    cases ho
    exact ⟨start, supply, by simpa using h⟩
  | cons argument rest ih =>
    obtain ⟨n, hn⟩ := hscans.exists_count (h.subset_parts List.mem_cons_self)
    rw [evalArguments_cons hn start] at ho
    obtain ⟨result, hresult, ho⟩ := bind_eq_ok.1 ho
    obtain ⟨more, hmore, ho⟩ := bind_eq_ok.1 ho
    cases ho
    obtain ⟨stop, left, hfinished⟩ := ih (h.next hn hresult) hmore
    exact ⟨stop, left, by simpa using hfinished⟩

theorem fails_of_resolve {content text name : List Char} {source : Option (List Char)}
    (hl : visit.layer = .leaf content) (ho : Expr.ofLeaf content = .reference text name source)
    (h : interpreter.resolve visit.context text name source = .error e) :
    Fails interpreter visit e := by
  simp only [Interpreter.resolve] at h
  split at h
  · cases h
    exact .refused trivial
  · rename_i hname
    split at h
    · cases h
      exact .refused trivial
    · rename_i hsource
      split at h
      · cases h
        exact .refused trivial
      · rename_i hseries
        exact .source (.reference hl ho hname (by simpa using hseries) hsource) (map_eq_error.1 h)

theorem fails_of_fetchByCall {application : Call} (hscans : visit.Scans)
    (hl : visit.layer = .call application)
    (hfunction : interpreter.functions.contains (String.ofList application.name) = false)
    (hsource : interpreter.sources.contains (String.ofList application.name) = true)
    (h : interpreter.fetchByCall visit.context (String.ofList application.name)
      (readArguments application.arguments) = .error e) : Fails interpreter visit e := by
  match hargs : application.arguments with
  | [] =>
    rw [hargs] at h
    cases h
    exact .refused trivial
  | _ :: _ :: _ =>
    rw [hargs] at h
    cases h
    exact .refused trivial
  | [argument] =>
    obtain ⟨n, hn⟩ := hscans.exists_count (show argument ∈ visit.layer.parts by
      simp [hl, Layer.parts, hargs])
    rw [hargs, fetchByCall_singleton hn] at h
    split at h
    · cases h
      exact .refused trivial
    · rename_i hzero
      obtain rfl : n = 0 := Nat.eq_zero_of_not_pos hzero
      rcases bind_eq_error.1 h with hquote | ⟨literal, hliteral, hfetch⟩
      · exact .refused (isRefusal_of_unquote hquote)
      · split at hfetch
        · cases hfetch
          exact .refused trivial
        · rename_i hne
          exact .source (.call hl hfunction hsource hargs hn hliteral hne) (map_eq_error.1 hfetch)

theorem fails_of_leaf {content : List Char} (hl : visit.layer = .leaf content)
    (he : visit.value interpreter = .error e) : Fails interpreter visit e := by
  rw [value_leaf hl] at he
  rcases Expr.ofLeaf_cases content with
    ⟨rfl, ho⟩ | ⟨x, ho⟩ | ⟨quoted, ho⟩ | ⟨error, ho, hr⟩ | ⟨name, source, ho⟩
  · rw [ho, Interpreter.evalExpr] at he
    exact .supply hl he
  · rw [ho, Interpreter.evalExpr] at he
    cases he
  · rw [ho, Interpreter.evalExpr] at he
    cases he
  · rw [ho, Interpreter.evalExpr] at he
    cases he
    exact .refused hr
  · rw [ho, Interpreter.evalExpr] at he
    exact fails_of_resolve hl ho he

theorem Scans.fails_or_calls_of_call {application : Call} (hscans : visit.Scans)
    (hl : visit.layer = .call application) (he : visit.value interpreter = .error e) :
    Fails interpreter visit e ∨
      ∃ visit', Calls interpreter visit visit' ∧ visit'.value interpreter = .error e := by
  rw [value_call hl] at he
  dsimp only at he
  split at he
  · rename_i hcontains
    obtain ⟨core, hcore⟩ := hscans.exists_core
    have hfirst : Remaining interpreter visit (visit.inside + core.opening + 1)
        application.arguments visit.supply [] := .first hl hcontains hcore
    rcases bind_eq_error.1 he with hargs | ⟨results, hargs, happly⟩
    · exact .inr (hfirst.exists_calls_error hscans hargs)
    · obtain ⟨stop, left, hfinished⟩ := hfirst.exists_finished hscans hargs
      exact .inl (.function hfinished hcontains (map_eq_error.1 happly))
  · rename_i hcontains
    have hfunction := Bool.eq_false_iff.2 hcontains
    split at he
    · rename_i hsource
      exact .inl (fails_of_fetchByCall hscans hl hfunction hsource he)
    · cases he
      exact .inl (.refused trivial)

/-- A visit that fails has the cause itself, or it leads to one that fails with the same error. -/
theorem Scans.fails_or_calls (hscans : visit.Scans) (he : visit.value interpreter = .error e) :
    Fails interpreter visit e ∨
      ∃ visit', Calls interpreter visit visit' ∧ visit'.value interpreter = .error e := by
  cases hl : visit.layer with
  | malformed error =>
    rw [value_malformed hl] at he
    cases he
    exact .inl (.refused (isRefusal_of_layer hl))
  | leaf content => exact .inl (fails_of_leaf hl he)
  | operation split =>
    obtain ⟨n, hn⟩ := hscans.exists_count (show split.left ∈ visit.layer.parts by
      simp [hl, Layer.parts])
    rw [value_operation hl hn] at he
    rcases bind_eq_error.1 he with hleft | ⟨l, hleft, he⟩
    · exact .inr ⟨_, .left hl hn, hleft⟩
    · rcases bind_eq_error.1 he with hright | ⟨r, hright, he⟩
      · exact .inr ⟨_, .right hl hn hleft, hright⟩
      · exact .inl (.operator (.left hl hn) hleft (.right hl hn hleft) hright (map_eq_error.1 he))
  | overlay head settings =>
    obtain ⟨n, hn⟩ := hscans.exists_count (show head ∈ visit.layer.parts by
      simp [hl, Layer.parts])
    rw [value_overlay hl hn] at he
    rcases bind_eq_error.1 he with hparse | ⟨parsed, hparsed, he⟩
    · exact .inl (.refused (isRefusal_of_parseSettings hparse))
    · rcases bind_eq_error.1 he with happly | ⟨inner, hinner, he⟩
      · exact .inl (.refused (isRefusal_of_applySettings happly))
      · exact .inr ⟨_, .head hl hparsed hinner hn, he⟩
  | group content =>
    obtain ⟨core, hcore⟩ := hscans.exists_core
    rw [value_group hl] at he
    exact .inr ⟨_, .group hl hcore, he⟩
  | call application => exact hscans.fails_or_calls_of_call hl he

/-- An error arises at one of the visits, and evaluation hands it on unchanged. -/
theorem Scans.exists_fails (hscans : visit.Scans) (he : visit.value interpreter = .error e) :
    ∃ visit', Reaches interpreter visit visit' ∧ visit'.value interpreter = .error e ∧
      Fails interpreter visit' e := by
  induction hlen : visit.text.length using Nat.strongRecOn generalizing visit with
  | ind length ih =>
    subst hlen
    rcases hscans.fails_or_calls he with hfails | ⟨visit', hcall, he'⟩
    · exact ⟨visit, .refl, he, hfails⟩
    · obtain ⟨origin, hreach, horigin⟩ :=
        ih visit'.text.length hcall.length_lt (hscans.part hcall.mem_parts) he' rfl
      exact ⟨origin, .head hcall hreach, horigin⟩

end Origin

/-! ## What evaluation depends on -/

section Sources

variable {functions : FunctionRegistry} {sources sources' : SourceRegistry}

theorem Remaining.evalArguments_congr {start : Nat} {arguments : List (List Char)}
    {supply : Supply} {results : List Evaluation} (hscans : visit.Scans)
    (h : Remaining ⟨functions, sources⟩ visit start arguments supply results)
    (hcalls : ∀ visit', Calls ⟨functions, sources⟩ visit visit' →
      visit'.value ⟨functions, sources⟩ = visit'.value ⟨functions, sources'⟩) :
    Interpreter.evalArguments ⟨functions, sources⟩ visit.context supply (readArguments arguments) =
      Interpreter.evalArguments ⟨functions, sources'⟩ visit.context supply
        (readArguments arguments) := by
  induction arguments generalizing start supply results with
  | nil => rw [readArguments, List.map_nil, Interpreter.evalArguments, Interpreter.evalArguments]
  | cons argument rest ih =>
    obtain ⟨n, hn⟩ := hscans.exists_count (h.subset_parts List.mem_cons_self)
    rw [evalArguments_cons hn start, evalArguments_cons hn start,
      ← hcalls _ (.argument h hn)]
    cases hfirst : value ⟨functions, sources⟩ ⟨start, argument, visit.context, supply.take n⟩ with
    | error e => rfl
    | ok result => rw [ih (h.next hn hfirst)]

theorem fetchByCall_congr {application : Call} (hscans : visit.Scans)
    (hl : visit.layer = .call application)
    (hfunction : functions.contains (String.ofList application.name) = false)
    (hsource : sources.contains (String.ofList application.name) = true)
    (hasks : ∀ id series, Asks ⟨functions, sources⟩ visit id series →
      sources.fetch id series visit.context = sources'.fetch id series visit.context) :
    Interpreter.fetchByCall ⟨functions, sources⟩ visit.context (String.ofList application.name)
        (readArguments application.arguments) =
      Interpreter.fetchByCall ⟨functions, sources'⟩ visit.context (String.ofList application.name)
        (readArguments application.arguments) := by
  match hargs : application.arguments with
  | [] => rfl
  | _ :: _ :: _ => rfl
  | [argument] =>
    obtain ⟨n, hn⟩ := hscans.exists_count (show argument ∈ visit.layer.parts by
      simp [hl, Layer.parts, hargs])
    rw [fetchByCall_singleton hn, fetchByCall_singleton hn]
    split
    · rfl
    · rename_i hzero
      obtain rfl : n = 0 := Nat.eq_zero_of_not_pos hzero
      cases hliteral : unquote argument with
      | error e => rfl
      | ok literal =>
        dsimp only [Except.bind]
        split
        · rfl
        · rename_i hne
          exact congrArg _ (hasks _ _ (.call hl hfunction hsource hargs hn hliteral hne))

theorem resolve_congr {content text name : List Char} {source : Option (List Char)}
    (hl : visit.layer = .leaf content) (ho : Expr.ofLeaf content = .reference text name source)
    (hasks : ∀ id series, Asks ⟨functions, sources⟩ visit id series →
      sources.fetch id series visit.context = sources'.fetch id series visit.context) :
    Interpreter.resolve ⟨functions, sources⟩ visit.context text name source =
      Interpreter.resolve ⟨functions, sources'⟩ visit.context text name source := by
  simp only [Interpreter.resolve]
  split
  · rfl
  · rename_i hname
    split
    · rfl
    · rename_i hsource
      split
      · rfl
      · rename_i hseries
        exact congrArg _ (hasks _ _ (.reference hl ho hname (by simpa using hseries) hsource))

theorem value_congr_of_call {application : Call} (hscans : visit.Scans)
    (hl : visit.layer = .call application)
    (hcontains : ∀ id, sources.contains id = sources'.contains id)
    (hcalls : ∀ visit', Calls ⟨functions, sources⟩ visit visit' →
      visit'.value ⟨functions, sources⟩ = visit'.value ⟨functions, sources'⟩)
    (hasks : ∀ id series, Asks ⟨functions, sources⟩ visit id series →
      sources.fetch id series visit.context = sources'.fetch id series visit.context) :
    visit.value ⟨functions, sources⟩ = visit.value ⟨functions, sources'⟩ := by
  rw [value_call hl, value_call hl]
  dsimp only
  rw [← hcontains]
  split
  · rename_i hfunction
    obtain ⟨core, hcore⟩ := hscans.exists_core
    have hfirst : Remaining ⟨functions, sources⟩ visit (visit.inside + core.opening + 1)
        application.arguments visit.supply [] := .first hl hfunction hcore
    rw [hfirst.evalArguments_congr hscans hcalls]
    rfl
  · rename_i hfunction
    split
    · rename_i hsource
      exact fetchByCall_congr hscans hl (Bool.eq_false_iff.2 hfunction) hsource hasks
    · rfl

theorem value_congr_of_calls (hscans : visit.Scans)
    (hcontains : ∀ id, sources.contains id = sources'.contains id)
    (hcalls : ∀ visit', Calls ⟨functions, sources⟩ visit visit' →
      visit'.value ⟨functions, sources⟩ = visit'.value ⟨functions, sources'⟩)
    (hasks : ∀ id series, Asks ⟨functions, sources⟩ visit id series →
      sources.fetch id series visit.context = sources'.fetch id series visit.context) :
    visit.value ⟨functions, sources⟩ = visit.value ⟨functions, sources'⟩ := by
  cases hl : visit.layer with
  | malformed error => rw [value_malformed hl, value_malformed hl]
  | leaf content =>
    rw [value_leaf hl, value_leaf hl]
    rcases Expr.ofLeaf_cases content with
      ⟨-, ho⟩ | ⟨x, ho⟩ | ⟨quoted, ho⟩ | ⟨error, ho, -⟩ | ⟨name, source, ho⟩
    · rw [ho, Interpreter.evalExpr, Interpreter.evalExpr]
    · rw [ho, Interpreter.evalExpr, Interpreter.evalExpr]
    · rw [ho, Interpreter.evalExpr, Interpreter.evalExpr]
    · rw [ho, Interpreter.evalExpr, Interpreter.evalExpr]
    · rw [ho, Interpreter.evalExpr, Interpreter.evalExpr]
      exact resolve_congr hl ho hasks
  | operation split =>
    obtain ⟨n, hn⟩ := hscans.exists_count (show split.left ∈ visit.layer.parts by
      simp [hl, Layer.parts])
    rw [value_operation hl hn, value_operation hl hn, ← hcalls _ (.left hl hn)]
    cases hleft : value ⟨functions, sources⟩
        ⟨visit.inside, split.left, visit.context, visit.supply.take n⟩ with
    | error e => rfl
    | ok l => rw [← hcalls _ (.right hl hn hleft)]
  | overlay head settings =>
    obtain ⟨n, hn⟩ := hscans.exists_count (show head ∈ visit.layer.parts by
      simp [hl, Layer.parts])
    rw [value_overlay hl hn, value_overlay hl hn]
    cases hparsed : parseSettings settings with
    | error e => rfl
    | ok parsed =>
      cases hinner : visit.context.applySettings parsed with
      | error e => simp [bind, Except.bind, hinner]
      | ok inner =>
        simp only [bind, Except.bind, hinner]
        exact hcalls _ (.head hl hparsed hinner hn)
  | group content =>
    obtain ⟨core, hcore⟩ := hscans.exists_core
    rw [value_group hl, value_group hl]
    exact hcalls _ (.group hl hcore)
  | call application => exact value_congr_of_call hscans hl hcontains hcalls hasks

/-- Evaluation depends on the sources only by what the visits ask them for. -/
theorem Scans.value_congr (hscans : visit.Scans)
    (hcontains : ∀ id, sources.contains id = sources'.contains id)
    (hasks : ∀ visit', Reaches ⟨functions, sources⟩ visit visit' → ∀ id series,
      Asks ⟨functions, sources⟩ visit' id series →
      sources.fetch id series visit'.context = sources'.fetch id series visit'.context) :
    visit.value ⟨functions, sources⟩ = visit.value ⟨functions, sources'⟩ := by
  induction hlen : visit.text.length using Nat.strongRecOn generalizing visit with
  | ind length ih =>
    subst hlen
    refine value_congr_of_calls hscans hcontains (fun visit' hcall => ?_) (hasks visit .refl)
    exact ih _ hcall.length_lt (hscans.part hcall.mem_parts)
      (fun origin hreach => hasks origin (.head hcall hreach)) rfl

end Sources

end Visit

/-! ## Errors of a formula -/

theorem Interpreter.evaluate_eq_error {interpreter : Interpreter} {formula : String}
    {context : Context} {tables : List Table} {e : FormulaError}
    (h : interpreter.evaluate formula context tables = .error e) :
    e.IsRefusal ∨
      (∃ expected, countPlaceholders formula.toList = .ok expected ∧ expected ≠ tables.length ∧
        e = .tableCount expected tables.length) ∨
      Visit.Scans (.ofFormula formula context tables) ∧
        Visit.value interpreter (.ofFormula formula context tables) = .error e := by
  unfold evaluate at h
  dsimp only at h
  split at h
  · cases h
    exact .inl trivial
  · rcases bind_eq_error.1 h with hcount | ⟨expected, hcount, h⟩
    · exact .inl (isRefusal_of_countPlaceholders hcount)
    · split at h
      · rename_i hne
        cases h
        exact .inr (.inl ⟨expected, hcount, hne, rfl⟩)
      · exact .inr (.inr ⟨(map_eq_ok.1 hcount).imp fun _ hs => hs.1, h⟩)

end TimeSeries
