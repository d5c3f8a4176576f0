import Mathlib.Algebra.Order.BigOperators.Group.List
import Mathlib.Algebra.Order.Group.Nat
import TimeSeries.Proofs.Formula.Grouping
import TimeSeries.Proofs.Formula.Layers
import TimeSeries.Proofs.Outcome

set_option autoImplicit false

/-!
# Where the supplied tables go

A formula must come with as many tables as it has placeholders. A placeholder that is an expression
gets its table, in order; one that stands in the options, in a reference or in the name of a call is
counted but stands for no expression, so its table is left out. The provenance of a value shows
every supplied table exactly when a formula has no such placeholder.
-/
namespace TimeSeries

namespace Provenance

mutual

/-- The names of the leaves that supplied tables have, from left to right. -/
def suppliedIds : Provenance → List (Option String)
  | leaf id _ operation => if operation = "input" then [some id] else []
  | node operation [] => if operation = "input" then [none] else []
  | node _ (first :: rest) => first.suppliedIds ++ suppliedIdsOf rest

def suppliedIdsOf : List Provenance → List (Option String)
  | [] => []
  | tree :: rest => tree.suppliedIds ++ suppliedIdsOf rest

end

theorem suppliedIds_fetched (id : String) (info : SourceInfo) :
    (fetched id info).suppliedIds = [] := by
  simp [fetched, suppliedIds]

/-- The names of `count` supplied tables from number `first` on. -/
def inputIds (first count : Nat) : List (Option String) :=
  (List.range' first count).map fun k => some s!"input[{k}]"

theorem length_inputIds (first count : Nat) : (inputIds first count).length = count := by
  simp [inputIds]

theorem inputIds_add (first m n : Nat) :
    inputIds first (m + n) = inputIds first m ++ inputIds (first + m) n := by
  rw [inputIds, inputIds, inputIds, ← List.map_append, List.range'_append_1]

end Provenance

def placeholdersOf (text : List Char) : Nat :=
  match countPlaceholders text with
  | .ok n => n
  | .error _ => 0

theorem placeholdersOf_of_scan {text : List Char} {marked : MarkedText}
    (h : scan text = .ok marked) : placeholdersOf text = marked.placeholders := by
  simp [placeholdersOf, countPlaceholders_of_scan h]

/-- The placeholders of a text that stand for no expression: those among options, those in the name
of a call, and those in a leaf that is more than a placeholder. -/
def strayPlaceholders (text : List Char) : Nat :=
  match _ : Layer.of (Text.trim text) with
  | .malformed _ => 0
  | .operation ⟨_, left, right⟩ => strayPlaceholders left + strayPlaceholders right
  | .overlay head settings => strayPlaceholders head + placeholdersOf settings
  | .group inner => strayPlaceholders inner
  | .call ⟨_, arguments⟩ =>
    placeholdersOf text - (arguments.map placeholdersOf).sum +
      (arguments.attach.map fun ⟨argument, _⟩ => strayPlaceholders argument).sum
  | .leaf content => if content = ['%', 'd'] then 0 else placeholdersOf content
termination_by text.length
decreasing_by
  all_goals exact Expr.length_lt_of_mem_parts (by simp_all [Layer.parts])

namespace SourceRegistry

def InMemory (registry : SourceRegistry) : Prop :=
  ∀ entry ∈ registry.sources.entries, ∃ memory : MemorySource, entry.2 = memory.toSource

theorem fetch_provenance {registry : SourceRegistry} (h : registry.InMemory) {id series : String}
    {context : Context} {table : Table} {provenance : Provenance}
    (hf : registry.fetch id series context = .ok (table, provenance)) :
    ∃ name info, provenance = .fetched name info := by
  unfold fetch at hf
  cases hg : registry.get? id with
  | none => simp [hg] at hf
  | some source =>
    obtain ⟨l₁, l₂, hentries, -⟩ := List.lookup_eq_some_iff.1 hg
    obtain ⟨memory, hmemory⟩ := h (Text.normalName id, source) (by simp [hentries])
    obtain rfl : source = memory.toSource := hmemory
    rw [hg, mapError_eq_ok] at hf
    change memory.fetch (Text.normalName series) context = .ok (table, provenance) at hf
    unfold MemorySource.fetch at hf
    split at hf
    · cases hf
    · obtain ⟨result, -, hresult⟩ := bind_eq_ok.1 hf
      cases hresult
      exact ⟨_, _, rfl⟩

end SourceRegistry

namespace Layer

/-- The parts of a layer scan, and together they have at most the placeholders of the text. -/
def Counts (count : Nat) : Layer → Prop
  | malformed _ => True
  | operation split =>
    ∃ a b, scan split.left = .ok a ∧ scan split.right = .ok b ∧
      count = a.placeholders + b.placeholders
  | overlay head settings =>
    ∃ a b, scan head = .ok a ∧ scan settings = .ok b ∧ count = a.placeholders + b.placeholders
  | group inner => ∃ a, scan inner = .ok a ∧ count = a.placeholders
  | call application =>
    ∃ parts : List MarkedText, application.arguments = parts.map MarkedText.text ∧
      (∀ part ∈ parts, scan part.text = .ok part) ∧
      (parts.map MarkedText.placeholders).sum ≤ count
  | leaf content => ∃ a, scan content = .ok a ∧ count = a.placeholders

theorem Counts.exists_scan {count : Nat} {layer : Layer} (h : Counts count layer) :
    ∀ part ∈ layer.parts, ∃ marked, scan part = .ok marked := by
  cases layer with
  | malformed error => simp [parts]
  | leaf content => simp [parts]
  | operation split =>
    obtain ⟨a, b, ha, hb, -⟩ := h
    intro part hp
    simp only [parts, List.mem_cons, List.not_mem_nil, or_false] at hp
    rcases hp with rfl | rfl
    · exact ⟨a, ha⟩
    · exact ⟨b, hb⟩
  | overlay head settings =>
    obtain ⟨a, b, ha, -⟩ := h
    exact fun part hp => ⟨a, List.mem_singleton.1 hp ▸ ha⟩
  | group inner =>
    obtain ⟨a, ha, -⟩ := h
    exact fun part hp => ⟨a, List.mem_singleton.1 hp ▸ ha⟩
  | call application =>
    obtain ⟨pieces, htexts, hscan, -⟩ := h
    intro part hp
    rw [parts, htexts] at hp
    obtain ⟨piece, hpiece, rfl⟩ := List.mem_map.1 hp
    exact ⟨piece, hscan piece hpiece⟩

theorem counts_of_splitCall {marked : MarkedText} {application : Call}
    (hm : Marks 0 false marked 0 false) (h : splitCall marked = .ok (some application)) :
    ∃ parts : List MarkedText, application.arguments = parts.map MarkedText.text ∧
      (∀ part ∈ parts, scan part.text = .ok part) ∧
      (parts.map MarkedText.placeholders).sum ≤ marked.placeholders ∧
      (application.name = [] →
        (parts.map MarkedText.placeholders).sum = marked.placeholders) := by
  obtain ⟨front, inner, after, rfl, -, hfront, hinner, hafter, hname, hargs⟩ :=
    exists_of_splitCall hm h
  obtain ⟨parts, hparts, hmarks, hsum, -⟩ := exists_of_splitArguments hinner hargs
  rw [placeholders_callMarks hafter]
  refine ⟨parts, hparts, fun part hp => scan_eq_ok_iff.2 ⟨rfl, hmarks part hp⟩, by omega, ?_⟩
  intro hempty
  have hblank : Text.Blanks front.text := Text.blanks_of_trim_eq_nil (hname.symm.trans hempty)
  rw [placeholders_opening hblank, hsum, Nat.zero_add]

theorem counts_of {text : List Char} {marked : MarkedText} (hs : scan text = .ok marked) :
    Counts marked.placeholders (of text) := by
  have hfound := found_of text
  cases hl : of text with
  | malformed error => trivial
  | operation split =>
    rw [hl] at hfound
    obtain ⟨other, hother, hsplit⟩ := hfound
    obtain rfl : marked = other := by rw [hs] at hother; exact Except.ok.inj hother
    obtain ⟨a, b, mark, rfl, -, -, hleft, hright, ha, hb, -⟩ :=
      OperatorSplit.exists_of_splitOperator hs hsplit
    exact ⟨a, b, hleft ▸ ha, hright ▸ hb, MarkedText.placeholders_operation _ _ _ _⟩
  | overlay head settings =>
    rw [hl] at hfound
    obtain ⟨a, b, mark, hother, htop, rfl, rfl⟩ := hfound
    obtain rfl : marked = a ++ ('#', mark) :: b := by rw [hs] at hother; exact Except.ok.inj hother
    obtain ⟨ha, hb⟩ := scan_cut (by simp [IsPlain]) htop hs
    refine ⟨a, b, ha, hb, ?_⟩
    rw [MarkedText.placeholders_append (by rfl),
      MarkedText.placeholders_cons_of_inert (MarkedText.inert_of_ne (by simp))]
  | group inner =>
    rw [hl] at hfound
    obtain ⟨other, hother, hcall⟩ := hfound
    obtain rfl : marked = other := by rw [hs] at hother; exact Except.ok.inj hother
    obtain ⟨parts, hparts, hscan, -, hsum⟩ := counts_of_splitCall (scan_eq_ok_iff.1 hs).2 hcall
    obtain ⟨part, rfl, rfl⟩ : ∃ part, parts = [part] ∧ part.text = inner :=
      List.map_eq_singleton_iff.1 hparts.symm
    refine ⟨part, hscan part (List.mem_singleton_self part), ?_⟩
    simpa using (hsum rfl).symm
  | call application =>
    rw [hl] at hfound
    obtain ⟨other, hother, hcall⟩ := hfound
    obtain rfl : marked = other := by rw [hs] at hother; exact Except.ok.inj hother
    obtain ⟨parts, hparts, hscan, hle, -⟩ := counts_of_splitCall (scan_eq_ok_iff.1 hs).2 hcall
    exact ⟨parts, hparts, hscan, hle⟩
  | leaf content =>
    rw [hl] at hfound
    obtain ⟨rfl, -⟩ := hfound
    exact ⟨marked, hs, rfl⟩

end Layer

theorem strayPlaceholders_eq (text : List Char) :
    strayPlaceholders text =
      (match Layer.of (Text.trim text) with
      | .malformed _ => 0
      | .operation split => strayPlaceholders split.left + strayPlaceholders split.right
      | .overlay head settings => strayPlaceholders head + placeholdersOf settings
      | .group inner => strayPlaceholders inner
      | .call application =>
        placeholdersOf text - (application.arguments.map placeholdersOf).sum +
          (application.arguments.map strayPlaceholders).sum
      | .leaf content => if content = ['%', 'd'] then 0 else placeholdersOf content : Nat) := by
  rw [strayPlaceholders]
  split <;> simp_all

theorem map_placeholdersOf {parts : List MarkedText}
    (h : ∀ part ∈ parts, scan part.text = .ok part) :
    (parts.map MarkedText.text).map placeholdersOf = parts.map MarkedText.placeholders := by
  rw [List.map_map]
  exact List.map_congr_left fun part hp => placeholdersOf_of_scan (h part hp)

theorem counts_trim {text : List Char} {marked : MarkedText} (hs : scan text = .ok marked) :
    (Layer.of (Text.trim text)).Counts marked.placeholders := by
  obtain ⟨pre, core, post, rfl, hpre, hpost, hcore⟩ := scan_trim hs
  rw [MarkedText.placeholders_between hpre hpost]
  exact Layer.counts_of hcore

theorem strayPlaceholders_le {text : List Char} {marked : MarkedText}
    (hs : scan text = .ok marked) : strayPlaceholders text ≤ marked.placeholders := by
  induction hlen : text.length using Nat.strongRecOn generalizing text marked with
  | ind length ih =>
    have hcounts := counts_trim hs
    have hpart : ∀ part ∈ (Layer.of (Text.trim text)).parts, ∀ inner, scan part = .ok inner →
        strayPlaceholders part ≤ inner.placeholders := fun part hp inner hi =>
      ih part.length (hlen ▸ Expr.length_lt_of_mem_parts hp) hi rfl
    rw [strayPlaceholders_eq]
    cases hl : Layer.of (Text.trim text) with
    | malformed error => exact Nat.zero_le _
    | operation split =>
      rw [hl] at hcounts hpart
      obtain ⟨a, b, ha, hb, hsum⟩ := hcounts
      have hleft := hpart split.left (by simp [Layer.parts]) a ha
      have hright := hpart split.right (by simp [Layer.parts]) b hb
      dsimp only
      omega
    | overlay head settings =>
      rw [hl] at hcounts hpart
      obtain ⟨a, b, ha, hb, hsum⟩ := hcounts
      have hhead := hpart head (by simp [Layer.parts]) a ha
      have hsettings := placeholdersOf_of_scan hb
      dsimp only
      omega
    | group inner =>
      rw [hl] at hcounts hpart
      obtain ⟨a, ha, hsum⟩ := hcounts
      have hinner := hpart inner (by simp [Layer.parts]) a ha
      dsimp only
      omega
    | call application =>
      rw [hl] at hcounts hpart
      obtain ⟨parts, hparts, hscan, hle⟩ := hcounts
      have hwhole := placeholdersOf_of_scan hs
      have hargs : (application.arguments.map strayPlaceholders).sum ≤
          (parts.map MarkedText.placeholders).sum := by
        rw [hparts, List.map_map]
        refine List.sum_le_sum fun part hp => ?_
        refine hpart part.text ?_ part (hscan part hp)
        rw [Layer.parts, hparts]
        exact List.mem_map_of_mem hp
      dsimp only
      rw [hwhole, hparts, map_placeholdersOf hscan, ← hparts]
      omega
    | leaf content =>
      rw [hl] at hcounts
      obtain ⟨a, ha, hsum⟩ := hcounts
      dsimp only
      split
      · exact Nat.zero_le _
      · rw [placeholdersOf_of_scan ha, hsum]

namespace Supply

/-- The supplied tables from number `start` on, `count` of them. -/
def slice (tables : List Table) (start count : Nat) : Supply :=
  ⟨(tables.drop start).take count, start⟩

theorem offset_drop {supply : Supply} {n : Nat} (h : n ≤ supply.tables.length) :
    (supply.drop n).offset = supply.offset + n := by
  rw [drop, Nat.min_eq_left h]

theorem take_slice (tables : List Table) (start m n : Nat) :
    (slice tables start (m + n)).take m = slice tables start m := by
  simp [slice, take, List.take_take]

theorem drop_slice {tables : List Table} {start m : Nat} (h : start + m ≤ tables.length)
    (n : Nat) : (slice tables start (m + n)).drop m = slice tables (start + m) n := by
  simp only [slice, drop, mk.injEq, List.drop_take, List.drop_drop, List.length_take,
    List.length_drop, Nat.add_sub_cancel_left, true_and]
  omega

theorem slice_zero_length (tables : List Table) : slice tables 0 tables.length = ⟨tables, 0⟩ := by
  simp [slice]

end Supply

/-- The supplied tables from number `first` on are shown in order, `stray` of them are left out. -/
def Provenance.Shows (ids : List (Option String)) (first count stray : Nat) : Prop :=
  ids.Sublist (inputIds first count) ∧ ids.length + stray = count

namespace Provenance.Shows

variable {ids ids' : List (Option String)} {first m n stray stray' : Nat}

theorem nil (first n : Nat) : Shows [] first n n := ⟨List.nil_sublist _, by simp⟩

theorem append (h : Shows ids first m stray) (h' : Shows ids' (first + m) n stray') :
    Shows (ids ++ ids') first (m + n) (stray + stray') := by
  have hlen := h.2
  have hlen' := h'.2
  refine ⟨?_, ?_⟩
  · rw [inputIds_add]
    exact h.1.append h'.1
  · rw [List.length_append]
    omega

theorem mono (h : Shows ids first m stray) (hle : m ≤ n) :
    Shows ids first n (n - m + stray) := by
  obtain ⟨k, rfl⟩ := Nat.exists_eq_add_of_le hle
  have hmore := h.append (nil (first + m) k)
  rw [List.append_nil] at hmore
  rwa [Nat.add_sub_cancel_left, Nat.add_comm k stray]

theorem eq_iff (h : Shows ids first m stray) : ids = inputIds first m ↔ stray = 0 := by
  have hlen := h.2
  constructor
  · intro heq
    have hids := congrArg List.length heq
    rw [length_inputIds] at hids
    omega
  · intro hzero
    refine h.1.eq_of_length ?_
    rw [length_inputIds]
    omega

end Provenance.Shows

theorem FunctionRegistry.call_nil {registry : FunctionRegistry} {name : String} {context : Context}
    {value : Value} : registry.call name [] context ≠ .ok value := by
  have hinvoke : ∀ function : Function, ∃ e, function.invoke [] context = .error e := by
    intro function
    obtain ⟨name, description, transformation⟩ := function
    cases transformation <;> exact ⟨_, rfl⟩
  unfold FunctionRegistry.call
  cases registry.get? name with
  | none =>
    cases registry.getLegacy? name with
    | none => simp
    | some legacy =>
      obtain ⟨e, he⟩ := hinvoke legacy
      simp [he]
  | some function =>
    obtain ⟨e, he⟩ := hinvoke function
    cases registry.getLegacy? name with
    | none => simp [he]
    | some legacy =>
      obtain ⟨e', he'⟩ := hinvoke legacy
      simp [he, he', mapError_eq_ok]

namespace Interpreter

open Provenance

variable {interpreter : Interpreter} {context : Context} {supply : Supply} {result : Evaluation}

theorem exists_fetched_of_fetch (hmem : interpreter.sources.InMemory) {source series : String}
    (h : interpreter.fetch source series context = .ok result) :
    ∃ id info, result.provenance = .fetched id info := by
  obtain ⟨⟨table, provenance⟩, hf, rfl⟩ := map_eq_ok.1 h
  exact SourceRegistry.fetch_provenance hmem hf

theorem exists_fetched_of_resolve (hmem : interpreter.sources.InMemory) {text name : List Char}
    {source : Option (List Char)}
    (h : interpreter.resolve context text name source = .ok result) :
    ∃ id info, result.provenance = .fetched id info :=
  exists_fetched_of_fetch hmem (resolve_eq_ok_iff.1 h).2.2.2

theorem exists_fetched_of_fetchByCall (hmem : interpreter.sources.InMemory) {source : String}
    {arguments : List (Argument Expr)}
    (h : interpreter.fetchByCall context source arguments = .ok result) :
    (∃ id info, result.provenance = .fetched id info) ∧
      ∃ argument, arguments = [argument] ∧ countPlaceholders argument.text = .ok 0 := by
  unfold fetchByCall at h
  split at h
  · rename_i argument
    obtain ⟨count, hcount, h⟩ := bind_eq_ok.1 h
    split at h
    · cases h
    · rename_i hzero
      obtain rfl : count = 0 := by omega
      obtain ⟨literal, -, h⟩ := bind_eq_ok.1 h
      dsimp only at h
      split at h
      · cases h
      · exact ⟨exists_fetched_of_fetch hmem h, argument, rfl, hcount⟩
  · cases h

theorem suppliedIds_of_operate {op : Operator} {left right : Evaluation}
    (h : operate op context left right = .ok result) :
    result.provenance.suppliedIds =
      left.provenance.suppliedIds ++ right.provenance.suppliedIds := by
  obtain ⟨value, -, rfl⟩ := map_eq_ok.1 h
  simp [suppliedIds, suppliedIdsOf]

theorem suppliedIds_of_apply {name : String} {results : List Evaluation}
    (h : interpreter.apply context name results = .ok result) :
    result.provenance.suppliedIds = suppliedIdsOf (results.map Evaluation.provenance) := by
  obtain ⟨value, hcall, rfl⟩ := map_eq_ok.1 h
  cases results with
  | nil => exact absurd hcall FunctionRegistry.call_nil
  | cons first rest => rfl

theorem suppliedIds_of_ofLeaf (hmem : interpreter.sources.InMemory) {content : List Char}
    (hne : content ≠ ['%', 'd'])
    (h : interpreter.evalExpr context supply (Expr.ofLeaf content) = .ok result) :
    result.provenance.suppliedIds = [] := by
  rw [Expr.ofLeaf, if_neg hne] at h
  split at h
  · rw [evalExpr, Except.ok.injEq] at h
    rw [← h]
    simp [suppliedIds]
  · split at h
    · rw [evalExpr, Except.ok.injEq] at h
      rw [← h]
      simp [suppliedIds]
    · unfold Expr.ofReference at h
      split at h
      · rw [evalExpr] at h
        obtain ⟨id, info, hfetched⟩ := exists_fetched_of_resolve hmem h
        rw [hfetched, suppliedIds_fetched]
      · rw [evalExpr] at h
        obtain ⟨id, info, hfetched⟩ := exists_fetched_of_resolve hmem h
        rw [hfetched, suppliedIds_fetched]
      · rw [evalExpr] at h
        cases h
    · rw [evalExpr] at h
      cases h

/-- The value of a text shows the tables that it is given, without those of the stray
placeholders. -/
def ShowsSupplied (interpreter : Interpreter) (context : Context) (part : MarkedText) : Prop :=
  ∀ (supply : Supply) (result : Evaluation), supply.tables.length = part.placeholders →
    interpreter.evalExpr context supply (Expr.parse part.text) = .ok result →
    Shows result.provenance.suppliedIds supply.offset part.placeholders
      (strayPlaceholders part.text)

theorem shows_evalArguments {parts : List MarkedText}
    (hscan : ∀ part ∈ parts, scan part.text = .ok part)
    (heval : ∀ part ∈ parts, ShowsSupplied interpreter context part)
    (hle : (parts.map MarkedText.placeholders).sum ≤ supply.tables.length)
    {results : List Evaluation}
    (h : interpreter.evalArguments context supply
      (parts.map fun part => Expr.ofArgument part.text (Expr.parse part.text)) = .ok results) :
    Shows (suppliedIdsOf (results.map Evaluation.provenance)) supply.offset
      (parts.map MarkedText.placeholders).sum
      (parts.map fun part => strayPlaceholders part.text).sum := by
  induction parts generalizing supply results with
  | nil =>
    cases h
    exact .nil _ 0
  | cons part rest ih =>
    have hpart := hscan part List.mem_cons_self
    rw [List.map_cons, List.sum_cons] at hle
    have hargument : Expr.ofArgument part.text (Expr.parse part.text) =
        ⟨part.text, part.placeholders, Expr.parse part.text⟩ := by
      rw [Expr.ofArgument, countPlaceholders_of_scan hpart]
    rw [List.map_cons, hargument, evalArguments] at h
    obtain ⟨first, hfirst, h⟩ := bind_eq_ok.1 h
    obtain ⟨others, hothers, h⟩ := bind_eq_ok.1 h
    cases h
    have hshown := heval part List.mem_cons_self (supply.take part.placeholders) first
      (by simp only [Supply.take, List.length_take]; omega) hfirst
    have hrest := ih (fun p hp => hscan p (List.mem_cons_of_mem part hp))
      (fun p hp => heval p (List.mem_cons_of_mem part hp))
      (by simp only [Supply.drop, List.length_drop]; omega) hothers
    rw [Supply.offset_drop (by omega)] at hrest
    exact hshown.append hrest

theorem shows_ofLeaf (hmem : interpreter.sources.InMemory) {content : List Char}
    {marked : MarkedText} (hs : scan content = .ok marked)
    (htables : supply.tables.length = marked.placeholders)
    (h : interpreter.evalExpr context supply (Expr.ofLeaf content) = .ok result) :
    Shows result.provenance.suppliedIds supply.offset marked.placeholders
      (if content = ['%', 'd'] then 0 else placeholdersOf content) := by
  by_cases hcontent : content = ['%', 'd']
  · subst hcontent
    have hone : marked.placeholders = 1 := by
      rw [← placeholdersOf_of_scan hs]
      rfl
    rw [Expr.ofLeaf, if_pos rfl, evalExpr, supplied] at h
    rw [hone] at htables ⊢
    obtain ⟨table, htable⟩ := List.length_eq_one_iff.1 htables
    rw [htable, Except.ok.injEq] at h
    rw [← h]
    refine ⟨?_, ?_⟩
    · simp [suppliedIds, inputIds]
    · simp [suppliedIds]
  · rw [if_neg hcontent, placeholdersOf_of_scan hs, suppliedIds_of_ofLeaf hmem hcontent h]
    exact .nil _ _

theorem shows_call (hmem : interpreter.sources.InMemory) {name : List Char}
    {parts : List MarkedText} (hscan : ∀ part ∈ parts, scan part.text = .ok part)
    (heval : ∀ part ∈ parts, ShowsSupplied interpreter context part)
    (hle : (parts.map MarkedText.placeholders).sum ≤ supply.tables.length)
    (h : interpreter.evalExpr context supply (.call name
      (parts.map fun part => Expr.ofArgument part.text (Expr.parse part.text))) = .ok result) :
    Shows result.provenance.suppliedIds supply.offset supply.tables.length
      (supply.tables.length - (parts.map MarkedText.placeholders).sum +
        (parts.map fun part => strayPlaceholders part.text).sum) := by
  rw [evalExpr] at h
  split at h
  · obtain ⟨results, hresults, h⟩ := bind_eq_ok.1 h
    rw [suppliedIds_of_apply h]
    exact (shows_evalArguments hscan heval hle hresults).mono hle
  · split at h
    · obtain ⟨⟨id, info, hfetched⟩, argument, hargument, hzero⟩ :=
        exists_fetched_of_fetchByCall hmem h
      obtain ⟨part, rfl, rfl⟩ := List.map_eq_singleton_iff.1 hargument
      have hpart := hscan part (List.mem_singleton_self part)
      have hcount : part.placeholders = 0 := by
        simpa [Expr.ofArgument, countPlaceholders_of_scan hpart] using hzero
      have hstray := strayPlaceholders_le hpart
      have hsum : supply.tables.length - part.placeholders + strayPlaceholders part.text =
          supply.tables.length := by omega
      rw [hfetched, suppliedIds_fetched]
      simp only [List.map_cons, List.map_nil, List.sum_cons, List.sum_nil, Nat.add_zero, hsum]
      exact .nil _ _
    · cases h

/-- The value of a text shows its tables in order, without those of the stray placeholders. -/
theorem shows_evalExpr (hmem : interpreter.sources.InMemory) {text : List Char}
    {marked : MarkedText} (hs : scan text = .ok marked)
    (htables : supply.tables.length = marked.placeholders)
    (h : interpreter.evalExpr context supply (Expr.parse text) = .ok result) :
    Shows result.provenance.suppliedIds supply.offset marked.placeholders
      (strayPlaceholders text) := by
  induction hlen : text.length using Nat.strongRecOn
    generalizing text marked context supply result with
  | ind length ih =>
    have hcounts := counts_trim hs
    have hpart : ∀ part ∈ (Layer.of (Text.trim text)).parts, part.length < length :=
      fun part hp => hlen ▸ Expr.length_lt_of_mem_parts hp
    rw [strayPlaceholders_eq]
    cases hl : Layer.of (Text.trim text) with
    | malformed error =>
      rw [Expr.parse_eq_malformed hl, evalExpr] at h
      cases h
    | operation split =>
      rw [hl] at hcounts hpart
      obtain ⟨a, b, ha, hb, hsum⟩ := hcounts
      rw [Expr.parse_eq_operation hl (countPlaceholders_of_scan ha), evalExpr] at h
      obtain ⟨left, hleft, h⟩ := bind_eq_ok.1 h
      obtain ⟨right, hright, h⟩ := bind_eq_ok.1 h
      have hshown := ih split.left.length (hpart split.left (by simp [Layer.parts])) ha
        (by simp only [Supply.take, List.length_take]; omega) hleft rfl
      have hothers := ih split.right.length (hpart split.right (by simp [Layer.parts])) hb
        (by simp only [Supply.drop, List.length_drop]; omega) hright rfl
      rw [Supply.offset_drop (by omega)] at hothers
      rw [suppliedIds_of_operate h, hsum]
      exact hshown.append hothers
    | overlay head settings =>
      rw [hl] at hcounts hpart
      obtain ⟨a, b, ha, hb, hsum⟩ := hcounts
      rw [Expr.parse_eq_overlay hl (countPlaceholders_of_scan ha)] at h
      cases hset : parseSettings settings with
      | error e =>
        rw [hset, Expr.withSettings, evalExpr] at h
        cases h
      | ok options =>
        rw [hset, Expr.withSettings, evalExpr] at h
        obtain ⟨inner, -, h⟩ := bind_eq_ok.1 h
        have hbody := ih head.length (hpart head (by simp [Layer.parts])) ha
          (by simp only [Supply.take, List.length_take]; omega) h rfl
        dsimp only
        rw [placeholdersOf_of_scan hb, hsum]
        have hmore := hbody.append (.nil _ b.placeholders)
        rw [List.append_nil] at hmore
        exact hmore
    | group inner =>
      rw [hl] at hcounts hpart
      obtain ⟨a, ha, hsum⟩ := hcounts
      rw [Expr.parse_eq_group hl] at h
      rw [hsum]
      exact ih inner.length (hpart inner (by simp [Layer.parts])) ha (htables.trans hsum) h rfl
    | call application =>
      rw [hl] at hcounts hpart
      obtain ⟨parts, hparts, hscan, hle⟩ := hcounts
      rw [Expr.parse_eq_call hl, hparts, List.map_map] at h
      rw [placeholdersOf_of_scan hs]
      dsimp only
      rw [hparts, map_placeholdersOf hscan, List.map_map, ← htables]
      refine shows_call hmem hscan (fun part hp supply result hlength heval => ?_) (htables ▸ hle) h
      refine ih part.text.length (hpart part.text ?_) (hscan part hp) hlength heval rfl
      rw [Layer.parts, hparts]
      exact List.mem_map_of_mem hp
    | leaf content =>
      rw [hl] at hcounts
      obtain ⟨a, ha, hsum⟩ := hcounts
      rw [Expr.parse_eq_leaf hl] at h
      rw [hsum]
      exact shows_ofLeaf hmem ha (htables.trans hsum) h

/-- A formula that has a value shows its supplied tables in order, each at most once, and it shows
all of them exactly when every placeholder is an expression. -/
theorem suppliedIds_of_evaluate (interpreter : Interpreter) (hmem : interpreter.sources.InMemory)
    (formula : String) (context : Context) (tables : List Table) {result : Evaluation}
    (h : interpreter.evaluate formula context tables = .ok result) :
    result.provenance.suppliedIds.Sublist (inputIds 0 tables.length) ∧
      result.provenance.suppliedIds.length + strayPlaceholders formula.toList = tables.length ∧
      (result.provenance.suppliedIds = inputIds 0 tables.length ↔
        strayPlaceholders formula.toList = 0) := by
  unfold evaluate at h
  dsimp only at h
  split at h
  · cases h
  · obtain ⟨expected, hcount, h⟩ := bind_eq_ok.1 h
    by_cases hne : expected = tables.length
    · obtain ⟨marked, hscan, rfl⟩ := map_eq_ok.1 hcount
      rw [if_neg (not_not_intro hne)] at h
      have hshows := shows_evalExpr hmem hscan hne.symm h
      rw [hne] at hshows
      exact ⟨hshows.1, hshows.2, hshows.eq_iff⟩
    · rw [if_pos hne] at h
      cases h

def oneSeries : Interpreter :=
  let memory := (MemorySource.of "DEFAULT" none).insert "GDP" ⟨[], []⟩
  ⟨.standard, ⟨.insert .empty "DEFAULT" memory.toSource⟩⟩

theorem inMemory_oneSeries : oneSeries.sources.InMemory := by
  intro entry he
  obtain rfl := List.mem_singleton.1 he
  exact ⟨_, rfl⟩

/-- Of two tables the one for the options is left out, next to a call that shows the other. -/
theorem suppliedIds_of_evaluate_overlay :
    oneSeries.sources.InMemory ∧
      ∃ result, oneSeries.evaluate "MERGE(%d, GDP)#note:%d" .default [⟨[], []⟩, ⟨[], []⟩] =
          .ok result ∧
        result.provenance.suppliedIds = [some "input[0]"] ∧
        strayPlaceholders "MERGE(%d, GDP)#note:%d".toList = 1 := by
  have hresult : oneSeries.evaluate "MERGE(%d, GDP)#note:%d" .default [⟨[], []⟩, ⟨[], []⟩] =
      .ok ⟨.series ⟨[], []⟩, .node "MERGE" [.leaf "input[0]" none "input",
        .fetched "GDP@DEFAULT" ⟨"DEFAULT", none, NameMap.empty.insert "rows" "0"⟩]⟩ :=
    evaluate_of_evaluateTo 3 rfl
  have hmain := suppliedIds_of_evaluate oneSeries inMemory_oneSeries _ _ _ hresult
  exact ⟨inMemory_oneSeries, _, hresult, rfl, @Nat.add_left_cancel 1 _ _ hmain.2.1⟩

/-- A table whose placeholder is an option of a reference is left out without an error. -/
theorem evaluate_drops_supplied :
    oneSeries.sources.InMemory ∧
      ∃ result, oneSeries.evaluate "GDP#%d" .default [⟨[], []⟩] = .ok result ∧
        result.provenance.suppliedIds ≠ inputIds 0 1 := by
  have hresult : oneSeries.evaluate "GDP#%d" .default [⟨[], []⟩] = .ok ⟨.series ⟨[], []⟩,
      .fetched "GDP@DEFAULT" ⟨"DEFAULT", none, NameMap.empty.insert "rows" "0"⟩⟩ :=
    evaluate_of_evaluateTo 2 rfl
  refine ⟨inMemory_oneSeries, _, hresult, ?_⟩
  simp [suppliedIds, inputIds, Provenance.fetched]

end Interpreter

end TimeSeries
