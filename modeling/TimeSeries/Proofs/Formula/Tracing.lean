import TimeSeries.Proofs.Formula.Visits
import TimeSeries.Proofs.Text.Case

set_option autoImplicit false

/-!
# Provenance of formulas

The provenance of a value mirrors how its formula is read: an operator has its two operands below
it, a function one tree for each of its arguments, and options and parentheses leave no trace. What
is counted in such a tree fits together, since no node but a leaf is without operands.
-/
namespace TimeSeries

/-! ## Trees -/

namespace Provenance

/-- All nodes but the leaves have operands, those of operators two. -/
inductive IsGrown : Provenance → Prop
  | leaf {id : String} {info : Option SourceInfo} {operation : String} :
      (∀ op : Operator, operation ≠ op.name) → IsGrown (.leaf id info operation)
  | node {operation : String} {operands : List Provenance} :
      operands ≠ [] → (∀ op : Operator, operation = op.name → operands.length = 2) →
      (∀ tree ∈ operands, IsGrown tree) → IsGrown (.node operation operands)

variable {tree : Provenance} {operands : List Provenance} {level : Nat} {entry : Nat × Provenance}

theorem mem_preorderOf :
    entry ∈ preorderOf level operands ↔ ∃ tree ∈ operands, entry ∈ tree.preorder level := by
  induction operands with
  | nil => simp [preorderOf]
  | cons first rest ih => simp [preorderOf, ih]

theorem operationCount_node {operation : String} (h : operands ≠ []) :
    (node operation operands).operationCount = 1 + operationCounts operands := by
  cases operands with
  | nil => exact absurd rfl h
  | cons first rest => rw [operationCount, operationCounts]

theorem IsGrown.of_mem_preorder (h : tree.IsGrown) (hentry : entry ∈ tree.preorder level) :
    entry.2.IsGrown := by
  induction h generalizing level with
  | leaf hoperation =>
    rw [preorder, List.mem_singleton] at hentry
    rw [hentry]
    exact .leaf hoperation
  | node hne htwo hgrown ih =>
    rw [preorder] at hentry
    rcases List.mem_cons.1 hentry with rfl | hentry
    · exact .node hne htwo hgrown
    · obtain ⟨operand, hoperand, hentry⟩ := mem_preorderOf.1 hentry
      exact ih operand hoperand hentry

theorem leafIdsOf_add (h : ∀ tree ∈ operands,
    tree.leafIds.length + tree.operationCount = tree.nodeCount) :
    (leafIdsOf operands).length + operationCounts operands = nodeCounts operands := by
  induction operands with
  | nil => rfl
  | cons first rest ih =>
    have hfirst := h first List.mem_cons_self
    have hrest := ih fun tree htree => h tree (List.mem_cons_of_mem first htree)
    rw [leafIdsOf, operationCounts, nodeCounts, List.length_append]
    omega

theorem depths_le (h : ∀ tree ∈ operands, tree.depth ≤ tree.operationCount + 1) :
    depths operands ≤ operationCounts operands + 1 := by
  induction operands with
  | nil => exact Nat.zero_le _
  | cons first rest ih =>
    have hfirst := h first List.mem_cons_self
    have hrest := ih fun tree htree => h tree (List.mem_cons_of_mem first htree)
    rw [depths, operationCounts]
    omega

theorem IsGrown.leafIds_add (h : tree.IsGrown) :
    tree.leafIds.length + tree.operationCount = tree.nodeCount := by
  induction h with
  | leaf _ => simp [leafIds, operationCount, nodeCount]
  | node hne _ _ ih =>
    have hoperands := leafIdsOf_add ih
    rw [operationCount_node hne, leafIds, nodeCount]
    omega

theorem IsGrown.depth_le (h : tree.IsGrown) : tree.depth ≤ tree.operationCount + 1 := by
  induction h with
  | leaf _ => simp [depth, operationCount]
  | node hne _ _ ih =>
    have hoperands := depths_le ih
    rw [operationCount_node hne, depth]
    omega

end Provenance

theorem Operator.uppercase_ne_name (name : String) (op : Operator) :
    Text.uppercase name ≠ op.name := by
  intro h
  have hupper : Text.uppercase op.name = op.name := by
    rw [← h, Text.uppercase, Text.uppercase, String.toList_ofList, Text.upper_upper]
  cases op <;> exact absurd hupper (by decide +kernel)

/-! ## How a formula is traced -/

/-- The tree of a leaf of a formula. -/
inductive Expr.TracesLeaf : Expr → Provenance → Prop
  | table (number : Nat) : TracesLeaf .table (.leaf s!"input[{number}]" none "input")
  | number (text : List Char) (value : Float) :
      TracesLeaf (.number text value) (.leaf (String.ofList text) none "number")
  | literal (content : List Char) :
      TracesLeaf (.literal content) (.leaf (String.ofList content) none "string")
  | reference (text name : List Char) (source : Option (List Char)) (id : String)
      (info : SourceInfo) : TracesLeaf (.reference text name source) (.fetched id info)

mutual

/-- A text and the provenance that a value of it has. -/
inductive Traces (interpreter : Interpreter) : List Char → Provenance → Prop
  | node {text : List Char} {operation : String} {trees : List Provenance} :
      TracesNode interpreter text operation trees → Traces interpreter text (.node operation trees)
  | overlay {text head settings : List Char} {tree : Provenance} :
      Layer.of (Text.trim text) = .overlay head settings → Traces interpreter head tree →
      Traces interpreter text tree
  | group {text inner : List Char} {tree : Provenance} :
      Layer.of (Text.trim text) = .group inner → Traces interpreter inner tree →
      Traces interpreter text tree
  | source {text : List Char} {application : Call} {id : String} {info : SourceInfo} :
      Layer.of (Text.trim text) = .call application →
      interpreter.functions.contains (String.ofList application.name) = false →
      Traces interpreter text (.fetched id info)
  | leaf {text content : List Char} {tree : Provenance} :
      Layer.of (Text.trim text) = .leaf content → (Expr.ofLeaf content).TracesLeaf tree →
      Traces interpreter text tree

/-- An operation or a call of a function, and the node that it gives over the trees of its parts. -/
inductive TracesNode (interpreter : Interpreter) : List Char → String → List Provenance → Prop
  | operation {text : List Char} {split : OperatorSplit} {left right : Provenance} :
      Layer.of (Text.trim text) = .operation split → Traces interpreter split.left left →
      Traces interpreter split.right right →
      TracesNode interpreter text split.operator.name [left, right]
  | function {text : List Char} {application : Call} {trees : List Provenance} :
      Layer.of (Text.trim text) = .call application →
      interpreter.functions.contains (String.ofList application.name) = true → trees ≠ [] →
      List.Forall₂ (Traces interpreter) application.arguments trees →
      TracesNode interpreter text (Text.uppercase (String.ofList application.name)) trees

end

theorem exists_of_mem_right {α β : Type} {R : α → β → Prop} {as : List α} {bs : List β}
    (h : List.Forall₂ R as bs) {b : β} (hb : b ∈ bs) : ∃ a ∈ as, R a b := by
  induction h with
  | nil => cases hb
  | @cons a _ _ _ hab _ ih =>
    rcases List.mem_cons.1 hb with rfl | hb
    · exact ⟨a, List.mem_cons_self, hab⟩
    · obtain ⟨a', ha', hr⟩ := ih hb
      exact ⟨a', List.mem_cons_of_mem a ha', hr⟩

namespace TracesNode

variable {interpreter : Interpreter} {text : List Char} {operation : String}
  {operands : List Provenance}

theorem exists_of_mem (h : TracesNode interpreter text operation operands)
    {operand : Provenance} (hoperand : operand ∈ operands) :
    ∃ part ∈ (Layer.of (Text.trim text)).parts, Traces interpreter part operand := by
  cases h with
  | @operation _ split left right hl hleft hright =>
    rw [hl, Layer.parts]
    simp only [List.mem_cons, List.not_mem_nil, or_false] at hoperand
    rcases hoperand with rfl | rfl
    · exact ⟨split.left, by simp, hleft⟩
    · exact ⟨split.right, by simp, hright⟩
  | function hl _ _ htrees =>
    rw [hl, Layer.parts]
    exact exists_of_mem_right htrees hoperand

theorem isGrown (h : TracesNode interpreter text operation operands)
    (hgrown : ∀ operand ∈ operands, operand.IsGrown) :
    (Provenance.node operation operands).IsGrown := by
  cases h with
  | operation _ _ _ => exact .node (by simp) (fun _ _ => rfl) hgrown
  | function _ _ hne _ =>
    exact .node hne (fun op hop => absurd hop (Operator.uppercase_ne_name _ op)) hgrown

end TracesNode

theorem Expr.TracesLeaf.isGrown {expr : Expr} {tree : Provenance} (h : expr.TracesLeaf tree) :
    tree.IsGrown := by
  have hname (operation : String) (h : operation ∈ ["input", "number", "string", "fetch"]) :
      ∀ op : Operator, operation ≠ op.name := by
    intro op
    simp only [List.mem_cons, List.not_mem_nil, or_false] at h
    rcases h with rfl | rfl | rfl | rfl <;> cases op <;> decide
  cases h with
  | table _ => exact .leaf (hname "input" (by simp))
  | number _ _ => exact .leaf (hname "number" (by simp))
  | literal _ => exact .leaf (hname "string" (by simp))
  | reference _ _ _ _ _ => exact .leaf (hname "fetch" (by simp))

theorem Expr.TracesLeaf.ne_node {expr : Expr} {operation : String} {operands : List Provenance} :
    ¬ expr.TracesLeaf (.node operation operands) := nofun

namespace Traces

variable {interpreter : Interpreter} {text : List Char} {tree : Provenance}

theorem isGrown (h : Traces interpreter text tree) : tree.IsGrown := by
  induction hlen : text.length using Nat.strongRecOn generalizing text tree with
  | ind length ih =>
    subst hlen
    have hpart {part : List Char} (hp : part ∈ (Layer.of (Text.trim text)).parts)
        {tree : Provenance} (h : Traces interpreter part tree) : tree.IsGrown :=
      ih part.length (Expr.length_lt_of_mem_parts hp) h rfl
    cases h with
    | node hnode =>
      refine hnode.isGrown fun operand hoperand => ?_
      obtain ⟨part, hp, htrace⟩ := hnode.exists_of_mem hoperand
      exact hpart hp htrace
    | overlay hl hhead => exact hpart (by simp [hl, Layer.parts]) hhead
    | group hl hinner => exact hpart (by simp [hl, Layer.parts]) hinner
    | source _ _ => exact Expr.TracesLeaf.isGrown (.reference [] [] none _ _)
    | leaf _ hleaf => exact hleaf.isGrown

/-- A node with operands comes from an operation or a call that is read in the text. -/
theorem exists_of_node {operation : String} {operands : List Provenance}
    (h : Traces interpreter text (.node operation operands)) :
    ∃ piece, ReadIn text piece ∧ TracesNode interpreter piece operation operands := by
  induction hlen : text.length using Nat.strongRecOn generalizing text with
  | ind length ih =>
    subst hlen
    have hpart {part : List Char} (hp : part ∈ (Layer.of (Text.trim text)).parts)
        (h : Traces interpreter part (.node operation operands)) :
        ∃ piece, ReadIn text piece ∧ TracesNode interpreter piece operation operands := by
      obtain ⟨piece, hread, hnode⟩ := ih part.length (Expr.length_lt_of_mem_parts hp) h rfl
      exact ⟨piece, (ReadIn.whole.part hp).trans hread, hnode⟩
    cases h with
    | node hnode => exact ⟨text, .whole, hnode⟩
    | overlay hl hhead => exact hpart (by simp [hl, Layer.parts]) hhead
    | group hl hinner => exact hpart (by simp [hl, Layer.parts]) hinner
    | leaf _ hleaf => exact absurd hleaf Expr.TracesLeaf.ne_node

/-- Every node is the tree of a text that is read in the text. -/
theorem exists_of_mem_preorder (h : Traces interpreter text tree) {level : Nat}
    {entry : Nat × Provenance} (hentry : entry ∈ tree.preorder level) :
    ∃ piece, ReadIn text piece ∧ Traces interpreter piece entry.2 := by
  induction h.isGrown generalizing text level with
  | leaf _ =>
    rw [Provenance.preorder, List.mem_singleton] at hentry
    rw [hentry]
    exact ⟨text, .whole, h⟩
  | node _ _ _ ih =>
    rw [Provenance.preorder] at hentry
    rcases List.mem_cons.1 hentry with rfl | hentry
    · exact ⟨text, .whole, h⟩
    · obtain ⟨operand, hoperand, hentry⟩ := Provenance.mem_preorderOf.1 hentry
      obtain ⟨inner, hinner, hnode⟩ := h.exists_of_node
      obtain ⟨part, hp, htrace⟩ := hnode.exists_of_mem hoperand
      obtain ⟨piece, hread, hpiece⟩ := ih operand hoperand htrace hentry
      exact ⟨piece, (hinner.part hp).trans hread, hpiece⟩

end Traces

/-! ## What evaluation traces -/

namespace Visit

variable {interpreter : Interpreter} {visit : Visit} {result : Evaluation}

theorem traces_of_leaf (hmem : interpreter.sources.InMemory) {content : List Char}
    (hl : visit.layer = .leaf content) (h : visit.value interpreter = .ok result) :
    Traces interpreter visit.text result.provenance := by
  refine .leaf hl ?_
  rw [value_leaf hl] at h
  rcases Expr.ofLeaf_cases content with
    ⟨-, ho⟩ | ⟨x, ho⟩ | ⟨quoted, ho⟩ | ⟨error, ho, -⟩ | ⟨name, source, ho⟩
  · rw [ho, Interpreter.evalExpr, Interpreter.supplied] at h
    split at h
    · cases h
      rw [ho]
      exact .table _
    · cases h
  · rw [ho, Interpreter.evalExpr] at h
    cases h
    rw [ho]
    exact .number _ _
  · rw [ho, Interpreter.evalExpr] at h
    cases h
    rw [ho]
    exact .literal _
  · rw [ho, Interpreter.evalExpr] at h
    cases h
  · rw [ho, Interpreter.evalExpr] at h
    obtain ⟨id, info, hfetched⟩ := Interpreter.exists_fetched_of_resolve hmem h
    rw [ho, hfetched]
    exact .reference _ _ _ _ _

theorem forall₂_of_evalArguments {arguments : List (List Char)} {context : Context}
    {supply : Supply} {results : List Evaluation}
    (hcount : ∀ argument ∈ arguments, ∃ n, countPlaceholders argument = .ok n)
    (htraces : ∀ argument ∈ arguments, ∀ supply result,
      value interpreter ⟨0, argument, context, supply⟩ = .ok result →
      Traces interpreter argument result.provenance)
    (h : interpreter.evalArguments context supply (readArguments arguments) = .ok results) :
    List.Forall₂ (Traces interpreter) arguments (results.map Evaluation.provenance) := by
  induction arguments generalizing supply results with
  | nil =>
    rw [readArguments, List.map_nil, Interpreter.evalArguments] at h
    cases h
    exact .nil
  | cons argument rest ih =>
    obtain ⟨n, hn⟩ := hcount argument List.mem_cons_self
    rw [evalArguments_cons hn 0] at h
    obtain ⟨first, hfirst, h⟩ := bind_eq_ok.1 h
    obtain ⟨others, hothers, h⟩ := bind_eq_ok.1 h
    cases h
    exact .cons (htraces argument List.mem_cons_self _ first hfirst)
      (ih (fun a ha => hcount a (List.mem_cons_of_mem argument ha))
        (fun a ha => htraces a (List.mem_cons_of_mem argument ha)) hothers)

/-- A call that has a value traces its arguments when each of them does. It has some argument, since
no function has a value without. -/
theorem Scans.traces_of_call (hmem : interpreter.sources.InMemory) (hscans : visit.Scans)
    {application : Call} (hl : visit.layer = .call application)
    (htraces : ∀ argument ∈ application.arguments, ∀ supply result,
      value interpreter ⟨0, argument, visit.context, supply⟩ = .ok result →
      Traces interpreter argument result.provenance)
    (h : visit.value interpreter = .ok result) :
    Traces interpreter visit.text result.provenance := by
  rw [value_call hl] at h
  dsimp only at h
  split at h
  · rename_i hcontains
    obtain ⟨results, hresults, h⟩ := bind_eq_ok.1 h
    obtain ⟨value, hcall, rfl⟩ := map_eq_ok.1 h
    have hne : results ≠ [] := by
      rintro rfl
      exact FunctionRegistry.call_nil hcall
    have hcount : ∀ argument ∈ application.arguments, ∃ n, countPlaceholders argument = .ok n :=
      fun argument ha => hscans.exists_count (by rw [hl, Layer.parts]; exact ha)
    exact .node (.function hl hcontains (by simpa using hne)
      (forall₂_of_evalArguments hcount htraces hresults))
  · rename_i hcontains
    split at h
    · obtain ⟨⟨id, info, hfetched⟩, -⟩ := Interpreter.exists_fetched_of_fetchByCall hmem h
      rw [hfetched]
      exact .source hl (Bool.eq_false_iff.2 hcontains)
    · cases h

/-- The value of a visit traces its text. -/
theorem Scans.traces (hmem : interpreter.sources.InMemory) (hscans : visit.Scans)
    (h : visit.value interpreter = .ok result) :
    Traces interpreter visit.text result.provenance := by
  induction hlen : visit.text.length using Nat.strongRecOn generalizing visit result with
  | ind length ih =>
    subst hlen
    have hpart {part : List Char} (hp : part ∈ visit.layer.parts) (start : Nat) {context : Context}
        {supply : Supply} {result : Evaluation}
        (h : value interpreter ⟨start, part, context, supply⟩ = .ok result) :
        Traces interpreter part result.provenance :=
      ih part.length (Expr.length_lt_of_mem_parts hp)
        (show Scans ⟨start, part, context, supply⟩ from hscans.part hp) h rfl
    cases hl : visit.layer with
    | malformed error =>
      rw [value_malformed hl] at h
      cases h
    | leaf content => exact traces_of_leaf hmem hl h
    | operation split =>
      rw [hl] at hpart
      have hleft : split.left ∈ (Layer.operation split).parts := by simp [Layer.parts]
      have hright : split.right ∈ (Layer.operation split).parts := by simp [Layer.parts]
      obtain ⟨n, hn⟩ := hscans.exists_count (hl ▸ hleft)
      rw [value_operation hl hn] at h
      obtain ⟨l, hl', h⟩ := bind_eq_ok.1 h
      obtain ⟨r, hr, h⟩ := bind_eq_ok.1 h
      obtain ⟨value, -, rfl⟩ := map_eq_ok.1 h
      exact .node (.operation hl (hpart hleft _ hl') (hpart hright _ hr))
    | overlay head settings =>
      rw [hl] at hpart
      have hhead : head ∈ (Layer.overlay head settings).parts := by simp [Layer.parts]
      obtain ⟨n, hn⟩ := hscans.exists_count (hl ▸ hhead)
      rw [value_overlay hl hn] at h
      obtain ⟨parsed, -, h⟩ := bind_eq_ok.1 h
      obtain ⟨inner, -, h⟩ := bind_eq_ok.1 h
      exact .overlay hl (hpart hhead _ h)
    | group content =>
      rw [value_group hl 0] at h
      exact .group hl (hpart (by simp [hl, Layer.parts]) 0 h)
    | call application =>
      refine hscans.traces_of_call hmem hl (fun argument ha supply result hvalue => ?_) h
      exact hpart (by rw [hl, Layer.parts]; exact ha) 0 hvalue

end Visit

/-! ## The shape of a provenance -/

/-- The provenance of a text that has a value: the text is traced, every node has its kind and its
number of operands, and the counts fit together. -/
structure Provenance.Mirrors (interpreter : Interpreter) (text : List Char)
    (tree : Provenance) : Prop where
  traces : Traces interpreter text tree
  leaves : ∀ entry ∈ tree.preorder 0, entry.2.operands = [] → ∃ id, entry.2.id? = some id
  inner : ∀ entry ∈ tree.preorder 0, entry.2.operands ≠ [] →
    entry.2.id? = none ∧ entry.2.info? = none
  operators : ∀ entry ∈ tree.preorder 0, ∀ op : Operator, entry.2.operation = op.name →
    entry.2.operands.length = 2
  functions : ∀ entry ∈ tree.preorder 0, entry.2.operands ≠ [] →
    (∀ op : Operator, entry.2.operation ≠ op.name) →
    ∃ piece application, ReadIn text piece ∧ Layer.of (Text.trim piece) = .call application ∧
      interpreter.functions.contains (String.ofList application.name) = true ∧
      entry.2.operation = Text.uppercase (String.ofList application.name) ∧
      entry.2.operands.length = application.arguments.length
  counted : tree.leafIds.length + tree.operationCount = tree.nodeCount
  depth_le : tree.depth ≤ tree.operationCount + 1

theorem Provenance.IsGrown.exists_id {tree : Provenance} (h : tree.IsGrown)
    (hleaf : tree.operands = []) : ∃ id, tree.id? = some id := by
  cases h with
  | leaf _ => exact ⟨_, rfl⟩
  | node hne _ _ => exact absurd hleaf hne

theorem Provenance.IsGrown.length_operands {tree : Provenance} (h : tree.IsGrown) {op : Operator}
    (hop : tree.operation = op.name) : tree.operands.length = 2 := by
  cases h with
  | leaf hoperation => exact absurd hop (hoperation op)
  | node _ htwo _ => exact htwo op hop

theorem Provenance.no_id_of_operands {tree : Provenance} (h : tree.operands ≠ []) :
    tree.id? = none ∧ tree.info? = none := by
  cases tree with
  | leaf id info operation => exact absurd rfl h
  | node operation operands => exact ⟨rfl, rfl⟩

theorem Traces.exists_call {interpreter : Interpreter} {text : List Char} {tree : Provenance}
    (h : Traces interpreter text tree) (hne : tree.operands ≠ [])
    (hop : ∀ op : Operator, tree.operation ≠ op.name) :
    ∃ piece application, ReadIn text piece ∧ Layer.of (Text.trim piece) = .call application ∧
      interpreter.functions.contains (String.ofList application.name) = true ∧
      tree.operation = Text.uppercase (String.ofList application.name) ∧
      tree.operands.length = application.arguments.length := by
  cases tree with
  | leaf id info operation => exact absurd rfl hne
  | node operation operands =>
    obtain ⟨piece, hread, hnode⟩ := h.exists_of_node
    cases hnode with
    | operation _ _ _ => exact absurd rfl (hop _)
    | function hl hcontains _ htrees =>
      exact ⟨piece, _, hread, hl, hcontains, rfl, htrees.length_eq.symm⟩

theorem Traces.mirrors {interpreter : Interpreter} {text : List Char} {tree : Provenance}
    (h : Traces interpreter text tree) : tree.Mirrors interpreter text where
  traces := h
  leaves _ hentry := (h.isGrown.of_mem_preorder hentry).exists_id
  inner _ _ := Provenance.no_id_of_operands
  operators _ hentry _ := (h.isGrown.of_mem_preorder hentry).length_operands
  functions entry hentry hne hop := by
    obtain ⟨inner, hinner, htrace⟩ := h.exists_of_mem_preorder hentry
    obtain ⟨piece, application, hread, hcall⟩ := htrace.exists_call hne hop
    exact ⟨piece, application, hinner.trans hread, hcall⟩
  counted := h.isGrown.leafIds_add
  depth_le := h.isGrown.depth_le

/-- The provenance of a formula that has a value mirrors the formula. -/
theorem Interpreter.provenance_of_evaluate (interpreter : Interpreter)
    (hmem : interpreter.sources.InMemory) (formula : String) (context : Context)
    (tables : List Table) {result : Evaluation}
    (h : interpreter.evaluate formula context tables = .ok result) :
    result.provenance.Mirrors interpreter formula.toList := by
  unfold evaluate at h
  dsimp only at h
  split at h
  · cases h
  · obtain ⟨expected, hcount, h⟩ := bind_eq_ok.1 h
    obtain ⟨marked, hscan, -⟩ := map_eq_ok.1 hcount
    split at h
    · cases h
    · have hscans : (Visit.ofFormula formula context tables).Scans := ⟨marked, hscan⟩
      exact (hscans.traces hmem h).mirrors

/-- Parentheses and options leave no trace, the operator has two operands and the call two
arguments. -/
theorem Interpreter.provenance_of_evaluate_quotient :
    oneSeries.sources.InMemory ∧
      ∃ result, oneSeries.evaluate "(MERGE(%d, GDP) / %d)#note:x" .default
          [⟨[], [⟨"A", []⟩]⟩, ⟨[], [⟨"A", []⟩]⟩] = .ok result ∧
        result.provenance.Mirrors oneSeries "(MERGE(%d, GDP) / %d)#note:x".toList ∧
        (result.provenance.leafIds, result.provenance.operationCount, result.provenance.depth) =
          (["input[0]", "GDP@DEFAULT", "input[1]"], 2, 3) := by
  have hresult : oneSeries.evaluate "(MERGE(%d, GDP) / %d)#note:x" .default
      [⟨[], [⟨"A", []⟩]⟩, ⟨[], [⟨"A", []⟩]⟩] =
        .ok ⟨.series ⟨[], [⟨"VALUE", []⟩]⟩, .node "division"
          [.node "MERGE" [.leaf "input[0]" none "input",
            .fetched "GDP@DEFAULT" ⟨"DEFAULT", none, NameMap.empty.insert "rows" "0"⟩],
          .leaf "input[1]" none "input"]⟩ :=
    evaluate_of_evaluateTo 5 rfl
  exact ⟨inMemory_oneSeries, _, hresult,
    provenance_of_evaluate oneSeries inMemory_oneSeries _ _ _ hresult, rfl⟩

end TimeSeries
