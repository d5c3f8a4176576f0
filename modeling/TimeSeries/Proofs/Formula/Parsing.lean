import TimeSeries.Formula.Evaluation
import TimeSeries.Proofs.Formula.Placeholders
import TimeSeries.Proofs.Outcome

set_option autoImplicit false

/-!
# Reading a scanned text

A text that scans keeps its marks when it is trimmed or cut, and so the layers found in it can be
told from the marks of the whole.
-/
namespace TimeSeries

theorem scan_trim {text : List Char} {marked : MarkedText} (h : scan text = .ok marked) :
    ∃ pre core post : MarkedText, marked = pre ++ core ++ post ∧ Text.Blanks pre.text ∧
      Text.Blanks post.text ∧ scan (Text.trim text) = .ok core := by
  obtain ⟨ht, hm⟩ := scan_eq_ok_iff.1 h
  obtain ⟨before, after, htext, hbefore, hafter⟩ := Text.exists_eq_trim_between text
  obtain ⟨front, post, rfl, hfront, rfl⟩ :=
    MarkedText.exists_append_of_text (ht.trans htext)
  obtain ⟨pre, core, rfl, rfl, hcore⟩ := MarkedText.exists_append_of_text hfront
  refine ⟨pre, core, post, rfl, hbefore, hafter, scan_eq_ok_iff.2 ⟨hcore, ?_⟩⟩
  obtain ⟨l, i, hm, hpost⟩ := Marks.exists_of_append hm
  obtain ⟨l', i', hpre, hcore⟩ := Marks.exists_of_append hm
  obtain ⟨rfl, rfl, -⟩ := hpre.eq_of_plain fun c hc => isPlain_of_isBlank (hbefore c hc)
  obtain ⟨rfl, rfl, -⟩ := hpost.eq_of_plain fun c hc => isPlain_of_isBlank (hafter c hc)
  exact hcore

theorem scan_cut {text : List Char} {a b : MarkedText} {c : Char} {mark : Mark} (hc : IsPlain c)
    (htop : mark.isTopLevel = true) (h : scan text = .ok (a ++ (c, mark) :: b)) :
    scan a.text = .ok a ∧ scan b.text = .ok b := by
  obtain ⟨-, ha, hb⟩ := (scan_eq_ok_iff.1 h).2.cut_top hc htop
  exact ⟨scan_eq_ok_iff.2 ⟨rfl, ha⟩, scan_eq_ok_iff.2 ⟨rfl, hb⟩⟩

theorem MarkedText.eq_map_of_marks {marked : MarkedText} {mark : Mark} (h : ∀ entry ∈ marked, entry.2 = mark) :
    marked = marked.text.map (·, mark) := by
  induction marked with
  | nil => rfl
  | cons entry rest ih =>
    obtain ⟨c, own⟩ := entry
    obtain rfl : own = mark := h _ List.mem_cons_self
    rw [MarkedText.text_cons, List.map_cons, ← ih fun e he => h e (List.mem_cons_of_mem _ he)]

theorem scan_plain_append {front text : List Char} (hfront : ∀ c ∈ front, IsPlain c)
    {whole : MarkedText} : scan (front ++ text) = .ok whole ↔
      ∃ marked, scan text = .ok marked ∧ whole = front.map (·, ⟨0, false⟩) ++ marked := by
  constructor
  · intro h
    obtain ⟨htext, hmarks⟩ := scan_eq_ok_iff.1 h
    obtain ⟨a, b, rfl, rfl, rfl⟩ := MarkedText.exists_append_of_text htext
    obtain ⟨level, inside, ha, hb⟩ := hmarks.exists_of_append
    obtain ⟨rfl, rfl, hall⟩ := ha.eq_of_plain hfront
    exact ⟨b, scan_eq_ok_iff.2 ⟨rfl, hb⟩, by rw [← MarkedText.eq_map_of_marks hall]⟩
  · rintro ⟨marked, hs, rfl⟩
    obtain ⟨htext, hmarks⟩ := scan_eq_ok_iff.1 hs
    rw [scan_eq_ok_iff, MarkedText.text_append, MarkedText.text_map_mark, htext]
    exact ⟨rfl, (Marks.of_plain 0 hfront).append hmarks⟩

theorem countPlaceholders_of_scan {text : List Char} {marked : MarkedText}
    (h : scan text = .ok marked) : countPlaceholders text = .ok marked.placeholders := by
  simp [countPlaceholders, h, Except.map]

theorem scan_between {pre text post : List Char} {marked : MarkedText} (hpre : Text.Blanks pre)
    (hpost : Text.Blanks post) (h : scan text = .ok marked) :
    ∃ before after : MarkedText, before.text = pre ∧ after.text = post ∧
      scan (pre ++ text ++ post) = .ok (before ++ marked ++ after) := by
  obtain ⟨ht, hm⟩ := scan_eq_ok_iff.1 h
  have hblank {blanks : List Char} (hb : Text.Blanks blanks) :=
    Marks.of_plain 0 fun c hc => isPlain_of_isBlank (hb c hc)
  refine ⟨pre.map (·, ⟨0, false⟩), post.map (·, ⟨0, false⟩), ?_, ?_, scan_eq_ok_iff.2 ⟨?_, ?_⟩⟩
  · exact MarkedText.text_map_mark _ _
  · exact MarkedText.text_map_mark _ _
  · rw [MarkedText.text_append, MarkedText.text_append, ht, MarkedText.text_map_mark,
      MarkedText.text_map_mark]
  · exact ((hblank hpre).append hm).append (hblank hpost)

theorem countPlaceholders_between {pre text post : List Char} {marked : MarkedText}
    (hpre : Text.Blanks pre) (hpost : Text.Blanks post) (h : scan text = .ok marked) :
    countPlaceholders (pre ++ text ++ post) = .ok marked.placeholders := by
  obtain ⟨before, after, rfl, rfl, hs⟩ := scan_between hpre hpost h
  rw [countPlaceholders_of_scan hs, MarkedText.placeholders_between hpre hpost]

namespace OperatorSplit

theorem exists_of_splitOperator {text : List Char} {marked : MarkedText} {split : OperatorSplit}
    (hs : scan text = .ok marked) (h : splitOperator marked = some split) :
    ∃ (a b : MarkedText) (mark : Mark), marked = a ++ (split.operator.symbol, mark) :: b ∧
      splitsAt a.text.reverse (split.operator.symbol, mark) = true ∧
      last? (split.operator.symbol :: a.text.reverse) b = none ∧
      split.left = a.text ∧ split.right = b.text ∧
      scan a.text = .ok a ∧ scan b.text = .ok b ∧ splitOperator b = none := by
  obtain ⟨a, b, mark, rfl, hleft, hright, hat, hn⟩ := exists_of_last?_eq_some h
  simp only [List.append_nil, List.reverse_nil, List.nil_append] at hat hn hleft
  have htop : mark.isTopLevel = true := by
    simp only [splitsAt, Bool.and_eq_true] at hat
    exact hat.1.2
  obtain ⟨ha, hb⟩ := scan_cut split.operator.isPlain_symbol htop hs
  refine ⟨a, b, mark, rfl, hat, hn, hleft, hright, ha, hb, ?_⟩
  refine last?_eq_none_of_imp ?_ hn
  intro t c hbin
  rw [List.append_nil]
  exact isBinary_cut hbin

theorem splitOperator_between {pre core post : MarkedText} (hpre : Text.Blanks pre.text)
    (hpost : Text.Blanks post.text) :
    splitOperator (pre ++ core ++ post) = none ↔ splitOperator core = none := by
  rw [splitOperator, last?_between hpre hpost, Option.map_eq_none_iff]
  rfl

theorem splitOperator_trim {text : List Char} {marked : MarkedText}
    (hs : scan text = .ok marked) (h : splitOperator marked = none) :
    ∃ core, scan (Text.trim text) = .ok core ∧ splitOperator core = none := by
  obtain ⟨pre, core, post, rfl, hpre, hpost, hcore⟩ := scan_trim hs
  exact ⟨core, hcore, (splitOperator_between hpre hpost).1 h⟩

end OperatorSplit

namespace Layer

theorem of_eq_operation {text : List Char} {marked : MarkedText} {split : OperatorSplit}
    (hs : scan text = .ok marked) (h : splitOperator marked = some split) :
    of text = .operation split := by
  have hne : text ≠ [] := by
    rintro rfl
    cases hs
    cases h
  simp [of, hne, hs, h]

end Layer

namespace Expr

/-- Blanks around a text do not change what it is read as. -/
theorem parse_congr {a b : List Char} (h : Text.trim a = Text.trim b) : parse a = parse b := by
  rw [parse, parse]
  generalize Text.trim a = core at h
  subst h
  rfl

theorem parse_between {pre post : List Char} (hpre : Text.Blanks pre) (hpost : Text.Blanks post)
    (text : List Char) : parse (pre ++ text ++ post) = parse text :=
  parse_congr (Text.trim_between hpre hpost)

theorem parse_eq (text : List Char) :
    parse text =
      match Layer.of (Text.trim text) with
      | .malformed error => .malformed error
      | .operation split =>
        counting (countPlaceholders split.left) fun n =>
          .operation split.operator n (parse split.left) (parse split.right)
      | .overlay head settings =>
        withSettings (parseSettings settings) (countPlaceholders head) (parse head)
      | .group inner => parse inner
      | .call application =>
        .call application.name (application.arguments.map fun text => ofArgument text (parse text))
      | .leaf content => ofLeaf content := by
  rw [parse]
  split <;> rename_i hl <;> simp [hl]

variable {text : List Char}

theorem parse_eq_malformed {error : FormulaError}
    (h : Layer.of (Text.trim text) = .malformed error) : parse text = .malformed error := by
  rw [parse_eq, h]

theorem parse_eq_overlay {head settings : List Char} {n : Nat}
    (h : Layer.of (Text.trim text) = .overlay head settings) (hn : countPlaceholders head = .ok n) :
    parse text = withSettings (parseSettings settings) (.ok n) (parse head) := by
  rw [parse_eq, h, ← hn]

theorem parse_eq_group {inner : List Char} (h : Layer.of (Text.trim text) = .group inner) :
    parse text = parse inner := by
  rw [parse_eq, h]

theorem parse_eq_call {application : Call} (h : Layer.of (Text.trim text) = .call application) :
    parse text = .call application.name
      (application.arguments.map fun argument => ofArgument argument (parse argument)) := by
  rw [parse_eq, h]

theorem parse_eq_leaf {content : List Char} (h : Layer.of (Text.trim text) = .leaf content) :
    parse text = ofLeaf content := by
  rw [parse_eq, h]

theorem parse_eq_operation {split : OperatorSplit} {n : Nat}
    (h : Layer.of (Text.trim text) = .operation split)
    (hn : countPlaceholders split.left = .ok n) :
    parse text = .operation split.operator n (parse split.left) (parse split.right) := by
  rw [parse_eq, h]
  simp only [hn, counting]

theorem parse_of_splitOperator {marked : MarkedText} {split : OperatorSplit}
    (hs : scan text = .ok marked) (h : splitOperator marked = some split) {left : MarkedText}
    (hleft : scan split.left = .ok left) :
    parse text =
      .operation split.operator left.placeholders (parse split.left) (parse split.right) := by
  obtain ⟨pre, core, post, rfl, hpre, hpost, hcore⟩ := scan_trim hs
  rw [splitOperator, OperatorSplit.last?_between hpre hpost] at h
  obtain ⟨inner, hinner, rfl⟩ := Option.map_eq_some_iff.1 h
  obtain ⟨a, b, mark, -, -, -, hal, hbr, ha, -, -⟩ :=
    OperatorSplit.exists_of_splitOperator hcore hinner
  have hcount : countPlaceholders inner.left = .ok left.placeholders := by
    rw [← hal] at ha
    have hwhole := countPlaceholders_between hpre Text.blanks_nil ha
    rw [List.append_nil, countPlaceholders_of_scan hleft, Except.ok.injEq] at hwhole
    rw [countPlaceholders_of_scan ha, hwhole]
  rw [parse_eq_operation (Layer.of_eq_operation hcore hinner) hcount]
  have hl := parse_between hpre Text.blanks_nil inner.left
  have hr := parse_between Text.blanks_nil hpost inner.right
  rw [List.append_nil] at hl
  rw [List.nil_append] at hr
  rw [hl, hr]

/-- What a text is read as, if it has at most this many layers on top of each other. This recurses on
the depth and so computes where `parse`, which recurses on the length of the text, does not. -/
def parseTo : Nat → List Char → Option Expr
  | 0, _ => none
  | depth + 1, text =>
    match Layer.of (Text.trim text) with
    | .malformed error => some (.malformed error)
    | .operation split =>
      (parseTo depth split.left).bind fun left => (parseTo depth split.right).map fun right =>
        counting (countPlaceholders split.left) fun n => .operation split.operator n left right
    | .overlay head settings =>
      (parseTo depth head).map (withSettings (parseSettings settings) (countPlaceholders head))
    | .group inner => parseTo depth inner
    | .call application =>
      (application.arguments.mapM fun text => (parseTo depth text).map (ofArgument text)).map
        (.call application.name)
    | .leaf content => some (ofLeaf content)

theorem map_parse_of_mapM {depth : Nat}
    (ih : ∀ {text e}, parseTo depth text = some e → parse text = e) {texts : List (List Char)}
    {arguments : List (Argument Expr)}
    (h : (texts.mapM fun text => (parseTo depth text).map (ofArgument text)) = some arguments) :
    (texts.map fun text => ofArgument text (parse text)) = arguments := by
  induction texts generalizing arguments with
  | nil =>
    cases h
    rfl
  | cons text rest ihrest =>
    rw [List.mapM_cons] at h
    obtain ⟨argument, hfirst, h⟩ := Option.bind_eq_some_iff.1 h
    obtain ⟨others, hrest, h⟩ := Option.bind_eq_some_iff.1 h
    obtain ⟨body, hbody, rfl⟩ := Option.map_eq_some_iff.1 hfirst
    cases h
    rw [List.map_cons, ihrest hrest, ih hbody]

theorem parse_of_parseTo {depth : Nat} {e : Expr} (h : parseTo depth text = some e) :
    parse text = e := by
  induction depth generalizing text e with
  | zero => cases h
  | succ depth ih =>
    rw [parseTo] at h
    rw [parse_eq]
    cases hl : Layer.of (Text.trim text) <;> rw [hl] at h
    case malformed | leaf => exact Option.some.inj h
    case operation split =>
      obtain ⟨left, hleft, h⟩ := Option.bind_eq_some_iff.1 h
      obtain ⟨right, hright, rfl⟩ := Option.map_eq_some_iff.1 h
      dsimp only
      rw [ih hleft, ih hright]
    case overlay head settings =>
      obtain ⟨body, hbody, rfl⟩ := Option.map_eq_some_iff.1 h
      dsimp only
      rw [ih hbody]
    case group inner => exact ih h
    case call application =>
      obtain ⟨arguments, harguments, rfl⟩ := Option.map_eq_some_iff.1 h
      dsimp only
      rw [map_parse_of_mapM ih harguments]

end Expr

namespace Interpreter

theorem fetch_eq_bind (interpreter : Interpreter) (source series : String) (context : Context) :
    interpreter.fetch source series context = do
      let (table, provenance) ← interpreter.sources.fetch source series context
      return ⟨.series table, provenance⟩ := by
  rw [fetch]
  cases interpreter.sources.fetch source series context <;> rfl

theorem operate_eq_bind (op : Operator) (context : Context) (left right : Evaluation) :
    operate op context left right = do
      let value ← combine op context.fillMissing left.value right.value
      return ⟨value, .node op.name [left.provenance, right.provenance]⟩ := by
  rw [operate]
  cases combine op context.fillMissing left.value right.value <;> rfl

theorem apply_eq_bind (interpreter : Interpreter) (context : Context) (name : String)
    (arguments : List Evaluation) :
    interpreter.apply context name arguments = do
      let value ← interpreter.functions.call name (arguments.map Evaluation.value) context
      return ⟨value, .node (Text.uppercase name) (arguments.map Evaluation.provenance)⟩ := by
  rw [apply]
  cases interpreter.functions.call name (arguments.map Evaluation.value) context <;> rfl

/-- With a table for each placeholder a formula has the value of the expression it is read as. -/
theorem evaluate_eq (interpreter : Interpreter) {formula : String} (context : Context)
    {tables : List Table} (hne : Text.allBlank formula.toList = false)
    (hcount : countPlaceholders formula.toList = .ok tables.length) :
    interpreter.evaluate formula context tables =
      interpreter.evalExpr context ⟨tables, 0⟩ (Expr.parse formula.toList) := by
  unfold evaluate
  simp only [hne, hcount]
  simp [bind, Except.bind]

/-- The value of a formula that has at most this many layers and a table for each placeholder. -/
def evaluateTo (interpreter : Interpreter) (depth : Nat) (formula : String) (context : Context)
    (tables : List Table) : Option (Except FormulaError Evaluation) :=
  if Text.allBlank formula.toList then none
  else
    match countPlaceholders formula.toList with
    | .ok n =>
      if n = tables.length then
        (Expr.parseTo depth formula.toList).map (interpreter.evalExpr context ⟨tables, 0⟩)
      else none
    | .error _ => none

theorem evalExpr_of_parseTo {interpreter : Interpreter} {context : Context} {supply : Supply}
    (depth : Nat) {text : List Char} {result : Except FormulaError Evaluation}
    (h : (Expr.parseTo depth text).map (interpreter.evalExpr context supply) = some result) :
    interpreter.evalExpr context supply (Expr.parse text) = result := by
  obtain ⟨e, he, rfl⟩ := Option.map_eq_some_iff.1 h
  rw [Expr.parse_of_parseTo he]

theorem evaluate_of_evaluateTo {interpreter : Interpreter} (depth : Nat) {formula : String}
    {context : Context} {tables : List Table} {result : Except FormulaError Evaluation}
    (h : interpreter.evaluateTo depth formula context tables = some result) :
    interpreter.evaluate formula context tables = result := by
  rw [evaluateTo] at h
  split at h
  · cases h
  · rename_i hsolid
    split at h
    · rename_i n hcount
      split at h
      · rename_i hlength
        rw [interpreter.evaluate_eq context (Bool.eq_false_iff.2 hsolid) (hlength ▸ hcount)]
        exact evalExpr_of_parseTo depth h
      · cases h
    · cases h

theorem evaluate_eq_ok_iff {interpreter : Interpreter} {formula : String} {context : Context}
    {tables : List Table} {result : Evaluation} :
    interpreter.evaluate formula context tables = .ok result ↔
      Text.allBlank formula.toList = false ∧ countPlaceholders formula.toList = .ok tables.length ∧
        interpreter.evalExpr context ⟨tables, 0⟩ (Expr.parse formula.toList) = .ok result := by
  constructor
  · intro h
    unfold evaluate at h
    dsimp only at h
    split at h
    · cases h
    · rename_i hsolid
      obtain ⟨expected, hcount, h⟩ := bind_eq_ok.1 h
      split at h
      · cases h
      · rename_i hlength
        rw [← not_not.1 hlength]
        exact ⟨Bool.eq_false_iff.2 hsolid, hcount, h⟩
  · rintro ⟨hsolid, hcount, heval⟩
    rw [evaluate_eq interpreter context hsolid hcount, heval]

theorem evalExpr_of_evaluate {interpreter : Interpreter} {formula : String} {context : Context}
    {tables : List Table} {result : Evaluation}
    (h : interpreter.evaluate formula context tables = .ok result) :
    interpreter.evalExpr context ⟨tables, 0⟩ (Expr.parse formula.toList) = .ok result :=
  (evaluate_eq_ok_iff.1 h).2.2

theorem resolve_eq_ok_iff {interpreter : Interpreter} {context : Context} {text name : List Char}
    {source : Option (List Char)} {result : Evaluation} :
    interpreter.resolve context text name source = .ok result ↔
      name ≠ [] ∧ (source.map String.ofList).getD context.source ≠ "" ∧ isSeriesName name = true ∧
        interpreter.fetch ((source.map String.ofList).getD context.source) (String.ofList name)
          context = .ok result := by
  unfold resolve
  dsimp only
  split_ifs with hname hsource hseries <;> simp_all [argumentError]

end Interpreter

end TimeSeries
