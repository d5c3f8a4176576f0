import TimeSeries.Proofs.Formula.ExponentSigns
import TimeSeries.Proofs.Formula.Memory
import TimeSeries.Proofs.Formula.Settings
import TimeSeries.Proofs.Formula.Supply

set_option autoImplicit false

/-!
# Reading written terms

Every text of a term evaluates as the term does: layer by layer the scanner finds again the pieces
that the text was put together from, and every part gets the tables of its own placeholders.
-/
namespace TimeSeries

open MarkedText OperatorSplit

namespace Term

variable {term : Term} {marked : MarkedText}

theorem parse_leaf (hshape : Shape term marked) (hop : term.isOperation = false)
    (hover : term.isOverlay = false) (hopen : ∀ entry ∈ marked, isTop '(' entry = false)
    (hsolid : Text.HasSolidEnds marked.text) :
    Expr.parse marked.text = Expr.ofLeaf marked.text := by
  have hs : scan marked.text = .ok marked := scan_eq_ok_iff.2 ⟨rfl, hshape.marks⟩
  have hne : marked.text ≠ [] := by
    intro h
    refine hshape.ends.not_blanks ?_
    rw [h]
    exact Text.blanks_nil
  refine Expr.parse_eq_leaf ?_
  rw [Text.trim_eq_self hsolid]
  exact Layer.of_eq_leaf hs hne (hshape.unsplit hop [] fresh_nil) (hshape.noHash hop hover) hopen

theorem parse_numeral (numeral : Numeral) :
    Expr.parse numeral.text = .number numeral.text numeral.value := by
  have hshape := shape_numeral numeral
  have hopen : ∀ entry ∈ numeral.text.map (·, (⟨0, false⟩ : Mark)), isTop '(' entry = false := by
    intro entry he
    obtain ⟨c, hc, rfl⟩ := List.mem_map.1 he
    have hne : c ≠ '(' := by
      rintro rfl
      rcases numeral.mem_text hc with h | h <;> exact absurd h (by decide)
    simp [isTop, hne]
  have hleaf := parse_leaf hshape rfl rfl hopen
  rw [text_map_mark] at hleaf
  rw [hleaf numeral.hasSolidEnds, Expr.ofLeaf_numeral]

theorem parse_quiet (h : Quiet marked) (hne : marked.text ≠ []) (hsolid : Text.HasSolidEnds marked.text) :
    Expr.parse marked.text = Expr.ofLeaf marked.text := by
  have hs : scan marked.text = .ok marked := scan_eq_ok_iff.2 ⟨rfl, h.marks⟩
  refine Expr.parse_eq_leaf ?_
  rw [Text.trim_eq_self hsolid]
  exact Layer.of_eq_leaf hs hne (h.calm.last? []) (h.calm.isTop (by simp)) h.isTop_opening

theorem parse_literal (quoted : Literal) :
    Expr.parse quoted.text = .literal quoted.content := by
  have hleaf := parse_quiet (quiet_literal quoted)
  rw [text_map_mark] at hleaf
  rw [hleaf (by simp [Literal.text]) quoted.hasSolidEnds, Expr.ofLeaf_literal]

theorem parse_table : Expr.parse ['%', 'd'] = .table := by
  have hopen : ∀ entry ∈ [('%', (⟨0, false⟩ : Mark)), ('d', ⟨0, false⟩)],
      isTop '(' entry = false := by decide
  have hleaf := parse_leaf shape_table rfl rfl hopen
    ⟨fun c hc => by cases hc; decide, fun c hc => by cases hc; decide⟩
  exact hleaf.trans rfl

theorem parse_reference {text : List Char} (hquiet : ∀ c ∈ text, IsQuiet c)
    (hfirst : ∃ c ∈ text.head?, c.isAlpha = true) (hsolid : Text.HasSolidEnds text) :
    Expr.parse text = Expr.ofReference text := by
  have hne : text ≠ [] := by
    rintro rfl
    obtain ⟨c, hc, -⟩ := hfirst
    cases hc
  have hleaf := parse_quiet (quiet_plain hquiet)
  rw [text_map_mark] at hleaf
  have hquote : '"' ∉ text := fun hc => hquiet '"' hc (by simp)
  rw [hleaf hne hsolid, Expr.ofLeaf_eq_ofReference hfirst hquote]

theorem parse_name {name : List Char} (h : IsName name) :
    Expr.parse name = .reference name name none := by
  rw [parse_reference h.isQuiet h.1 h.hasSolidEnds, Expr.ofReference_name (h.not_mem (by decide)),
    Text.trim_eq_self h.hasSolidEnds]

theorem isQuiet_sourced {name : List Char} (h : IsName name) (source : Word)
    {before after : List Char} (hbefore : Text.Blanks before) (hafter : Text.Blanks after) :
    ∀ c ∈ name ++ before ++ '@' :: (after ++ source.text), IsQuiet c := by
  intro c hc
  simp only [List.mem_append, List.mem_cons] at hc
  rcases hc with (hc | hc) | rfl | hc | hc
  · exact h.isQuiet c hc
  · exact isQuiet_of_isBlank (hbefore c hc)
  · simp [IsQuiet]
  · exact isQuiet_of_isBlank (hafter c hc)
  · exact (isName_word source).isQuiet c hc

theorem parse_sourced {name : List Char} (h : IsName name) (source : Word)
    {before after : List Char} (hbefore : Text.Blanks before) (hafter : Text.Blanks after) :
    Expr.parse (name ++ before ++ '@' :: (after ++ source.text)) =
      .reference (name ++ before ++ '@' :: (after ++ source.text)) name (some source.text) := by
  have hsource := isName_word source
  obtain ⟨first, hfirst, halpha⟩ := h.1
  have hhead : (name ++ before ++ '@' :: (after ++ source.text)).head? = some first := by
    rw [List.append_assoc, List.head?_append, hfirst, Option.some_or]
  have hsolid : Text.HasSolidEnds (name ++ before ++ '@' :: (after ++ source.text)) := by
    refine ⟨fun c hc => ?_, fun c hc => ?_⟩
    · rw [hhead] at hc
      exact h.hasSolidEnds.1 c (hfirst.trans hc)
    · have hend : name ++ before ++ '@' :: (after ++ source.text) =
          name ++ before ++ '@' :: after ++ source.text := by simp
      rw [hend, List.getLast?_append_of_ne_nil _ hsource.ne_nil] at hc
      exact hsource.hasSolidEnds.2 c hc
  have hleft : '@' ∉ name ++ before := by
    rw [List.mem_append, not_or]
    exact ⟨h.not_mem (by decide), hbefore.not_mem (by decide)⟩
  have hright : '@' ∉ after ++ source.text := by
    rw [List.mem_append, not_or]
    exact ⟨hafter.not_mem (by decide), hsource.not_mem (by decide)⟩
  have hname : Text.trim (name ++ before) = name := by
    rw [← List.nil_append (name ++ before), ← List.append_assoc,
      Text.trim_between Text.blanks_nil hbefore, Text.trim_eq_self h.hasSolidEnds]
  have hid : Text.trim (after ++ source.text) = source.text := by
    rw [← List.append_nil (after ++ source.text), Text.trim_between hafter Text.blanks_nil,
      source.trim_text]
  rw [parse_reference (isQuiet_sourced h source hbefore hafter) ⟨first, hhead, halpha⟩ hsolid,
    Expr.ofReference_sourced hleft hright, hname, hid]

theorem isSeriesName_of_isName {name : List Char} (h : IsName name) : isSeriesName name = true := by
  have hfirst : name.head?.any ['+', '-', '*', '/'].contains = false := by
    obtain ⟨first, hfirst, halpha⟩ := h.1
    have hnot : first ∉ ['+', '-', '*', '/'] :=
      Text.not_mem_of_isAlphanum (Text.isAlphanum_of_isAlpha halpha) (by decide)
    rw [hfirst]
    simpa using hnot
  have hall : (name.any fun c =>
      Text.isBlank c || [',', '"', '(', ')', '#'].contains c) = false := by
    rw [List.any_eq_false]
    intro c hc
    have hchar := h.2 c hc
    have hnot : c ∉ [',', '"', '(', ')', '#'] := not_mem_of_isNameChar hchar (by decide)
    rw [Bool.or_eq_true, not_or]
    exact ⟨by simp [isBlank_of_isNameChar hchar], by simpa using hnot⟩
  rw [isSeriesName, hall, hfirst]
  rfl

theorem resolve_eq_fetch (interpreter : Interpreter) (context : Context) (text : List Char)
    {name : List Char} (h : IsName name) {source : Option (List Char)}
    (hsource : (source.map String.ofList).getD context.source ≠ "") :
    interpreter.resolve context text name source =
      interpreter.fetch ((source.map String.ofList).getD context.source) (String.ofList name) context := by
  simp only [Interpreter.resolve, if_neg h.ne_nil, if_neg hsource, isSeriesName_of_isName h]
  rfl

theorem resolve_word (interpreter : Interpreter) (tables : List Table) (context : Context)
    (start : Nat) (name : Word) :
    interpreter.resolve context name.text name.text none =
      denote interpreter tables context start (.reference name none) := by
  simp only [Interpreter.resolve, denote, Option.map_none, Option.getD_none,
    if_neg (isName_word name).ne_nil, isSeriesName_of_isName (isName_word name),
    ← Interpreter.fetch_eq_bind]
  rfl

theorem name_ne_empty (word : Word) : word.name ≠ "" := by
  intro h
  have hchars := String.ofList_injective (h.trans (rfl : "" = String.ofList []))
  exact (isName_word word).ne_nil hchars

theorem resolve_sourced (interpreter : Interpreter) (tables : List Table) (context : Context)
    (start : Nat) (text : List Char) (name source : Word) :
    interpreter.resolve context text name.text (some source.text) =
      denote interpreter tables context start (.reference name (some source)) := by
  rw [denote, ← Interpreter.fetch_eq_bind]
  exact resolve_eq_fetch interpreter context text (isName_word name) (name_ne_empty source)

theorem layer_callMarks {front inner : MarkedText} {arguments : List (List Char)}
    (hfront : Quiet front) (hinner : Marks 0 false inner 0 false)
    (hargs : splitArguments inner.text = .ok arguments) :
    Layer.of (callMarks front inner []).text = Layer.ofCall ⟨Text.trim front.text, arguments⟩ := by
  have hmarks := marks_callMarks hfront.marks hinner (.nil 0 false)
  have hs : scan (callMarks front inner []).text = .ok (callMarks front inner []) :=
    scan_eq_ok_iff.2 ⟨rfl, hmarks⟩
  have hcalm := calm_callMarks hfront.calm inner
  have hafter : Text.Blanks (text []) := Text.blanks_nil
  refine Layer.of_eq_ofCall hs (hcalm.last? []) (hcalm.isTop (by simp)) ?_
  rw [splitCall_callMarks hfront.isTop_opening hafter, hargs]
  rfl

theorem splitArguments_eq_split {inner : MarkedText} (hm : Marks 0 false inner 0 false)
    (hsolid : ¬ Text.Blanks inner.text) : splitArguments inner.text = .ok (inner.split ',') := by
  have hs : scan inner.text = .ok inner := scan_eq_ok_iff.2 ⟨rfl, hm⟩
  rw [← Text.allBlank_iff] at hsolid
  rw [splitArguments, if_neg hsolid, splitTopLevel, hs]
  rfl

theorem splitArguments_join {parts : List MarkedText} (hne : parts ≠ [])
    (hparts : ∀ part ∈ parts, ∃ term, Shape term part) :
    splitArguments (join ',' parts).text = .ok (parts.map MarkedText.text) := by
  have hmarks : Marks 0 false (join ',' parts) 0 false :=
    marks_join (by simp [IsPlain]) fun part hp => (hparts part hp).elim fun _ h => h.marks
  have hends : EndsOperand (join ',' parts).text :=
    endsOperand_join hne (by decide) fun part hp => (hparts part hp).elim fun _ h => h.ends
  rw [splitArguments_eq_split hmarks hends.not_blanks, MarkedText.split,
    splitOnP_join hne fun part hp => (hparts part hp).elim fun _ h => h.noComma]

theorem splitArguments_undivided {inner : MarkedText} (hm : Marks 0 false inner 0 false)
    (hsolid : ¬ Text.Blanks inner.text) (hcomma : ∀ entry ∈ inner, isTop ',' entry = false) :
    splitArguments inner.text = .ok [inner.text] := by
  rw [splitArguments_eq_split hm hsolid, MarkedText.split, List.splitOnP_eq_singleton hcomma]
  rfl

theorem parse_parentheses {inner : MarkedText} (hm : Marks 0 false inner 0 false)
    (hsolid : ¬ Text.Blanks inner.text) (hcomma : ∀ entry ∈ inner, isTop ',' entry = false) :
    Expr.parse ('(' :: (inner.text ++ [')'])) = Expr.parse inner.text := by
  have hfront : Quiet [] := quiet_blanks Text.blanks_nil
  have hlayer := layer_callMarks hfront hm (splitArguments_undivided hm hsolid hcomma)
  have hends : Text.HasSolidEnds ('(' :: (inner.text ++ [')'])) := by
    have hlast : ('(' :: (inner.text ++ [')'])).getLast? = some ')' := by
      rw [← List.cons_append, List.getLast?_concat]
    exact Text.hasSolidEnds_of_ends rfl hlast (by decide) (by decide)
  have hnone : Text.trim (text []) = [] := Text.trim_eq_nil Text.blanks_nil
  rw [text_callMarks, hnone] at hlayer
  refine Expr.parse_eq_group ?_
  rw [Text.trim_eq_self hends]
  exact hlayer

theorem parse_named (name : Word) {gap : List Char} (hgap : Text.Blanks gap) {inner : MarkedText}
    (hm : Marks 0 false inner 0 false) {arguments : List (List Char)}
    (hargs : splitArguments inner.text = .ok arguments) :
    Expr.parse (name.text ++ gap ++ '(' :: (inner.text ++ [')'])) =
      .call name.text (arguments.map fun argument =>
        Expr.ofArgument argument (Expr.parse argument)) := by
  have hfront := (quiet_word name).append (quiet_blanks hgap)
  have hlayer := layer_callMarks hfront hm hargs
  have htext : name.text ++ gap ++ '(' :: (inner.text ++ [')']) =
      (callMarks (name.text.map (·, ⟨0, false⟩) ++ gap.map (·, ⟨0, false⟩)) inner []).text := by
    rw [text_callMarks, text_append, text_map_mark, text_map_mark]
    rfl
  have hname : Text.trim (name.text.map (·, (⟨0, false⟩ : Mark)) ++
      gap.map (·, ⟨0, false⟩) : MarkedText).text = name.text := by
    rw [text_append, text_map_mark, text_map_mark, ← List.nil_append (name.text ++ gap),
      ← List.append_assoc, Text.trim_between Text.blanks_nil hgap, name.trim_text]
  have hsolid : Text.HasSolidEnds (name.text ++ gap ++ '(' :: (inner.text ++ [')'])) := by
    have hlast : (name.text ++ gap ++ '(' :: (inner.text ++ [')'])).getLast? = some ')' := by
      rw [← List.cons_append, ← List.append_assoc, List.getLast?_concat]
    exact Text.hasSolidEnds_of_ends rfl hlast name.isBlank_first (by decide)
  have hne : name.text ≠ [] := by simp [Word.text]
  rw [← htext, ← Text.trim_eq_self hsolid, hname, Layer.ofCall_of_ne hne] at hlayer
  rw [Expr.parse_eq_call hlayer]

theorem parse_call (name : Word) {gap : List Char} (hgap : Text.Blanks gap)
    {parts : List MarkedText} (hne : parts ≠ []) (hparts : ∀ part ∈ parts, ∃ term, Shape term part) :
    Expr.parse (name.text ++ gap ++ '(' ::
        ([','].intercalate (parts.map MarkedText.text) ++ [')'])) =
      .call name.text ((parts.map MarkedText.text).map fun argument =>
        Expr.ofArgument argument (Expr.parse argument)) := by
  have hmarks : Marks 0 false (join ',' parts) 0 false :=
    marks_join (by simp [IsPlain]) fun part hp => (hparts part hp).elim fun _ h => h.marks
  have hcall := parse_named name hgap hmarks (splitArguments_join hne hparts)
  rwa [text_join] at hcall

theorem parse_operation (op : Operator) {left right : Term} {a b : MarkedText} (ha : Shape left a)
    (hb : Shape right b) (hop : right.isOperation = false) :
    Expr.parse (a.text ++ op.symbol :: b.text) =
      .operation op left.tableCount (Expr.parse a.text) (Expr.parse b.text) := by
  have hmarks := (shape_operation op ha hb).marks
  have hs : scan (a.text ++ op.symbol :: b.text) =
      .ok (a ++ (op.symbol, ⟨0, false⟩) :: b) := by
    rw [scan_eq_ok_iff, text_append, text_cons]
    exact ⟨rfl, hmarks⟩
  have hat : splitsAt (a.text.reverse ++ []) (op.symbol, ⟨0, false⟩) = true := by
    simp [splitsAt, Mark.isTopLevel, ha.ends op]
  have hnone : last? (op.symbol :: (a.text.reverse ++ [])) b = none :=
    hb.unsplit hop _ (fresh_symbol op _)
  have hsplit : splitOperator (a ++ (op.symbol, ⟨0, false⟩) :: b) = some ⟨op, a.text, b.text⟩ :=
    last?_eq_some_of_splitsAt hat hnone
  have hleft : scan a.text = .ok a := scan_eq_ok_iff.2 ⟨rfl, ha.marks⟩
  rw [Expr.parse_of_splitOperator hs hsplit hleft, ha.placeholders]

theorem parse_overlay {head : Term} {a : MarkedText} (ha : Shape head a)
    (hop : head.isOperation = false) (hover : head.isOverlay = false)
    {settings : List ((Word × Option Literal) × List Char)} (hne : settings ≠ [])
    (hsettings : ∀ setting ∈ settings, WritesSetting setting.1 setting.2) :
    Expr.parse (a.text ++ '#' :: ['#'].intercalate (settings.map Prod.snd)) =
      .overlay ((settings.map Prod.fst).map settingOf) head.tableCount (Expr.parse a.text) := by
  obtain ⟨parts, htexts, hparts⟩ := exists_quiet_settings hsettings
  have hne' : parts ≠ [] := ne_nil_of_map_eq htexts hne
  have hshape := shape_overlay (settings.map Prod.fst) ha hop hne' (fun part hp => (hparts part hp).1)
    fun part hp => (hparts part hp).2
  have hs : scan (a.text ++ '#' :: ['#'].intercalate (settings.map Prod.snd)) =
      .ok (a ++ ('#', ⟨0, false⟩) :: join '#' parts) := by
    rw [scan_eq_ok_iff, text_append, text_cons, text_join, htexts]
    exact ⟨rfl, hshape.marks⟩
  rw [Expr.parse_of_cut hs (hshape.unsplit rfl [] fresh_nil) (ha.noHash hop hover), text_join, htexts,
    parseSettings_of_writes hne hsettings, ha.placeholders]
  rfl

theorem evalArguments_of_writes {interpreter : Interpreter} {tables : List Table}
    {context : Context} {arguments : List (Term × List Char)}
    (hshapes : ∀ argument ∈ arguments, ∃ marked : MarkedText, marked.text = argument.2 ∧
      Shape argument.1 marked)
    (heval : ∀ argument ∈ arguments, ∀ start, start + argument.1.tableCount ≤ tables.length →
      interpreter.evalExpr context (.slice tables start argument.1.tableCount)
          (Expr.parse argument.2) =
        argument.1.denote interpreter tables context start) {start : Nat}
    (hle : start + tableCounts (arguments.map Prod.fst) ≤ tables.length) :
    interpreter.evalArguments context (.slice tables start (tableCounts (arguments.map Prod.fst)))
        ((arguments.map Prod.snd).map fun argument =>
          Expr.ofArgument argument (Expr.parse argument)) =
      denoteAll interpreter tables context start (arguments.map Prod.fst) := by
  induction arguments generalizing start with
  | nil => rfl
  | cons argument rest ih =>
    simp only [List.map_cons, tableCounts] at hle ⊢
    obtain ⟨marked, htext, hshape⟩ := hshapes argument List.mem_cons_self
    have hcount : countPlaceholders argument.2 = .ok argument.1.tableCount := by
      rw [countPlaceholders_of_scan (scan_eq_ok_iff.2 ⟨htext, hshape.marks⟩), hshape.placeholders]
    have hfirst := heval argument List.mem_cons_self start (by omega)
    have hle' : start + argument.1.tableCount + tableCounts (rest.map Prod.fst) ≤ tables.length := by
      omega
    have hrest := ih (fun a ha => hshapes a (List.mem_cons_of_mem argument ha))
      (fun a ha => heval a (List.mem_cons_of_mem argument ha)) hle'
    rw [Expr.ofArgument, hcount]
    dsimp only
    rw [Interpreter.evalArguments, denoteAll, Supply.take_slice, Supply.drop_slice (by omega),
      hfirst, hrest]

theorem registeredAll_iff {functions : FunctionRegistry} {terms : List Term} :
    RegisteredAll functions terms ↔ ∀ term ∈ terms, term.Registered functions := by
  induction terms with
  | nil => simp [RegisteredAll]
  | cons term rest ih => simp [RegisteredAll, ih]

/-- The expression that a text of a term is read as evaluates as the term. -/
theorem evalExpr_of_writes {interpreter : Interpreter} {tables : List Table} {text : List Char}
    (h : term.Writes text) (hregistered : term.Registered interpreter.functions)
    {context : Context} {start : Nat} (hle : start + term.tableCount ≤ tables.length) :
    interpreter.evalExpr context (.slice tables start term.tableCount) (Expr.parse text) =
      term.denote interpreter tables context start := by
  induction h generalizing context start with
  | number numeral => rw [parse_numeral, Interpreter.evalExpr, denote]
  | table =>
    rw [tableCount] at hle ⊢
    have hlt : start < tables.length := hle
    rw [parse_table, Interpreter.evalExpr, denote, List.getElem?_eq_getElem hlt,
      Interpreter.supplied, Supply.slice, List.drop_eq_getElem_cons hlt]
    rfl
  | literal quoted => rw [parse_literal, Interpreter.evalExpr, denote]
  | reference name =>
    rw [parse_name (isName_word name), Interpreter.evalExpr,
      resolve_word interpreter tables context start]
  | @sourced name source before after hbefore hafter =>
    rw [parse_sourced (isName_word name) source hbefore.blanks hafter.blanks, Interpreter.evalExpr,
      resolve_sourced interpreter tables context start]
  | @call name gap arguments hgap hne hwrites ih =>
    obtain ⟨parts, htexts, hparts, -⟩ :=
      exists_shape_arguments fun argument ha => (hwrites argument ha).exists_shape
    have hne' : parts ≠ [] := ne_nil_of_map_eq htexts hne
    have hcontains : interpreter.functions.contains (String.ofList name.text) = true :=
      hregistered.1
    have hall := registeredAll_iff.1 hregistered.2
    have hargs := @evalArguments_of_writes interpreter tables context arguments
      (fun argument ha => (hwrites argument ha).exists_shape)
      (fun argument ha start hle => ih argument ha (hall _ (List.mem_map_of_mem ha)) hle) start hle
    rw [← htexts, parse_call name hgap.blanks hne' hparts, htexts, Interpreter.evalExpr]
    simp only [hcontains, if_true, Interpreter.apply_eq_bind]
    rw [denote, tableCount, hargs]
    rfl
  | @group inner text hwrites ih =>
    obtain ⟨marked, rfl, hshape⟩ := hwrites.exists_shape
    rw [parse_parentheses hshape.marks hshape.ends.not_blanks hshape.noComma, denote]
    exact ih hregistered hle
  | @operation op left right leftText rightText hleft hright hop ihl ihr =>
    obtain ⟨a, rfl, ha⟩ := hleft.exists_shape
    obtain ⟨b, rfl, hb⟩ := hright.exists_shape
    rw [tableCount] at hle ⊢
    rw [parse_operation op ha hb hop, Interpreter.evalExpr, denote, Supply.take_slice,
      Supply.drop_slice (by omega), ihl hregistered.1 (by omega), ihr hregistered.2 (by omega)]
    simp only [Interpreter.operate_eq_bind]
  | @overlay head text settings hhead hop hover hne hsettings ih =>
    obtain ⟨a, rfl, ha⟩ := hhead.exists_shape
    rw [parse_overlay ha hop hover hne hsettings, Interpreter.evalExpr, denote, tableCount,
      applySettings_settingOf]
    cases (settings.map Prod.fst).foldlM applySetting context with
    | error e => rfl
    | ok inner =>
      have htake := Supply.take_slice tables start head.tableCount 0
      rw [Nat.add_zero] at htake
      simp only [bind, Except.bind, htake]
      exact ih hregistered hle
  | @spaced term text before after hwrites hbefore hafter ih =>
    rw [Expr.parse_between hbefore.blanks hafter.blanks]
    exact ih hregistered hle

/-- Every text of a term, with one table for each of its placeholders, has the value and the
provenance of the term, or its error. -/
theorem evaluate_of_writes (interpreter : Interpreter) {text : List Char} (h : term.Writes text)
    (hregistered : term.Registered interpreter.functions) (context : Context)
    {tables : List Table} (htables : tables.length = term.tableCount) :
    interpreter.evaluate (String.ofList text) context tables =
      term.denote interpreter tables context 0 := by
  obtain ⟨marked, htext, hshape⟩ := h.exists_shape
  have hs : scan text = .ok marked := scan_eq_ok_iff.2 ⟨htext, hshape.marks⟩
  have hsolid : Text.allBlank (String.ofList text).toList = false := by
    rw [String.toList_ofList, ← htext, Bool.eq_false_iff, ne_eq, Text.allBlank_iff]
    exact hshape.ends.not_blanks
  have hcount : countPlaceholders (String.ofList text).toList = .ok tables.length := by
    rw [String.toList_ofList, countPlaceholders_of_scan hs, hshape.placeholders, htables]
  have heval := @evalExpr_of_writes term interpreter tables text h hregistered context 0 (by omega)
  rw [← htables, Supply.slice_zero_length] at heval
  rw [interpreter.evaluate_eq context hsolid hcount, String.toList_ofList, heval]

section Difference

def total : Word := ⟨'S', "um".toList, by decide, List.all_eq_true.1 (by decide)⟩

def product : Word := ⟨'G', "DP".toList, by decide, List.all_eq_true.1 (by decide)⟩

def fill : Word := ⟨'n', "an".toList, by decide, List.all_eq_true.1 (by decide)⟩

def switchedOn : Literal := ⟨"on".toList, by decide⟩

def quarter : Numeral where
  whole := ⟨"2".toList, by decide, List.all_eq_true.1 (by decide)⟩
  fraction := some "5".toList
  exponent :=
    some ⟨'e', some '-', ⟨"1".toList, by decide, List.all_eq_true.1 (by decide)⟩, by decide, by simp⟩
  fraction_isDigit := by
    rintro digits ⟨⟩
    exact List.all_eq_true.1 (by decide)

def difference : Term :=
  .operation .subtract
    (.overlay (.call total [.table, .reference product none]) [(fill, some switchedOn)])
    (.number quarter)

theorem writes_difference :
    difference.Writes "Sum(%d, GDP) #nan: \"on\" - 2.5e-1".toList := by
  have hproduct : Writes (.reference product none) " GDP".toList :=
    .spaced (.reference product) Text.spaces_space Text.spaces_nil
  have hcall : Writes (.call total [.table, .reference product none]) "Sum(%d, GDP)".toList := by
    refine .call total [(.table, "%d".toList), (.reference product none, " GDP".toList)]
      Text.spaces_nil (by simp) fun argument ha => ?_
    rcases List.mem_cons.1 ha with rfl | ha
    · exact .table
    · rw [List.mem_singleton.1 ha]
      exact hproduct
  have hsetting : WritesSetting (fill, some switchedOn) "nan: \"on\" ".toList :=
    .value fill switchedOn Text.spaces_nil Text.spaces_nil Text.spaces_space Text.spaces_space
  have hoverlay : Writes (.overlay (.call total [.table, .reference product none])
      [(fill, some switchedOn)]) "Sum(%d, GDP) #nan: \"on\" ".toList :=
    .overlay [((fill, some switchedOn), "nan: \"on\" ".toList)]
      (.spaced hcall Text.spaces_nil Text.spaces_space) rfl rfl (by simp)
      fun setting hs => List.mem_singleton.1 hs ▸ hsetting
  have hquarter : Writes (.number quarter) " 2.5e-1".toList :=
    .spaced (.number quarter) Text.spaces_space Text.spaces_nil
  exact .operation .subtract hoverlay hquarter rfl

/-- Of the two months one is missing in the supplied table and filled by the option. -/
theorem evaluate_of_writes_difference :
    difference.Writes "Sum(%d, GDP) #nan: \"on\" - 2.5e-1".toList ∧
      difference.Registered FunctionRegistry.standard ∧ difference.tableCount = 1 ∧
      Interpreter.evaluate ⟨.standard, .holding "GDP" (monthly (some 2) (some 3))⟩
          "Sum(%d, GDP) #nan: \"on\" - 2.5e-1" .default [monthly (some 1) none] =
        .ok ⟨.series (monthlyAs "VALUE" (some 2.75) (some 2.75)),
          .node "subtraction" [.node "SUM" [.leaf "input[0]" none "input", fetchedMonths],
            .leaf "2.5e-1" none "number"]⟩ := by
  have hregistered : difference.Registered FunctionRegistry.standard :=
    ⟨⟨rfl, trivial, trivial, trivial⟩, trivial⟩
  refine ⟨writes_difference, hregistered, rfl, ?_⟩
  exact (evaluate_of_writes ⟨.standard, .holding "GDP" (monthly (some 2) (some 3))⟩
    writes_difference hregistered .default rfl).trans rfl

end Difference

end Term

end TimeSeries
