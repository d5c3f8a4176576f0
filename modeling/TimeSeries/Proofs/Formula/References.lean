import TimeSeries.Proofs.Formula.Memory
import TimeSeries.Proofs.Formula.Reading
import TimeSeries.Proofs.Formula.Visits
import TimeSeries.Proofs.Text.Case
import TimeSeries.Store.SeriesStore

set_option autoImplicit false

/-!
# Forms of references

The series of a name from a source is written with an at sign between them, or like a call of the
source, with quotes around the name or without. All forms come to the same fetch, and so does the
name alone where the context has the source. A source is asked with the whole context, though, and so
may tell under which one a reference stands: one that looks at the source of the context answers the
name alone and the other forms differently, unless they stand under the same context.
-/
namespace TimeSeries

open MarkedText OperatorSplit

/-- The texts that name a series and its source. -/
inductive Refers (name : List Char) (source : Word) : List Char → Prop
  | sourced {before after : List Char} : Text.Blanks before → Text.Blanks after →
      Refers name source (name ++ before ++ '@' :: (after ++ source.text))
  | call {gap before after : List Char} : Text.Blanks gap → Text.Blanks before →
      Text.Blanks after →
      Refers name source (source.text ++ gap ++ '(' :: (before ++ name ++ after ++ [')']))
  | quoted {gap before after front back : List Char} : Text.Blanks gap → Text.Blanks before →
      Text.Blanks after → Text.Blanks front → Text.Blanks back →
      Refers name source (source.text ++ gap ++ '(' ::
        (before ++ '"' :: (front ++ name ++ back ++ ['"']) ++ after ++ [')']))
  | spaced {text before after : List Char} : Text.Blanks before → Text.Blanks after →
      Refers name source text → Refers name source (before ++ text ++ after)

/-- The source of the context, which is for names without one, changes no answer. Sources in memory
and stores of files are such. -/
def Source.IgnoresHome (source : Source) : Prop :=
  ∀ (series : String) (context : Context) (home : String),
    source.fetch series { context with source := home } = source.fetch series context

theorem MemorySource.ignoresHome (memory : MemorySource) : memory.toSource.IgnoresHome :=
  fun _ _ _ => rfl

theorem SeriesStore.ignoresHome (store : SeriesStore) (files : Files) :
    (store.toSource files).IgnoresHome :=
  fun _ _ _ => rfl

theorem SourceRegistry.fetch_congr (registry : SourceRegistry) {id id' : String}
    (h : Text.normalName id = Text.normalName id') (series : String) (context : Context) :
    registry.fetch id series context = registry.fetch id' series context := by
  unfold fetch get?
  rw [h]

theorem SourceRegistry.fetch_of_ignoresHome {registry : SourceRegistry} {id : String}
    (h : ∀ stored, registry.get? id = some stored → stored.IgnoresHome) (series : String)
    (context : Context) (home : String) :
    registry.fetch id series { context with source := home } = registry.fetch id series context := by
  unfold fetch
  cases hget : registry.get? id with
  | none => rfl
  | some stored =>
    dsimp only
    rw [h stored hget]

namespace Interpreter

/-- What a formula without placeholders that comes to a single fetch evaluates to. -/
def fetchAlone (interpreter : Interpreter) (source series : String) (context : Context)
    (tables : List Table) : Except FormulaError Evaluation :=
  match tables with
  | [] => interpreter.fetch source series context
  | _ => .error (.tableCount 0 tables.length)

theorem evaluate_of_fetch {interpreter : Interpreter} {text : List Char} {marked : MarkedText}
    (hsolid : ¬ Text.Blanks text) (hs : scan text = .ok marked) (hzero : marked.placeholders = 0)
    {context : Context} {source series : String}
    (heval : ∀ supply, interpreter.evalExpr context supply (Expr.parse text) =
      interpreter.fetch source series context) (tables : List Table) :
    interpreter.evaluate (String.ofList text) context tables =
      interpreter.fetchAlone source series context tables := by
  have hcount : countPlaceholders text = .ok 0 := by
    rw [countPlaceholders_of_scan hs, hzero]
  rw [← Text.allBlank_iff, Bool.not_eq_true] at hsolid
  unfold evaluate
  simp only [String.toList_ofList, hsolid, hcount]
  cases tables with
  | nil => exact heval _
  | cons table rest => rfl

theorem evaluate_name (interpreter : Interpreter) {name before after : List Char}
    (hname : IsName name) (hbefore : Text.Blanks before) (hafter : Text.Blanks after)
    {context : Context} (hsource : context.source ≠ "") (tables : List Table) :
    interpreter.evaluate (String.ofList (before ++ name ++ after)) context tables =
      interpreter.fetchAlone context.source (String.ofList name) context tables := by
  have hquiet := quiet_plain hname.isQuiet
  obtain ⟨pre, post, rfl, rfl, hs⟩ :=
    scan_between hbefore hafter (scan_eq_ok_iff.2 ⟨text_map_mark _ _, hquiet.marks⟩)
  refine evaluate_of_fetch (fun hb => hname.ne_nil ?_) hs ?_ (fun supply => ?_) tables
  · have htrim := Text.trim_eq_nil hb
    rwa [Text.trim_between hbefore hafter, Text.trim_eq_self hname.hasSolidEnds] at htrim
  · rw [placeholders_between hbefore hafter, placeholders_of_inert hquiet.inert]
  · rw [Expr.parse_between hbefore hafter, Term.parse_name hname, evalExpr]
    exact @Term.resolve_eq_fetch interpreter context name name hname none hsource

end Interpreter

/-- The marks of an argument that is a name between blanks, with quotes or without. -/
structure IsNameArgument (name : List Char) (argument : MarkedText) : Prop where
  quiet : Quiet argument
  not_blanks : ¬ Text.Blanks argument.text
  exists_literal : ∃ literal, unquote argument.text = .ok literal ∧
    Text.trim (literal.getD argument.text) = name

section Arguments

variable {name before after : List Char}

theorem exists_isNameArgument_bare (hname : IsName name) (hbefore : Text.Blanks before)
    (hafter : Text.Blanks after) :
    ∃ argument : MarkedText, argument.text = before ++ name ++ after ∧
      IsNameArgument name argument := by
  have hquiet := ((quiet_blanks hbefore).append (quiet_plain hname.isQuiet)).append
    (quiet_blanks hafter)
  have htrim : Text.trim (before ++ name ++ after) = name := by
    rw [Text.trim_between hbefore hafter, Text.trim_eq_self hname.hasSolidEnds]
  have hquote : '"' ∉ before ++ name ++ after := by
    simp only [List.mem_append, not_or]
    exact ⟨⟨hbefore.not_mem (by decide), hname.not_mem (by decide)⟩, hafter.not_mem (by decide)⟩
  have htext : MarkedText.text (before.map (·, ⟨0, false⟩) ++ name.map (·, ⟨0, false⟩) ++
      after.map (·, ⟨0, false⟩)) = before ++ name ++ after := by simp
  refine ⟨_, htext, hquiet, fun hb => ?_, none, ?_, ?_⟩
  · rw [htext] at hb
    exact hname.ne_nil (htrim.symm.trans (Text.trim_eq_nil hb))
  · rw [htext, unquote_eq_none hquote]
  · rw [htext, Option.getD_none, htrim]

theorem exists_isNameArgument_quoted (hname : IsName name) {front back : List Char}
    (hbefore : Text.Blanks before) (hafter : Text.Blanks after) (hfront : Text.Blanks front)
    (hback : Text.Blanks back) :
    ∃ argument : MarkedText,
      argument.text = before ++ '"' :: (front ++ name ++ back ++ ['"']) ++ after ∧
      IsNameArgument name argument := by
  have hquote : '"' ∉ front ++ name ++ back := by
    simp only [List.mem_append, not_or]
    exact ⟨⟨hfront.not_mem (by decide), hname.not_mem (by decide)⟩, hback.not_mem (by decide)⟩
  let literal : Literal := ⟨front ++ name ++ back, hquote⟩
  have hquiet := ((quiet_blanks hbefore).append (quiet_literal literal)).append
    (quiet_blanks hafter)
  have htext : MarkedText.text (before.map (·, ⟨0, false⟩) ++ literal.text.map (·, ⟨0, true⟩) ++
      after.map (·, ⟨0, false⟩)) = before ++ literal.text ++ after := by simp
  refine ⟨_, htext, hquiet, fun hb => ?_, some literal.content, ?_, ?_⟩
  · have hopening := hb '"' (by simp [Literal.text])
    exact absurd hopening (by decide)
  · rw [htext, unquote_literal literal hbefore hafter]
  · rw [Option.getD_some, Text.trim_between hfront hback, Text.trim_eq_self hname.hasSolidEnds]

end Arguments

/-- A formula without placeholders that evaluates to a fetch, whatever the context. -/
structure IsFetch (interpreter : Interpreter) (source series : String) (text : List Char) : Prop where
  not_blanks : ¬ Text.Blanks text
  exists_scan : ∃ marked, scan text = .ok marked ∧ marked.placeholders = 0
  evalExpr : ∀ context supply, interpreter.evalExpr context supply (Expr.parse text) =
    interpreter.fetch source series context

namespace IsFetch

variable {interpreter : Interpreter} {name : List Char} {source : Word}

theorem sourced (hname : IsName name) (source : Word) {before after : List Char}
    (hbefore : Text.Blanks before) (hafter : Text.Blanks after) :
    IsFetch interpreter source.name (String.ofList name)
      (name ++ before ++ '@' :: (after ++ source.text)) := by
  have hquiet := quiet_plain (Term.isQuiet_sourced hname source hbefore hafter)
  refine ⟨fun hb => ?_, ⟨_, scan_eq_ok_iff.2 ⟨text_map_mark _ _, hquiet.marks⟩,
    placeholders_of_inert hquiet.inert⟩, fun context supply => ?_⟩
  · exact absurd (hb '@' (by simp)) (by decide)
  · rw [Term.parse_sourced hname source hbefore hafter, Interpreter.evalExpr]
    exact Term.resolve_eq_fetch interpreter context _ hname (Term.name_ne_empty source)

theorem call (hname : IsName name) (hfunction : interpreter.functions.contains source.name = false)
    (hsource : interpreter.sources.contains source.name = true) {gap : List Char}
    (hgap : Text.Blanks gap) {argument : MarkedText} (h : IsNameArgument name argument) :
    IsFetch interpreter source.name (String.ofList name)
      (source.text ++ gap ++ '(' :: (argument.text ++ [')'])) := by
  have hfront := (quiet_word source).append (quiet_blanks hgap)
  obtain ⟨literal, hliteral, htrim⟩ := h.exists_literal
  refine ⟨?_, ⟨callMarks _ argument [], scan_eq_ok_iff.2 ⟨?_,
    marks_callMarks hfront.marks h.quiet.marks (.nil 0 false)⟩, ?_⟩, fun context supply => ?_⟩
  · intro hb
    have hopening := hb '(' (by simp)
    exact absurd hopening (by decide)
  · rw [text_callMarks, text_append, text_map_mark, text_map_mark]
    rfl
  · have hopening : Inert ('(', ⟨0, false⟩) := inert_of_ne (by simp)
    have hinert : ∀ entry ∈ source.text.map (·, (⟨0, false⟩ : Mark)) ++ gap.map (·, ⟨0, false⟩) ++
        [('(', ⟨0, false⟩)], Inert entry := by
      intro entry he
      rcases List.mem_append.1 he with he | he
      · exact hfront.inert entry he
      · rwa [List.mem_singleton.1 he]
    have hafter : Text.Blanks (text []) := Text.blanks_nil
    rw [placeholders_callMarks hafter, placeholders_of_inert hinert,
      placeholders_of_inert h.quiet.inert]
  · have hargs := Term.splitArguments_undivided h.quiet.marks h.not_blanks
      (h.quiet.calm.isTop (by simp))
    have hcount : countPlaceholders argument.text = .ok 0 := by
      rw [countPlaceholders_of_scan (scan_eq_ok_iff.2 ⟨rfl, h.quiet.marks⟩),
        placeholders_of_inert h.quiet.inert]
    -- With quotes the name is the content, without them the argument itself; both are trimmed.
    have hfetch := @Visit.fetchByCall_singleton interpreter 0 argument.text hcount context source.name
    rw [hliteral, if_neg (Nat.lt_irrefl 0)] at hfetch
    simp only [Except.bind, htrim, if_neg hname.ne_nil] at hfetch
    rw [Term.parse_named source hgap h.quiet.marks hargs, Interpreter.evalExpr]
    simp only [Word.name] at hfunction hsource hfetch ⊢
    simp only [hfunction, hsource, if_true]
    exact hfetch

theorem between {series : String} {text : List Char} {id : String}
    (h : IsFetch interpreter id series text) {before after : List Char}
    (hbefore : Text.Blanks before) (hafter : Text.Blanks after) :
    IsFetch interpreter id series (before ++ text ++ after) := by
  obtain ⟨marked, hs, hzero⟩ := h.exists_scan
  obtain ⟨pre, post, rfl, rfl, hwhole⟩ := scan_between hbefore hafter hs
  refine ⟨fun hb => h.not_blanks fun c hc => hb c ?_, ⟨_, hwhole, ?_⟩, fun context supply => ?_⟩
  · exact List.mem_append_left _ (List.mem_append_right _ hc)
  · rw [placeholders_between hbefore hafter, hzero]
  · rw [Expr.parse_between hbefore hafter, h.evalExpr]

end IsFetch

theorem Refers.isFetch {interpreter : Interpreter} {name text : List Char} {source : Word}
    (hname : IsName name) (hfunction : interpreter.functions.contains source.name = false)
    (hsource : interpreter.sources.contains source.name = true) (h : Refers name source text) :
    IsFetch interpreter source.name (String.ofList name) text := by
  induction h with
  | sourced hbefore hafter => exact .sourced hname source hbefore hafter
  | call hgap hbefore hafter =>
    obtain ⟨argument, htext, hargument⟩ := exists_isNameArgument_bare hname hbefore hafter
    rw [← htext]
    exact .call hname hfunction hsource hgap hargument
  | quoted hgap hbefore hafter hfront hback =>
    obtain ⟨argument, htext, hargument⟩ :=
      exists_isNameArgument_quoted hname hbefore hafter hfront hback
    rw [← htext]
    exact .call hname hfunction hsource hgap hargument
  | spaced hbefore hafter _ ih => exact ih.between hbefore hafter

namespace Interpreter

theorem fetchAlone_congr (interpreter : Interpreter) {id id' : String}
    (h : Text.normalName id = Text.normalName id') (series : String) (context : Context)
    (tables : List Table) :
    interpreter.fetchAlone id series context tables =
      interpreter.fetchAlone id' series context tables := by
  unfold fetchAlone fetch
  rw [interpreter.sources.fetch_congr h]

theorem fetchAlone_of_ignoresHome {interpreter : Interpreter} {id : String}
    (h : ∀ stored, interpreter.sources.get? id = some stored → stored.IgnoresHome)
    (series home : String) (context : Context) (tables : List Table) :
    interpreter.fetchAlone id series { context with source := home } tables =
      interpreter.fetchAlone id series context tables := by
  unfold fetchAlone fetch
  rw [SourceRegistry.fetch_of_ignoresHome h]

/-- All forms of a reference come to one fetch. The name alone comes to the same, where the context
has the source in any spelling; the forms may stand under that context or under another one. -/
theorem evaluate_refers (interpreter : Interpreter) {name : List Char} {source : Word}
    (hname : IsName name) (hfunction : interpreter.functions.contains source.name = false)
    (hsource : interpreter.sources.contains source.name = true) {text : List Char}
    (h : Refers name source text) (context : Context) (tables : List Table) :
    interpreter.evaluate (String.ofList text) context tables =
      interpreter.fetchAlone source.name (String.ofList name) context tables ∧
    ∀ (home : String) (before after : List Char),
      Text.normalName home = Text.normalName source.name → Text.Blanks before → Text.Blanks after →
      interpreter.evaluate (String.ofList (before ++ name ++ after))
          { context with source := home } tables =
        interpreter.evaluate (String.ofList text) { context with source := home } tables ∧
      ((∀ stored, interpreter.sources.get? source.name = some stored → stored.IgnoresHome) →
        interpreter.evaluate (String.ofList (before ++ name ++ after))
            { context with source := home } tables =
          interpreter.evaluate (String.ofList text) context tables) := by
  have hfetch := h.isFetch hname hfunction hsource
  obtain ⟨marked, hs, hzero⟩ := hfetch.exists_scan
  have heval (context : Context) : interpreter.evaluate (String.ofList text) context tables =
      interpreter.fetchAlone source.name (String.ofList name) context tables :=
    evaluate_of_fetch hfetch.not_blanks hs hzero (hfetch.evalExpr context) tables
  refine ⟨heval context, ?_⟩
  intro home before after hhome hbefore hafter
  -- A context without a source would refuse the name, but no word has the empty normal form.
  have hne : home ≠ "" := by
    rintro rfl
    have hblanks := Text.blanks_of_normalName (hhome.symm.trans (by decide))
    rw [Word.name, String.toList_ofList] at hblanks
    exact (isName_word source).ne_nil (source.trim_text.symm.trans (Text.trim_eq_nil hblanks))
  have halone : interpreter.evaluate (String.ofList (before ++ name ++ after))
      { context with source := home } tables =
        interpreter.fetchAlone source.name (String.ofList name)
          { context with source := home } tables := by
    have hname' := @evaluate_name interpreter name before after hname hbefore hafter
      { context with source := home } hne tables
    rw [hname', interpreter.fetchAlone_congr hhome]
  rw [halone, heval, heval]
  exact ⟨rfl, fun hignores => fetchAlone_of_ignoresHome hignores _ _ _ _⟩

def feed : Word := ⟨'f', "eed".toList, by decide, List.all_eq_true.1 (by decide)⟩

/-- The source is registered under a second identifier, and has one of two series. -/
theorem evaluate_refers_feed :
    ∃ registry, (SourceRegistry.holding "GDP_1.A" (monthly none none)).registerAlias "Feed" "default" =
        .ok registry ∧
      FunctionRegistry.standard.contains feed.name = false ∧ registry.contains feed.name = true ∧
      (∀ stored, registry.get? feed.name = some stored → stored.IgnoresHome) ∧
      IsName "GDP_1.A".toList ∧ Refers "GDP_1.A".toList feed "feed (\" GDP_1.A\")".toList ∧
      (evaluate ⟨.standard, registry⟩ "GDP_1.A" { Context.default with source := " FEED" } [] =
        evaluate ⟨.standard, registry⟩ "feed (\" GDP_1.A\")" .default []) ∧
      (evaluate ⟨.standard, registry⟩ "feed (\" GDP_1.A\")" .default []).toOption.isSome = true ∧
      IsName "GNP".toList ∧ Refers "GNP".toList feed "GNP@ feed".toList ∧
      evaluate ⟨.standard, registry⟩ "GNP@ feed" .default [] =
        .error (.sourceFetch "DEFAULT" "GNP" (.notFound "GNP")) := by
  have hnil := Text.blanks_nil
  have hregistry : ∃ registry,
      (SourceRegistry.holding "GDP_1.A" (monthly none none)).registerAlias "Feed" "default" =
          .ok registry ∧ registry.contains feed.name = true ∧
        ∀ stored, registry.get? feed.name = some stored → stored.IgnoresHome := by
    refine ⟨_, rfl, rfl, fun stored hstored => ?_⟩
    cases hstored
    exact MemorySource.ignoresHome _
  obtain ⟨registry, hregister, hsource, hignores⟩ := hregistry
  have hfunction : FunctionRegistry.standard.contains feed.name = false := by decide +kernel
  have hname : IsName "GDP_1.A".toList := ⟨⟨'G', rfl, by decide⟩, List.all_eq_true.1 (by decide)⟩
  have hother : IsName "GNP".toList := ⟨⟨'G', rfl, by decide⟩, List.all_eq_true.1 (by decide)⟩
  have hquoted : Refers "GDP_1.A".toList feed "feed (\" GDP_1.A\")".toList :=
    .quoted Text.blanks_space hnil hnil Text.blanks_space hnil
  have hsourced : Refers "GNP".toList feed "GNP@ feed".toList :=
    .sourced hnil Text.blanks_space
  have hall := evaluate_refers ⟨.standard, registry⟩ hname hfunction hsource hquoted .default []
  have hmissing := evaluate_refers ⟨.standard, registry⟩ hother hfunction hsource hsourced .default []
  have halone := (hall.2 " FEED" [] [] (by decide) hnil hnil).2 hignores
  refine ⟨registry, hregister, hfunction, hsource, hignores, hname, hquoted, halone, ?_, hother,
    hsourced, ?_⟩
  · cases hregister
    decide +kernel
  · cases hregister
    exact hmissing.1.trans rfl

/-- A source that notes under which source of the context it was asked. -/
def notingSource : Source where
  id := "FEED"
  fetch := fun series context => .ok (monthly none none,
    .fetched (series ++ "@FEED") ⟨"FEED", none, NameMap.empty.insert "asked" context.source⟩)

/-- A source that looks at the source of the context tells a name alone from the other forms. -/
theorem evaluate_refers_noting :
    ∃ registry, SourceRegistry.empty.register notingSource = .ok registry ∧
      FunctionRegistry.standard.contains feed.name = false ∧ registry.contains feed.name = true ∧
      IsName "GDP".toList ∧ Refers "GDP".toList feed "GDP@feed".toList ∧
      evaluate ⟨.standard, registry⟩ "GDP@feed" .default [] =
        .ok ⟨.series (monthly none none), .fetched "GDP@FEED"
          ⟨"FEED", none, NameMap.empty.insert "asked" "DEFAULT"⟩⟩ ∧
      evaluate ⟨.standard, registry⟩ "GDP" { Context.default with source := "feed" } [] =
        .ok ⟨.series (monthly none none), .fetched "GDP@FEED"
          ⟨"FEED", none, NameMap.empty.insert "asked" "feed"⟩⟩ ∧
      evaluate ⟨.standard, registry⟩ "GDP" { Context.default with source := "feed" } [] ≠
        evaluate ⟨.standard, registry⟩ "GDP@feed" .default [] := by
  have hname : IsName "GDP".toList := ⟨⟨'G', rfl, by decide⟩, List.all_eq_true.1 (by decide)⟩
  have hrefers : Refers "GDP".toList feed "GDP@feed".toList :=
    .sourced Text.blanks_nil Text.blanks_nil
  have hat : evaluate ⟨.standard, ⟨.insert .empty "FEED" notingSource⟩⟩ "GDP@feed" .default [] =
      .ok ⟨.series (monthly none none), .fetched "GDP@FEED"
        ⟨"FEED", none, NameMap.empty.insert "asked" "DEFAULT"⟩⟩ := evaluate_of_evaluateTo 1 rfl
  have halone : evaluate ⟨.standard, ⟨.insert .empty "FEED" notingSource⟩⟩ "GDP"
      { Context.default with source := "feed" } [] =
      .ok ⟨.series (monthly none none), .fetched "GDP@FEED"
        ⟨"FEED", none, NameMap.empty.insert "asked" "feed"⟩⟩ := evaluate_of_evaluateTo 1 rfl
  refine ⟨⟨.insert .empty "FEED" notingSource⟩, rfl, by decide +kernel, rfl, hname, hrefers, hat,
    halone, ?_⟩
  rw [hat, halone]
  intro heq
  have hattributes := congrArg (fun result => result.toOption.map fun evaluation =>
    (evaluation.provenance.info?.map SourceInfo.attributes).bind (·.find? "asked")) heq
  exact absurd hattributes (by decide)

end Interpreter

end TimeSeries
