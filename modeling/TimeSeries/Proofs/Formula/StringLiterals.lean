import TimeSeries.Proofs.Formula.Layers
import TimeSeries.Proofs.Formula.Leaves
import TimeSeries.Proofs.Formula.Memory
import TimeSeries.Proofs.Formula.Registering

set_option autoImplicit false

/-!
# String literals

A text is taken for a string literal by the quotes at its ends alone, and it is a single literal when
it has no others. Any other text with quotes that no layer takes apart has no value, unless all its
quotes belong to the identifier of a source.
-/
namespace TimeSeries

open MarkedText OperatorSplit

/-- On the top level there is no operator that splits the text, no number sign and no parenthesis. -/
structure Unlayered (marked : MarkedText) : Prop where
  unsplit : splitOperator marked = none
  noHash : ∀ entry ∈ marked, isTop '#' entry = false
  noOpening : ∀ entry ∈ marked, isTop '(' entry = false

/-- A series and a source with an at sign between. The quotes are in the identifier of the source,
the last of them not at its end. -/
structure QuotesSource (text name id : List Char) : Prop where
  exists_parts : ∃ left right, text = left ++ '@' :: right ∧ '@' ∉ left ∧ '@' ∉ right ∧
    Text.trim left = name ∧ Text.trim right = id
  name_ne_nil : name ≠ []
  isSeriesName : isSeriesName name = true
  quote_mem : '"' ∈ id
  not_quote : text.getLast? ≠ some '"'

/-! ## Quotes at the ends -/

section Quotes

variable {text content : List Char}

theorem quote_not_mem_iff (h : unquote text = .ok (some content)) :
    '"' ∉ content ↔ text.count '"' = 2 := by
  rw [← Text.count_trim (by decide), unquote_eq_some_iff.1 h, ← List.count_eq_zero]
  simp

theorem Expr.readNumber?_of_quote (h : '"' ∈ text) : readNumber? text = none := by
  cases text with
  | nil => rfl
  | cons c rest =>
    rw [readNumber?, if_neg]
    intro hnumber
    rw [Bool.and_eq_true, List.all_eq_true] at hnumber
    exact absurd (hnumber.2 '"' h) (by decide)

theorem QuotesSource.unquote_eq_none {name id : List Char} (h : QuotesSource text name id)
    (htrim : Text.trim text = text) : unquote text = .ok none := by
  obtain ⟨⟨left, right, htext, -, -, rfl, -⟩, hne, hseries, -, hlast⟩ := h
  rw [unquote_eq_none_iff, htrim]
  refine ⟨fun hfirst => ?_, hlast⟩
  cases left with
  | nil => exact hne (Text.trim_eq_nil Text.blanks_nil)
  | cons c rest =>
    rw [htext, List.cons_append, List.head?_cons, Option.some.injEq] at hfirst
    have hmem : '"' ∈ Text.trim (c :: rest) := (Text.mem_trim (by decide)).2 (by simp [hfirst])
    exact absurd rfl (isPlain_of_isSeriesName hseries hmem).1

theorem Unlayered.parse_eq {marked : MarkedText} (h : Unlayered marked) (hs : scan text = .ok marked)
    (hsolid : ¬ Text.Blanks text) : Expr.parse text = Expr.ofLeaf (Text.trim text) := by
  obtain ⟨pre, core, post, rfl, hpre, hpost, hcore⟩ := scan_trim hs
  have hmem : ∀ entry ∈ core, entry ∈ pre ++ core ++ post :=
    fun entry he => List.mem_append_left post (List.mem_append_right pre he)
  refine Expr.parse_eq_leaf (Layer.of_eq_leaf hcore ?_ ((splitOperator_between hpre hpost).1 h.unsplit)
    (fun entry he => h.noHash entry (hmem entry he))
    fun entry he => h.noOpening entry (hmem entry he))
  exact fun hnil => hsolid (Text.blanks_of_trim_eq_nil hnil)

end Quotes

/-! ## References with quotes -/

namespace Interpreter

variable {interpreter : Interpreter} {context : Context} {result : Evaluation}

theorem mem_ids_of_fetch {id series : String}
    (h : interpreter.fetch id series context = .ok result) :
    Text.normalName id ∈ interpreter.sources.ids := by
  by_contra hid
  have hnone := NameMap.contains_eq_false_iff.2 hid
  rw [NameMap.contains, Option.isSome_eq_false_iff, Option.isNone_iff_eq_none] at hnone
  rw [fetch, SourceRegistry.fetch, SourceRegistry.get?, hnone] at h
  cases h

theorem evalExpr_ofReference_of_quote {text : List Char} (hquote : '"' ∈ text)
    (hlast : text.getLast? ≠ some '"') (supply : Supply) :
    interpreter.evalExpr context supply (Expr.ofReference text) = .ok result ↔
      ∃ name id, QuotesSource text name id ∧
        Text.normalName (String.ofList id) ∈ interpreter.sources.ids ∧
        interpreter.fetch (String.ofList id) (String.ofList name) context = .ok result := by
  constructor
  · intro h
    rcases Expr.ofReference_cases text with
      ⟨-, href⟩ | ⟨left, right, rfl, hleft, hright, href⟩ | ⟨error, href⟩
    · rw [href, evalExpr, resolve_eq_ok_iff] at h
      obtain ⟨-, -, hseries, -⟩ := h
      have hplain := isPlain_of_isSeriesName hseries ((Text.mem_trim (by decide)).2 hquote)
      exact absurd rfl hplain.1
    · rw [href, evalExpr, resolve_eq_ok_iff] at h
      obtain ⟨hne, -, hseries, hfetch⟩ := h
      refine ⟨_, _, ⟨⟨left, right, rfl, hleft, hright, rfl, rfl⟩, hne, hseries, ?_, hlast⟩,
        mem_ids_of_fetch hfetch, hfetch⟩
      rw [Text.mem_trim (by decide)]
      rcases List.mem_append.1 hquote with hmem | hmem
      · have hplain := isPlain_of_isSeriesName hseries ((Text.mem_trim (by decide)).2 hmem)
        exact absurd rfl hplain.1
      · simpa using hmem
    · rw [href, evalExpr] at h
      cases h
  · rintro ⟨name, id, ⟨⟨left, right, rfl, hleft, hright, rfl, rfl⟩, hne, hseries, hid, -⟩, -, hfetch⟩
    rw [Expr.ofReference_sourced hleft hright, evalExpr, resolve_eq_ok_iff]
    refine ⟨hne, ?_, hseries, hfetch⟩
    intro hempty
    have hnil : Text.trim right = [] := String.ofList_injective hempty
    rw [hnil] at hid
    cases hid

/-! ## Evaluation -/

theorem evalExpr_ofLeaf_of_quote {text : List Char} (hquote : '"' ∈ text)
    (htrim : Text.trim text = text) (supply : Supply) :
    interpreter.evalExpr context supply (Expr.ofLeaf text) = .ok result ↔
      (∃ content, text = '"' :: (content ++ ['"']) ∧
        result = ⟨.text (String.ofList content), .leaf (String.ofList content) none "string"⟩) ∨
      ∃ name id, QuotesSource text name id ∧
        Text.normalName (String.ofList id) ∈ interpreter.sources.ids ∧
        interpreter.fetch (String.ofList id) (String.ofList name) context = .ok result := by
  have htable : text ≠ ['%', 'd'] := by
    rintro rfl
    exact absurd hquote (by decide)
  -- Both sides go by what the text is without its quotes.
  have hliteral (content : List Char) :
      text = '"' :: (content ++ ['"']) ↔ unquote text = .ok (some content) := by
    rw [unquote_eq_some_iff, htrim]
  have hreference (h : unquote text ≠ .ok none) (name id : List Char) :
      ¬ QuotesSource text name id := fun hquotes => h (hquotes.unquote_eq_none htrim)
  rw [Expr.ofLeaf, if_neg htable, Expr.readNumber?_of_quote hquote]
  simp only [hliteral]
  cases hunquote : unquote text with
  | error e =>
    have hnone := hreference (by simp [hunquote])
    simp [evalExpr, hnone]
  | ok literal =>
    cases literal with
    | none =>
      have hlast := (unquote_eq_none_iff.1 hunquote).2
      rw [htrim] at hlast
      simp [evalExpr_ofReference_of_quote hquote hlast]
    | some content =>
      have hnone := hreference (by simp [hunquote])
      simp [evalExpr, hnone, eq_comm]

end Interpreter

/-- What is taken for a string literal, when it is a single one, and when a text with quotes that no
layer takes apart has a value. -/
theorem string_literals_by_ends (text : String) :
    (∀ content, unquote text.toList = .ok (some content) ↔
      Text.trim text.toList = '"' :: (content ++ ['"'])) ∧
    (∀ content, unquote text.toList = .ok (some content) →
      ('"' ∉ content ↔ text.toList.count '"' = 2)) ∧
    ∀ marked, scan text.toList = .ok marked → '"' ∈ text.toList → Unlayered marked →
      ∀ (interpreter : Interpreter) (context : Context) (tables : List Table) (result : Evaluation),
        interpreter.evaluate text context tables = .ok result ↔
          marked.placeholders = tables.length ∧
          ((∃ content, Text.trim text.toList = '"' :: (content ++ ['"']) ∧
            result =
              ⟨.text (String.ofList content), .leaf (String.ofList content) none "string"⟩) ∨
          ∃ name id, QuotesSource (Text.trim text.toList) name id ∧
            Text.normalName (String.ofList id) ∈ interpreter.sources.ids ∧
            interpreter.fetch (String.ofList id) (String.ofList name) context = .ok result) := by
  refine ⟨fun _ => unquote_eq_some_iff, fun _ => quote_not_mem_iff, ?_⟩
  intro marked hs hquote h interpreter context tables result
  have hsolid : ¬ Text.Blanks text.toList := fun hblanks => hblanks.not_mem (by decide) hquote
  have hquote' : '"' ∈ Text.trim text.toList := (Text.mem_trim (by decide)).2 hquote
  rw [Interpreter.evaluate_eq_ok_iff, countPlaceholders_of_scan hs, h.parse_eq hs hsolid,
    Interpreter.evalExpr_ofLeaf_of_quote hquote' (Text.trim_trim _), Except.ok.injEq,
    ← Bool.not_eq_true, Text.allBlank_iff]
  exact and_iff_right hsolid

/-- A literal with delimiters inside, and a source with quotes in a further identifier. -/
theorem string_literals_by_ends_delimiters :
    (∃ marked, scan " \"a#b(\" ".toList = .ok marked ∧ Unlayered marked ∧
      " \"a#b(\" ".toList.count '"' = 2 ∧ '"' ∉ "a#b(".toList ∧
      Interpreter.evaluate ⟨.standard, .empty⟩ " \"a#b(\" " .default [] =
        .ok ⟨.text "a#b(", .leaf "a#b(" none "string"⟩) ∧
    ∃ registry marked result,
      (SourceRegistry.holding "GDP" (monthly none none)).registerAlias "\"lo\"cal" "default" =
        .ok registry ∧
      scan "GDP@\"LO\"CAL".toList = .ok marked ∧ Unlayered marked ∧
      Interpreter.evaluate ⟨.standard, registry⟩ "GDP@\"LO\"CAL" .default [] = .ok result := by
  constructor
  · obtain ⟨hunquote, hcontent, hevaluate⟩ := string_literals_by_ends " \"a#b(\" "
    have htext : Text.trim " \"a#b(\" ".toList = '"' :: ("a#b(".toList ++ ['"']) := by decide
    have hcount : " \"a#b(\" ".toList.count '"' = 2 := by decide
    obtain ⟨marked, hs, hzero, hquotes⟩ : ∃ marked, scan " \"a#b(\" ".toList = .ok marked ∧
        marked.placeholders = 0 ∧ Unlayered marked := ⟨_, rfl, rfl, rfl, by decide, by decide⟩
    refine ⟨marked, hs, hquotes, hcount, (hcontent _ ((hunquote _).2 htext)).2 hcount, ?_⟩
    exact (hevaluate _ hs (by decide) hquotes _ _ _ _).2 ⟨hzero, .inl ⟨_, htext, rfl⟩⟩
  · obtain ⟨-, -, hevaluate⟩ := string_literals_by_ends "GDP@\"LO\"CAL"
    obtain ⟨marked, hs, hzero, hquotes⟩ : ∃ marked, scan "GDP@\"LO\"CAL".toList = .ok marked ∧
        marked.placeholders = 0 ∧ Unlayered marked := ⟨_, rfl, rfl, rfl, by decide, by decide⟩
    have hsource : QuotesSource (Text.trim "GDP@\"LO\"CAL".toList) "GDP".toList
        "\"LO\"CAL".toList :=
      ⟨⟨"GDP".toList, "\"LO\"CAL".toList, by decide, by decide, by decide, by decide, by decide⟩,
        by decide, by decide, by decide, by decide⟩
    obtain ⟨registry, hregister, hid, result, hfetch⟩ : ∃ registry,
        (SourceRegistry.holding "GDP" (monthly none none)).registerAlias "\"lo\"cal" "default" =
          .ok registry ∧ Text.normalName "\"LO\"CAL" ∈ registry.ids ∧
        ∃ result, Interpreter.fetch ⟨.standard, registry⟩ "\"LO\"CAL" "GDP" .default =
          .ok result := by
      refine ⟨_, rfl, by decide +kernel, exists_eq_ok (by decide +kernel)⟩
    refine ⟨registry, marked, result, hregister, hs, hquotes, ?_⟩
    exact (hevaluate _ hs (by decide) hquotes _ _ _ _).2
      ⟨hzero, .inr ⟨_, _, hsource, hid, hfetch⟩⟩

/-- Two literals next to each other are taken for one, with quotes inside. -/
theorem exists_literal_with_quotes :
    unquote "\"a\" \"b\"".toList = .ok (some "a\" \"b".toList) ∧ '"' ∈ "a\" \"b".toList ∧
    (∀ literal : Literal, Text.trim "\"a\" \"b\"".toList ≠ literal.text) ∧
    ∃ marked, scan "\"a\" \"b\"".toList = .ok marked ∧ Unlayered marked ∧
      Interpreter.evaluate ⟨.standard, .empty⟩ "\"a\" \"b\"" .default [] =
        .ok ⟨.text "a\" \"b", .leaf "a\" \"b" none "string"⟩ := by
  have hunquote : unquote "\"a\" \"b\"".toList = .ok (some "a\" \"b".toList) :=
    unquote_eq_some_iff.2 (by decide)
  obtain ⟨marked, hs, hcount, hquotes⟩ : ∃ marked, scan "\"a\" \"b\"".toList = .ok marked ∧
      marked.placeholders = 0 ∧ Unlayered marked := ⟨_, rfl, rfl, rfl, by decide, by decide⟩
  refine ⟨hunquote, by decide, fun literal htext => literal.not_mem_quote ?_, marked, hs, hquotes, ?_⟩
  · rw [unquote_eq_some_iff.2 htext, Except.ok.injEq, Option.some.injEq] at hunquote
    rw [hunquote]
    decide
  · rw [Interpreter.evaluate_eq_ok_iff, countPlaceholders_of_scan hs, hcount,
      hquotes.parse_eq hs (fun hblanks => absurd (hblanks '"' (by decide)) (by decide))]
    exact ⟨rfl, rfl, rfl⟩

end TimeSeries
