import TimeSeries.Proofs.Formula.Memory
import TimeSeries.Proofs.Formula.Settings
import TimeSeries.Proofs.Formula.Visits

set_option autoImplicit false

/-!
# Options behind an expression

Options that are written behind parentheses act as if they were applied to the context before the
parentheses are evaluated, one after another, whatever the expression between the parentheses and
the values between the quotes contain. When one of them cannot be applied, nothing is evaluated.
-/
namespace TimeSeries

open MarkedText

/-- A name of an option: ASCII letters, digits and underscores, the first of them a letter. -/
structure OptionName where
  first : Char
  others : List Char
  first_isAlpha : first.isAlpha = true
  others_continue : ∀ c ∈ others, (c.isAlphanum || c == '_') = true

namespace OptionName

variable (name : OptionName)

def text : List Char := name.first :: name.others

theorem mem_text : ∀ c ∈ name.text, c.isAlphanum = true ∨ c = '_' := by
  intro c hc
  rcases List.mem_cons.1 hc with rfl | hc
  · exact Or.inl (Text.isAlphanum_of_isAlpha name.first_isAlpha)
  · have hother := name.others_continue c hc
    rwa [Bool.or_eq_true, beq_iff_eq] at hother

theorem not_mem {c : Char} (halphanum : c.isAlphanum = false) (hunderscore : c ≠ '_') :
    c ∉ name.text := by
  intro hc
  rcases name.mem_text c hc with h | h
  · rw [h] at halphanum
    cases halphanum
  · exact hunderscore h

theorem isBlank_of_mem : ∀ c ∈ name.text, Text.isBlank c = false := by
  intro c hc
  rcases name.mem_text c hc with h | rfl
  · exact Text.isBlank_of_isAlphanum h
  · decide

theorem isQuiet : ∀ c ∈ name.text, IsQuiet c := by
  intro c hc
  rcases name.mem_text c hc with h | rfl
  · exact isQuiet_of_isAlphanum h
  · simp [IsQuiet]

theorem isKey : IsKey name.text where
  ne_nil := List.cons_ne_nil _ _
  trim_eq := Text.trim_eq_self (Text.hasSolidEnds_of_forall name.isBlank_of_mem)
  not_mem := by
    intro c hc
    simp only [List.mem_cons, List.not_mem_nil, or_false] at hc
    rcases hc with rfl | rfl | rfl | rfl | rfl <;> exact name.not_mem (by decide) (by decide)

end OptionName

/-- An option with a value between double quotes. -/
structure GivenOption where
  name : OptionName
  value : Literal

namespace GivenOption

variable (option : GivenOption)

def text : List Char := option.name.text ++ ':' :: option.value.text

def applyTo (context : Context) (option : GivenOption) : Except FormulaError Context :=
  context.applyOption (String.ofList option.name.text) (some (String.ofList option.value.content))

def marks : MarkedText :=
  option.name.text.map (·, ⟨0, false⟩) ++ (':', ⟨0, false⟩) :: option.value.text.map (·, ⟨0, true⟩)

theorem text_marks : option.marks.text = option.text := by
  rw [marks, text_append, text_cons, text_map_mark, text_map_mark, text]

theorem quiet_marks : Quiet option.marks := by
  have hname := quiet_plain option.name.isQuiet
  have hcolon := @quiet_char ':' (by simp [IsQuiet])
  exact hname.append (hcolon.append (quiet_literal option.value))

theorem parseSetting_text : parseSetting option.text =
    .ok (String.ofList option.name.text, some (String.ofList option.value.content)) := by
  have hread := parseSetting_value option.name.isKey option.value Text.blanks_nil Text.blanks_nil
    Text.blanks_nil Text.blanks_nil
  rw [text]
  simpa using hread

end GivenOption

/-! ## The text -/

def parenthesized (text : String) : String := String.ofList ('(' :: (text.toList ++ [')']))

def overlaid (text : String) (options : List GivenOption) : String :=
  String.ofList ((parenthesized text).toList ++ options.flatMap fun option => '#' :: option.text)

section Text

variable {text : String} {marked : MarkedText} {options : List GivenOption}

theorem toList_overlaid (hne : options ≠ []) :
    (overlaid text options).toList = (parenthesized text).toList ++
      '#' :: (join '#' (options.map GivenOption.marks)).text := by
  rw [overlaid, String.toList_ofList, text_join, List.map_map]
  congr 1
  induction options with
  | nil => exact absurd rfl hne
  | cons option rest ih =>
    cases rest with
    | nil => simp [GivenOption.text_marks]
    | cons next rest =>
      rw [List.flatMap_cons, ih (List.cons_ne_nil _ _)]
      simp [GivenOption.text_marks, List.intercalate_cons_cons]

theorem quiet_options (options : List GivenOption) :
    ∀ part ∈ options.map GivenOption.marks, Quiet part := by
  intro part hp
  obtain ⟨option, -, rfl⟩ := List.mem_map.1 hp
  exact option.quiet_marks

theorem marks_options (options : List GivenOption) :
    Marks 0 false (join '#' (options.map GivenOption.marks)) 0 false :=
  marks_join (by simp [IsPlain]) fun part hp => (quiet_options options part hp).marks

theorem scan_parenthesized (hs : scan text.toList = .ok marked) :
    scan (parenthesized text).toList = .ok (callMarks [] marked []) := by
  obtain ⟨htext, hmarks⟩ := scan_eq_ok_iff.1 hs
  rw [scan_eq_ok_iff, text_callMarks, htext, parenthesized, String.toList_ofList]
  exact ⟨rfl, marks_callMarks (.nil 0 false) hmarks (.nil 0 false)⟩

theorem scan_overlaid (hs : scan text.toList = .ok marked) (hne : options ≠ []) :
    scan (overlaid text options).toList = .ok (callMarks [] marked [] ++
      ('#', ⟨0, false⟩) :: join '#' (options.map GivenOption.marks)) := by
  obtain ⟨htext, hmarks⟩ := scan_eq_ok_iff.1 (scan_parenthesized hs)
  rw [scan_eq_ok_iff, text_append, text_cons, htext, toList_overlaid hne]
  exact ⟨rfl, hmarks.append (.plain (by simp [IsPlain]) (marks_options options))⟩

theorem trim_overlaid (hne : options ≠ []) :
    Text.trim (overlaid text options).toList = (overlaid text options).toList := by
  have hlast : (overlaid text options).toList.getLast? = some '"' := by
    rcases List.eq_nil_or_concat options with rfl | ⟨front, option, rfl⟩
    · exact absurd rfl hne
    · have hvalue := option.value.getLast?_text
      simp [overlaid, GivenOption.text, List.getLast?_append, List.getLast?_cons, hvalue]
  have hfirst : (overlaid text options).toList.head? = some '(' := by
    simp [overlaid, parenthesized]
  exact Text.trim_eq_self (Text.hasSolidEnds_of_ends hfirst hlast (by decide) (by decide))

/-- The options are the outermost layer. -/
theorem layer_overlaid (hs : scan text.toList = .ok marked) (hne : options ≠ []) :
    Layer.of (Text.trim (overlaid text options).toList) = .overlay (parenthesized text).toList
      (join '#' (options.map GivenOption.marks)).text := by
  have hcalm : Calm (callMarks [] marked []) := calm_callMarks (by nofun) marked
  have hsplit : splitOperator (callMarks [] marked [] ++
      ('#', ⟨0, false⟩) :: join '#' (options.map GivenOption.marks)) = none := by
    rw [splitOperator, OperatorSplit.last?_append_eq_none_iff,
      OperatorSplit.last?_cons_eq_none_iff]
    exact ⟨hcalm.last? [], rfl, last?_join rfl (quiet_options options) _⟩
  have hscan := scan_overlaid hs hne
  rw [trim_overlaid hne, Layer.of_eq_overlay rfl hscan hsplit (hcalm.isTop (by simp)),
    text_of_scan (scan_parenthesized hs)]

theorem placeholders_group (marked : MarkedText) :
    (callMarks [] marked []).placeholders = marked.placeholders := by
  have hnil : Text.Blanks (text []) := Text.blanks_nil
  rw [placeholders_callMarks hnil, placeholders_opening hnil, Nat.zero_add]

theorem countPlaceholders_parenthesized (hs : scan text.toList = .ok marked) :
    countPlaceholders (parenthesized text).toList = .ok marked.placeholders := by
  rw [countPlaceholders_of_scan (scan_parenthesized hs), placeholders_group]

theorem countPlaceholders_overlaid (hs : scan text.toList = .ok marked) (hne : options ≠ []) :
    countPlaceholders (overlaid text options).toList = .ok marked.placeholders := by
  have hinert : ∀ entry ∈ join '#' (options.map GivenOption.marks), Inert entry :=
    forall_mem_join (fun part hp => (quiet_options options part hp).inert) (inert_of_ne (by simp))
  rw [countPlaceholders_of_scan (scan_overlaid hs hne), placeholders_append rfl,
    placeholders_cons_of_inert (inert_of_ne (by simp)), placeholders_of_inert hinert, Nat.add_zero,
    placeholders_group]

theorem parseSettings_options (hne : options ≠ []) :
    parseSettings (join '#' (options.map GivenOption.marks)).text =
      .ok (options.map fun option =>
        (String.ofList option.name.text, some (String.ofList option.value.content))) := by
  refine parseSettings_join (by simpa using hne)
    (fun part hp => (quiet_options options part hp).uncut) ?_
  rw [List.map_map]
  refine List.forall₂_map_left_iff.2 (List.forall₂_map_right_iff.2 (List.forall₂_same.2 ?_))
  intro option _
  rw [Function.comp_apply, option.text_marks]
  exact option.parseSetting_text

end Text

/-! ## Evaluation -/

namespace Visit

variable {interpreter : Interpreter} {visit : Visit} {head settings : List Char}
  {parsed : List Setting} {e : FormulaError}

theorem not_calls_of_overlay (hl : visit.layer = .overlay head settings)
    (hparsed : parseSettings settings = .ok parsed)
    (he : visit.context.applySettings parsed = .error e) (visit' : Visit) :
    ¬ Calls interpreter visit visit' := by
  intro h
  cases h with
  | left hlayer | right hlayer | group hlayer =>
    rw [hl] at hlayer
    cases hlayer
  | argument hr =>
    obtain ⟨application, hlayer⟩ := hr.exists_layer
    rw [hl] at hlayer
    cases hlayer
  | head hlayer hparsed' happlied =>
    rw [hl] at hlayer
    cases hlayer
    rw [hparsed] at hparsed'
    cases hparsed'
    rw [he] at happlied
    cases happlied

theorem not_asks_of_overlay (hl : visit.layer = .overlay head settings) (id series : String) :
    ¬ Asks interpreter visit id series := by
  intro h
  cases h with
  | reference hlayer | call hlayer =>
    rw [hl] at hlayer
    cases hlayer

end Visit

theorem allBlank_parenthesized (text : String) :
    Text.allBlank (parenthesized text).toList = false := by
  rw [parenthesized, String.toList_ofList]
  rfl

theorem allBlank_overlaid (text : String) (options : List GivenOption) :
    Text.allBlank (overlaid text options).toList = false := by
  rw [overlaid, parenthesized, String.toList_ofList, String.toList_ofList]
  rfl

theorem applySettings_options (options : List GivenOption) (context : Context) :
    context.applySettings (options.map fun option =>
        (String.ofList option.name.text, some (String.ofList option.value.content))) =
      options.foldlM GivenOption.applyTo context := by
  rw [Context.applySettings, List.foldlM_map]
  rfl

theorem options_eq_error {options : List GivenOption} {context : Context} {e : FormulaError}
    (h : options.foldlM GivenOption.applyTo context = .error e) : ∃ key fault, e = .option key fault := by
  obtain ⟨inner, option, -, h⟩ := foldlM_eq_error h
  exact ⟨_, Context.applyOption_eq_error h⟩

/-- Written options act as options that are applied to the context one after another. If one of them
is refused, the evaluation fails with its error, comes to no other text and asks no source; the texts
it could come to are those of `Visit.Scans.evalExpr_eq`. -/
theorem Interpreter.evaluate_overlaid (interpreter : Interpreter) {text : String}
    {options : List GivenOption} (hne : options ≠ []) (context : Context) {tables : List Table}
    (hcount : countPlaceholders text.toList = .ok tables.length) :
    (∀ inner, options.foldlM GivenOption.applyTo context = .ok inner →
      interpreter.evaluate (overlaid text options) context tables =
        interpreter.evaluate (parenthesized text) inner tables) ∧
    ∀ e, options.foldlM GivenOption.applyTo context = .error e →
      interpreter.evaluate (overlaid text options) context tables = .error e ∧
      (∃ key fault, e = .option key fault) ∧
      (∀ visit, ¬ Visit.Calls interpreter
        (Visit.ofFormula (overlaid text options) context tables) visit) ∧
      ∀ id series, ¬ Visit.Asks interpreter
        (Visit.ofFormula (overlaid text options) context tables) id series := by
  obtain ⟨marked, hs, hplaceholders⟩ := map_eq_ok.1 hcount
  have hlayer := layer_overlaid hs hne
  have hvisit : (Visit.ofFormula (overlaid text options) context tables).layer =
      .overlay (parenthesized text).toList (join '#' (options.map GivenOption.marks)).text := by
    dsimp only [Visit.layer, Visit.ofFormula]
    rw [hlayer]
  have hparsed := parseSettings_options hne
  have hinner := countPlaceholders_parenthesized hs
  have houter := countPlaceholders_overlaid hs hne
  rw [hplaceholders] at hinner houter
  -- All tables belong to the expression, since the options have no placeholder.
  have htake : (Supply.take ⟨tables, 0⟩ tables.length) = ⟨tables, 0⟩ := by
    rw [Supply.take, List.take_length]
  have heval : interpreter.evaluate (overlaid text options) context tables = (do
      let inner ← options.foldlM GivenOption.applyTo context
      interpreter.evalExpr inner ⟨tables, 0⟩ (Expr.parse (parenthesized text).toList)) := by
    rw [evaluate_eq interpreter context (allBlank_overlaid text options) houter,
      Expr.parse_eq_overlay hlayer hinner, hparsed, Expr.withSettings, evalExpr,
      applySettings_options, htake]
  refine ⟨fun inner hfold => ?_, fun e hfold => ⟨?_, options_eq_error hfold, ?_, ?_⟩⟩
  · rw [heval, hfold, evaluate_eq interpreter inner (allBlank_parenthesized text) hinner]
    rfl
  · rw [heval, hfold]
    rfl
  · exact Visit.not_calls_of_overlay hvisit hparsed
      ((applySettings_options options context).trans hfold)
  · exact Visit.not_asks_of_overlay hvisit

/-- An option without a field, whose value is full of delimiters. -/
def memoOption : GivenOption :=
  ⟨⟨'m', "emo_1".toList, by decide, List.all_eq_true.1 (by decide)⟩,
    ⟨"a#b: (%d)+1, ".toList, by decide⟩⟩

def switchOption : GivenOption :=
  ⟨⟨'N', "aN".toList, by decide, List.all_eq_true.1 (by decide)⟩, ⟨"yes".toList, by decide⟩⟩

def startOption : GivenOption :=
  ⟨⟨'s', "tart".toList, by decide, List.all_eq_true.1 (by decide)⟩, ⟨"soon".toList, by decide⟩⟩

/-- The delimiters in the value are invisible, and so is the placeholder. -/
theorem Interpreter.evaluate_overlaid_memo :
    overlaid "LAG(%d)" [memoOption, switchOption] =
      "(LAG(%d))#memo_1:\"a#b: (%d)+1, \"#NaN:\"yes\"" ∧
    (∃ inner, [memoOption, switchOption].foldlM GivenOption.applyTo .default = .ok inner ∧
      inner.fillMissing = true ∧ inner.override? "MEMO_1" = some "a#b: (%d)+1," ∧
      evaluate ⟨.standard, .holding "GDP" (monthly none none)⟩
          (overlaid "LAG(%d)" [memoOption, switchOption]) .default [monthly none none] =
        evaluate ⟨.standard, .holding "GDP" (monthly none none)⟩
          (parenthesized "LAG(%d)") inner [monthly none none]) ∧
    ∃ fault, evaluate ⟨.standard, .holding "GDP" (monthly none none)⟩
        (overlaid "LAG(%d)" [memoOption, startOption]) .default [monthly none none] =
      .error (.option "start" fault) := by
  have hcount : countPlaceholders "LAG(%d)".toList = .ok [monthly none none].length := rfl
  have hfold : ([memoOption, switchOption].foldlM GivenOption.applyTo .default).toOption.map
      (fun inner => (inner.fillMissing, inner.override? "MEMO_1")) =
        some (true, some "a#b: (%d)+1,") := by
    decide +kernel
  obtain ⟨inner, hinner, hsettings⟩ := Option.map_eq_some_iff.1 hfold
  obtain ⟨hswitch, hmemo⟩ := Prod.mk.inj hsettings
  have hrefused : ∃ fault, [memoOption, startOption].foldlM GivenOption.applyTo .default =
      .error (.option "start" fault) := ⟨_, rfl⟩
  obtain ⟨fault, hfault⟩ := hrefused
  have happlied := evaluate_overlaid ⟨.standard, .holding "GDP" (monthly none none)⟩
    (List.cons_ne_nil memoOption [switchOption]) .default hcount
  have hfailed := evaluate_overlaid ⟨.standard, .holding "GDP" (monthly none none)⟩
    (List.cons_ne_nil memoOption [startOption]) .default hcount
  refine ⟨by decide +kernel, ⟨inner, ?_, hswitch, hmemo, ?_⟩, fault, (hfailed.2 _ hfault).1⟩
  · exact eq_ok_of_toOption hinner
  · exact happlied.1 inner (eq_ok_of_toOption hinner)

end TimeSeries
