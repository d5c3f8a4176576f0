import TimeSeries.Proofs.Formula.Positions
import TimeSeries.Proofs.Formula.Safe
import TimeSeries.Proofs.Formula.Visits

set_option autoImplicit false

/-!
# Dealing out the supplied tables

With as many tables as the formula has placeholders, every visited text sees as many as it has
itself. The visited texts are those that the evaluator comes to, with the tables that it hands on
(`Visit.Scans.evalExpr_eq`). Tables are taken by number: when no placeholder is hidden in the name of a function, the
tables that a text sees are those of the placeholders from its place in the formula on, so that each
placeholder gets the table of its own number.
-/
namespace TimeSeries

theorem placeholdersOf_of_count {text : List Char} {n : Nat} (h : countPlaceholders text = .ok n) :
    placeholdersOf text = n := by
  rw [placeholdersOf, h]

namespace Visit

variable {interpreter : Interpreter} {visit visit' : Visit}

/-- The text sees as many tables as it has placeholders. -/
def HasTables (visit : Visit) : Prop :=
  countPlaceholders visit.text = .ok visit.supply.tables.length

/-- The tables that are left are cut behind the first so many of them. -/
inductive Requests (interpreter : Interpreter) (visit : Visit) : Supply → Nat → Prop
  | operands {split : OperatorSplit} {n : Nat} :
      visit.layer = .operation split → countPlaceholders split.left = .ok n →
      Requests interpreter visit visit.supply n
  | head {head settings : List Char} {parsed : List Setting} {inner : Context} {n : Nat} :
      visit.layer = .overlay head settings → parseSettings settings = .ok parsed →
      visit.context.applySettings parsed = .ok inner → countPlaceholders head = .ok n →
      Requests interpreter visit visit.supply n
  | argument {start n : Nat} {argument : List Char} {rest : List (List Char)} {supply : Supply}
      {results : List Evaluation} :
      Remaining interpreter visit start (argument :: rest) supply results →
      countPlaceholders argument = .ok n → Requests interpreter visit supply n

/-! ## Enough tables -/

section Enough

theorem HasTables.scans (h : visit.HasTables) : visit.Scans :=
  (map_eq_ok.1 h).imp fun _ hs => hs.1

theorem HasTables.counts (h : visit.HasTables) :
    visit.layer.Counts visit.supply.tables.length := by
  obtain ⟨marked, hs, hn⟩ := map_eq_ok.1 h
  rw [← hn]
  exact counts_trim hs

theorem hasTables_take {start n : Nat} {text : List Char} {context : Context} {supply : Supply}
    (hn : countPlaceholders text = .ok n) (hle : n ≤ supply.tables.length) :
    HasTables ⟨start, text, context, supply.take n⟩ := by
  rw [HasTables, Supply.take, List.length_take, Nat.min_eq_left hle]
  exact hn

/-- While arguments are left there are tables left for all their placeholders. -/
theorem Remaining.sum_le (h : visit.HasTables) {start : Nat} {arguments : List (List Char)}
    {supply : Supply} {results : List Evaluation}
    (hr : Remaining interpreter visit start arguments supply results) :
    (arguments.map placeholdersOf).sum ≤ supply.tables.length := by
  induction hr with
  | first hl =>
    have hcounts := h.counts
    rw [hl] at hcounts
    obtain ⟨parts, htexts, hscan, hsum⟩ := hcounts
    rwa [htexts, map_placeholdersOf hscan]
  | next _ hn _ ih =>
    rw [List.map_cons, List.sum_cons, placeholdersOf_of_count hn] at ih
    rw [Supply.drop, List.length_drop]
    omega

theorem Requests.le (h : visit.HasTables) {supply : Supply} {n : Nat}
    (hr : Requests interpreter visit supply n) : n ≤ supply.tables.length := by
  cases hr with
  | operands hl hn | head hl _ _ hn =>
    have hcounts := h.counts
    rw [hl] at hcounts
    obtain ⟨a, b, ha, hb, hsum⟩ := hcounts
    rw [countPlaceholders_of_scan ha] at hn
    cases hn
    omega
  | argument hr hn =>
    have hsum := hr.sum_le h
    rw [List.map_cons, List.sum_cons, placeholdersOf_of_count hn] at hsum
    omega

theorem HasTables.calls (h : visit.HasTables) (hcall : Calls interpreter visit visit') :
    visit'.HasTables := by
  cases hcall with
  | left hl hn =>
    have hr : Requests interpreter visit visit.supply _ := .operands hl hn
    exact hasTables_take hn (hr.le h)
  | @right split n result hl hn _ =>
    have hcounts := h.counts
    rw [hl] at hcounts
    obtain ⟨a, b, ha, hb, hsum⟩ := hcounts
    rw [countPlaceholders_of_scan ha] at hn
    cases hn
    rw [HasTables, countPlaceholders_of_scan hb, Supply.drop, List.length_drop, hsum,
      Nat.add_sub_cancel_left]
  | head hl hparse happly hn =>
    have hr : Requests interpreter visit visit.supply _ := .head hl hparse happly hn
    exact hasTables_take hn (hr.le h)
  | group hl =>
    have hcounts := h.counts
    rw [hl] at hcounts
    obtain ⟨a, ha, hsum⟩ := hcounts
    rw [HasTables, countPlaceholders_of_scan ha, hsum]
  | argument hr hn => exact hasTables_take hn (Requests.le h (.argument hr hn))

theorem Reaches.hasTables (h : visit.HasTables) (hreach : Reaches interpreter visit visit') :
    visit'.HasTables := by
  induction hreach with
  | refl => exact h
  | tail _ hcall ih => exact ih.calls hcall

end Enough

end Visit

/-! ## Which tables -/

theorem Supply.drop_zero (supply : Supply) : supply.drop 0 = supply := by
  simp [Supply.drop]

/-- A part of the formula sees the tables that have the numbers of its placeholders. -/
structure Deals (whole : MarkedText) (tables : List Table) (start : Nat) (part : MarkedText)
    (supply : Supply) : Prop where
  stands : whole.StandsAt start part
  slice : supply = .slice tables (whole.placeholdersBefore start) part.placeholders

namespace Deals

open MarkedText

variable {whole a b part front inner after : MarkedText} {tables : List Table} {start n : Nat}
  {supply : Supply}

theorem of_raise {levels : Nat} (h : Deals whole tables start (part.raise levels) supply) :
    Deals whole tables start part supply :=
  ⟨h.stands.of_raise, by rw [h.slice, placeholders_raise]⟩

theorem take (h : Deals whole tables start (a ++ b) supply) (hb : continuesName b = false) :
    Deals whole tables start a (supply.take a.placeholders) :=
  ⟨h.stands.left hb, by rw [h.slice, placeholders_append hb, Supply.take_slice]⟩

theorem keep (h : Deals whole tables start (a ++ b) supply) (hb : continuesName b = false)
    (hzero : b.placeholders = 0) : Deals whole tables start a supply :=
  ⟨h.stands.left hb, by rw [h.slice, placeholders_append hb, hzero, Nat.add_zero]⟩

section Cut

variable (htables : tables.length = whole.placeholders)

include htables

theorem drop (h : Deals whole tables start (a ++ b) supply)
    (hn : (a ++ b).placeholders = n + b.placeholders) :
    Deals whole tables (start + a.length) b (supply.drop n) := by
  have hbefore := h.stands.placeholdersBefore_right
  obtain ⟨rest, hall⟩ := h.stands.exists_placeholders
  refine ⟨h.stands.right, ?_⟩
  rw [h.slice, hn, Supply.drop_slice (by omega)]
  congr 1
  omega

theorem skip (h : Deals whole tables start (a ++ b) supply)
    (hn : (a ++ b).placeholders = b.placeholders) :
    Deals whole tables (start + a.length) b supply := by
  have hdrop := h.drop htables (n := 0) (by rw [hn, Nat.zero_add])
  rwa [Supply.drop_zero] at hdrop

theorem core {pre core post : MarkedText} (h : Deals whole tables start (pre ++ core ++ post) supply)
    (hpre : Text.Blanks pre.text) (hpost : Text.Blanks post.text) :
    Deals whole tables (start + pre.length) core supply :=
  (h.keep (continuesName_of_blanks hpost) (placeholders_of_inert (inert_of_blanks hpost))).skip
    htables (placeholders_append_of_inert (inert_of_blanks hpre) core)

theorem interior (h : Deals whole tables start (callMarks front inner after) supply)
    (hafter : Text.Blanks after.text)
    (hname : placeholders (front ++ [('(', ⟨0, false⟩)]) = 0) :
    Deals whole tables (start + front.length + 1) inner supply := by
  have hclose : continuesName ((')', ⟨0, false⟩) :: after) = false := rfl
  have hrest : placeholders ((')', ⟨0, false⟩) :: after) = 0 := by
    rw [placeholders_cons_of_inert (inert_of_ne (by simp)),
      placeholders_of_inert (inert_of_blanks hafter)]
  have hwhole := @placeholders_callMarks front inner _ hafter
  rw [hname, Nat.zero_add] at hwhole
  rw [callMarks, ← List.singleton_append, ← List.append_assoc] at h hwhole
  have hbehind := h.skip htables (by
    rw [hwhole, placeholders_append hclose, placeholders_raise, hrest, Nat.add_zero])
  have hlength : start + (front ++ [('(', (⟨0, false⟩ : Mark))]).length =
      start + front.length + 1 := by simp [Nat.add_assoc]
  rw [hlength] at hbehind
  exact (hbehind.keep hclose hrest).of_raise

end Cut

end Deals

/-- No function of the formula has a counted placeholder in its name. -/
def NamesUncounted (interpreter : Interpreter) (formula : List Char) : Prop :=
  ∀ piece application marked, ReadIn formula piece →
    Layer.of (Text.trim piece) = .call application →
    interpreter.functions.contains (String.ofList application.name) = true →
    scan (Text.trim piece) = .ok marked → marked.placeholdersBefore marked.opening = 0

theorem opening_callMarks {front inner after : MarkedText}
    (hfront : ∀ entry ∈ front, MarkedText.isTop '(' entry = false)
    (hafter : Text.Blanks after.text) :
    (callMarks front inner after).opening = front.length ∧
      (callMarks front inner after).placeholdersBefore front.length =
        MarkedText.placeholders (front ++ [('(', ⟨0, false⟩)]) := by
  refine ⟨?_, ?_⟩
  · rw [MarkedText.opening, callMarks, MarkedText.takeWhile_top rfl hfront]
  · have hadd := (callMarks front inner after).placeholdersBefore_add front.length
    have hclose : MarkedText.continuesName ((')', ⟨0, false⟩) :: after) = false := rfl
    rw [placeholders_callMarks hafter, callMarks, List.drop_left,
      MarkedText.placeholders_cons_of_inert (MarkedText.inert_of_ne (by simp)),
      MarkedText.placeholders_append hclose, MarkedText.placeholders_raise,
      MarkedText.placeholders_cons_of_inert (MarkedText.inert_of_ne (by simp)),
      MarkedText.placeholders_of_inert (MarkedText.inert_of_blanks hafter)] at hadd
    rw [callMarks]
    omega

theorem placeholdersBefore_group {core : MarkedText} {arguments : List (List Char)}
    (hm : Marks 0 false core 0 false) (hcall : splitCall core = .ok (some ⟨[], arguments⟩)) :
    core.placeholdersBefore core.opening = 0 := by
  obtain ⟨front, inner, after, rfl, hfront, -, -, hafter, hname, -⟩ := exists_of_splitCall hm hcall
  obtain ⟨hopening, hbefore⟩ := @opening_callMarks _ inner _ hfront hafter
  rw [hopening, hbefore]
  exact placeholders_opening (Text.blanks_of_trim_eq_nil hname.symm)

namespace Visit

variable {interpreter : Interpreter} {visit visit' : Visit} {whole : MarkedText}
  {tables : List Table} {formula : List Char}

/-- The text stands at its place in the formula and sees the tables of its placeholders. -/
def Dealt (whole : MarkedText) (tables : List Table) (visit : Visit) : Prop :=
  ∃ part, scan visit.text = .ok part ∧ Deals whole tables visit.start part visit.supply

theorem exists_operands {core : MarkedText} {split : OperatorSplit} {n : Nat}
    (hs : scan (Text.trim visit.text) = .ok core) (hl : visit.layer = .operation split)
    (hn : countPlaceholders split.left = .ok n) :
    ∃ (a b : MarkedText) (mark : Mark), core = a ++ (split.operator.symbol, mark) :: b ∧
      split.left = a.text ∧ scan split.left = .ok a ∧ scan split.right = .ok b ∧
      n = a.placeholders := by
  obtain ⟨other, hother, hsplit⟩ := found hl
  obtain rfl : core = other := Except.ok.inj (hs.symm.trans hother)
  obtain ⟨a, b, mark, rfl, -, -, hleft, hright, ha, hb, -⟩ :=
    OperatorSplit.exists_of_splitOperator hs hsplit
  rw [hleft, countPlaceholders_of_scan ha] at hn
  exact ⟨a, b, mark, rfl, hleft, hleft ▸ ha, hright ▸ hb, (Except.ok.inj hn).symm⟩

section Dealt

variable (htables : tables.length = whole.placeholders)

include htables

theorem Dealt.exists_core (h : Dealt whole tables visit) (hne : Text.trim visit.text ≠ []) :
    ∃ core, scan (Text.trim visit.text) = .ok core ∧
      Deals whole tables visit.inside core visit.supply := by
  obtain ⟨part, hs, hdeals⟩ := h
  obtain ⟨pre, core, post, rfl, hpre, hpost, hcore⟩ := scan_trim hs
  have hblanks : visit.text.takeWhile Text.isBlank = pre.text := by
    have hsolid := Text.hasSolidEnds_trim visit.text
    rw [← text_of_scan hs, MarkedText.text_append, MarkedText.text_append, text_of_scan hcore]
    exact Text.takeWhile_between hpre hne hsolid
  refine ⟨core, hcore, ?_⟩
  rw [inside, hblanks, MarkedText.length_text]
  exact hdeals.core htables hpre hpost

theorem exists_interior {core : MarkedText} {application : Call} {start : Nat} {supply : Supply}
    (hs : scan (Text.trim visit.text) = .ok core)
    (hcall : splitCall core = .ok (some application))
    (hdeals : Deals whole tables start core supply)
    (hname : core.placeholdersBefore core.opening = 0) :
    application.arguments = [] ∨ ∃ pieces : List MarkedText, pieces ≠ [] ∧
      application.arguments = pieces.map MarkedText.text ∧
      (∀ piece ∈ pieces, scan piece.text = .ok piece) ∧
      Deals whole tables (start + core.opening + 1) (MarkedText.join ',' pieces) supply := by
  obtain ⟨front, inner, after, rfl, hfront, -, hinner, hafter, -, hargs⟩ :=
    exists_of_splitCall (scan_eq_ok_iff.1 hs).2 hcall
  obtain ⟨hopening, hbefore⟩ := @opening_callMarks _ inner _ hfront hafter
  rw [hopening, hbefore] at hname
  obtain ⟨pieces, htexts, hpieces, hscan⟩ := exists_of_splitArguments_eq hinner hargs
  rw [hopening]
  by_cases hne : pieces = []
  · rw [hne] at htexts
    exact .inl htexts
  · rcases hpieces with ⟨hnil, -⟩ | rfl
    · exact absurd hnil hne
    · exact .inr ⟨pieces, hne, htexts, fun piece hp => (hscan piece hp).text_scans,
        hdeals.interior htables hafter hname⟩

theorem Remaining.deals (h : Dealt whole tables visit) (hnames : NamesUncounted interpreter formula)
    (hread : ReadIn formula visit.text) {start : Nat} {arguments : List (List Char)}
    {supply : Supply} {results : List Evaluation}
    (hr : Remaining interpreter visit start arguments supply results) :
    arguments = [] ∨ ∃ pieces : List MarkedText, pieces ≠ [] ∧
      arguments = pieces.map MarkedText.text ∧ (∀ piece ∈ pieces, scan piece.text = .ok piece) ∧
      Deals whole tables start (MarkedText.join ',' pieces) supply := by
  induction hr with
  | @first application marked hl hfunction hmarked =>
    obtain ⟨core, hcore, hdeals⟩ := h.exists_core htables (by
      intro hnil
      rw [layer, hnil] at hl
      cases hl)
    obtain rfl : core = marked := Except.ok.inj (hcore.symm.trans hmarked)
    obtain ⟨other, hother, hcall⟩ := found hl
    obtain rfl : core = other := Except.ok.inj (hcore.symm.trans hother)
    exact exists_interior htables hcore hcall hdeals
      (hnames visit.text application core hread hl hfunction hcore)
  | @next start n argument rest supply results result _ hn _ ih =>
    rcases ih with hnil | ⟨pieces, hne, htexts, hscan, hdeals⟩
    · cases hnil
    cases pieces with
    | nil => exact absurd rfl hne
    | cons piece others =>
      obtain ⟨rfl, rfl⟩ := List.cons.inj htexts
      rw [countPlaceholders_of_scan (hscan piece List.mem_cons_self)] at hn
      cases hn
      cases others with
      | nil => exact .inl rfl
      | cons next others =>
        refine .inr ⟨next :: others, by simp, rfl,
          fun p hp => hscan p (List.mem_cons_of_mem piece hp), ?_⟩
        rw [MarkedText.join_cons_cons, ← List.singleton_append, ← List.append_assoc] at hdeals
        have hdrop := hdeals.drop htables (n := piece.placeholders) (by
          rw [List.append_assoc, MarkedText.placeholders_append (by rfl), List.singleton_append,
            MarkedText.placeholders_cons_of_inert (MarkedText.inert_of_ne (by simp))])
        have hlength : start + (piece ++ [(',', (⟨0, false⟩ : Mark))]).length =
            start + piece.text.length + 1 := by
          rw [List.length_append, MarkedText.length_text, List.length_singleton, Nat.add_assoc]
        rwa [hlength] at hdrop

/-- Every step hands a part the tables of its own placeholders. -/
theorem Dealt.calls (h : Dealt whole tables visit) (hnames : NamesUncounted interpreter formula)
    (hread : ReadIn formula visit.text) (hcall : Calls interpreter visit visit') :
    Dealt whole tables visit' := by
  obtain ⟨core, hcore, hdeals⟩ := h.exists_core htables (by
    intro hnil
    have hlt := Layer.length_lt_of_mem_parts hcall.mem_parts
    rw [hnil] at hlt
    exact absurd hlt (Nat.not_lt_zero _))
  cases hcall with
  | left hl hn =>
    obtain ⟨a, b, mark, rfl, -, ha, -, rfl⟩ := exists_operands hcore hl hn
    exact ⟨a, ha, hdeals.take (MarkedText.continuesName_symbol _ _ _)⟩
  | right hl hn =>
    obtain ⟨a, b, mark, rfl, hleft, -, hb, rfl⟩ := exists_operands hcore hl hn
    refine ⟨b, hb, ?_⟩
    rw [← List.singleton_append, ← List.append_assoc] at hdeals
    have hdrop := hdeals.drop htables (n := a.placeholders) (by
      rw [List.append_assoc, List.singleton_append, MarkedText.placeholders_operation])
    rw [List.length_append, List.length_singleton, ← Nat.add_assoc] at hdrop
    rw [hleft, MarkedText.length_text]
    exact hdrop
  | head hl _ _ hn =>
    obtain ⟨a, b, mark, hother, htop, rfl, rfl⟩ := found hl
    obtain rfl : core = a ++ ('#', mark) :: b := Except.ok.inj (hcore.symm.trans hother)
    obtain ⟨ha, -⟩ := scan_cut (by simp [IsPlain]) htop hcore
    rw [countPlaceholders_of_scan ha] at hn
    cases hn
    exact ⟨a, ha, hdeals.take rfl⟩
  | @group content marked hl hmarked =>
    obtain ⟨other, hother, hcall⟩ := found hl
    obtain rfl : core = other := Except.ok.inj (hcore.symm.trans hother)
    obtain rfl : core = marked := Except.ok.inj (hcore.symm.trans hmarked)
    have hname := placeholdersBefore_group (scan_eq_ok_iff.1 hcore).2 hcall
    rcases exists_interior htables hcore hcall hdeals hname with hnil | ⟨pieces, -, htexts, hscan, hd⟩
    · cases hnil
    obtain ⟨piece, rfl, rfl⟩ := List.map_eq_singleton_iff.1 htexts.symm
    rw [MarkedText.join_singleton] at hd
    exact ⟨piece, hscan piece (List.mem_singleton_self piece), hd⟩
  | @argument start n argument rest supply results hr hn =>
    rcases hr.deals htables h hnames hread with hnil | ⟨pieces, hne, htexts, hscan, hdeals⟩
    · cases hnil
    cases pieces with
    | nil => exact absurd rfl hne
    | cons piece others =>
      obtain ⟨rfl, rfl⟩ := List.cons.inj htexts
      have hpiece := hscan piece List.mem_cons_self
      rw [countPlaceholders_of_scan hpiece] at hn
      cases hn
      refine ⟨piece, hpiece, ?_⟩
      cases others with
      | nil =>
        rw [MarkedText.join_singleton, ← List.append_nil piece] at hdeals
        exact hdeals.take rfl
      | cons next others =>
        rw [MarkedText.join_cons_cons] at hdeals
        exact hdeals.take rfl

theorem Reaches.dealt (h : Dealt whole tables visit) (hnames : NamesUncounted interpreter visit.text)
    (hreach : Reaches interpreter visit visit') : Dealt whole tables visit' := by
  induction hreach with
  | refl => exact h
  | tail hbefore hcall ih => exact ih.calls htables hnames (Reaches.readIn hbefore) hcall

end Dealt

theorem dealt_ofFormula {formula : String} {context : Context}
    (hs : scan formula.toList = .ok whole) (htables : tables.length = whole.placeholders) :
    Dealt whole tables (ofFormula formula context tables) := by
  refine ⟨whole, hs, .whole_self whole, ?_⟩
  rw [← htables]
  exact (Supply.slice_zero_length tables).symm

/-- A placeholder that is evaluated is one that is counted, and gets the table of its number. -/
theorem Dealt.value_table (htables : tables.length = whole.placeholders)
    (h : Dealt whole tables visit) (hl : visit.layer = .leaf ['%', 'd']) :
    MarkedText.beginsPlaceholder (whole.drop visit.inside) = true ∧
    ∃ table, tables[whole.placeholdersBefore visit.inside]? = some table ∧
      visit.value interpreter = .ok ⟨.series table,
        .leaf s!"input[{whole.placeholdersBefore visit.inside}]" none "input"⟩ := by
  obtain ⟨htext, -⟩ := found hl
  obtain ⟨core, hcore, hstands, hslice⟩ := h.exists_core htables (by rw [← htext]; simp)
  rw [← htext] at hcore
  obtain rfl : [('%', ⟨0, false⟩), ('d', ⟨0, false⟩)] = core := Except.ok.inj hcore
  obtain ⟨rest, hall⟩ := hstands.exists_placeholders
  have hlt : whole.placeholdersBefore visit.inside < tables.length := by
    rw [htables, hall]
    exact Nat.lt_of_lt_of_le (Nat.lt_succ_self _) (Nat.le_add_right _ rest)
  refine ⟨?_, tables[whole.placeholdersBefore visit.inside],
    List.getElem?_eq_getElem hlt, ?_⟩
  · obtain ⟨front, after, levels, rfl, hlength, hafter⟩ := hstands
    rw [← hlength, List.drop_left]
    simp [MarkedText.raise, MarkedText.beginsPlaceholder, hafter]
  · rw [value_leaf hl, Expr.ofLeaf, if_pos rfl, Interpreter.evalExpr, hslice, Interpreter.supplied,
      Supply.slice, List.drop_eq_getElem_cons hlt]
    rfl

end Visit

/-! ## The formula -/

/-- The transformation can end with this error. -/
def Transformation.Returns (transformation : Transformation) (e : FormulaError) : Prop :=
  ∃ context arguments, transformation.Runs context (.error e) arguments

theorem FunctionRegistry.call_ne_tableCount {registry : FunctionRegistry} {expected found : Nat}
    (h : ∀ function ∈ registry.definitions,
      ¬ function.transformation.Returns (.tableCount expected found))
    {name : String} {arguments : List Value} {context : Context} :
    registry.call name arguments context ≠ .error (.tableCount expected found) := by
  intro hcall
  rcases call_eq_error hcall with hrefusal | ⟨function, hmem, hinvoke⟩
  · cases hrefusal
  · rcases Function.invoke_eq_error hinvoke with hrefusal | hruns
    · cases hrefusal
    · exact h function hmem ⟨context, arguments, hruns⟩

theorem Visit.Fails.ne_tableCount {interpreter : Interpreter} {visit : Visit} {expected found : Nat}
    (hfunctions : ∀ function ∈ interpreter.functions.definitions,
      ¬ function.transformation.Returns (.tableCount expected found)) (h : visit.HasTables) :
    ¬ Fails interpreter visit (.tableCount expected found) := by
  intro hfails
  cases hfails with
  | refused hrefusal => cases hrefusal
  | supply hl hsupplied =>
    have hcounts := h.counts
    rw [hl] at hcounts
    obtain ⟨a, ha, hlength⟩ := hcounts
    obtain rfl : [('%', ⟨0, false⟩), ('d', ⟨0, false⟩)] = a := Except.ok.inj ha
    unfold Interpreter.supplied at hsupplied
    split at hsupplied
    · cases hsupplied
    · rename_i hnil
      rw [hnil] at hlength
      cases hlength
  | source hasks hfetch =>
    rcases SourceRegistry.fetch_eq_error hfetch with herror | ⟨source, cause, -, -, herror⟩
    · cases herror
    · cases herror
  | operator _ _ _ _ hcombine =>
    rcases combine_eq_error hcombine with hrefusal | ⟨cause, herror, -⟩
    · cases hrefusal
    · cases herror
  | function _ _ hcall => exact FunctionRegistry.call_ne_tableCount hfunctions hcall

/-- With as many tables as the formula has placeholders no visit is short of tables, no cut asks for
more than are left, and the number of tables is never at fault. When the names of functions have no
placeholders, each placeholder gets the table of its number in the formula. -/
theorem Interpreter.tables_suffice (interpreter : Interpreter)
    (hfunctions : ∀ function ∈ interpreter.functions.definitions, ∀ expected found,
      ¬ function.transformation.Returns (.tableCount expected found))
    {formula : String} {context : Context} {tables : List Table}
    (hcount : countPlaceholders formula.toList = .ok tables.length) :
    (∀ visit, Visit.Reaches interpreter (.ofFormula formula context tables) visit →
      countPlaceholders visit.text = .ok visit.supply.tables.length ∧
      ∀ supply n, Visit.Requests interpreter visit supply n → n ≤ supply.tables.length) ∧
    (∀ expected found,
      interpreter.evaluate formula context tables ≠ .error (.tableCount expected found)) ∧
    (NamesUncounted interpreter formula.toList → ∃ whole, scan formula.toList = .ok whole ∧
      ∀ visit, Visit.Reaches interpreter (.ofFormula formula context tables) visit →
        visit.layer = .leaf ['%', 'd'] →
        MarkedText.beginsPlaceholder (whole.drop visit.inside) = true ∧
        ∃ table, tables[whole.placeholdersBefore visit.inside]? = some table ∧
          visit.value interpreter = .ok ⟨.series table,
            .leaf s!"input[{whole.placeholdersBefore visit.inside}]" none "input"⟩) := by
  have hfirst : Visit.HasTables (.ofFormula formula context tables) := hcount
  refine ⟨?_, ?_, ?_⟩
  · intro visit hreach
    have htables := Visit.Reaches.hasTables hfirst hreach
    exact ⟨htables, fun supply n hr => hr.le htables⟩
  · intro expected found he
    rcases evaluate_eq_error he with hrefusal | ⟨other, hother, hne, -⟩ | ⟨hscans, he⟩
    · cases hrefusal
    · exact hne (Except.ok.inj (hother.symm.trans hcount))
    · obtain ⟨visit, hreach, -, hfails⟩ := hscans.exists_fails he
      exact Visit.Fails.ne_tableCount (fun function hmem => hfunctions function hmem expected found)
        (Visit.Reaches.hasTables hfirst hreach) hfails
  · intro hnames
    obtain ⟨whole, hs, hwhole⟩ := map_eq_ok.1 hcount
    refine ⟨whole, hs, fun visit hreach hl => ?_⟩
    have hdealt := @Visit.dealt_ofFormula _ _ _ context hs hwhole.symm
    exact (Visit.Reaches.dealt hwhole.symm hdealt hnames hreach).value_table hwhole.symm hl

section Moves

/-- An interpreter without sources that has the functions which move cells along the rows. -/
def moves : Interpreter := ⟨⟨byName shiftFunctions, byName []⟩, .empty⟩

theorem not_returns_moves {function : Function} (h : function ∈ moves.functions.definitions)
    (e : FormulaError) : ¬ function.transformation.Returns e := by
  have hmem : function ∈ shiftFunctions := by
    simpa using FunctionRegistry.drawnFrom_byName shiftFunctions [] function h
  rintro ⟨context, arguments, hruns⟩
  simp only [shiftFunctions, List.mem_cons, List.not_mem_nil, or_false] at hmem
  rcases hmem with rfl | rfl <;>
  · cases hruns with
    | seriesWithPeriods hrun => cases hrun

theorem namesUncounted_lag : NamesUncounted moves "LAG(%d, 1) - (%d)".toList := by
  intro piece application marked hread hl _ hmarked
  have hpieces : "LAG(%d, 1) - (%d)".toList ∈ ["LAG(%d, 1) - (%d)".toList, "LAG(%d, 1) ".toList,
    " (%d)".toList, "%d".toList, " 1".toList] := by decide
  have hmem := hread.mem_of_closed hpieces (by decide +kernel)
  simp only [List.mem_cons, List.not_mem_nil, or_false] at hmem
  rcases hmem with rfl | rfl | rfl | rfl | rfl
  · cases hl
  · cases hmarked
    rfl
  · cases hl
  · cases hl
  · cases hl

def lagTables : List Table := [⟨[], []⟩, ⟨[], [⟨"A", []⟩]⟩]

theorem Interpreter.tables_suffice_lag :
    (∀ function ∈ moves.functions.definitions, ∀ expected found,
      ¬ function.transformation.Returns (.tableCount expected found)) ∧
    countPlaceholders "LAG(%d, 1) - (%d)".toList = .ok lagTables.length ∧
    NamesUncounted moves "LAG(%d, 1) - (%d)".toList ∧
    (∀ expected found, moves.evaluate "LAG(%d, 1) - (%d)" .default lagTables ≠
      .error (.tableCount expected found)) ∧
    ∃ whole, scan "LAG(%d, 1) - (%d)".toList = .ok whole ∧
      ∀ visit, Visit.Reaches moves (.ofFormula "LAG(%d, 1) - (%d)" .default lagTables) visit →
        visit.layer = .leaf ['%', 'd'] →
        MarkedText.beginsPlaceholder (whole.drop visit.inside) = true ∧
        ∃ table, lagTables[whole.placeholdersBefore visit.inside]? = some table ∧
          visit.value moves = .ok ⟨.series table,
            .leaf s!"input[{whole.placeholdersBefore visit.inside}]" none "input"⟩ :=
  have hall := @moves.tables_suffice (fun _ hmem _ _ => not_returns_moves hmem _)
    "LAG(%d, 1) - (%d)" .default lagTables rfl
  ⟨fun _ hmem _ _ => not_returns_moves hmem _, rfl, namesUncounted_lag, hall.2.1,
    hall.2.2 namesUncounted_lag⟩

end Moves

end TimeSeries
