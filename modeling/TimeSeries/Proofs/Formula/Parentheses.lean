import TimeSeries.Proofs.Formula.Overlay
import TimeSeries.Proofs.Formula.Reading

set_option autoImplicit false

/-!
# Parentheses around a formula

A formula that no comma divides evaluates the same with parentheses around it, however many there
are and whatever blanks stand between them. Parentheses lift every character of the formula off the
top level, so that one group is all that is found there, and a group is read as what it encloses.
-/
namespace TimeSeries

open MarkedText

/-- The texts that parentheses and blanks around a formula make. -/
inductive Enclosed (formula : String) : String → Prop
  | bare : Enclosed formula formula
  | parentheses {text : String} : Enclosed formula text → Enclosed formula (parenthesized text)
  | blanks {text : String} {before after : List Char} : Text.Blanks before → Text.Blanks after →
      Enclosed formula text → Enclosed formula (String.ofList (before ++ text.toList ++ after))

/-- The marks of a text that can only be one expression. -/
structure Undivided (marked : MarkedText) : Prop where
  marks : Marks 0 false marked 0 false
  not_blanks : ¬ Text.Blanks marked.text
  noComma : ∀ entry ∈ marked, isTop ',' entry = false

namespace Undivided

variable {marked : MarkedText}

theorem parentheses (h : Undivided marked) : Undivided (callMarks [] marked []) := by
  have hcalm : Calm (callMarks [] marked []) := calm_callMarks (by nofun) marked
  have hmarks := marks_callMarks (.nil 0 false) h.marks (.nil 0 false)
  refine ⟨hmarks, fun hblanks => ?_, hcalm.isTop (by simp)⟩
  have hopening : Text.isBlank '(' = true := hblanks '(' (by simp [text_callMarks])
  exact absurd hopening (by decide)

theorem between {pre post : MarkedText} (h : Undivided marked) (hpre : Text.Blanks pre.text)
    (hpost : Text.Blanks post.text) (hm : Marks 0 false (pre ++ marked ++ post) 0 false) :
    Undivided (pre ++ marked ++ post) := by
  refine ⟨hm, fun hblanks => h.not_blanks fun c hc => hblanks c ?_, fun entry he => ?_⟩
  · rw [text_append, text_append]
    exact List.mem_append_left _ (List.mem_append_right _ hc)
  · simp only [List.mem_append] at he
    rcases he with (he | he) | he
    · exact isTop_of_not_mem (hpre.not_mem (by decide)) entry he
    · exact h.noComma entry he
    · exact isTop_of_not_mem (hpost.not_mem (by decide)) entry he

/-- What can be told of an enclosed text: it scans to one expression with the placeholders of the
formula, and is read as the formula. -/
theorem enclosed {formula text : String} (hs : scan formula.toList = .ok marked)
    (h : Undivided marked) (he : Enclosed formula text) :
    ∃ whole, scan text.toList = .ok whole ∧ Undivided whole ∧
      whole.placeholders = marked.placeholders ∧
      Expr.parse text.toList = Expr.parse formula.toList := by
  induction he with
  | bare => exact ⟨marked, hs, h, rfl, rfl⟩
  | parentheses _ ih =>
    obtain ⟨inner, hinner, hone, hcount, hparse⟩ := ih
    have hgroup := Term.parse_parentheses hone.marks hone.not_blanks hone.noComma
    refine ⟨_, scan_parenthesized hinner, hone.parentheses, ?_, ?_⟩
    · rw [placeholders_group, hcount]
    · rw [parenthesized, String.toList_ofList, ← hparse, ← text_of_scan hinner, hgroup]
  | blanks hbefore hafter _ ih =>
    obtain ⟨inner, hinner, hone, hcount, hparse⟩ := ih
    obtain ⟨pre, post, rfl, rfl, hwhole⟩ := scan_between hbefore hafter hinner
    have hundivided := hone.between hbefore hafter (scan_eq_ok_iff.1 hwhole).2
    rw [String.toList_ofList]
    refine ⟨_, hwhole, hundivided, ?_, ?_⟩
    · rw [placeholders_between hbefore hafter, hcount]
    · rw [Expr.parse_between hbefore hafter, hparse]

end Undivided

namespace Interpreter

/-- Texts that count the same placeholders and are read the same cannot be told apart. -/
theorem evaluate_congr (interpreter : Interpreter) {a b : String}
    (hblank : Text.allBlank a.toList = Text.allBlank b.toList)
    (hcount : countPlaceholders a.toList = countPlaceholders b.toList)
    (hparse : Expr.parse a.toList = Expr.parse b.toList) (context : Context)
    (tables : List Table) :
    interpreter.evaluate a context tables = interpreter.evaluate b context tables := by
  unfold evaluate
  simp only [hblank, hcount, hparse]

/-- Parentheses around a formula are transparent. -/
theorem evaluate_enclosed (interpreter : Interpreter) {formula text : String}
    {marked : MarkedText} (hs : scan formula.toList = .ok marked)
    (hsolid : Text.allBlank formula.toList = false)
    (hcomma : ∀ entry ∈ marked, isTop ',' entry = false) (he : Enclosed formula text)
    (context : Context) (tables : List Table) :
    interpreter.evaluate text context tables = interpreter.evaluate formula context tables := by
  have solid_iff {source : String} {scanned : MarkedText} (h : scan source.toList = .ok scanned) :
      Text.allBlank source.toList = false ↔ ¬ Text.Blanks scanned.text := by
    rw [text_of_scan h, ← Text.allBlank_iff, Bool.not_eq_true]
  have hone : Undivided marked := ⟨(scan_eq_ok_iff.1 hs).2, (solid_iff hs).1 hsolid, hcomma⟩
  obtain ⟨whole, hwhole, hundivided, hcount, hparse⟩ := hone.enclosed hs he
  apply evaluate_congr
  · rw [hsolid, (solid_iff hwhole).2 hundivided.not_blanks]
  · rw [countPlaceholders_of_scan hwhole, countPlaceholders_of_scan hs, hcount]
  · exact hparse

/-- Options, an operator, a placeholder and a quoted delimiter between parentheses and blanks. -/
theorem evaluate_enclosed_difference :
    Enclosed "GDP #memo: \"a, (\" - %d" " ( (GDP #memo: \"a, (\" - %d) )" ∧
    ∃ marked, scan "GDP #memo: \"a, (\" - %d".toList = .ok marked ∧
      (∀ entry ∈ marked, isTop ',' entry = false) ∧
      evaluate ⟨.standard, .holding "GDP" (monthly none none)⟩
          " ( (GDP #memo: \"a, (\" - %d) )" .default [monthly none none] =
        evaluate ⟨.standard, .holding "GDP" (monthly none none)⟩
          "GDP #memo: \"a, (\" - %d" .default [monthly none none] ∧
      (evaluate ⟨.standard, .holding "GDP" (monthly none none)⟩
          "GDP #memo: \"a, (\" - %d" .default [monthly none none]).toOption.isSome = true := by
  have henclosed : Enclosed "GDP #memo: \"a, (\" - %d" " ( (GDP #memo: \"a, (\" - %d) )" :=
    .blanks Text.blanks_space Text.blanks_nil
      (.parentheses (.blanks Text.blanks_space Text.blanks_space (.parentheses .bare)))
  have hscan : ∃ marked, scan "GDP #memo: \"a, (\" - %d".toList = .ok marked ∧
      ∀ entry ∈ marked, isTop ',' entry = false := ⟨_, rfl, by decide⟩
  obtain ⟨marked, hs, hcomma⟩ := hscan
  exact ⟨henclosed, marked, hs, hcomma,
    evaluate_enclosed _ hs (by decide) hcomma henclosed .default _, by decide +kernel⟩

end Interpreter

end TimeSeries
