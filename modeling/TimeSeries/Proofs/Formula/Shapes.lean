import TimeSeries.Proofs.Formula.Pieces
import TimeSeries.Proofs.Formula.Terms
import TimeSeries.Proofs.Formula.WholeCharacters

set_option autoImplicit false

/-!
# Shapes of written terms

What the scanner makes of a written term: it ends an operand, it splits only if it is an operation,
the delimiters on its top level are those of its options, and characters outside ASCII stand inside
its quotes.
-/
namespace TimeSeries.Term

open MarkedText OperatorSplit

/-- What the marks of a written term have to do with the term. -/
structure Shape (term : Term) (marked : MarkedText) : Prop where
  marks : Marks 0 false marked 0 false
  narrow : marked.Narrow
  placeholders : marked.placeholders = term.tableCount
  ends : EndsOperand marked.text
  unsplit : term.isOperation = false → ∀ before, Fresh before → last? before marked = none
  noComma : ∀ entry ∈ marked, isTop ',' entry = false
  noHash : term.isOperation = false → term.isOverlay = false →
    ∀ entry ∈ marked, isTop '#' entry = false

theorem narrow_word (word : Word) : Narrow (word.text.map (·, ⟨0, false⟩)) :=
  narrow_plain (fun c hc => Text.isAscii_of_isAlphanum (word.isAlphanum c hc)) _

theorem narrow_spaces {text : List Char} (h : Text.Spaces text) :
    Narrow (text.map (·, ⟨0, false⟩)) := by
  refine narrow_plain (fun c hc => ?_) _
  rw [h c hc]
  decide

section Shapes

variable {term : Term} {marked : MarkedText}

theorem shape_of_calm (hm : Marks 0 false marked 0 false) (hnarrow : marked.Narrow)
    (hcalm : Calm marked) (hcount : marked.placeholders = term.tableCount) (hends : EndsOperand marked.text) :
    Shape term marked where
  marks := hm
  narrow := hnarrow
  placeholders := hcount
  ends := hends
  unsplit := fun _ before _ => hcalm.last? before
  noComma := hcalm.isTop (by simp)
  noHash := fun _ _ => hcalm.isTop (by simp)

theorem shape_of_quiet (h : Quiet marked) (hnarrow : marked.Narrow) (hcount : term.tableCount = 0)
    (hends : EndsOperand marked.text) : Shape term marked :=
  shape_of_calm h.marks hnarrow h.calm ((placeholders_of_inert h.inert).trans hcount.symm) hends

theorem shape_literal (quoted : Literal) :
    Shape (.literal quoted) (quoted.text.map (·, ⟨0, true⟩)) := by
  refine shape_of_quiet (quiet_literal quoted) (narrow_quoted _ 0) rfl ?_
  rw [text_map_mark]
  exact endsOperand_literal quoted

theorem shape_reference (name : Word) (source : Option Word) {front : MarkedText}
    (hfront : Quiet front) (hnarrow : front.Narrow) (hfresh : Fresh front.text.reverse) (last : Word) :
    Shape (.reference name source) (front ++ last.text.map (·, ⟨0, false⟩)) := by
  refine shape_of_quiet (hfront.append (quiet_word last)) (hnarrow.append (narrow_word last)) rfl ?_
  rw [text_append, text_map_mark]
  exact (endsOperand_word last).append_left hfresh

theorem shape_table : Shape .table [('%', ⟨0, false⟩), ('d', ⟨0, false⟩)] := by
  refine shape_of_calm ?_ ?_ ?_ rfl ?_
  · exact .plain (by simp [IsPlain]) (.plain (by simp [IsPlain]) (.nil 0 false))
  · exact @narrow_plain ['%', 'd'] (by simp) ⟨0, false⟩
  · intro entry he htop
    simp only [List.mem_cons, List.not_mem_nil, or_false] at he
    rcases he with rfl | rfl <;> decide
  · exact @endsOperand_of_getLast _ 'd' rfl (by decide) (by decide) (by decide)

theorem shape_numeral (numeral : Numeral) :
    Shape (.number numeral) (numeral.text.map (·, ⟨0, false⟩)) := by
  have hascii : ∀ c ∈ ['.', '+', '-', 'e', 'E'], c.toNat < 128 := by simp
  have hothers : ∀ c ∈ ['.', '+', '-', 'e', 'E'], c ∉ ['"', '(', ')', '%', ',', '#'] := by simp
  have hmem : ∀ c ∈ numeral.text, ∀ d ∈ ['"', '(', ')', '%', ',', '#'], c ≠ d := by
    intro c hc d hd heq
    subst heq
    rcases numeral.mem_text hc with hdigit | hother
    · exact Text.not_mem_of_isAlphanum (Text.isAlphanum_of_isDigit hdigit) (by decide) hd
    · exact hothers c hother hd
  have htop : ∀ d ∈ [',', '#'], ∀ entry ∈ numeral.text.map (·, ⟨0, false⟩),
      isTop d entry = false := by
    intro d hd
    apply isTop_of_not_mem
    rw [text_map_mark]
    exact fun hc => hmem d hc d (List.mem_append_right ['"', '(', ')', '%'] hd) rfl
  refine ⟨Marks.of_plain 0 fun c hc => ?_, narrow_plain (fun c hc => ?_) _,
    placeholders_of_inert fun entry he => ?_, ?_, fun _ before hf => last?_numeral numeral hf, htop ',' (by simp), fun _ _ => htop '#' (by simp)⟩
  · exact ⟨hmem c hc '"' (by simp), hmem c hc '(' (by simp), hmem c hc ')' (by simp)⟩
  · rcases numeral.mem_text hc with hdigit | hother
    · exact Text.isAscii_of_isAlphanum (Text.isAlphanum_of_isDigit hdigit)
    · exact hascii c hother
  · obtain ⟨c, hc, rfl⟩ := List.mem_map.1 he
    exact inert_of_ne (hmem c hc '%' (by simp))
  · rw [text_map_mark]
    exact endsOperand_numeral numeral

theorem shape_callMarks {front inner : MarkedText} (hfront : Quiet front)
    (hnarrow : front.Narrow ∧ inner.Narrow) (hinner : Marks 0 false inner 0 false)
    (hcount : inner.placeholders = term.tableCount) :
    Shape term (callMarks front inner []) := by
  have hclose : (callMarks front inner []).text.getLast? = some ')' := by
    have htext : (callMarks front inner []).text =
        (front.text ++ '(' :: inner.text) ++ [')'] := by simp [text_callMarks]
    rw [htext, List.getLast?_concat]
  have hafter : Text.Blanks (text []) := Text.blanks_nil
  have hinert : ∀ entry ∈ front ++ [('(', ⟨0, false⟩)], Inert entry := by
    intro entry he
    rcases List.mem_append.1 he with he | he
    · exact hfront.inert entry he
    · rw [List.mem_singleton.1 he]
      exact inert_of_ne (by simp)
  refine shape_of_calm ?_ ?_ (calm_callMarks hfront.calm inner) ?_ ?_
  · exact marks_callMarks hfront.marks hinner (.nil 0 false)
  · have hend : Narrow [(')', ⟨0, false⟩)] := narrow_cons (by decide) narrow_nil
    exact hnarrow.1.append (narrow_cons (by decide) ((hnarrow.2.raise 1).append hend))
  · rw [placeholders_callMarks hafter, placeholders_of_inert hinert, Nat.zero_add, hcount]
  · exact endsOperand_of_getLast hclose (by decide) (by decide) (by decide)

theorem shape_operation (op : Operator) {left right : Term} {a b : MarkedText}
    (ha : Shape left a) (hb : Shape right b) :
    Shape (.operation op left right) (a ++ (op.symbol, ⟨0, false⟩) :: b) := by
  refine ⟨?_, ?_, ?_, ?_, ?_, ?_, ?_⟩
  · exact ha.marks.append (.plain op.isPlain_symbol hb.marks)
  · exact ha.narrow.append (narrow_cons (by cases op <;> decide) hb.narrow)
  · rw [placeholders_operation, ha.placeholders, hb.placeholders, tableCount]
  · rw [text_append, text_cons]
    exact hb.ends.after_delimiter (by cases op <;> decide) a.text
  · intro h
    cases h
  · intro entry he
    rcases List.mem_append.1 he with he | he
    · exact ha.noComma entry he
    · rcases List.mem_cons.1 he with rfl | he
      · cases op <;> rfl
      · exact hb.noComma entry he
  · intro h
    cases h

theorem shape_spaced {before after : List Char} (h : Shape term marked)
    (hbefore : Text.Spaces before) (hafter : Text.Spaces after) :
    Shape term (before.map (·, ⟨0, false⟩) ++ marked ++ after.map (·, ⟨0, false⟩)) := by
  have hb := quiet_blanks hbefore.blanks
  have ha := quiet_blanks hafter.blanks
  have htop {delimiter : Char} (hd : delimiter ∈ [',', '#'])
      (hm : ∀ entry ∈ marked, isTop delimiter entry = false) :
      ∀ entry ∈ before.map (·, ⟨0, false⟩) ++ marked ++ after.map (·, ⟨0, false⟩),
        isTop delimiter entry = false := by
    have hd' := List.mem_append_right ['+', '-', '*', '/'] hd
    intro entry he
    rcases List.mem_append.1 he with he | he
    · rcases List.mem_append.1 he with he | he
      · exact hb.calm.isTop hd' entry he
      · exact hm entry he
    · exact ha.calm.isTop hd' entry he
  refine ⟨(hb.marks.append h.marks).append ha.marks,
    ((narrow_spaces hbefore).append h.narrow).append (narrow_spaces hafter), ?_, ?_,
    fun hop front hf => ?_, htop (by simp) h.noComma, fun hop hover => htop (by simp) (h.noHash hop hover)⟩
  · rw [placeholders_between, h.placeholders]
    · rw [text_map_mark]
      exact hbefore.blanks
    · rw [text_map_mark]
      exact hafter.blanks
  · rw [text_append, text_append, text_map_mark, text_map_mark]
    refine (h.ends.append_left ?_).append_blanks hafter.blanks
    simpa using fresh_of_blanks hbefore.blanks.reverse fresh_nil
  · rw [last?_append_eq_none_iff, last?_append_eq_none_iff]
    refine ⟨⟨hb.calm.last? front, h.unsplit hop _ ?_⟩, ha.calm.last? _⟩
    rw [text_map_mark]
    exact fresh_of_blanks hbefore.blanks.reverse hf

theorem shape_overlay {head : Term} {a : MarkedText} (settings : List (Word × Option Literal))
    {parts : List MarkedText} (ha : Shape head a) (hop : head.isOperation = false)
    (hne : parts ≠ []) (hquiet : ∀ part ∈ parts, Quiet part ∧ part.Narrow)
    (hends : ∀ part ∈ parts, EndsOperand part.text) :
    Shape (.overlay head settings) (a ++ ('#', ⟨0, false⟩) :: join '#' parts) := by
  have hmarks : Marks 0 false (join '#' parts) 0 false :=
    marks_join (by simp [IsPlain]) fun part hp => (hquiet part hp).1.marks
  have hnarrow : (join '#' parts).Narrow :=
    forall_mem_join (fun part hp => (hquiet part hp).2) fun _ => by decide
  have hinert : ∀ entry ∈ join '#' parts, Inert entry :=
    forall_mem_join (fun part hp => (hquiet part hp).1.inert) (inert_of_ne (by simp))
  have hcomma : ∀ entry ∈ join '#' parts, isTop ',' entry = false :=
    forall_mem_join (fun part hp => (hquiet part hp).1.calm.isTop (by simp)) rfl
  refine ⟨ha.marks.append (.plain (by simp [IsPlain]) hmarks),
    ha.narrow.append (narrow_cons (by decide) hnarrow), ?_, ?_, ?_, ?_, ?_⟩
  · rw [placeholders_append (by rfl), placeholders_cons_of_inert (inert_of_ne (by simp)),
      placeholders_of_inert hinert, ha.placeholders, tableCount, Nat.add_zero]
  · rw [text_append, text_cons]
    exact (endsOperand_join hne (by decide) hends).after_delimiter (by decide) a.text
  · intro _ before hf
    rw [last?_append_eq_none_iff, last?_cons_eq_none_iff]
    exact ⟨ha.unsplit hop before hf, rfl, last?_join rfl (fun part hp => (hquiet part hp).1) _⟩
  · intro entry he
    rcases List.mem_append.1 he with he | he
    · exact ha.noComma entry he
    · rcases List.mem_cons.1 he with rfl | he
      · rfl
      · exact hcomma entry he
  · intro _ h
    cases h

theorem WritesSetting.exists_quiet {setting : Word × Option Literal} {text : List Char}
    (h : WritesSetting setting text) :
    ∃ marked : MarkedText, marked.text = text ∧ (Quiet marked ∧ marked.Narrow) ∧
      EndsOperand text := by
  have hfresh {blanks : List Char} (hb : Text.Blanks blanks) : Fresh blanks.reverse := by
    simpa using fresh_of_blanks hb.reverse fresh_nil
  cases h with
  | @switch key before after hbefore hafter =>
    refine ⟨_, ?_, ⟨((quiet_blanks hbefore.blanks).append (quiet_word key)).append
      (quiet_blanks hafter.blanks), ?_⟩, ?_⟩
    · simp
    · exact ((narrow_spaces hbefore).append (narrow_word key)).append (narrow_spaces hafter)
    · exact ((endsOperand_word key).append_left (hfresh hbefore.blanks)).append_blanks hafter.blanks
  | @value key value before gap gap' after hbefore hgap hgap' hafter =>
    have hcolon : Quiet [(':', ⟨0, false⟩)] := quiet_char (by simp [IsQuiet])
    have hcolon' : Narrow [(':', ⟨0, false⟩)] := narrow_cons (by decide) narrow_nil
    refine ⟨_, ?_, ⟨((((quiet_blanks hbefore.blanks).append (quiet_word key)).append
      (quiet_blanks hgap.blanks)).append hcolon).append (((quiet_blanks hgap'.blanks).append
        (quiet_literal value)).append (quiet_blanks hafter.blanks)), ?_⟩, ?_⟩
    · simp
    · exact ((((narrow_spaces hbefore).append (narrow_word key)).append
        (narrow_spaces hgap)).append hcolon').append (((narrow_spaces hgap').append
          (narrow_quoted value.text 0)).append (narrow_spaces hafter))
    · have hvalue :=
        ((endsOperand_literal value).append_left (hfresh hgap'.blanks)).append_blanks hafter.blanks
      exact hvalue.after_delimiter (by decide) _

theorem exists_quiet_front (name : Word) {before after : List Char} (hbefore : Text.Spaces before)
    (hafter : Text.Spaces after) :
    ∃ front : MarkedText, front.text = name.text ++ before ++ '@' :: after ∧ Quiet front ∧
      front.Narrow ∧ Fresh front.text.reverse := by
  have hat : Quiet [('@', ⟨0, false⟩)] := quiet_char (by simp [IsQuiet])
  have hat' : Narrow [('@', ⟨0, false⟩)] := narrow_cons (by decide) narrow_nil
  refine ⟨_, ?_, (((quiet_word name).append (quiet_blanks hbefore.blanks)).append hat).append
    (quiet_blanks hafter.blanks), ?_, ?_⟩
  · simp
  · exact (((narrow_word name).append (narrow_spaces hbefore)).append hat').append
      (narrow_spaces hafter)
  · simp only [text_append, text_map_mark, List.reverse_append]
    exact fresh_of_blanks hafter.blanks.reverse (fresh_cons (by decide) _)

theorem exists_quiet_settings {settings : List ((Word × Option Literal) × List Char)}
    (h : ∀ setting ∈ settings, WritesSetting setting.1 setting.2) :
    ∃ parts : List MarkedText, parts.map MarkedText.text = settings.map Prod.snd ∧
      ∀ part ∈ parts, (Quiet part ∧ part.Narrow) ∧ EndsOperand part.text := by
  induction settings with
  | nil => exact ⟨[], rfl, by simp⟩
  | cons setting rest ih =>
    obtain ⟨parts, htexts, hparts⟩ := ih fun s hs => h s (List.mem_cons_of_mem setting hs)
    obtain ⟨marked, htext, hquiet, hends⟩ := (h setting List.mem_cons_self).exists_quiet
    refine ⟨marked :: parts, by simp [htext, htexts], fun part hp => ?_⟩
    rcases List.mem_cons.1 hp with rfl | hp
    · exact ⟨hquiet, htext ▸ hends⟩
    · exact hparts part hp

theorem exists_shape_arguments {arguments : List (Term × List Char)}
    (h : ∀ argument ∈ arguments, ∃ marked : MarkedText, marked.text = argument.2 ∧
      Shape argument.1 marked) :
    ∃ parts : List MarkedText, parts.map MarkedText.text = arguments.map Prod.snd ∧
      (∀ part ∈ parts, ∃ term, Shape term part) ∧
      (parts.map MarkedText.placeholders).sum = tableCounts (arguments.map Prod.fst) := by
  induction arguments with
  | nil => exact ⟨[], rfl, by simp, rfl⟩
  | cons argument rest ih =>
    obtain ⟨parts, htexts, hparts, hsum⟩ := ih fun a ha => h a (List.mem_cons_of_mem argument ha)
    obtain ⟨marked, htext, hshape⟩ := h argument List.mem_cons_self
    refine ⟨marked :: parts, by simp [htext, htexts], fun part hp => ?_, ?_⟩
    · rcases List.mem_cons.1 hp with rfl | hp
      · exact ⟨argument.1, hshape⟩
      · exact hparts part hp
    · rw [List.map_cons, List.sum_cons, hsum, hshape.placeholders, List.map_cons, tableCounts]

theorem Writes.exists_shape {text : List Char} (h : term.Writes text) :
    ∃ marked : MarkedText, marked.text = text ∧ Shape term marked := by
  induction h with
  | number numeral => exact ⟨_, text_map_mark _ _, shape_numeral numeral⟩
  | table => exact ⟨_, rfl, shape_table⟩
  | literal quoted => exact ⟨_, text_map_mark _ _, shape_literal quoted⟩
  | reference name =>
    refine ⟨_, ?_, shape_reference name none (quiet_blanks Text.blanks_nil) narrow_nil fresh_nil name⟩
    simp
  | @sourced name source before after hbefore hafter =>
    obtain ⟨front, htext, hfront, hnarrow, hfresh⟩ := exists_quiet_front name hbefore hafter
    refine ⟨_, ?_, shape_reference name (some source) hfront hnarrow hfresh source⟩
    rw [text_append, text_map_mark, htext]
    simp
  | @call name gap arguments hgap hne hwrites ih =>
    obtain ⟨parts, htexts, hparts, hsum⟩ := exists_shape_arguments ih
    have hfront := (quiet_word name).append (quiet_blanks hgap.blanks)
    have hmarks : Marks 0 false (join ',' parts) 0 false :=
      marks_join (by simp [IsPlain]) fun part hp => (hparts part hp).elim fun _ h => h.marks
    have hcount : (join ',' parts).placeholders = tableCounts (arguments.map Prod.fst) := by
      rw [placeholders_join (by rfl) (by decide), hsum]
    have hinner : (join ',' parts).Narrow :=
      forall_mem_join (fun part hp => (hparts part hp).elim fun _ h => h.narrow) fun _ => by decide
    have hnarrow := (narrow_word name).append (narrow_spaces hgap)
    refine ⟨_, ?_, shape_callMarks hfront ⟨hnarrow, hinner⟩ hmarks hcount⟩
    rw [text_callMarks, text_join, htexts]
    simp
  | @group inner text hwrites ih =>
    obtain ⟨marked, rfl, hshape⟩ := ih
    refine ⟨_, ?_, shape_callMarks (quiet_blanks Text.blanks_nil) ⟨narrow_nil, hshape.narrow⟩
      hshape.marks hshape.placeholders⟩
    simp [text_callMarks]
  | @operation op left right leftText rightText hleft hright hop ihl ihr =>
    obtain ⟨a, rfl, ha⟩ := ihl
    obtain ⟨b, rfl, hb⟩ := ihr
    refine ⟨_, ?_, shape_operation op ha hb⟩
    simp
  | @overlay head text settings hhead hop hover hne hsettings ih =>
    obtain ⟨a, rfl, ha⟩ := ih
    obtain ⟨parts, htexts, hparts⟩ := exists_quiet_settings hsettings
    have hne' : parts ≠ [] := ne_nil_of_map_eq htexts hne
    refine ⟨_, ?_, shape_overlay (settings.map Prod.fst) ha hop hne' (fun part hp => (hparts part hp).1)
      fun part hp => (hparts part hp).2⟩
    rw [text_append, text_cons, text_join, htexts]
  | @spaced term text before after hwrites hbefore hafter ih =>
    obtain ⟨marked, rfl, hshape⟩ := ih
    refine ⟨_, ?_, shape_spaced hshape hbefore hafter⟩
    simp

/-- No sign of a written term makes the program stop. Its parts are written terms too, so this holds
of every text that its evaluation splits. -/
theorem Writes.breaksOff {text : List Char} (h : term.Writes text) (hs : scan text = .ok marked) :
    breaksOff [] marked = false := by
  obtain ⟨shaped, htext, hshape⟩ := h.exists_shape
  rw [scan_eq_ok_iff.2 ⟨htext, hshape.marks⟩] at hs
  cases hs
  exact breaksOff_of_scan (scan_eq_ok_iff.2 ⟨htext, hshape.marks⟩) hshape.narrow

end Shapes

end TimeSeries.Term
