import TimeSeries.Proofs.Formula.Layers
import TimeSeries.Proofs.Formula.Leaves

set_option autoImplicit false

/-!
# Pieces of written terms

Which texts end an operand, which have nothing on their top level that cuts a text, and what becomes
of texts that are joined with delimiters.
-/
namespace TimeSeries

namespace OperatorSplit

/-- An operator behind the text has a left operand. -/
def EndsOperand (text : List Char) : Prop :=
  ∀ op : Operator, isBinary text.reverse op.symbol = true

variable {text : List Char}

theorem EndsOperand.not_blanks (h : EndsOperand text) : ¬ Text.Blanks text := by
  intro hb
  have hbinary := h .add
  rw [isBinary_of_blanks hb.reverse] at hbinary
  cases hbinary

theorem EndsOperand.isBinary (h : EndsOperand text) {before : List Char} (hf : Fresh before)
    (op : Operator) : OperatorSplit.isBinary (text.reverse ++ before) op.symbol = true := by
  have hblanks : ¬ Text.Blanks text.reverse := by
    intro hb
    refine h.not_blanks ?_
    simpa using hb.reverse
  rw [isBinary_append hblanks hf]
  exact h op

theorem EndsOperand.append_left (h : EndsOperand text) {front : List Char}
    (hf : Fresh front.reverse) : EndsOperand (front ++ text) := by
  intro op
  rw [List.reverse_append]
  exact h.isBinary hf op

theorem EndsOperand.append_blanks (h : EndsOperand text) {blanks : List Char}
    (hb : Text.Blanks blanks) : EndsOperand (text ++ blanks) := by
  intro op
  have hbinary := h op
  rw [List.reverse_append]
  unfold OperatorSplit.isBinary at hbinary ⊢
  rw [List.dropWhile_append_of_pos hb.reverse]
  cases hd : text.reverse.dropWhile Text.isBlank with
  | nil => simp [hd] at hbinary
  | cons previous rest =>
    simp only [hd, Bool.and_eq_true] at hbinary ⊢
    refine ⟨hbinary.1, ?_⟩
    cases hr : blanks.reverse with
    | nil => exact hbinary.2
    | cons c tail =>
      have hblank : Text.isBlank c = true := hb.reverse c (by simp [hr])
      have hletter : (c == 'e' || c == 'E') = false := by
        rw [Bool.or_eq_false_iff]
        constructor <;>
        · rw [beq_eq_false_iff_ne]
          rintro rfl
          exact absurd hblank (by decide)
      simp [isExponentSign, hletter]

theorem endsOperand_of_getLast {c : Char} (hlast : text.getLast? = some c)
    (hblank : Text.isBlank c = false) (hletter : c ≠ 'e' ∧ c ≠ 'E')
    (hprevious : c ∉ ['+', '-', '*', '/', '(', ',', '#', ':']) : EndsOperand text := by
  intro op
  cases hr : text.reverse with
  | nil =>
    rw [List.reverse_eq_nil_iff.1 hr] at hlast
    cases hlast
  | cons d rest =>
    obtain rfl : d = c := by
      rw [← List.head?_reverse, hr] at hlast
      exact Option.some.inj hlast
    rw [OperatorSplit.isBinary, List.dropWhile_cons_of_neg (by simp [hblank])]
    simpa [isExponentSign, hletter.1, hletter.2] using hprevious

theorem isExponentSign_word (word : Word) (c : Char) :
    isExponentSign word.text.reverse c = false := by
  rw [Word.text, List.reverse_cons]
  cases hr : word.others.reverse with
  | nil => simp [isExponentSign]
  | cons e mantissa =>
    have hfirst : isMantissa word.first = false := by
      have hdot : word.first ≠ '.' := by
        intro h
        have halpha := word.first_isAlpha
        rw [h] at halpha
        exact absurd halpha (by decide)
      simp [isMantissa, Text.isDigit_of_isAlpha word.first_isAlpha, hdot]
    cases hd : (mantissa ++ [word.first]).dropWhile isMantissa with
    | nil =>
      have hall := List.dropWhile_eq_nil_iff.1 hd word.first (by simp)
      rw [hfirst] at hall
      cases hall
    | cons d rest =>
      have hmem : d ∈ word.text := by
        have hsuffix := List.dropWhile_suffix isMantissa (l := mantissa ++ [word.first])
        rw [hd] at hsuffix
        have hd' := hsuffix.subset List.mem_cons_self
        rw [Word.text, ← List.mem_reverse, List.reverse_cons, hr]
        exact List.mem_cons_of_mem e hd'
      have halphanum := word.isAlphanum d hmem
      simp [isExponentSign, hd, halphanum]

theorem endsOperand_word (word : Word) : EndsOperand word.text := by
  intro op
  have hsign := isExponentSign_word word op.symbol
  cases hr : word.text.reverse with
  | nil => simp [Word.text] at hr
  | cons e rest =>
    have he : e.isAlphanum = true := by
      refine word.isAlphanum e (List.mem_reverse.1 ?_)
      simp [hr]
    rw [hr] at hsign
    rw [OperatorSplit.isBinary,
      List.dropWhile_cons_of_neg (by simp [Text.isBlank_of_isAlphanum he])]
    have hprevious : e ∉ ['+', '-', '*', '/', '(', ',', '#', ':'] :=
      Text.not_mem_of_isAlphanum he (by decide)
    simpa [hsign] using hprevious

/-- What stands before a delimiter decides nothing about the operators behind the next operand. -/
theorem EndsOperand.after_delimiter (h : EndsOperand text) {c : Char}
    (hc : c.isAlphanum = false ∧ isMantissa c = false) (front : List Char) :
    EndsOperand (front ++ c :: text) := by
  have hf : Fresh (front ++ [c]).reverse := by
    rw [List.reverse_append]
    exact fresh_cons hc _
  have happend := h.append_left hf
  rwa [List.append_assoc] at happend

theorem endsOperand_literal (literal : Literal) : EndsOperand literal.text :=
  endsOperand_of_getLast literal.getLast?_text (by decide) (by decide) (by decide)

theorem endsOperand_numeral (numeral : Numeral) : EndsOperand numeral.text := by
  obtain ⟨c, hlast, hc⟩ := numeral.exists_getLast
  rcases hc with hc | rfl
  · refine endsOperand_of_getLast hlast (Text.isBlank_of_isAlphanum ?_) ?_ ?_
    · exact Text.isAlphanum_of_isDigit hc
    · constructor <;>
      · rintro rfl
        exact absurd hc (by decide)
    · exact Text.not_mem_of_isAlphanum (Text.isAlphanum_of_isDigit hc) (by decide)
  · exact endsOperand_of_getLast hlast (by decide) (by decide) (by decide)

theorem isExponentSign_exponent {mantissa before : List Char}
    (hall : ∀ c ∈ mantissa, isMantissa c = true) (hdigit : ∃ c ∈ mantissa, c.isDigit = true)
    (hf : Fresh before) {letter sign : Char} (hletter : letter = 'e' ∨ letter = 'E')
    (hsign : sign = '+' ∨ sign = '-') :
    isExponentSign (letter :: (mantissa.reverse ++ before)) sign = true := by
  have hall' : ∀ c ∈ mantissa.reverse, isMantissa c = true :=
    fun c hc => hall c (List.mem_reverse.1 hc)
  have hany : mantissa.reverse.any Char.isDigit = true := by
    rw [List.any_reverse, List.any_eq_true]
    exact hdigit
  rw [← List.cons_append, isExponentSign_append (by simp) hf, isExponentSign,
    List.takeWhile_eq_self_iff.2 hall', List.dropWhile_eq_nil_iff.2 hall', hany]
  rcases hletter with rfl | rfl <;> rcases hsign with rfl | rfl <;> rfl

theorem isBinary_of_isExponentSign {before : List Char} {c : Char}
    (h : isExponentSign before c = true) : isBinary before c = false := by
  unfold isBinary
  cases before.dropWhile Text.isBlank with
  | nil => rfl
  | cons previous rest => simp [h]

theorem last?_plain {text : List Char} (h : ∀ c ∈ text, Operator.ofSymbol? c = none)
    (before : List Char) : last? before (text.map (·, ⟨0, false⟩)) = none := by
  refine last?_eq_none_of_forall fun entry he hop => ?_
  obtain ⟨c, hc, rfl⟩ := List.mem_map.1 he
  rw [h c hc] at hop
  cases hop

theorem ofSymbol?_of_isMantissa {c : Char} (h : isMantissa c = true) :
    Operator.ofSymbol? c = none := by
  cases ho : Operator.ofSymbol? c with
  | none => rfl
  | some op =>
    rw [Operator.eq_symbol_of_ofSymbol? ho] at h
    cases op <;> exact absurd h (by decide)

theorem last?_number {mantissa before : List Char} (hall : ∀ c ∈ mantissa, isMantissa c = true)
    (hdigit : ∃ c ∈ mantissa, c.isDigit = true) (exponent : Option Exponent) (hf : Fresh before) :
    last? before ((mantissa ++ (exponent.map Exponent.text).getD []).map (·, ⟨0, false⟩)) = none := by
  have hmantissa : last? before (mantissa.map (·, ⟨0, false⟩)) = none :=
    last?_plain (fun c hc => ofSymbol?_of_isMantissa (hall c hc)) before
  rw [List.map_append, last?_append_eq_none_iff, MarkedText.text_map_mark]
  refine ⟨hmantissa, ?_⟩
  cases exponent with
  | none => rfl
  | some exponent =>
    obtain ⟨letter, sign, ⟨digits, hne, hdigits⟩, hletter, hsign⟩ := exponent
    have hrest (front : List Char) : last? front (digits.map (·, ⟨0, false⟩)) = none :=
      last?_plain (fun c hc => ofSymbol?_of_isMantissa (by simp [isMantissa, hdigits c hc])) front
    have hsplits : splitsAt (mantissa.reverse ++ before) (letter, ⟨0, false⟩) = false := by
      rcases hletter with rfl | rfl <;> rfl
    simp only [Option.map_some, Option.getD_some, Exponent.text, List.map_cons, List.map_append]
    rw [last?_cons_eq_none_iff]
    refine ⟨hsplits, ?_⟩
    cases sign with
    | none => exact hrest _
    | some c =>
      have hexponent := isExponentSign_exponent hall hdigit hf hletter (hsign c rfl)
      simp only [Option.toList_some, List.map_cons, List.map_nil, List.cons_append, List.nil_append]
      rw [last?_cons_eq_none_iff]
      refine ⟨?_, hrest _⟩
      simp [splitsAt, isBinary_of_isExponentSign hexponent]

theorem last?_numeral (numeral : Numeral) {before : List Char} (hf : Fresh before) :
    last? before (numeral.text.map (·, ⟨0, false⟩)) = none :=
  last?_number numeral.isMantissa_mantissa.1 numeral.isMantissa_mantissa.2 numeral.exponent hf

end OperatorSplit

/-- A character that no layer is found by. -/
def IsQuiet (c : Char) : Prop := c ∉ ['+', '-', '*', '/', ',', '#', '(', ')', '"', '%']

theorem isQuiet_of_isAlphanum {c : Char} (h : c.isAlphanum = true) : IsQuiet c :=
  Text.not_mem_of_isAlphanum h (by decide)

theorem isQuiet_of_isBlank {c : Char} (h : Text.isBlank c = true) : IsQuiet c := by
  intro hmem
  simp only [List.mem_cons, List.not_mem_nil, or_false] at hmem
  rcases hmem with rfl | rfl | rfl | rfl | rfl | rfl | rfl | rfl | rfl | rfl <;>
    exact absurd h (by decide)

namespace MarkedText

/-- Outside quotes there are quiet characters only. -/
structure Quiet (marked : MarkedText) : Prop where
  marks : Marks 0 false marked 0 false
  isQuiet : ∀ entry ∈ marked, entry.2.quoted = false → IsQuiet entry.1

/-- On the top level there is nothing that cuts the text into operands, arguments or options. -/
def Calm (marked : MarkedText) : Prop :=
  ∀ entry ∈ marked, entry.2.isTopLevel = true → entry.1 ∉ ['+', '-', '*', '/', ',', '#']

variable {a b marked : MarkedText}

theorem Quiet.append (ha : Quiet a) (hb : Quiet b) : Quiet (a ++ b) := by
  refine ⟨ha.marks.append hb.marks, fun entry he => ?_⟩
  rcases List.mem_append.1 he with he | he
  · exact ha.isQuiet entry he
  · exact hb.isQuiet entry he

theorem quiet_plain {text : List Char} (h : ∀ c ∈ text, IsQuiet c) :
    Quiet (text.map (·, ⟨0, false⟩)) := by
  refine ⟨Marks.of_plain 0 fun c hc => ?_, fun entry he hq => ?_⟩
  · have hquiet := h c hc
    refine ⟨?_, ?_, ?_⟩ <;>
    · rintro rfl
      exact absurd hquiet (by simp [IsQuiet])
  · obtain ⟨c, hc, rfl⟩ := List.mem_map.1 he
    exact h c hc

theorem quiet_char {c : Char} (h : IsQuiet c) : Quiet [(c, ⟨0, false⟩)] :=
  @quiet_plain [c] fun _ hd => List.mem_singleton.1 hd ▸ h

theorem quiet_blanks {blanks : List Char} (h : Text.Blanks blanks) :
    Quiet (blanks.map (·, ⟨0, false⟩)) :=
  quiet_plain fun c hc => isQuiet_of_isBlank (h c hc)

theorem quiet_word (word : Word) : Quiet (word.text.map (·, ⟨0, false⟩)) :=
  quiet_plain fun c hc => isQuiet_of_isAlphanum (word.isAlphanum c hc)

theorem marks_quoted {content : List Char} (h : '"' ∉ content) :
    Marks 0 true (content.map (·, ⟨0, true⟩)) 0 true := by
  induction content with
  | nil => exact .nil 0 true
  | cons c rest ih =>
    rw [List.mem_cons, not_or] at h
    exact .quoted (Ne.symm h.1) (ih h.2)

theorem quiet_literal (literal : Literal) : Quiet (literal.text.map (·, ⟨0, true⟩)) := by
  refine ⟨?_, fun entry he hq => ?_⟩
  · have hclose : Marks 0 true [('"', ⟨0, true⟩)] 0 false := .quote (.nil 0 false)
    have hopen : Marks 0 false (('"', ⟨0, true⟩) ::
        (literal.content.map (·, ⟨0, true⟩) ++ [('"', ⟨0, true⟩)])) 0 false :=
      .quote ((marks_quoted literal.not_mem_quote).append hclose)
    simpa [Literal.text] using hopen
  · obtain ⟨c, hc, rfl⟩ := List.mem_map.1 he
    cases hq

theorem Quiet.inert (h : Quiet marked) : ∀ entry ∈ marked, Inert entry := by
  intro entry he hpercent
  by_contra hquoted
  have hquiet := h.isQuiet entry he (by simpa using hquoted)
  rw [hpercent] at hquiet
  exact absurd hquiet (by simp [IsQuiet])

theorem Quiet.calm (h : Quiet marked) : Calm marked := by
  intro entry he htop hmem
  have hquoted : entry.2.quoted = false := by
    simp only [Mark.isTopLevel, Bool.and_eq_true, Bool.not_eq_true'] at htop
    exact htop.2
  exact h.isQuiet entry he hquoted (List.mem_append_left ['(', ')', '"', '%'] hmem)

theorem Quiet.isTop_opening (h : Quiet marked) : ∀ entry ∈ marked, isTop '(' entry = false := by
  intro entry he
  by_contra htop
  simp only [isTop, Bool.not_eq_false, Bool.and_eq_true, beq_iff_eq, Mark.isTopLevel,
    Bool.not_eq_true'] at htop
  have hquiet := h.isQuiet entry he htop.2.2
  rw [htop.1] at hquiet
  exact absurd hquiet (by simp [IsQuiet])

theorem Calm.append (ha : Calm a) (hb : Calm b) : Calm (a ++ b) := by
  intro entry he
  rcases List.mem_append.1 he with he | he
  · exact ha entry he
  · exact hb entry he

theorem Calm.isTop (h : Calm marked) {delimiter : Char}
    (hd : delimiter ∈ ['+', '-', '*', '/', ',', '#']) :
    ∀ entry ∈ marked, isTop delimiter entry = false := by
  intro entry he
  by_contra htop
  simp only [MarkedText.isTop, Bool.not_eq_false, Bool.and_eq_true, beq_iff_eq] at htop
  refine h entry he htop.2 ?_
  rwa [htop.1]

theorem Calm.last? (h : Calm marked) (before : List Char) :
    OperatorSplit.last? before marked = none := by
  refine OperatorSplit.last?_eq_none_of_forall fun entry he hop => ?_
  by_contra htop
  obtain ⟨op, hop⟩ := Option.isSome_iff_exists.1 hop
  refine h entry he (by simpa using htop) ?_
  rw [Operator.eq_symbol_of_ofSymbol? hop]
  cases op <;> simp [Operator.symbol]

theorem calm_callMarks {front : MarkedText} (hfront : Calm front) (inner : MarkedText) :
    Calm (callMarks front inner []) := by
  refine hfront.append ?_
  intro entry he htop
  rcases List.mem_cons.1 he with rfl | he
  · decide
  · rcases List.mem_append.1 he with he | he
    · obtain ⟨inside, -, rfl⟩ := List.mem_map.1 he
      simp [Mark.isTopLevel] at htop
    · rw [List.mem_singleton.1 he]
      decide

def join (delimiter : Char) (parts : List MarkedText) : MarkedText :=
  [(delimiter, ⟨0, false⟩)].intercalate parts

theorem join_singleton (delimiter : Char) (part : MarkedText) :
    join delimiter [part] = part := by
  rw [join, List.intercalate_singleton]

theorem join_cons_cons (delimiter : Char) (part next : MarkedText) (rest : List MarkedText) :
    join delimiter (part :: next :: rest) =
      part ++ (delimiter, ⟨0, false⟩) :: join delimiter (next :: rest) := by
  rw [join, List.intercalate_cons_cons, List.append_assoc, List.singleton_append, join]

section Join

variable {delimiter : Char} {parts : List MarkedText}

theorem ne_nil_of_map_eq {α β γ : Type} {f : α → γ} {g : β → γ} {as : List α} {bs : List β}
    (h : as.map f = bs.map g) (hne : bs ≠ []) : as ≠ [] := by
  rintro rfl
  exact hne (List.map_eq_nil_iff.1 h.symm)

theorem text_join (delimiter : Char) (parts : List MarkedText) :
    (join delimiter parts).text = [delimiter].intercalate (parts.map text) := by
  induction parts with
  | nil => rfl
  | cons part rest ih =>
    cases rest with
    | nil => rw [join_singleton, List.map_singleton, List.intercalate_singleton]
    | cons next rest =>
      simp only [join_cons_cons, text_append, text_cons, ih, List.map_cons,
        List.intercalate_cons_cons, List.append_assoc, List.singleton_append]

theorem forall_mem_join {property : Char × Mark → Prop}
    (hparts : ∀ part ∈ parts, ∀ entry ∈ part, property entry)
    (hdelimiter : property (delimiter, ⟨0, false⟩)) :
    ∀ entry ∈ join delimiter parts, property entry := by
  induction parts with
  | nil =>
    intro entry he
    cases he
  | cons part rest ih =>
    have hpart := hparts part List.mem_cons_self
    have hrest := ih fun p hp => hparts p (List.mem_cons_of_mem part hp)
    intro entry he
    cases rest with
    | nil =>
      rw [join_singleton] at he
      exact hpart entry he
    | cons next rest =>
      rw [join_cons_cons] at he
      rcases List.mem_append.1 he with he | he
      · exact hpart entry he
      · rcases List.mem_cons.1 he with rfl | he
        · exact hdelimiter
        · exact hrest entry he

theorem marks_join (hd : IsPlain delimiter) (h : ∀ part ∈ parts, Marks 0 false part 0 false) :
    Marks 0 false (join delimiter parts) 0 false := by
  induction parts with
  | nil => exact .nil 0 false
  | cons part rest ih =>
    have hpart := h part List.mem_cons_self
    have hrest := ih fun p hp => h p (List.mem_cons_of_mem part hp)
    cases rest with
    | nil => rwa [join_singleton]
    | cons next rest =>
      rw [join_cons_cons]
      exact hpart.append (.plain hd hrest)

theorem last?_join (hd : Operator.ofSymbol? delimiter = none) (h : ∀ part ∈ parts, Quiet part)
    (before : List Char) : OperatorSplit.last? before (join delimiter parts) = none := by
  refine OperatorSplit.last?_eq_none_of_forall (forall_mem_join (fun part hp entry he hop => ?_) ?_)
  · by_contra htop
    obtain ⟨op, hop⟩ := Option.isSome_iff_exists.1 hop
    refine (h part hp).calm entry he (by simpa using htop) ?_
    rw [Operator.eq_symbol_of_ofSymbol? hop]
    cases op <;> simp [Operator.symbol]
  · intro hop
    rw [hd] at hop
    cases hop

theorem placeholders_join (hname : continuesName [(delimiter, ⟨0, false⟩)] = false)
    (hd : delimiter ≠ '%') : (join delimiter parts).placeholders =
      (parts.map MarkedText.placeholders).sum := by
  induction parts with
  | nil => rfl
  | cons part rest ih =>
    cases rest with
    | nil => simp [join_singleton]
    | cons next rest =>
      have hcut : continuesName ((delimiter, ⟨0, false⟩) :: join delimiter (next :: rest)) = false :=
        hname
      rw [join_cons_cons, placeholders_append hcut, placeholders_cons_of_inert (inert_of_ne hd), ih]
      rfl

theorem splitOnP_join (hne : parts ≠ [])
    (h : ∀ part ∈ parts, ∀ entry ∈ part, isTop delimiter entry = false) :
    (join delimiter parts).splitOnP (isTop delimiter) = parts := by
  induction parts with
  | nil => exact absurd rfl hne
  | cons part rest ih =>
    have hpart := h part List.mem_cons_self
    cases rest with
    | nil => rw [join_singleton, List.splitOnP_eq_singleton hpart]
    | cons next rest =>
      rw [join_cons_cons, splitOnP_top rfl hpart,
        ih (by simp) fun p hp => h p (List.mem_cons_of_mem part hp)]

theorem endsOperand_join (hne : parts ≠ [])
    (hd : delimiter.isAlphanum = false ∧ OperatorSplit.isMantissa delimiter = false)
    (h : ∀ part ∈ parts, OperatorSplit.EndsOperand part.text) :
    OperatorSplit.EndsOperand (join delimiter parts).text := by
  induction parts with
  | nil => exact absurd rfl hne
  | cons part rest ih =>
    cases rest with
    | nil =>
      rw [join_singleton]
      exact h part List.mem_cons_self
    | cons next rest =>
      have hrest := ih (by simp) fun p hp => h p (List.mem_cons_of_mem part hp)
      rw [join_cons_cons, text_append, text_cons]
      exact hrest.after_delimiter hd part.text

end Join

end MarkedText

end TimeSeries
