import Mathlib.Data.List.DropRight
import TimeSeries.Proofs.Formula.Pieces

set_option autoImplicit false

/-!
# Signs of exponents

A sign that would be an operator is left alone when a number up to its `e` stands before it. The number
begins where its digits and points begin, provided that no letter or digit is in front of them. An
underscore in front of them does not count, although it belongs to names: so a name loses its operator
when it ends with an underscore and such a number, and only then.
-/
namespace TimeSeries

namespace OperatorSplit

def isNameChar (c : Char) : Bool := c.isAlphanum || c == '_' || c == '.'

/-- Digits and points, a digit among them, and an `e`: what numbers have before the sign of an
exponent. -/
def OpensExponent (text : List Char) : Prop :=
  ∃ mantissa letter, text = mantissa ++ [letter] ∧ (letter = 'e' ∨ letter = 'E') ∧
    (∀ c ∈ mantissa, isMantissa c = true) ∧ ∃ c ∈ mantissa, c.isDigit = true

/-- A text that opens an exponent, maybe behind an underscore. -/
def EndsInExponent (text : List Char) : Prop :=
  ∃ front number, text = front ++ number ∧ OpensExponent number ∧ ∀ c ∈ front.getLast?, c = '_'

/-- The last character of a text other than blanks is one that an operand may end with. -/
def HasOperand (text : List Char) : Prop :=
  ∃ previous, (text.reverse.dropWhile Text.isBlank).head? = some previous ∧
    previous ∉ ['+', '-', '*', '/', '(', ',', '#', ':']

variable {text : List Char} {c : Char}

theorem isBinary_reverse_eq_false : isBinary text.reverse c = false ↔
    ¬ HasOperand text ∨ isExponentSign text.reverse c = true := by
  unfold isBinary HasOperand
  generalize ['+', '-', '*', '/', '(', ',', '#', ':'] = asking
  cases text.reverse.dropWhile Text.isBlank with
  | nil => simp
  | cons previous rest => simp [or_iff_not_imp_left]

/-! ## Runs of name characters -/

theorem isNameChar_of_isMantissa (h : isMantissa c = true) : isNameChar c = true := by
  simp only [isMantissa, Bool.or_eq_true] at h
  rcases h with h | h
  · simp [isNameChar, Text.isAlphanum_of_isDigit h]
  · simp [isNameChar, h]

theorem not_token_iff : c.isAlphanum = false ∧ isMantissa c = false ↔ isNameChar c = false ∨ c = '_' := by
  constructor
  · rintro ⟨hword, hmantissa⟩
    have hdot : (c == '.') = false := (Bool.or_eq_false_iff.1 hmantissa).2
    by_cases hscore : c = '_'
    · exact .inr hscore
    · exact .inl (by simp [isNameChar, hword, hdot, hscore])
  · rintro (h | rfl)
    · refine ⟨?_, by_contra fun hm => ?_⟩
      · simp only [isNameChar, Bool.or_eq_false_iff] at h
        exact h.1.1
      · rw [isNameChar_of_isMantissa (by simpa using hm)] at h
        cases h
    · decide

theorem OpensExponent.isNameChar (h : OpensExponent text) (hc : c ∈ text) :
    OperatorSplit.isNameChar c = true := by
  obtain ⟨mantissa, letter, rfl, hletter, hall, -⟩ := h
  rcases List.mem_append.1 hc with hc | hc
  · exact isNameChar_of_isMantissa (hall c hc)
  · rw [List.mem_singleton.1 hc]
    rcases hletter with rfl | rfl <;> decide

theorem isExponentSign_iff : isExponentSign text.reverse c = true ↔ (c = '+' ∨ c = '-') ∧
    ∃ front number, text = front ++ number ∧ OpensExponent number ∧ Fresh front.reverse := by
  constructor
  · intro h
    cases hr : text.reverse with
    | nil =>
      rw [hr] at h
      cases h
    | cons letter before =>
      simp only [hr, isExponentSign, Bool.and_eq_true, Bool.or_eq_true, beq_iff_eq,
        Bool.not_eq_true'] at h
      obtain ⟨⟨⟨hsign, hletter⟩, hdigit⟩, hhead⟩ := h
      refine ⟨hsign, (before.dropWhile isMantissa).reverse,
        (before.takeWhile isMantissa).reverse ++ [letter], ?_, ⟨_, letter, rfl, hletter, ?_, ?_⟩, ?_⟩
      · rw [← List.append_assoc, ← List.reverse_append, List.takeWhile_append_dropWhile,
          ← List.reverse_cons, ← hr, List.reverse_reverse]
      · exact fun d hd => List.all_eq_true.1 List.all_takeWhile d (List.mem_reverse.1 hd)
      · simpa using hdigit
      · rw [List.reverse_reverse]
        intro d hd
        rw [Option.mem_def] at hd
        have hstop := List.head?_dropWhile_not isMantissa before
        rw [hd] at hhead hstop
        exact ⟨hhead, hstop⟩
  · rintro ⟨hsign, front, _, rfl, ⟨mantissa, letter, rfl, hletter, hall, hdigit⟩, hf⟩
    have hexponent := isExponentSign_exponent hall hdigit hf hletter hsign
    simpa using hexponent

theorem endsInExponent_rtakeWhile : EndsInExponent (text.rtakeWhile OperatorSplit.isNameChar) ↔
    ∃ front number, text = front ++ number ∧ OpensExponent number ∧ Fresh front.reverse := by
  constructor
  · rintro ⟨front, number, hrun, hnumber, hfront⟩
    have htext : text = text.rdropWhile OperatorSplit.isNameChar ++ front ++ number := by
      rw [List.append_assoc, ← hrun, List.rdropWhile_append_rtakeWhile]
    refine ⟨_, number, htext, hnumber, fun d hd => not_token_iff.2 ?_⟩
    rw [List.head?_reverse] at hd
    -- in front of the number is the end of the rest of the run, or else of what lies before the run
    cases hlast : front.getLast? with
    | some e =>
      rw [List.getLast?_append, hlast] at hd
      cases hd
      exact .inr (hfront _ hlast)
    | none =>
      rw [List.getLast?_append, hlast, List.rdropWhile, List.getLast?_reverse] at hd
      have hstop := List.head?_dropWhile_not OperatorSplit.isNameChar text.reverse
      rw [Option.mem_def, Option.none_or] at hd
      rw [hd] at hstop
      exact .inl hstop
  · rintro ⟨front, number, rfl, hnumber, hf⟩
    refine ⟨front.rtakeWhile OperatorSplit.isNameChar, number, ?_, hnumber, fun d hd => ?_⟩
    · rw [List.rtakeWhile, List.reverse_append, List.takeWhile_append_of_pos, List.reverse_append,
        List.reverse_reverse]
      · rfl
      · exact fun d hd => hnumber.isNameChar (List.mem_reverse.1 hd)
    · rw [List.rtakeWhile, List.getLast?_reverse, List.head?_takeWhile, Option.mem_def,
        Option.filter_eq_some_iff] at hd
      rcases not_token_iff.1 (hf d hd.1) with hname | hscore
      · rw [hname] at hd
        cases hd.2
      · exact hscore

/-! ## Signs -/

/-- The exponent rule takes exactly the signs behind a run of name characters that ends in an exponent. -/
theorem isExponentSign_reverse_iff : isExponentSign text.reverse c = true ↔
    (c = '+' ∨ c = '-') ∧ EndsInExponent (text.rtakeWhile OperatorSplit.isNameChar) :=
  isExponentSign_iff.trans (and_congr_right fun _ => endsInExponent_rtakeWhile.symm)

theorem hasOperand_of_isExponentSign (h : isExponentSign text.reverse c = true) : HasOperand text := by
  obtain ⟨-, front, _, rfl, ⟨mantissa, letter, rfl, hletter, -⟩, -⟩ := isExponentSign_iff.1 h
  refine ⟨letter, ?_, ?_⟩
  · rw [← List.append_assoc, List.reverse_append, List.reverse_singleton, List.singleton_append,
      List.dropWhile_cons_of_neg]
    · rfl
    · rcases hletter with rfl | rfl <;> decide
  · rcases hletter with rfl | rfl <;> decide

theorem skipped_iff (hc : c = '+' ∨ c = '-') : HasOperand text ∧ isBinary text.reverse c = false ↔
    EndsInExponent (text.rtakeWhile OperatorSplit.isNameChar) := by
  rw [isBinary_reverse_eq_false]
  constructor
  · rintro ⟨hoperand, hnone | hsign⟩
    · exact absurd hoperand hnone
    · exact (isExponentSign_reverse_iff.1 hsign).2
  · intro h
    have hsign := isExponentSign_reverse_iff.2 ⟨hc, h⟩
    exact ⟨hasOperand_of_isExponentSign hsign, .inr hsign⟩

theorem opensExponent_iff : OpensExponent text ↔ EndsInExponent text ∧ '_' ∉ text := by
  constructor
  · intro h
    refine ⟨⟨[], text, rfl, h, by simp⟩, fun hmem => ?_⟩
    obtain ⟨mantissa, letter, rfl, hletter, hall, -⟩ := h
    rcases List.mem_append.1 hmem with hmem | hmem
    · exact absurd (hall '_' hmem) (by decide)
    · rw [← List.mem_singleton.1 hmem] at hletter
      exact absurd hletter (by decide)
  · rintro ⟨⟨front, number, rfl, hnumber, hfront⟩, hscore⟩
    cases hlast : front.getLast? with
    | some d =>
      obtain rfl := hfront d hlast
      exact absurd (List.mem_append_left _ (List.mem_of_getLast? hlast)) hscore
    | none =>
      rw [List.getLast?_eq_none_iff.1 hlast]
      exact hnumber

/-! ## Names and numbers -/

/-- A letter and other characters of names. -/
def IsName (text : List Char) : Prop :=
  (∃ first, text.head? = some first ∧ first.isAlpha = true) ∧ ∀ c ∈ text, isNameChar c = true

theorem isName_word (word : Word) : IsName word.text := by
  refine ⟨⟨word.first, rfl, word.first_isAlpha⟩, fun c hc => ?_⟩
  simp [isNameChar, word.isAlphanum c hc]

/-- A text that is read as a number and has no sign. -/
def IsUnsigned (text : List Char) : Prop :=
  (Expr.readNumber? text).isSome = true ∧ ∀ first, text.head? = some first → first ≠ '+' ∧ first ≠ '-'

theorem not_mem_of_isNameChar (h : isNameChar c = true) {others : List Char}
    (hothers : (others.all fun other => !isNameChar other) = true) : c ∉ others := by
  intro hmem
  have hnot := List.all_eq_true.1 hothers c hmem
  rw [h] at hnot
  cases hnot

theorem isBlank_of_isNameChar (h : isNameChar c = true) : Text.isBlank c = false := by
  simp only [isNameChar, Bool.or_eq_true, beq_iff_eq] at h
  rcases h with (h | rfl) | rfl
  · exact Text.isBlank_of_isAlphanum h
  · decide
  · decide

theorem isPlain_of_isNameChar (h : isNameChar c = true) : IsPlain c := by
  have hnot : c ∉ ['"', '(', ')'] := not_mem_of_isNameChar h (by decide)
  simpa [IsPlain] using hnot

theorem ofSymbol?_of_isNameChar (h : isNameChar c = true) : Operator.ofSymbol? c = none := by
  cases ho : Operator.ofSymbol? c with
  | none => rfl
  | some op =>
    rw [Operator.eq_symbol_of_ofSymbol? ho] at h
    cases op <;> exact absurd h (by decide)

theorem IsName.ne_nil (h : IsName text) : text ≠ [] := by
  rintro rfl
  obtain ⟨⟨first, hfirst, -⟩, -⟩ := h
  cases hfirst

theorem IsName.isQuiet (h : IsName text) : ∀ c ∈ text, IsQuiet c :=
  fun c hc => not_mem_of_isNameChar (h.2 c hc) (by decide)

theorem IsName.hasSolidEnds (h : IsName text) : Text.HasSolidEnds text :=
  Text.hasSolidEnds_of_forall fun c hc => isBlank_of_isNameChar (h.2 c hc)

theorem IsName.not_mem (h : IsName text) (hc : isNameChar c = false) : c ∉ text := by
  intro hmem
  rw [h.2 c hmem] at hc
  cases hc

theorem IsName.hasOperand (h : IsName text) : HasOperand text := by
  cases hr : text.reverse with
  | nil => exact absurd (List.reverse_eq_nil_iff.1 hr) h.ne_nil
  | cons last rest =>
    have hlast := h.2 last (List.mem_reverse.1 (hr ▸ List.mem_cons_self))
    refine ⟨last, ?_, not_mem_of_isNameChar hlast (by decide)⟩
    rw [hr, List.dropWhile_cons_of_neg (by simp [isBlank_of_isNameChar hlast])]
    rfl

theorem IsName.isBinary_eq_false (h : IsName text) (hc : c = '+' ∨ c = '-') :
    isBinary text.reverse c = false ↔ EndsInExponent text := by
  have hrun : text.rtakeWhile OperatorSplit.isNameChar = text := List.rtakeWhile_eq_self_iff.2 h.2
  have hskipped := @skipped_iff text c hc
  rw [hrun] at hskipped
  exact ⟨fun hbinary => hskipped.1 ⟨h.hasOperand, hbinary⟩, fun hends => (hskipped.2 hends).2⟩

theorem IsUnsigned.read (h : IsUnsigned text) : (∃ x, Decimal.readUnsigned text = some x) ∧
    ∀ c ∈ text, c.isDigit = true ∨ c ∈ ['.', '+', '-', 'e', 'E'] := by
  obtain ⟨hnumber, hunsigned⟩ := h
  cases text with
  | nil => cases hnumber
  | cons first rest =>
    obtain ⟨hplus, hminus⟩ := hunsigned first rfl
    obtain ⟨x, hx⟩ := Option.isSome_iff_exists.1 hnumber
    rw [Expr.readNumber?] at hx
    split at hx
    · rename_i hform
      obtain ⟨hfirst, hall⟩ := Bool.and_eq_true_iff.1 hform
      have hnumeric : first.isDigit = true ∨ first = '.' := by
        simpa [hplus, hminus] using hfirst
      rw [Decimal.read_cons hnumeric] at hx
      refine ⟨⟨x, hx⟩, fun c hc => ?_⟩
      simpa using List.all_eq_true.1 hall c hc
    · cases hx

theorem IsUnsigned.isPlain (h : IsUnsigned text) : ∀ c ∈ text, IsPlain c := by
  intro c hc
  rcases h.read.2 c hc with hdigit | hmem
  · exact isPlain_of_isNameChar (by simp [isNameChar, Text.isAlphanum_of_isDigit hdigit])
  · simp only [List.mem_cons, List.not_mem_nil, or_false] at hmem
    rcases hmem with rfl | rfl | rfl | rfl | rfl <;> simp [IsPlain]

theorem IsUnsigned.last?_eq_none (h : IsUnsigned text) {before : List Char} (hf : Fresh before) :
    last? before (text.map (·, ⟨0, false⟩)) = none := by
  obtain ⟨x, hx⟩ := h.read.1
  obtain ⟨mantissa, exponent, rfl, hall, hdigit⟩ := Decimal.exists_of_readUnsigned hx
  refine last?_number (fun c hc => ?_) hdigit exponent hf
  rcases hall c hc with hc | rfl
  · simp [isMantissa, hc]
  · rfl

variable {name numeral : List Char} {op : Operator}

theorem symbol_of_sign (hop : op = .add ∨ op = .subtract) : op.symbol = '+' ∨ op.symbol = '-' := by
  rcases hop with rfl | rfl
  · exact .inl rfl
  · exact .inr rfl

/-- A name and a number are split at the sign between them, unless the name ends in an exponent; then
they are not split at all. -/
theorem splitOperator_sign (hname : IsName name) (hnumeral : IsUnsigned numeral)
    (hop : op = .add ∨ op = .subtract) : ∃ marked, scan (name ++ op.symbol :: numeral) = .ok marked ∧
      (EndsInExponent name → splitOperator marked = none) ∧
      (¬ EndsInExponent name → splitOperator marked = some ⟨op, name, numeral⟩) := by
  have hplain : ∀ c ∈ name ++ op.symbol :: numeral, IsPlain c := by
    intro c hc
    rcases List.mem_append.1 hc with hc | hc
    · exact isPlain_of_isNameChar (hname.2 c hc)
    · rcases List.mem_cons.1 hc with rfl | hc
      · exact op.isPlain_symbol
      · exact hnumeral.isPlain c hc
  have hends := hname.isBinary_eq_false (symbol_of_sign hop)
  have hquiet := last?_plain (fun c hc => ofSymbol?_of_isNameChar (hname.2 c hc)) []
  have hnumber := hnumeral.last?_eq_none (fresh_symbol op (name.reverse ++ []))
  refine ⟨(name ++ op.symbol :: numeral).map (·, ⟨0, false⟩),
    scan_eq_ok_iff.2 ⟨MarkedText.text_map_mark _ _, Marks.of_plain 0 hplain⟩, ?_, ?_⟩
  · intro h
    rw [splitOperator, List.map_append, last?_append_eq_none_iff, MarkedText.text_map_mark,
      List.map_cons, last?_cons_eq_none_iff]
    refine ⟨hquiet, ?_, hnumber⟩
    simp [splitsAt, hends.2 h]
  · intro h
    have hbinary : isBinary name.reverse op.symbol = true := by
      simpa using mt hends.1 h
    rw [splitOperator, List.map_append, List.map_cons, last?_eq_some_of_splitsAt]
    · simp
    · simp [splitsAt, hbinary, Mark.isTopLevel]
    · simpa using hnumber

/-- A sign that only the exponent rule leaves alone stands behind a run of name characters that ends in
an exponent. Without an underscore the run is the number; a name with one before the number loses its
operator, and no other name does. -/
theorem exponent_signs (hop : op = .add ∨ op = .subtract) :
    (∀ (text : List Char) (marked before after : MarkedText) (mark : Mark),
      scan text = .ok marked → marked = before ++ (op.symbol, mark) :: after →
      (HasOperand before.text ∧ isBinary before.text.reverse op.symbol = false ↔
        EndsInExponent ((text.take before.length).rtakeWhile OperatorSplit.isNameChar)) ∧
      ((HasOperand before.text ∧ isBinary before.text.reverse op.symbol = false) ∧
          '_' ∉ (text.take before.length).rtakeWhile OperatorSplit.isNameChar ↔
        OpensExponent ((text.take before.length).rtakeWhile OperatorSplit.isNameChar))) ∧
    ∀ name numeral : List Char, IsName name → IsUnsigned numeral →
      ∃ marked, scan (name ++ op.symbol :: numeral) = .ok marked ∧
        (EndsInExponent name → splitOperator marked = none) ∧
        (¬ EndsInExponent name → splitOperator marked = some ⟨op, name, numeral⟩) := by
  refine ⟨?_, fun name numeral hname hnumeral => splitOperator_sign hname hnumeral hop⟩
  intro text marked before after mark hscan hmarked
  have hbefore : text.take before.length = before.text := by
    rw [← text_of_scan hscan, hmarked, MarkedText.text_append, ← MarkedText.length_text,
      List.take_left]
  have hskipped := @skipped_iff before.text op.symbol (symbol_of_sign hop)
  rw [hbefore]
  refine ⟨hskipped, ?_⟩
  rw [opensExponent_iff, hskipped]

/-- Half a thousandth is subtracted from a name that ends with an `e`. -/
theorem exponent_signs_half :
    (Operator.subtract = .add ∨ Operator.subtract = .subtract) ∧
    (∃ before after : MarkedText, scan ".5e-3".toList = .ok (before ++ ('-', ⟨0, false⟩) :: after) ∧
      HasOperand before.text ∧ isBinary before.text.reverse '-' = false ∧
      OpensExponent (".5e".toList.rtakeWhile OperatorSplit.isNameChar)) ∧
    IsName "GDPE".toList ∧ IsUnsigned ".5e-3".toList ∧ ¬ EndsInExponent "GDPE".toList ∧
      ∃ marked, scan "GDPE-.5e-3".toList = .ok marked ∧
        splitOperator marked = some ⟨.subtract, "GDPE".toList, ".5e-3".toList⟩ := by
  have hop : Operator.subtract = .add ∨ Operator.subtract = .subtract := .inr rfl
  obtain ⟨hsigns, hnames⟩ := exponent_signs hop
  have hname : IsName "GDPE".toList := ⟨⟨'G', rfl, by decide⟩, List.all_eq_true.1 rfl⟩
  have hunsigned : IsUnsigned ".5e-3".toList := by
    refine ⟨by decide, fun first hfirst => ?_⟩
    cases hfirst
    decide
  have hends : ¬ EndsInExponent "GDPE".toList := by
    intro h
    have hbinary := (hname.isBinary_eq_false (.inr rfl)).2 h
    cases hbinary
  refine ⟨hop, ?_, ?_⟩
  · have hoperand : HasOperand ".5e".toList := ⟨'e', rfl, by decide⟩
    have hsign := hsigns ".5e-3".toList _ (".5e".toList.map (·, ⟨0, false⟩))
      ("3".toList.map (·, ⟨0, false⟩)) ⟨0, false⟩ rfl rfl
    exact ⟨".5e".toList.map (·, ⟨0, false⟩), "3".toList.map (·, ⟨0, false⟩), rfl, hoperand, rfl,
      hsign.2.1 ⟨⟨hoperand, rfl⟩, by decide⟩⟩
  · obtain ⟨marked, hscan, -, hsplit⟩ := hnames _ _ hname hunsigned
    exact ⟨hname, hunsigned, hends, marked, hscan, hsplit hends⟩

/-- An underscore in front of digits and an `e` makes a name lose its operator. -/
theorem splitOperator_underscore :
    IsName "A_1E".toList ∧ IsUnsigned "3".toList ∧ (∃ marked, scan "A_1E-3".toList = .ok marked ∧
      splitOperator marked = none) ∧ HasOperand "A_1E".toList ∧
      isBinary "A_1E".toList.reverse '-' = false ∧
      ¬ OpensExponent ("A_1E".toList.rtakeWhile OperatorSplit.isNameChar) := by
  have hname : IsName "A_1E".toList := ⟨⟨'A', rfl, by decide⟩, List.all_eq_true.1 rfl⟩
  have hunsigned : IsUnsigned "3".toList := by
    refine ⟨by decide, fun first hfirst => ?_⟩
    cases hfirst
    decide
  refine ⟨hname, hunsigned, ⟨_, rfl, rfl⟩, hname.hasOperand, rfl, fun h => ?_⟩
  exact (opensExponent_iff.1 h).2 (by decide)

end OperatorSplit

end TimeSeries
