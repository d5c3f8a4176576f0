import TimeSeries.Formula.Evaluation
import TimeSeries.Proofs.Formula.Operators
import TimeSeries.Proofs.Formula.Tokens

set_option autoImplicit false

/-!
# Leaves

What the leaves of formulas are read as: numerals, quoted texts and references.
-/
namespace TimeSeries

open OperatorSplit

theorem Word.hasSolidEnds (word : Word) : Text.HasSolidEnds word.text :=
  Text.hasSolidEnds_of_forall fun c hc => Text.isBlank_of_isAlphanum (word.isAlphanum c hc)

theorem Word.isBlank_first (word : Word) : Text.isBlank word.first = false :=
  Text.isBlank_of_isAlphanum (word.isAlphanum word.first List.mem_cons_self)

theorem Word.trim_text (word : Word) : Text.trim word.text = word.text :=
  Text.trim_eq_self word.hasSolidEnds

theorem Literal.getLast?_text (literal : Literal) : literal.text.getLast? = some '"' := by
  rw [Literal.text, ← List.cons_append, List.getLast?_concat]

theorem Literal.hasSolidEnds (literal : Literal) : Text.HasSolidEnds literal.text :=
  Text.hasSolidEnds_of_ends rfl literal.getLast?_text (by decide) (by decide)

theorem Literal.trim_text (literal : Literal) : Text.trim literal.text = literal.text :=
  Text.trim_eq_self literal.hasSolidEnds

theorem Numeral.mem_text (numeral : Numeral) {c : Char} (hc : c ∈ numeral.text) :
    c.isDigit = true ∨ c ∈ ['.', '+', '-', 'e', 'E'] := by
  obtain ⟨⟨whole, hne, hwhole⟩, fraction, exponent, hfraction⟩ := numeral
  have hexponent : ∀ c ∈ (exponent.map Exponent.text).getD [],
      c.isDigit = true ∨ c ∈ ['.', '+', '-', 'e', 'E'] := by
    intro c hc
    cases exponent with
    | none => cases hc
    | some exponent =>
      obtain ⟨letter, sign, ⟨digits, hdne, hdigits⟩, hletter, hsign⟩ := exponent
      simp only [Option.map_some, Option.getD_some, Exponent.text, List.mem_cons,
        List.mem_append] at hc
      rcases hc with rfl | hc | hc
      · rcases hletter with rfl | rfl <;> simp
      · rcases hsign c (by simpa using hc) with rfl | rfl <;> simp
      · exact .inl (hdigits c hc)
  rcases List.mem_append.1 hc with hc | hc
  · cases fraction with
    | none => exact .inl (hwhole c hc)
    | some digits =>
      rcases List.mem_append.1 hc with hc | hc
      · exact .inl (hwhole c hc)
      · rcases List.mem_cons.1 hc with rfl | hc
        · simp
        · exact .inl (hfraction digits rfl c hc)
  · exact hexponent c hc

theorem Numeral.isMantissa_mantissa (numeral : Numeral) :
    (∀ c ∈ numeral.mantissa, isMantissa c = true) ∧
      ∃ c ∈ numeral.mantissa, c.isDigit = true := by
  obtain ⟨⟨whole, hne, hwhole⟩, fraction, exponent, hfraction⟩ := numeral
  obtain ⟨c, hc⟩ := List.exists_mem_of_ne_nil whole hne
  cases fraction with
  | none =>
    exact ⟨fun d hd => by simp [isMantissa, hwhole d hd], c, hc, hwhole c hc⟩
  | some digits =>
    refine ⟨fun d hd => ?_, c, List.mem_append_left _ hc, hwhole c hc⟩
    rcases List.mem_append.1 hd with hd | hd
    · simp [isMantissa, hwhole d hd]
    · rcases List.mem_cons.1 hd with rfl | hd
      · rfl
      · simp [isMantissa, hfraction digits rfl d hd]

theorem Numeral.exists_getLast (numeral : Numeral) :
    ∃ c, numeral.text.getLast? = some c ∧ (c.isDigit = true ∨ c = '.') := by
  have hdigits : ∀ {front digits : List Char}, digits ≠ [] → (∀ c ∈ digits, c.isDigit = true) →
      ∃ c, (front ++ digits).getLast? = some c ∧ (c.isDigit = true ∨ c = '.') := by
    intro front digits hne hall
    refine ⟨digits.getLast hne, ?_, .inl (hall _ (List.getLast_mem hne))⟩
    rw [List.getLast?_append, List.getLast?_eq_some_getLast hne]
    rfl
  obtain ⟨⟨whole, hne, hwhole⟩, fraction, exponent, hfraction⟩ := numeral
  cases exponent with
  | some exponent =>
    have htext := @hdigits (Numeral.mantissa ⟨⟨whole, hne, hwhole⟩, fraction, none, hfraction⟩ ++
      exponent.letter :: exponent.sign.toList) _ exponent.digits.ne_nil exponent.digits.isDigit
    simpa [Numeral.text, Exponent.text, Numeral.mantissa] using htext
  | none =>
    cases fraction with
    | none => simpa [Numeral.text, Numeral.mantissa] using @hdigits [] whole hne hwhole
    | some digits =>
      cases digits with
      | nil => exact ⟨'.', by simp [Numeral.text, Numeral.mantissa], .inr rfl⟩
      | cons c rest =>
        have htext := @hdigits (whole ++ ['.']) (c :: rest) (by simp) (hfraction _ rfl)
        simpa [Numeral.text, Numeral.mantissa] using htext

theorem Numeral.hasSolidEnds (numeral : Numeral) : Text.HasSolidEnds numeral.text := by
  obtain ⟨c, rest, hc, htext⟩ := numeral.exists_cons
  obtain ⟨d, hlast, hd⟩ := numeral.exists_getLast
  refine Text.hasSolidEnds_of_ends (by rw [htext]; rfl) hlast (Text.isBlank_of_isDigit hc) ?_
  rcases hd with hd | rfl
  · exact Text.isBlank_of_isDigit hd
  · decide

theorem unquote_eq_some_iff {text content : List Char} :
    unquote text = .ok (some content) ↔ Text.trim text = '"' :: (content ++ ['"']) := by
  constructor
  · intro h
    unfold unquote at h
    dsimp only at h
    split at h
    · rename_i hends
      simp only [Bool.and_eq_true, beq_iff_eq, decide_eq_true_eq] at hends
      obtain ⟨⟨hopens, hcloses⟩, hlength⟩ := hends
      obtain ⟨rest, htrim⟩ := List.head?_eq_some_iff.1 hopens
      cases h
      rw [htrim] at hcloses hlength ⊢
      rcases List.eq_nil_or_concat rest with rfl | ⟨front, last, rfl⟩
      · simp at hlength
      · rw [List.concat_eq_append, ← List.cons_append, List.getLast?_concat, Option.some.injEq] at hcloses
        subst hcloses
        simp
    · split at h <;> cases h
  · intro h
    have hcloses : ('"' :: (content ++ ['"'])).getLast? = some '"' := by
      rw [← List.cons_append, List.getLast?_concat]
    unfold unquote
    dsimp only
    rw [h, hcloses]
    simp

theorem unquote_eq_none_iff {text : List Char} : unquote text = .ok none ↔
    (Text.trim text).head? ≠ some '"' ∧ (Text.trim text).getLast? ≠ some '"' := by
  unfold unquote
  dsimp only
  by_cases hopens : (Text.trim text).head? = some '"' <;>
  by_cases hcloses : (Text.trim text).getLast? = some '"' <;>
  simp [hopens, hcloses]
  split <;> simp

theorem unquote_eq_none {text : List Char} (h : '"' ∉ text) : unquote text = .ok none := by
  have htrim : '"' ∉ Text.trim text := fun hmem => h ((Text.mem_trim (by decide)).1 hmem)
  exact unquote_eq_none_iff.2 ⟨fun hopens => htrim (List.mem_of_mem_head? hopens),
    fun hcloses => htrim (List.mem_of_getLast? hcloses)⟩

theorem unquote_literal (literal : Literal) {before after : List Char}
    (hbefore : Text.Blanks before) (hafter : Text.Blanks after) :
    unquote (before ++ literal.text ++ after) = .ok (some literal.content) := by
  rw [unquote_eq_some_iff, Text.trim_between hbefore hafter, literal.trim_text, Literal.text]

theorem isPlain_of_isSeriesName {name : List Char} (h : isSeriesName name = true) {c : Char}
    (hc : c ∈ name) : IsPlain c := by
  simp only [isSeriesName, Bool.and_eq_true, Bool.not_eq_true', List.any_eq_false,
    Bool.or_eq_true, not_or] at h
  have hnone := (h.2 c hc).2
  refine ⟨?_, ?_, ?_⟩ <;>
  · rintro rfl
    exact hnone (by decide)

namespace Expr

theorem ofLeaf_numeral (numeral : Numeral) :
    ofLeaf numeral.text = .number numeral.text numeral.value := by
  obtain ⟨c, rest, hc, htext⟩ := numeral.exists_cons
  have hne : numeral.text ≠ ['%', 'd'] := by
    intro heq
    rw [heq] at htext
    rw [← (List.cons.inj htext).1] at hc
    exact absurd hc (by decide)
  have hall : ∀ d ∈ c :: rest, d.isDigit = true ∨ d ∈ ['.', '+', '-', 'e', 'E'] := by
    rw [← htext]
    exact fun d hd => numeral.mem_text hd
  have hnumber : readNumber? numeral.text = some numeral.value := by
    have hread := Decimal.read_text numeral
    rw [htext] at hread ⊢
    rw [readNumber?, if_pos, hread]
    rw [Bool.and_eq_true, List.all_eq_true]
    refine ⟨by simp [hc], fun d hd => ?_⟩
    simpa using hall d hd
  rw [ofLeaf, if_neg hne, hnumber]

theorem readNumber?_eq_none {c : Char} (hdigit : c.isDigit = false)
    (hsign : c ∉ ['.', '+', '-']) (rest : List Char) : readNumber? (c :: rest) = none := by
  simp only [readNumber?, hdigit, Bool.false_or]
  rw [if_neg]
  simp_all

theorem ofLeaf_literal (literal : Literal) : ofLeaf literal.text = .literal literal.content := by
  have hunquote := unquote_literal literal Text.blanks_nil Text.blanks_nil
  rw [List.nil_append, List.append_nil] at hunquote
  have hne : literal.text ≠ ['%', 'd'] := by simp [Literal.text]
  have hnumber : readNumber? literal.text = none := readNumber?_eq_none (by decide) (by decide) _
  rw [ofLeaf, if_neg hne, hnumber]
  simp only [hunquote]

theorem ofLeaf_eq_ofReference {text : List Char} (hfirst : ∃ c ∈ text.head?, c.isAlpha = true)
    (hquote : '"' ∉ text) : ofLeaf text = ofReference text := by
  obtain ⟨c, hc, hfirst⟩ := hfirst
  have hunquote := unquote_eq_none hquote
  cases text with
  | nil => cases hc
  | cons first rest =>
    obtain rfl : first = c := by simpa using hc
    have hdigit : first.isDigit = false := Text.isDigit_of_isAlpha hfirst
    have hne : first :: rest ≠ ['%', 'd'] := by
      intro heq
      rw [(List.cons.inj heq).1] at hfirst
      exact absurd hfirst (by decide)
    have hsign : first ∉ ['.', '+', '-'] :=
      Text.not_mem_of_isAlphanum (Text.isAlphanum_of_isAlpha hfirst) (by decide)
    rw [ofLeaf, if_neg hne, readNumber?_eq_none hdigit hsign]
    simp only [hunquote]

theorem at_ne_of_not_mem {text : List Char} (h : '@' ∉ text) : ∀ c ∈ text, (c == '@') = false := by
  intro c hc
  rw [beq_eq_false_iff_ne]
  rintro rfl
  exact h hc

theorem ofReference_name {text : List Char} (h : '@' ∉ text) :
    ofReference text = .reference text (Text.trim text) none := by
  rw [ofReference, List.splitOnP_eq_singleton (at_ne_of_not_mem h)]

theorem ofReference_sourced {left right : List Char} (hleft : '@' ∉ left) (hright : '@' ∉ right) :
    ofReference (left ++ '@' :: right) =
      .reference (left ++ '@' :: right) (Text.trim left) (some (Text.trim right)) := by
  have hsplit : (left ++ '@' :: right).splitOnP (· == '@') = [left, right] := by
    rw [List.splitOnP_append_cons_of_forall_mem (at_ne_of_not_mem hleft) _ (by simp),
      List.splitOnP_eq_singleton (at_ne_of_not_mem hright)]
  rw [ofReference, hsplit]

theorem ofReference_cases (text : List Char) :
    ('@' ∉ text ∧ ofReference text = .reference text (Text.trim text) none) ∨
    (∃ left right, text = left ++ '@' :: right ∧ '@' ∉ left ∧ '@' ∉ right ∧
      ofReference text = .reference text (Text.trim left) (some (Text.trim right))) ∨
    ∃ error, ofReference text = .malformed error := by
  by_cases hat : '@' ∈ text
  · obtain ⟨left, right, rfl, hleft⟩ := List.eq_append_cons_of_mem hat
    by_cases hright : '@' ∈ right
    · obtain ⟨middle, last, rfl, hmiddle⟩ := List.eq_append_cons_of_mem hright
      obtain ⟨part, parts, hlast⟩ := List.exists_cons_of_ne_nil
        (List.splitOnP_ne_nil (· == '@') last)
      refine .inr (.inr ?_)
      rw [ofReference, List.splitOnP_append_cons_of_forall_mem (at_ne_of_not_mem hleft) _ (by simp),
        List.splitOnP_append_cons_of_forall_mem (at_ne_of_not_mem hmiddle) _ (by simp), hlast]
      exact ⟨_, rfl⟩
    · exact .inr (.inl ⟨left, right, rfl, hleft, hright, ofReference_sourced hleft hright⟩)
  · exact .inl ⟨hat, ofReference_name hat⟩

end Expr

end TimeSeries
