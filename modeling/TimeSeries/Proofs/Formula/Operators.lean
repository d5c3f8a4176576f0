import TimeSeries.Formula.Split
import TimeSeries.Proofs.Formula.Marking
import TimeSeries.Proofs.Text.Ascii
import TimeSeries.Proofs.Text.Trimming

set_option autoImplicit false

/-!
# Where operators are binary

Whether an operator has a left operand is decided by the text before it, read backwards. The
decision looks no further back than to the nearest character that ends a token, so it stays the
same when the text is cut behind an operator or loses blanks at its ends.
-/
namespace TimeSeries

theorem Operator.eq_symbol_of_ofSymbol? {c : Char} {op : Operator} (h : ofSymbol? c = some op) :
    c = op.symbol := by
  unfold ofSymbol? at h
  split at h <;> cases h <;> rfl

@[simp] theorem Operator.ofSymbol?_symbol (op : Operator) : ofSymbol? op.symbol = some op := by
  cases op <;> rfl

theorem Operator.isPlain_symbol (op : Operator) : IsPlain op.symbol := by
  cases op <;> simp [Operator.symbol, IsPlain]

theorem Operator.isBlank_symbol (op : Operator) : Text.isBlank op.symbol = false := by
  cases op <;> decide

theorem isPlain_of_isBlank {c : Char} (h : Text.isBlank c = true) : IsPlain c := by
  refine ⟨?_, ?_, ?_⟩ <;>
  · rintro rfl
    exact absurd h (by decide)

theorem Operator.ofSymbol?_of_isBlank {c : Char} (h : Text.isBlank c = true) :
    ofSymbol? c = none := by
  cases hs : ofSymbol? c with
  | none => rfl
  | some op =>
    rw [Operator.eq_symbol_of_ofSymbol? hs, Operator.isBlank_symbol] at h
    cases h

namespace OperatorSplit

/-- The reversed text ends no token that a word or a number behind it would run into. -/
def Fresh (before : List Char) : Prop :=
  ∀ c ∈ before.head?, c.isAlphanum = false ∧ isMantissa c = false

theorem fresh_nil : Fresh [] := by
  intro c hc
  cases hc

theorem fresh_cons {c : Char} (hc : c.isAlphanum = false ∧ isMantissa c = false)
    (before : List Char) : Fresh (c :: before) := by
  intro d hd
  cases hd
  exact hc

theorem fresh_symbol (op : Operator) (before : List Char) : Fresh (op.symbol :: before) :=
  fresh_cons (by cases op <;> decide) before

theorem not_token_of_isBlank {c : Char} (h : Text.isBlank c = true) :
    c.isAlphanum = false ∧ isMantissa c = false := by
  have hword : c.isAlphanum = false := by
    by_contra hc
    have hsolid := Text.isBlank_of_isAlphanum (by simpa using hc)
    rw [h] at hsolid
    cases hsolid
  have hdigit : c.isDigit = false := by
    simp only [Char.isAlphanum, Bool.or_eq_false_iff] at hword
    exact hword.2
  have hdot : c ≠ '.' := by
    rintro rfl
    exact absurd h (by decide)
  exact ⟨hword, by simp [isMantissa, hdigit, hdot]⟩

theorem fresh_of_blanks {blanks before : List Char} (hb : Text.Blanks blanks)
    (h : Fresh before) : Fresh (blanks ++ before) := by
  cases blanks with
  | nil => exact h
  | cons c rest => exact fresh_cons (not_token_of_isBlank (hb c (by simp))) _

theorem isExponentSign_append {text : List Char} (ht : text ≠ []) {before : List Char}
    (hf : Fresh before) (c : Char) :
    isExponentSign (text ++ before) c = isExponentSign text c := by
  cases text with
  | nil => exact absurd rfl ht
  | cons e mantissa =>
    have hstop : before.takeWhile isMantissa = [] ∧ before.dropWhile isMantissa = before := by
      cases before with
      | nil => exact ⟨rfl, rfl⟩
      | cons d rest =>
        have hd := (hf d rfl).2
        simp [hd]
    have hhead : before.head?.any Char.isAlphanum = false := by
      cases before with
      | nil => rfl
      | cons d rest => exact (hf d rfl).1
    simp only [List.cons_append, isExponentSign]
    by_cases hall : ∀ d ∈ mantissa, isMantissa d
    · rw [List.takeWhile_append_of_pos hall, List.dropWhile_append_of_pos hall, hstop.1, hstop.2,
        List.append_nil, List.takeWhile_eq_self_iff.2 hall, List.dropWhile_eq_nil_iff.2 hall, hhead]
      rfl
    · have hdrop : mantissa.dropWhile isMantissa ≠ [] := fun hn =>
        hall (List.dropWhile_eq_nil_iff.1 hn)
      have htake : (mantissa.takeWhile isMantissa).length ≠ mantissa.length := by
        intro hlen
        have hsum := congrArg List.length
          (List.takeWhile_append_dropWhile (p := isMantissa) (l := mantissa))
        rw [List.length_append, hlen] at hsum
        exact hdrop (List.length_eq_zero_iff.1 (by omega))
      rw [List.takeWhile_append, if_neg htake, List.dropWhile_append,
        if_neg (by simpa [List.isEmpty_iff] using hdrop), List.head?_append]
      cases hd : mantissa.dropWhile isMantissa with
      | nil => exact absurd hd hdrop
      | cons d rest => rfl

/-- What stands before a token decides nothing about the operators behind the token. -/
theorem isBinary_append {text : List Char} (ht : ¬ Text.Blanks text) {before : List Char}
    (hf : Fresh before) (c : Char) : isBinary (text ++ before) c = isBinary text c := by
  have hne : text ≠ [] := by
    rintro rfl
    exact ht Text.blanks_nil
  have hdrop : text.dropWhile Text.isBlank ≠ [] := fun hn => ht (List.dropWhile_eq_nil_iff.1 hn)
  unfold isBinary
  rw [isExponentSign_append hne hf, List.dropWhile_append,
    if_neg (by simpa [List.isEmpty_iff] using hdrop)]
  cases hd : text.dropWhile Text.isBlank with
  | nil => exact absurd hd hdrop
  | cons previous rest => rfl

theorem isBinary_of_blanks {blanks : List Char} (hb : Text.Blanks blanks) (c : Char) :
    isBinary blanks c = false := by
  rw [isBinary, List.dropWhile_eq_nil_iff.2 hb]

/-- Cutting a text behind an operator makes no operator binary. -/
theorem isBinary_cut {text : List Char} {op : Operator} {before : List Char} {c : Char}
    (h : isBinary (text ++ op.symbol :: before) c = false) : isBinary text c = false := by
  by_cases hb : Text.Blanks text
  · exact isBinary_of_blanks hb c
  · rwa [isBinary_append hb (fresh_symbol op before)] at h

theorem isBinary_append_blanks (text : List Char) {blanks : List Char}
    (hb : Text.Blanks blanks) (c : Char) : isBinary (text ++ blanks) c = isBinary text c := by
  by_cases ht : Text.Blanks text
  · rw [isBinary_of_blanks ht, isBinary_of_blanks (ht.append hb)]
  · have hf : Fresh blanks := by simpa using fresh_of_blanks hb fresh_nil
    exact isBinary_append ht hf c

end OperatorSplit

end TimeSeries
