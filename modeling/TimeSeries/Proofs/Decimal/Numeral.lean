import TimeSeries.Decimal.Numeral
import TimeSeries.Proofs.Text.Ascii
import TimeSeries.Proofs.Text.Trimming
import TimeSeries.Text.Case

set_option autoImplicit false

/-!
# The text of a number

The decimal digits of a number have its value, also with zeros in front. The text of a finite number
consists of digits, at most with a sign and a point, and has at least one digit. So it needs no
trimming and is no word.
-/
namespace TimeSeries.Decimal

theorem digitsValue_eq (digits : List Char) : digitsValue digits = Nat.ofDigitChars 10 digits 0 :=
  Nat.ofDigitChars_eq_foldl.symm

theorem digitsValue_toDigits (n : Nat) : digitsValue (Nat.toDigits 10 n) = n := by
  rw [digitsValue_eq, Nat.ofDigitChars_ten_toDigits]

theorem digitsValue_replicate_zero (count : Nat) (digits : List Char) :
    digitsValue (List.replicate count '0' ++ digits) = digitsValue digits := by
  rw [digitsValue_eq, digitsValue_eq, Nat.ofDigitChars_append, Nat.ofDigitChars_replicate_zero,
    Nat.mul_zero]

theorem isDigit_toDigits (n : Nat) : ∀ c ∈ Nat.toDigits 10 n, c.isDigit = true :=
  fun _ hc => Nat.isDigit_of_mem_toDigits (by decide) (by decide) hc

theorem isNaN_of_isFinite {x : Float} (h : x.isFinite = true) : x.isNaN = false := by
  change x.toModel.unpack.isFinite = true at h
  change x.toModel.unpack.isNaN = false
  cases hx : x.toModel.unpack with
  | notANumber =>
    rw [hx] at h
    cases h
  | _ => rfl

theorem isDigit_fractionDigits {n places : Nat} {c : Char} (hc : c ∈ fractionDigits n places) :
    c.isDigit = true := by
  have hmem := (List.dropWhile_suffix (· == '0')).subset (List.mem_reverse.1 hc)
  rcases List.mem_append.1 (List.mem_reverse.1 hmem) with h | h
  · rw [List.eq_of_mem_replicate h]
    decide
  · exact isDigit_toDigits n c h

theorem positional_eq (units places : Nat) :
    ∃ c rest, positional units places = c :: rest ∧ c.isDigit = true ∧
      ∀ d ∈ rest, d.isDigit = true ∨ d = '.' := by
  have hdigits := isDigit_toDigits (units / Nat.pow 10 places)
  cases hwhole : Nat.toDigits 10 (units / Nat.pow 10 places) with
  | nil => exact absurd hwhole Nat.toDigits_ne_nil
  | cons c whole =>
    rw [hwhole] at hdigits
    have hc := hdigits c List.mem_cons_self
    have hrest (d : Char) (hd : d ∈ whole) : d.isDigit = true ∨ d = '.' :=
      Or.inl (hdigits d (List.mem_cons_of_mem _ hd))
    rw [positional, hwhole]
    split
    · exact ⟨c, whole, rfl, hc, hrest⟩
    · refine ⟨c, whole ++ '.' :: fractionDigits (units % Nat.pow 10 places) places, rfl, hc, ?_⟩
      intro d hd
      rcases List.mem_append.1 hd with hd | hd
      · exact hrest d hd
      · rcases List.mem_cons.1 hd with rfl | hd
        · exact Or.inr rfl
        · exact Or.inl (isDigit_fractionDigits hd)

theorem write_eq {x : Float} (h : x.isFinite = true) :
    ∃ sign c rest, (write x).toList = sign ++ c :: rest ∧ (∀ d ∈ sign, d = '-') ∧
      c.isDigit = true ∧ ∀ d ∈ rest, d.isDigit = true ∨ d = '.' := by
  obtain ⟨c, rest, heq, hc, hrest⟩ :=
    positional_eq (Exact.ofFloat x).shortest (Exact.ofFloat x).places
  rw [write, isNaN_of_isFinite h, h]
  simp only [Bool.false_eq_true, if_false, if_true, String.toList_ofList, heq]
  split
  · exact ⟨['-'], c, rest, rfl, by simp, hc, hrest⟩
  · exact ⟨[], c, rest, rfl, by simp, hc, hrest⟩

theorem isBlank_write {x : Float} (h : x.isFinite = true) {c : Char} (hc : c ∈ (write x).toList) :
    Text.isBlank c = false := by
  obtain ⟨sign, d, rest, heq, hsign, hd, hrest⟩ := write_eq h
  rw [heq] at hc
  rcases List.mem_append.1 hc with hc | hc
  · rw [hsign c hc]
    decide
  · rcases List.mem_cons.1 hc with rfl | hc
    · exact Text.isBlank_of_isDigit hd
    · rcases hrest c hc with hc | rfl
      · exact Text.isBlank_of_isDigit hc
      · decide

theorem trim_write {x : Float} (h : x.isFinite = true) :
    Text.trim (write x).toList = (write x).toList :=
  Text.trim_eq_self (Text.hasSolidEnds_of_forall fun _ hc => isBlank_write h hc)

theorem sameIgnoringAsciiCase_write {x : Float} (h : x.isFinite = true) {word : List Char}
    (hword : (word.map Char.toLower).any Char.isDigit = false) :
    Text.sameIgnoringAsciiCase word (write x).toList = false := by
  obtain ⟨sign, c, rest, heq, -, hc, -⟩ := write_eq h
  rw [Text.sameIgnoringAsciiCase, beq_eq_false_iff_ne]
  intro hsame
  have hmem : c ∈ word.map Char.toLower := by
    rw [hsame, heq, List.map_append, List.map_cons, Text.toLower_of_isDigit hc]
    simp
  exact List.any_eq_false.1 hword c hmem hc

end TimeSeries.Decimal
