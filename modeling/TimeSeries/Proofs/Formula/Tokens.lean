import TimeSeries.Decimal.Numeral
import TimeSeries.Formula.Expr
import TimeSeries.Proofs.Text.Ascii

set_option autoImplicit false

/-!
# Tokens

Words, numerals and quoted texts as formulas write them, and the values of numerals.
-/
namespace TimeSeries

/-- ASCII letters and digits, the first of them a letter. -/
structure Word where
  first : Char
  others : List Char
  first_isAlpha : first.isAlpha = true
  others_isAlphanum : ∀ c ∈ others, c.isAlphanum = true

namespace Word

def text (word : Word) : List Char := word.first :: word.others

def name (word : Word) : String := String.ofList word.text

theorem isAlphanum (word : Word) : ∀ c ∈ word.text, c.isAlphanum = true := by
  intro c hc
  rcases List.mem_cons.1 hc with rfl | hc
  · simp [Char.isAlphanum, word.first_isAlpha]
  · exact word.others_isAlphanum c hc

end Word

structure Literal where
  content : List Char
  not_mem_quote : '"' ∉ content

def Literal.text (literal : Literal) : List Char := '"' :: (literal.content ++ ['"'])

structure Digits where
  chars : List Char
  ne_nil : chars ≠ []
  isDigit : ∀ c ∈ chars, c.isDigit = true

/-- The exponent of a numeral, with a sign or without. -/
structure Exponent where
  letter : Char
  sign : Option Char
  digits : Digits
  letter_eq : letter = 'e' ∨ letter = 'E'
  sign_eq : ∀ c ∈ sign, c = '+' ∨ c = '-'

namespace Exponent

def text (exponent : Exponent) : List Char :=
  exponent.letter :: (exponent.sign.toList ++ exponent.digits.chars)

def value (exponent : Exponent) : Int :=
  let magnitude : Int := Decimal.digitsValue exponent.digits.chars
  if exponent.sign = some '-' then -magnitude else magnitude

end Exponent

/-- An unsigned decimal numeral; there may be no digits behind its point. -/
structure Numeral where
  whole : Digits
  fraction : Option (List Char)
  exponent : Option Exponent
  fraction_isDigit : ∀ digits ∈ fraction, ∀ c ∈ digits, c.isDigit = true

namespace Numeral

def decimals (numeral : Numeral) : List Char := numeral.fraction.getD []

def mantissa (numeral : Numeral) : List Char :=
  match numeral.fraction with
  | some digits => numeral.whole.chars ++ '.' :: digits
  | none => numeral.whole.chars

def text (numeral : Numeral) : List Char :=
  numeral.mantissa ++ (numeral.exponent.map Exponent.text).getD []

/-- The double nearest to the number that the digits and the exponent name. -/
def value (numeral : Numeral) : Float :=
  Decimal.nearest (Decimal.digitsValue (numeral.whole.chars ++ numeral.decimals))
    ((numeral.exponent.map Exponent.value).getD 0 - numeral.decimals.length)

theorem exists_cons (numeral : Numeral) :
    ∃ c rest, c.isDigit = true ∧ numeral.text = c :: rest := by
  obtain ⟨⟨whole, hne, hwhole⟩, fraction, exponent, hfraction⟩ := numeral
  cases whole with
  | nil => exact absurd rfl hne
  | cons c rest =>
    have hc := hwhole c (by simp)
    cases fraction with
    | none => exact ⟨c, _, hc, rfl⟩
    | some digits => exact ⟨c, _, hc, rfl⟩

end Numeral

namespace Decimal

theorem not_isDigit_of_mem_letters {c : Char} (h : c = 'e' ∨ c = 'E') : c.isDigit = false := by
  rcases h with rfl | rfl <;> decide

theorem readExponent_text (exponent : Exponent) :
    readExponent exponent.text = some exponent.value := by
  obtain ⟨letter, sign, ⟨digits, hne, hdigits⟩, hletter, hsign⟩ := exponent
  have hall : digits.all Char.isDigit = true := List.all_eq_true.2 hdigits
  cases sign with
  | some c =>
    rcases hsign c rfl with rfl | rfl
    · simp [Exponent.text, Exponent.value, readExponent, hletter, hne, hall]
    · simp [Exponent.text, Exponent.value, readExponent, hletter, hne, hall]
  | none =>
    cases digits with
    | nil => exact absurd rfl hne
    | cons d rest =>
      have hd : d.isDigit = true := hdigits d (by simp)
      have hplus : d ≠ '+' := by rintro rfl; exact absurd hd (by decide)
      have hminus : d ≠ '-' := by rintro rfl; exact absurd hd (by decide)
      simp only [Exponent.text, Exponent.value, readExponent, Option.toList_none, List.nil_append]
      split
      · rename_i heq
        exact absurd (List.cons.inj heq).1 hminus
      · rename_i heq
        exact absurd (List.cons.inj heq).1 hplus
      · simp [hletter, hall]

theorem takeWhile_isDigit_append {digits rest : List Char} (hd : ∀ c ∈ digits, c.isDigit = true)
    (hr : ∀ c ∈ rest.head?, c.isDigit = false) :
    (digits ++ rest).takeWhile Char.isDigit = digits ∧
      (digits ++ rest).dropWhile Char.isDigit = rest := by
  have hstop : rest.takeWhile Char.isDigit = [] ∧ rest.dropWhile Char.isDigit = rest := by
    cases rest with
    | nil => exact ⟨rfl, rfl⟩
    | cons c tail =>
      have hc := hr c rfl
      simp [hc]
  rw [List.takeWhile_append_of_pos hd, List.dropWhile_append_of_pos hd, hstop.1, hstop.2]
  exact ⟨List.append_nil digits, rfl⟩

theorem readUnsigned_text (numeral : Numeral) :
    readUnsigned numeral.text = some numeral.value := by
  obtain ⟨⟨whole, hne, hwhole⟩, fraction, exponent, hfraction⟩ := numeral
  have hexponent : readExponent ((exponent.map Exponent.text).getD []) =
      some ((exponent.map Exponent.value).getD 0) := by
    cases exponent with
    | none => rfl
    | some exponent => exact readExponent_text exponent
  have hhead : ∀ c ∈ ((exponent.map Exponent.text).getD []).head?, c.isDigit = false := by
    intro c hc
    cases exponent with
    | none => cases hc
    | some exponent =>
      cases hc
      exact not_isDigit_of_mem_letters exponent.letter_eq
  cases fraction with
  | some digits =>
    have hdigits := takeWhile_isDigit_append (hfraction digits rfl) hhead
    have hpoint := @takeWhile_isDigit_append _ ('.' :: (digits ++
      (exponent.map Exponent.text).getD [])) hwhole (by simp)
    simp only [Numeral.text, Numeral.mantissa, Numeral.value, Numeral.decimals, readUnsigned,
      List.append_assoc, List.cons_append, hpoint.1, hpoint.2, hdigits.1, hdigits.2, hexponent]
    simp [hne]
  | none =>
    have hrest := takeWhile_isDigit_append hwhole hhead
    have hpoint : ∀ tail, (exponent.map Exponent.text).getD [] ≠ '.' :: tail := by
      intro tail heq
      cases exponent with
      | none => cases heq
      | some exponent =>
        have hletter := exponent.letter_eq
        have hdot : exponent.letter = '.' := (List.cons.inj heq).1
        rw [hdot] at hletter
        simp at hletter
    simp only [Numeral.text, Numeral.mantissa, Numeral.value, Numeral.decimals, readUnsigned,
      hrest.1, hrest.2]
    simp [hne, hexponent]

theorem exists_of_readExponent {text : List Char} {n : Int} (h : readExponent text = some n) :
    ∃ exponent : Option Exponent, text = (exponent.map Exponent.text).getD [] := by
  revert h
  fun_cases readExponent text with
  | case1 => exact fun _ => ⟨none, rfl⟩
  | case2 letter rest negative digits hsplit hread =>
    intro _
    obtain ⟨hletter, hne, hall⟩ := hread
    have hrest : ∃ sign : Option Char, rest = sign.toList ++ digits ∧ ∀ c ∈ sign, c = '+' ∨ c = '-' := by
      split at hsplit
      · cases hsplit
        exact ⟨some '-', rfl, by simp⟩
      · cases hsplit
        exact ⟨some '+', rfl, by simp⟩
      · cases hsplit
        exact ⟨none, rfl, by simp⟩
    obtain ⟨sign, rfl, hsign⟩ := hrest
    exact ⟨some ⟨letter, sign, ⟨digits, hne, List.all_eq_true.1 hall⟩, hletter, hsign⟩, rfl⟩
  | case3 => nofun

theorem exists_of_readUnsigned {text : List Char} {x : Float} (h : readUnsigned text = some x) :
    ∃ (mantissa : List Char) (exponent : Option Exponent),
      text = mantissa ++ (exponent.map Exponent.text).getD [] ∧
      (∀ c ∈ mantissa, c.isDigit = true ∨ c = '.') ∧ ∃ c ∈ mantissa, c.isDigit = true := by
  have hdigits {digits : List Char} {c : Char} (hc : c ∈ digits.takeWhile Char.isDigit) :
      c.isDigit = true := List.all_eq_true.1 List.all_takeWhile c hc
  revert h
  fun_cases readUnsigned text with
  | case1 => nofun
  | case2 whole fraction rest hsplit hne =>
    intro h
    obtain ⟨_, hexponent, -⟩ := Option.map_eq_some_iff.1 h
    obtain ⟨exponent, hrest⟩ := exists_of_readExponent hexponent
    have hparts : ∃ point, text = whole ++ point ++ fraction ++ rest ∧ (∀ c ∈ point, c = '.') ∧
        ∀ c ∈ fraction, c.isDigit = true := by
      have htext := List.takeWhile_append_dropWhile (p := Char.isDigit) (l := text)
      split at hsplit
      · rename_i tail hpoint
        cases hsplit
        have htail := List.takeWhile_append_dropWhile (p := Char.isDigit) (l := tail)
        refine ⟨['.'], ?_, by simp, fun c => hdigits⟩
        simp only [List.append_assoc, htail]
        rwa [hpoint, eq_comm] at htext
      · cases hsplit
        refine ⟨[], ?_, by simp, by simp⟩
        rw [List.append_nil, List.append_nil]
        exact htext.symm
    obtain ⟨point, htext, hpoint, hfraction⟩ := hparts
    refine ⟨whole ++ point ++ fraction, exponent, hrest ▸ htext, fun c hc => ?_, ?_⟩
    · simp only [List.mem_append] at hc
      rcases hc with (hc | hc) | hc
      · exact .inl (hdigits hc)
      · exact .inr (hpoint c hc)
      · exact .inl (hfraction c hc)
    · have hsome : whole ≠ [] ∨ fraction ≠ [] := by
        by_contra hnone
        exact hne (by simpa using hnone)
      rcases hsome with hsome | hsome
      · obtain ⟨c, hc⟩ := List.exists_mem_of_ne_nil whole hsome
        exact ⟨c, by simp [hc], hdigits hc⟩
      · obtain ⟨c, hc⟩ := List.exists_mem_of_ne_nil fraction hsome
        exact ⟨c, by simp [hc], hfraction c hc⟩

theorem readWord_eq_none {c : Char} (hc : c.isDigit = true ∨ c = '.') (rest : List Char) :
    readWord (c :: rest) = none := by
  have hlower : c.toLower = c := by
    rcases hc with hc | rfl
    · exact Text.toLower_of_isDigit hc
    · rfl
  have hhead (d : Char) (tail : String) (hd : d.isDigit = false ∧ d ≠ '.') :
      String.ofList ((c :: rest).map Char.toLower) ≠ String.ofList (d :: tail.toList) := by
    intro heq
    have hchars := String.ofList_injective heq
    rw [List.map_cons, hlower, List.cons.injEq] at hchars
    rw [hchars.1, hd.1] at hc
    exact hc.elim nofun hd.2
  unfold readWord
  split
  · rename_i heq
    exact absurd heq (hhead 'i' "nf" (by decide))
  · rename_i heq
    exact absurd heq (hhead 'i' "nfinity" (by decide))
  · rename_i heq
    exact absurd heq (hhead 'n' "an" (by decide))
  · rfl

theorem read_cons {c : Char} (hc : c.isDigit = true ∨ c = '.') (rest : List Char) :
    read (c :: rest) = readUnsigned (c :: rest) := by
  have hplus : c ≠ '+' := by
    rintro rfl
    exact absurd hc (by decide)
  have hminus : c ≠ '-' := by
    rintro rfl
    exact absurd hc (by decide)
  unfold read
  split
  · rename_i heq
    exact absurd (List.cons.inj heq).1 hminus
  · rename_i heq
    exact absurd (List.cons.inj heq).1 hplus
  · simp only [readWord_eq_none hc, Option.none_or]

theorem read_text (numeral : Numeral) : read numeral.text = some numeral.value := by
  obtain ⟨c, rest, hc, htext⟩ := numeral.exists_cons
  rw [htext, read_cons (.inl hc), ← htext, readUnsigned_text]

end Decimal

end TimeSeries
