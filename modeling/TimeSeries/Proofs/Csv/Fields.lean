import TimeSeries.Csv.Table
import TimeSeries.Proofs.Outcome
import TimeSeries.Proofs.Text.Trimming
import TimeSeries.Proofs.Text.Utf8

set_option autoImplicit false

/-!
# Texts as fields

A text in UTF-8 loses ASCII blanks at its ends as a text does, because no other character has a
byte that is an ASCII blank. So trimming bytes first makes no difference to the trimmed text.
-/
namespace TimeSeries.Csv

open Text

def isAsciiBlankChar (c : Char) : Bool := [9, 10, 12, 13, 32].contains c.toNat

theorem isBlank_of_isAsciiBlankChar {c : Char} (h : isAsciiBlankChar c = true) :
    isBlank c = true := by
  simp only [isAsciiBlankChar, List.contains_iff_mem, List.mem_cons, List.not_mem_nil, or_false] at h
  simp only [isBlank, blankRanges, Ranges.holds, List.any_cons, List.any_nil, Bool.or_false,
    Bool.or_eq_true, Bool.and_eq_true, decide_eq_true_eq]
  omega

theorem isAsciiBlank_eq (byte : UInt8) :
    isAsciiBlank byte = [9, 10, 12, 13, 32].contains byte.toNat := by
  simp [isAsciiBlank, ← UInt8.toNat_inj]

theorem isAsciiBlank_utf8EncodeChar (c : Char) :
    ∀ byte ∈ String.utf8EncodeChar c, isAsciiBlank byte = isAsciiBlankChar c := by
  intro byte hbyte
  rw [isAsciiBlank_eq, isAsciiBlankChar]
  by_cases h : c.toNat ≤ 127
  · rw [utf8EncodeChar_of_ascii h, List.mem_singleton] at hbyte
    rw [hbyte, UInt8.toNat_ofNat', Nat.mod_eq_of_lt (by omega)]
  · have hle := le_toNat_of_mem_utf8EncodeChar (Nat.not_le.1 h) hbyte
    rw [Bool.eq_iff_iff]
    simp only [List.contains_iff_mem, List.mem_cons, List.not_mem_nil, or_false]
    omega

theorem dropWhile_flatMap {α β : Type} {p : β → Bool} {q : α → Bool} {f : α → List β}
    (hne : ∀ a, f a ≠ []) (h : ∀ a, ∀ b ∈ f a, p b = q a) (text : List α) :
    (text.flatMap f).dropWhile p = (text.dropWhile q).flatMap f := by
  induction text with
  | nil => rfl
  | cons a text ih =>
    rw [List.flatMap_cons, List.dropWhile_cons]
    by_cases ha : q a = true
    · rw [if_pos ha, List.dropWhile_append_of_pos fun b hb => (h a b hb).trans ha, ih]
    · rw [if_neg ha, List.flatMap_cons]
      cases hfirst : f a with
      | nil => exact absurd hfirst (hne a)
      | cons b rest =>
        have hb : p b = q a := h a b (by rw [hfirst]; exact List.mem_cons_self)
        rw [List.cons_append, List.dropWhile_cons_of_neg (by rw [hb]; exact ha)]

theorem utf8EncodeChar_ne_nil (c : Char) : String.utf8EncodeChar c ≠ [] := by
  rw [← List.length_pos_iff, String.length_utf8EncodeChar]
  exact c.utf8Size_pos

theorem trim_dropWhile {q : Char → Bool} (hq : ∀ c, q c = true → isBlank c = true)
    (text : List Char) : trim (text.dropWhile q) = trim text := by
  have hpre : Blanks (text.takeWhile q) := fun c hc => hq c (List.mem_takeWhile_imp hc)
  have h := @trim_between _ (text.dropWhile q) [] hpre blanks_nil
  rw [List.append_nil, List.takeWhile_append_dropWhile] at h
  exact h.symm

theorem trim_rdropWhile {q : Char → Bool} (hq : ∀ c, q c = true → isBlank c = true)
    (text : List Char) : trim (text.reverse.dropWhile q).reverse = trim text := by
  have hpost : Blanks (text.reverse.takeWhile q).reverse :=
    fun c hc => hq c (List.mem_takeWhile_imp (List.mem_reverse.1 hc))
  have h := @trim_between [] (text.reverse.dropWhile q).reverse _ blanks_nil hpost
  rw [List.nil_append, ← List.reverse_append, List.takeWhile_append_dropWhile,
    List.reverse_reverse] at h
  exact h.symm

theorem trimField_encode (text : List Char) :
    ∃ inner, trimField (encode text) = encode inner ∧ trim inner = trim text := by
  let inner := text.dropWhile isAsciiBlankChar
  have hstart : (encode text).dropWhile isAsciiBlank = encode inner :=
    dropWhile_flatMap utf8EncodeChar_ne_nil isAsciiBlank_utf8EncodeChar text
  have hend : (encode inner).reverse.dropWhile isAsciiBlank =
      (inner.reverse.dropWhile isAsciiBlankChar).flatMap
        (List.reverse ∘ String.utf8EncodeChar) := by
    rw [encode, List.reverse_flatMap]
    refine dropWhile_flatMap (fun c => ?_) (fun c byte hbyte => ?_) _
    · simp [utf8EncodeChar_ne_nil c]
    · exact isAsciiBlank_utf8EncodeChar c byte (List.mem_reverse.1 hbyte)
  refine ⟨(inner.reverse.dropWhile isAsciiBlankChar).reverse, ?_, ?_⟩
  · rw [trimField, hstart, hend, List.reverse_flatMap, encode]
    simp [Function.comp_def]
  · rw [trim_rdropWhile fun _ => isBlank_of_isAsciiBlankChar,
      trim_dropWhile fun _ => isBlank_of_isAsciiBlankChar]

theorem decodeFields_map {f : List Char → Field}
    (h : ∀ text, ∃ inner, f text = encode inner ∧ trim inner = trim text)
    (position : RecordPosition) (index : Nat) (texts : List (List Char)) :
    decodeFields position index (texts.map f) = .ok (texts.map trim) := by
  induction texts generalizing index with
  | nil => rfl
  | cons text texts ih =>
    obtain ⟨inner, hf, htrim⟩ := h text
    rw [List.map_cons, hf, decodeFields, decode_encode, ih]
    simp only [Except.map, htrim, List.map_cons]

end TimeSeries.Csv
