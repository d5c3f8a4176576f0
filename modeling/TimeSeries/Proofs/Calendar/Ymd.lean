import Mathlib.Algebra.Ring.Nat
import Mathlib.Data.List.Basic
import TimeSeries.Calendar.Reader
import TimeSeries.Proofs.Calendar.Order
import TimeSeries.Proofs.Decimal.Numeral
import TimeSeries.Proofs.Text.Ascii
import TimeSeries.Proofs.Text.Trimming

set_option autoImplicit false

/-!
# Dates as year, month and day

A date that is written with the pattern of year, month and day is read back as itself: years of four
digits as well as longer and negative ones, which carry a sign.
-/
namespace TimeSeries

open Decimal

theorem readDigits_append {digits rest : List Char} (hne : digits ≠ [])
    (hdigits : ∀ c ∈ digits, c.isDigit = true) (hrest : ∀ c ∈ rest.head?, c.isDigit = false)
    (hvalue : digitsValue digits ≤ largestNumber) :
    readDigits none (digits ++ rest) = .ok (digitsValue digits, rest) := by
  have htake : (digits ++ rest).takeWhile Char.isDigit = digits := by
    rw [List.takeWhile_append_of_pos hdigits]
    cases rest with
    | nil => simp
    | cons c tail =>
      have hc := hrest c rfl
      simp [hc]
  have hwhole : digits ++ rest ≠ [] := by simp [hne]
  simp only [readDigits, Option.map_none, Option.getD_none, htake, hwhole, hne, if_false,
    Nat.not_lt.2 hvalue, List.drop_left]

theorem readDigits_width {digits rest : List Char} {width : Nat} (hne : digits ≠ [])
    (hdigits : ∀ c ∈ digits, c.isDigit = true) (hlen : digits.length = width)
    (hvalue : digitsValue digits ≤ largestNumber) :
    readDigits (some width) (digits ++ rest) = .ok (digitsValue digits, rest) := by
  have htake : (digits ++ rest).take width = digits := by rw [← hlen, List.take_left]
  have hall : digits.takeWhile Char.isDigit = digits := List.takeWhile_eq_self_iff.2 hdigits
  have hwhole : digits ++ rest ≠ [] := by simp [hne]
  simp only [readDigits, Option.map_some, Option.getD_some, htake, hall, hwhole, hne, if_false,
    Nat.not_lt.2 hvalue, List.drop_left]

theorem trimStart_digits {digits : List Char} (hne : digits ≠ [])
    (hdigits : ∀ c ∈ digits, c.isDigit = true) (rest : List Char) :
    Text.trimStart (digits ++ rest) = digits ++ rest := by
  cases digits with
  | nil => exact absurd rfl hne
  | cons c tail =>
    refine Text.trimStart_eq_self fun d hd => ?_
    cases hd
    exact Text.isBlank_of_isDigit (hdigits c (by simp))

theorem padLeft_toDigits (width n : Nat) :
    let digits := Pattern.padLeft '0' width (Nat.toDigits 10 n)
    digits ≠ [] ∧ (∀ c ∈ digits, c.isDigit = true) ∧ digitsValue digits = n := by
  refine ⟨?_, ?_, ?_⟩
  · simp [Pattern.padLeft, Nat.toDigits_ne_nil]
  · intro c hc
    rcases List.mem_append.1 hc with hc | hc
    · rw [List.eq_of_mem_replicate hc]
      decide
    · exact isDigit_toDigits n c hc
  · rw [Pattern.padLeft, digitsValue_replicate_zero, digitsValue_toDigits]

theorem length_padLeft {width n : Nat} (hw : 0 < width) (h : n < 10 ^ width) :
    (Pattern.padLeft '0' width (Nat.toDigits 10 n)).length = width := by
  have hle : (Nat.toDigits 10 n).length ≤ width :=
    (Nat.length_toDigits_le_iff (by decide) hw).2 h
  rw [Pattern.padLeft, List.length_append, List.length_replicate]
  omega

theorem readYear_writeYear {year : Int} (hfirst : firstYear ≤ year) (hlast : year ≤ lastYear)
    (rest : List Char) :
    readYear (Pattern.writeYear .zeros year ++ '-' :: rest) = .ok (year, '-' :: rest) := by
  have hbound : year.natAbs ≤ 262143 := by
    simp only [firstYear, lastYear] at hfirst hlast
    omega
  obtain ⟨hne, hdigits, hvalue⟩ := padLeft_toDigits 4 year.natAbs
  have hsmall : digitsValue (Pattern.padLeft '0' 4 (Nat.toDigits 10 year.natAbs)) ≤ largestNumber := by
    rw [hvalue, largestNumber]
    omega
  by_cases hshort : 0 ≤ year ∧ year ≤ 9999
  · have hnat : year.toNat = year.natAbs := by omega
    have hlen := @length_padLeft 4 year.natAbs (by decide) (by omega)
    have hread := @readDigits_width _ ('-' :: rest) 4 hne hdigits hlen hsmall
    rw [Pattern.writeYear, if_pos hshort, Pattern.paddedNumber, hnat]
    generalize Pattern.padLeft '0' 4 (Nat.toDigits 10 year.natAbs) = digits at *
    cases digits with
    | nil => exact absurd rfl hne
    | cons c tail =>
      have hc : c.isDigit = true := hdigits c (by simp)
      have hplus : c ≠ '+' := by rintro rfl; exact absurd hc (by decide)
      have hminus : c ≠ '-' := by rintro rfl; exact absurd hc (by decide)
      unfold readYear
      split
      · rename_i heq
        exact absurd (List.cons.inj heq).1 hminus
      · rename_i heq
        exact absurd (List.cons.inj heq).1 hplus
      · rw [hread, hvalue]
        simp only [Except.map, Except.ok.injEq, Prod.mk.injEq, and_true]
        omega
  · have hread := @readDigits_append _ ('-' :: rest) hne hdigits (by simp) hsmall
    rw [Pattern.writeYear, if_neg hshort]
    by_cases hneg : year < 0
    · simp only [hneg, if_true, Pattern.paddedNumber, List.cons_append, readYear, hread, hvalue,
        Except.map, Except.ok.injEq, Prod.mk.injEq, and_true]
      omega
    · simp only [hneg, if_false, Pattern.paddedNumber, List.cons_append, readYear, hread, hvalue,
        Except.map, Except.ok.injEq, Prod.mk.injEq, and_true]
      omega

theorem writeTwo_zeros {n : Nat} (hn : n < 100) : let digits := Pattern.writeTwo .zeros n
    digits ≠ [] ∧ (∀ c ∈ digits, c.isDigit = true) ∧ digits.length = 2 ∧ digitsValue digits = n := by
  have hall : ∀ m < 100, let digits := Pattern.writeTwo .zeros (m : Nat)
      digits.all Char.isDigit = true ∧ digits.length = 2 ∧ digitsValue digits = m := by
    decide +kernel
  obtain ⟨hdigits, hlen, hvalue⟩ := hall n hn
  refine ⟨?_, List.all_eq_true.1 hdigits, hlen, hvalue⟩
  exact List.ne_nil_of_length_eq_add_one hlen

theorem readNumber_writeTwo {item : NumberItem} (hitem : item = .month ∨ item = .day) {n : Nat}
    (hn : n < 100) (rest : List Char) :
    readNumber item (Text.trimStart (Pattern.writeTwo .zeros n ++ rest)) = .ok (n, rest) := by
  obtain ⟨hne, hdigits, hlen, hvalue⟩ := writeTwo_zeros hn
  have hsmall : digitsValue (Pattern.writeTwo .zeros n) ≤ largestNumber := by
    rw [hvalue, largestNumber]
    omega
  have hread := @readDigits_width _ rest 2 hne hdigits hlen hsmall
  rw [trimStart_digits hne hdigits]
  rcases hitem with rfl | rfl <;> simp [readNumber, NumberItem.width, hread, hvalue, Except.map]

theorem trimStart_writeYear (year : Int) (rest : List Char) :
    Text.trimStart (Pattern.writeYear .zeros year ++ rest) =
      Pattern.writeYear .zeros year ++ rest := by
  by_cases hshort : 0 ≤ year ∧ year ≤ 9999
  · obtain ⟨hne, hdigits, -⟩ := padLeft_toDigits 4 year.toNat
    rw [Pattern.writeYear, if_pos hshort, Pattern.paddedNumber]
    exact trimStart_digits hne hdigits rest
  · rw [Pattern.writeYear, if_neg hshort]
    refine Text.trimStart_eq_self fun c hc => ?_
    by_cases hneg : year < 0
    · simp only [hneg, if_true] at hc
      cases hc
      decide
    · simp only [hneg, if_false] at hc
      cases hc
      decide

theorem readNumber_writeYear {year : Int} (hfirst : firstYear ≤ year) (hlast : year ≤ lastYear)
    (rest : List Char) :
    readNumber .year (Text.trimStart (Pattern.writeYear .zeros year ++ '-' :: rest)) =
      .ok (year, '-' :: rest) := by
  rw [trimStart_writeYear]
  exact readYear_writeYear hfirst hlast rest

theorem readItem_hyphen (fields : DateFields) (rest : List Char) :
    readItem fields (.literal ['-']) ('-' :: rest) = .ok (fields, rest) := by
  have hlen : ¬ Text.byteLength ('-' :: rest) < Text.byteLength ['-'] := by
    simp [Text.byteLength, Text.encode]
  rw [readItem, if_neg hlen]
  simp

theorem readFields_cons {fields fields' : DateFields} {item : PatternItem} {items : Pattern}
    {text rest : List Char} (h : readItem fields item text = .ok (fields', rest)) :
    readFields fields (item :: items) text = readFields fields' items rest := by
  rw [readFields, h]
  rfl

theorem readItem_number {fields fields' : DateFields} {item : NumberItem} {padding : Padding}
    {text rest : List Char} {n : Int} (hread : readNumber item (Text.trimStart text) = .ok (n, rest))
    (hput : fields.putNumber item n = .ok fields') :
    readItem fields (.number item padding) text = .ok (fields', rest) := by
  rw [readItem, hread]
  change (fields.putNumber item n >>= fun known => .ok (known, rest)) = _
  rw [hput]
  rfl

theorem putWithin_of_get?_eq_none {fields : DateFields} {field : DateField} {low high value : Int}
    (hnew : fields.get? field = none) (hlow : low ≤ value) (hhigh : value ≤ high) :
    fields.putWithin field low high value = .ok ((field, value) :: fields) := by
  rw [DateFields.putWithin, if_pos ⟨hlow, hhigh⟩, DateFields.put, hnew]

theorem toDate_ymd (date : Date) :
    DateFields.toDate [(.day, (date.day : Int)), (.month, (date.month : Int)), (.year, date.year)] =
      .ok date := by
  have hof : Date.of? date.year date.month date.day = some date := dif_pos date.isDate
  have hweek : DateFields.agreesWithIsoWeek [(.day, (date.day : Int)), (.month, (date.month : Int)),
      (.year, date.year)] date = true := by
    change (true && (if 0 ≤ date.isoWeek.1 then true else true) && true && true) = true
    rw [ite_self]
    rfl
  have hordinal : DateFields.agreesWithOrdinal [(.day, (date.day : Int)),
      (.month, (date.month : Int)), (.year, date.year)] date = true := rfl
  have hcandidate : DateFields.candidate [(.day, (date.day : Int)), (.month, (date.month : Int)),
      (.year, date.year)] = .ok (date, true) := by
    change (DateFields.required (Date.of? date.year date.month date.day) >>= fun date' => _) = _
    rw [hof]
    change Except.ok (date, _ && _) = _
    rw [hweek, hordinal]
    rfl
  rw [DateFields.toDate, hcandidate]
  rfl

theorem write_ymd (date : Date) :
    Pattern.ymd.write date = Pattern.writeYear .zeros date.year ++ '-' ::
      (Pattern.writeTwo .zeros date.month ++ '-' :: (Pattern.writeTwo .zeros date.day ++ [])) := by
  simp [Pattern.ymd, Pattern.ofSpecifier, Pattern.write, Pattern.writeItem, Pattern.writeNumber]

theorem read_ymd_write (date : Date) : Pattern.ymd.read (Pattern.ymd.write date) = .ok date := by
  obtain ⟨hyear, hmonth, hday⟩ := date.isDate
  have hlast := date.day_le
  have hy := readNumber_writeYear hyear.1 hyear.2
    (Pattern.writeTwo .zeros date.month ++ '-' :: (Pattern.writeTwo .zeros date.day ++ []))
  have hm := @readNumber_writeTwo .month (.inl rfl) date.month (by omega)
    ('-' :: (Pattern.writeTwo .zeros date.day ++ []))
  have hd := @readNumber_writeTwo .day (.inr rfl) date.day (by omega) []
  simp only [firstYear, lastYear] at hyear
  have hfields : readFields [] Pattern.ymd (Pattern.ymd.write date) =
      .ok [(.day, (date.day : Int)), (.month, (date.month : Int)), (.year, date.year)] := by
    rw [write_ymd, Pattern.ymd, Pattern.ofSpecifier,
      readFields_cons (readItem_number hy (putWithin_of_get?_eq_none rfl (by omega) (by omega))),
      readFields_cons (readItem_hyphen _ _),
      readFields_cons (readItem_number hm (putWithin_of_get?_eq_none rfl (by omega) (by omega))),
      readFields_cons (readItem_hyphen _ _),
      readFields_cons (readItem_number hd (putWithin_of_get?_eq_none rfl (by omega) (by omega)))]
    rfl
  rw [Pattern.read, hfields]
  exact toDate_ymd date

theorem trim_write_ymd (date : Date) : Text.trim (Pattern.ymd.write date) = Pattern.ymd.write date := by
  have hlast := date.day_le
  obtain ⟨hne, hdigits, -⟩ := @writeTwo_zeros date.day (by omega)
  rw [write_ymd, Text.trim, trimStart_writeYear, List.append_nil]
  refine Text.trimEnd_eq_self fun c hc => ?_
  have hend : Pattern.writeYear .zeros date.year ++ '-' :: (Pattern.writeTwo .zeros date.month ++
      '-' :: Pattern.writeTwo .zeros date.day) = (Pattern.writeYear .zeros date.year ++ '-' ::
      (Pattern.writeTwo .zeros date.month ++ ['-'])) ++ Pattern.writeTwo .zeros date.day := by
    simp
  have hmem : c ∈ Pattern.writeTwo .zeros (date.day : Int) := by
    rw [hend, List.getLast?_append_of_ne_nil _ hne] at hc
    exact List.mem_of_mem_getLast? hc
  exact Text.isBlank_of_isDigit (hdigits c hmem)

end TimeSeries
