import Mathlib.Data.List.Basic
import Mathlib.Data.Nat.Bitwise
import TimeSeries.Proofs.Text.Ascii
import TimeSeries.Proofs.Text.Trimming
import TimeSeries.Text.Case

set_option autoImplicit false

/-!
# Upper case is final

A text in upper case stays as it is when it is put into upper case again, and no blanks come up at
its ends, so that names in normal form are their own normal form. The tables of letters are finite
sets of code points; as the bits of natural numbers two such sets are compared at once.
-/
namespace TimeSeries.Text

/-- The numbers `0, stride, 2 * stride, …`, `count` of them, as bits. -/
def progression (stride : Nat) : Nat → Nat
  | 0 => 0
  | count + 1 => 1 ||| progression stride count <<< stride

theorem testBit_progression (stride : Nat) {k count : Nat} (h : k < count) :
    (progression stride count).testBit (k * stride) = true := by
  induction count generalizing k with
  | zero => omega
  | succ count ih =>
    cases k with
    | zero => simp [progression]
    | succ k =>
      have hle : stride ≤ (k + 1) * stride := Nat.le_mul_of_pos_left stride (Nat.succ_pos k)
      have hsub : (k + 1) * stride - stride = k * stride := by rw [Nat.succ_mul, Nat.add_sub_cancel]
      rw [progression, Nat.testBit_or, Nat.testBit_shiftLeft, hsub, ih (by omega)]
      simp [hle]

namespace CaseRun

def bits (run : CaseRun) : Nat :=
  progression run.stride ((run.last - run.first) / run.stride + 1) <<< run.first

theorem testBit_bits {run : CaseRun} {n : Nat} (h : run.holds n = true) :
    run.bits.testBit n = true := by
  simp only [holds, Bool.and_eq_true, decide_eq_true_eq, beq_iff_eq] at h
  obtain ⟨⟨hfirst, hlast⟩, hmod⟩ := h
  have hstep : n - run.first = (n - run.first) / run.stride * run.stride :=
    (Nat.div_mul_cancel (Nat.dvd_of_mod_eq_zero hmod)).symm
  have hcount : (n - run.first) / run.stride < (run.last - run.first) / run.stride + 1 :=
    Nat.lt_succ_of_le (Nat.div_le_div_right (by omega))
  rw [bits, Nat.testBit_shiftLeft, hstep, testBit_progression run.stride hcount]
  simp [hfirst]

/-- The other cases of the letters of a run. -/
def image (run : CaseRun) : CaseRun :=
  ⟨(run.first + run.shift).toNat, (run.last + run.shift).toNat, run.stride, 0⟩

theorem holds_image {run : CaseRun} (hshift : 0 ≤ run.first + run.shift) {n : Nat}
    (h : run.holds n = true) : run.image.holds (n + run.shift).toNat = true := by
  simp only [holds, image, Bool.and_eq_true, decide_eq_true_eq, beq_iff_eq] at h ⊢
  obtain ⟨⟨hfirst, hlast⟩, hmod⟩ := h
  have hsub : (n + run.shift).toNat - (run.first + run.shift).toNat = n - run.first := by omega
  refine ⟨⟨?_, ?_⟩, ?_⟩
  · exact decide_eq_true (by omega)
  · exact decide_eq_true (by omega)
  · rw [hsub, hmod]

def single (n : Nat) : CaseRun := ⟨n, n, 1, 0⟩

theorem holds_single (n : Nat) : (single n).holds n = true := by
  simp [holds, single]

def isScalar (run : CaseRun) : Bool :=
  run.last < 0xd800 || 0xdfff < run.first && run.last < 0x110000

end CaseRun

def bitsOf (runs : List CaseRun) : Nat := runs.foldr (fun run bits => run.bits ||| bits) 0

theorem testBit_bitsOf {runs : List CaseRun} {run : CaseRun} (hr : run ∈ runs) {n : Nat}
    (h : run.holds n = true) : (bitsOf runs).testBit n = true := by
  induction runs with
  | nil => cases hr
  | cons first rest ih =>
    rw [bitsOf, List.foldr_cons, Nat.testBit_or]
    rcases List.mem_cons.1 hr with rfl | hr
    · rw [CaseRun.testBit_bits h, Bool.true_or]
    · rw [← bitsOf, ih hr, Bool.or_true]

/-- The characters beyond ASCII that upper case leads from, and those that it leads to. -/
def upperImages : List CaseRun :=
  upperRuns.map CaseRun.image ++ upperSpecial.flatMap fun entry => entry.2.map CaseRun.single

/-- Characters that have an upper case of their own, and blanks. -/
def notUpper : List CaseRun :=
  upperRuns ++ upperSpecial.map (fun entry => CaseRun.single entry.1) ++
    blankRanges.map (fun range => ⟨range.1, range.2, 1, 0⟩) ++ [⟨0x61, 0x7a, 1, 0⟩]

theorem upperImages_apart : bitsOf upperImages &&& bitsOf notUpper = 0 := by decide +kernel

theorem isScalar_upperImages : upperImages.all CaseRun.isScalar = true := by decide +kernel

theorem upperRuns_shift : (upperRuns.all fun run => 0 ≤ run.first + run.shift) = true := by
  decide +kernel

theorem upperSpecial_ne_nil : (upperSpecial.all fun entry => entry.2 != []) = true := by
  decide +kernel

/-- A code point that upper case leads to. -/
def IsUpperCode (n : Nat) : Prop := ∃ run ∈ upperImages, run.holds n = true

namespace IsUpperCode

variable {n : Nat}

theorem toNat_ofNat (h : IsUpperCode n) : (Char.ofNat n).toNat = n := by
  obtain ⟨run, hr, hn⟩ := h
  have hscalar := List.all_eq_true.1 isScalar_upperImages run hr
  simp only [CaseRun.holds, CaseRun.isScalar, Bool.and_eq_true, Bool.or_eq_true,
    decide_eq_true_eq] at hn hscalar
  have hvalid : n.isValidChar := by
    rcases hscalar with hlow | ⟨hhigh, hmax⟩
    · exact Or.inl (by omega)
    · exact Or.inr ⟨by omega, by omega⟩
  rw [Char.ofNat, dif_pos hvalid]
  rfl

theorem holds_eq_false (h : IsUpperCode n) (run : CaseRun) (hr : run ∈ notUpper) :
    run.holds n = false := by
  obtain ⟨other, ho, hn⟩ := h
  by_contra hrun
  rw [Bool.not_eq_false] at hrun
  have hboth : (bitsOf upperImages &&& bitsOf notUpper).testBit n = true := by
    rw [Nat.testBit_and, testBit_bitsOf ho hn, testBit_bitsOf hr hrun]
    rfl
  rw [upperImages_apart, Nat.zero_testBit] at hboth
  cases hboth

end IsUpperCode

variable {c d : Char}

theorem isBlank_of_isUpperCode (h : IsUpperCode c.toNat) : isBlank c = false := by
  rw [isBlank, Ranges.holds, List.any_eq_false]
  intro range hr
  have hrun := h.holds_eq_false ⟨range.1, range.2, 1, 0⟩
    (List.mem_append_left _ (List.mem_append_right _ (List.mem_map_of_mem hr)))
  simpa [CaseRun.holds, Nat.mod_one] using hrun

theorem toUpper_of_isUpperCode (h : IsUpperCode c.toNat) : c.toUpper = c := by
  have hrun := h.holds_eq_false ⟨0x61, 0x7a, 1, 0⟩
    (List.mem_append_right _ (List.mem_singleton_self _))
  refine dif_neg ?_
  rintro ⟨hlow, hhigh⟩
  have hlow : 97 ≤ c.toNat := hlow
  have hhigh : c.toNat ≤ 122 := hhigh
  simp [CaseRun.holds, Nat.mod_one] at hrun
  omega

theorem upperChar_of_isUpperCode (h : IsUpperCode c.toNat) : upperChar c = [c] := by
  have hspecial : upperSpecial.lookup c.toNat = none := by
    rw [List.lookup_eq_none_iff]
    intro entry he
    have hrun := h.holds_eq_false (.single entry.1) (List.mem_append_left _
      (List.mem_append_left _ (List.mem_append_right _ (List.mem_map_of_mem he))))
    by_contra heq
    rw [bne_iff_ne, not_not] at heq
    rw [heq, CaseRun.holds_single] at hrun
    cases hrun
  have hruns : upperRuns.find? (·.holds c.toNat) = none := by
    rw [List.find?_eq_none]
    intro run hr
    have hrun := h.holds_eq_false run
      (List.mem_append_left _ (List.mem_append_left _ (List.mem_append_left _ hr)))
    simp [hrun]
  rw [upperChar]
  split
  · rw [toUpper_of_isUpperCode h]
  · rw [mapped, hspecial]
    simp only [hruns]

theorem upperChar_cases (hc : 128 ≤ c.toNat) :
    upperChar c = [c] ∨ upperChar c ≠ [] ∧ ∀ d ∈ upperChar c, IsUpperCode d.toNat := by
  rw [upperChar, if_neg (by omega), mapped]
  cases hs : upperSpecial.lookup c.toNat with
  | some codes =>
    obtain ⟨l₁, l₂, hentries, -⟩ := List.lookup_eq_some_iff.1 hs
    have hmem : (c.toNat, codes) ∈ upperSpecial := by rw [hentries]; simp
    refine Or.inr ⟨?_, fun d hd => ?_⟩
    · simpa using List.all_eq_true.1 upperSpecial_ne_nil _ hmem
    · obtain ⟨code, hcode, rfl⟩ := List.mem_map.1 hd
      have hupper : IsUpperCode code := by
        refine ⟨.single code, List.mem_append_right _ ?_, CaseRun.holds_single code⟩
        exact List.mem_flatMap.2 ⟨_, hmem, List.mem_map_of_mem hcode⟩
      rwa [hupper.toNat_ofNat]
  | none =>
    dsimp only
    cases hr : upperRuns.find? (·.holds c.toNat) with
    | none => exact Or.inl rfl
    | some run =>
      refine Or.inr ⟨by simp, fun d hd => ?_⟩
      obtain rfl := List.mem_singleton.1 hd
      have hrun := List.mem_of_find?_eq_some hr
      have hholds : run.holds c.toNat = true := by simpa using List.find?_some hr
      have hshift : 0 ≤ run.first + run.shift := by
        simpa using List.all_eq_true.1 upperRuns_shift run hrun
      have hupper : IsUpperCode (c.toNat + run.shift).toNat :=
        ⟨run.image, List.mem_append_left _ (List.mem_map_of_mem hrun),
          CaseRun.holds_image hshift hholds⟩
      rwa [shifted, hupper.toNat_ofNat]

theorem ascii_toUpper : ∀ c : Char, c.toNat < 128 → upperChar c.toUpper = [c.toUpper] ∧
    (isBlank c.toUpper = true → isBlank c = true) :=
  forall_ascii (by decide +kernel)

/-- The upper case of a character is not empty, is final, and is blank only for a blank. -/
theorem upperChar_final (c : Char) : upperChar c ≠ [] ∧ ∀ d ∈ upperChar c,
    upperChar d = [d] ∧ (isBlank c = false → isBlank d = false) := by
  by_cases hc : c.toNat < 128
  · have hascii := ascii_toUpper c hc
    have heq : upperChar c = [c.toUpper] := by rw [upperChar, if_pos hc]
    refine ⟨by simp [heq], fun d hd => ?_⟩
    rw [heq, List.mem_singleton] at hd
    subst hd
    refine ⟨hascii.1, fun hblank => ?_⟩
    by_contra hd
    rw [Bool.not_eq_false] at hd
    rw [hascii.2 hd] at hblank
    cases hblank
  · rcases upperChar_cases (Nat.le_of_not_lt hc) with hsame | ⟨hne, hupper⟩
    · refine ⟨by simp [hsame], fun d hd => ?_⟩
      rw [hsame, List.mem_singleton] at hd
      subst hd
      exact ⟨hsame, id⟩
    · refine ⟨hne, fun d hd => ?_⟩
      exact ⟨upperChar_of_isUpperCode (hupper d hd), fun _ => isBlank_of_isUpperCode (hupper d hd)⟩

theorem upper_upper (text : List Char) : upper (upper text) = upper text := by
  rw [upper, upper, List.flatMap_assoc]
  refine List.flatMap_congr fun c _ => ?_
  have hfinal : ∀ d ∈ upperChar c, upperChar d = [d] := fun d hd => ((upperChar_final c).2 d hd).1
  rw [List.flatMap_congr hfinal]
  exact List.flatMap_singleton' _

/-! ## Texts in ASCII -/

theorem upper_of_ascii {text : List Char} (h : ∀ c ∈ text, c.toNat < 128) :
    upper text = text.map Char.toUpper := by
  rw [upper, List.map_eq_flatMap]
  refine List.flatMap_congr fun c hc => ?_
  rw [upperChar, if_pos (h c hc)]

theorem lowerAfter_of_ascii (before : List Char) {text : List Char}
    (h : ∀ c ∈ text, c.toNat < 128) : lowerAfter before text = text.map Char.toLower := by
  induction text generalizing before with
  | nil => rfl
  | cons c rest ih =>
    have hc := h c List.mem_cons_self
    have hsigma : c ≠ 'Σ' := by
      rintro rfl
      exact absurd hc (by decide)
    rw [lowerAfter, if_neg hsigma, lowerChar, if_pos hc, List.map_cons,
      ih _ fun d hd => h d (List.mem_cons_of_mem c hd), List.singleton_append]

theorem ascii_toUpper_toLower : ∀ c : Char, c.toNat < 128 → c.toUpper = c →
    c.toLower.toNat < 128 ∧ c.toLower.toUpper = c :=
  forall_ascii (by decide +kernel)

theorem uppercase_lowercase_of_ascii {name : String} (h : ∀ c ∈ name.toList, c.toNat < 128)
    (hupper : uppercase name = name) : uppercase (lowercase name) = name := by
  have hlist : upper name.toList = name.toList := by
    have hlist := congrArg String.toList hupper
    rwa [uppercase, String.toList_ofList] at hlist
  rw [upper_of_ascii h] at hlist
  have hchars : ∀ c ∈ name.toList, c.toLower.toNat < 128 ∧ c.toLower.toUpper = c := by
    intro c hc
    have hsame := List.map_eq_map_iff.1 (hlist.trans (List.map_id _).symm) c hc
    exact ascii_toUpper_toLower c (h c hc) hsame
  have hlower : ∀ c ∈ lower name.toList, c.toNat < 128 := by
    rw [lower, lowerAfter_of_ascii [] h]
    intro c hc
    obtain ⟨d, hd, rfl⟩ := List.mem_map.1 hc
    exact (hchars d hd).1
  have hback : (name.toList.map Char.toLower).map Char.toUpper = name.toList := by
    rw [List.map_map]
    exact (List.map_congr_left fun c hc => (hchars c hc).2).trans (List.map_id _)
  rw [uppercase, lowercase, String.toList_ofList, upper_of_ascii hlower, lower,
    lowerAfter_of_ascii [] h, hback, String.ofList_toList]

theorem hasSolidEnds_upper {text : List Char} (h : HasSolidEnds text) :
    HasSolidEnds (upper text) := by
  constructor
  · intro d hd
    cases text with
    | nil => cases hd
    | cons c rest =>
      have hmem : d ∈ upperChar c := by
        cases hu : upperChar c with
        | nil => exact absurd hu (upperChar_final c).1
        | cons e tail =>
          rw [upper, List.flatMap_cons, hu] at hd
          cases hd
          exact List.mem_cons_self
      exact ((upperChar_final c).2 d hmem).2 (h.1 c rfl)
  · intro d hd
    rcases List.eq_nil_or_concat text with rfl | ⟨front, c, rfl⟩
    · cases hd
    · have hmem : d ∈ upperChar c := by
        rw [upper, List.concat_eq_append, List.flatMap_append, List.flatMap_singleton,
          List.getLast?_append_of_ne_nil _ (upperChar_final c).1] at hd
        exact List.mem_of_getLast? hd
      exact ((upperChar_final c).2 d hmem).2 (h.2 c (by simp))

theorem blanks_of_normalName {name : String} (h : normalName name = "") : Blanks name.toList := by
  have hupper : upper (trim name.toList) = [] := by
    simpa [normalName, uppercase, trimmed] using h
  rw [upper, List.flatMap_eq_nil_iff] at hupper
  refine blanks_of_trim_eq_nil (List.eq_nil_iff_forall_not_mem.2 fun c hc => ?_)
  exact (upperChar_final c).1 (hupper c hc)

@[simp] theorem trimmed_trimmed (s : String) : trimmed (trimmed s) = trimmed s := by
  simp [trimmed, trim_trim]

@[simp] theorem uppercase_normalName (name : String) :
    uppercase (normalName name) = normalName name := by
  simp [normalName, uppercase, upper_upper]

@[simp] theorem trimmed_normalName (name : String) : trimmed (normalName name) = normalName name := by
  have hsolid := hasSolidEnds_upper (hasSolidEnds_trim name.toList)
  simp [normalName, uppercase, trimmed, trim_eq_self hsolid]

end TimeSeries.Text
