import TimeSeries.Proofs.Text.Case

set_option autoImplicit false

/-!
# Separators under case mapping

A slash is no letter: it stays what it is in either case, and no other character becomes one. So a
name has a slash exactly when its normal form and its file name have one.
-/
namespace TimeSeries.Text

theorem eq_of_ofNat_eq_slash {n : Nat} (h : Char.ofNat n = '/') : n = 0x2f := by
  by_cases hvalid : n.isValidChar
  · rw [Char.ofNat, dif_pos hvalid] at h
    exact congrArg Char.toNat h
  · rw [Char.ofNat, dif_neg hvalid] at h
    exact absurd (congrArg Char.toNat h) (by decide)

/-- Case tables that lead to no slash. -/
def LeadsToNoSlash (special : List (Nat × List Nat)) (runs : List CaseRun) : Prop :=
  (special.all fun entry => 0x2f ∉ entry.2) = true ∧
    (runs.all fun run => 0x2f < run.first + run.shift ∨ run.last + run.shift < 0x2f) = true

theorem leadsToNoSlash_upper : LeadsToNoSlash upperSpecial upperRuns := by
  constructor <;> decide +kernel

theorem leadsToNoSlash_lower : LeadsToNoSlash lowerSpecial lowerRuns := by
  constructor <;> decide +kernel

theorem eq_slash_of_mem_mapped {special : List (Nat × List Nat)} {runs : List CaseRun}
    (htables : LeadsToNoSlash special runs) {c : Char} (h : '/' ∈ mapped special runs c) : c = '/' := by
  unfold mapped at h
  split at h
  · rename_i codes hcodes
    obtain ⟨l₁, l₂, hentries, -⟩ := List.lookup_eq_some_iff.1 hcodes
    obtain ⟨code, hcode, hslash⟩ := List.mem_map.1 h
    rw [eq_of_ofNat_eq_slash hslash] at hcode
    have hnone := List.all_eq_true.1 htables.1 (c.toNat, codes) (by rw [hentries]; simp)
    exact absurd hcode (by simpa using hnone)
  · split at h
    · rename_i run hfind
      have hrun := List.mem_of_find?_eq_some hfind
      have hholds : run.holds c.toNat = true := by simpa using List.find?_some hfind
      have hcode := eq_of_ofNat_eq_slash (List.mem_singleton.1 h).symm
      have hapart := List.all_eq_true.1 htables.2 run hrun
      simp only [CaseRun.holds, Bool.and_eq_true, decide_eq_true_eq] at hholds hapart
      omega
    · exact (List.mem_singleton.1 h).symm

theorem ascii_slash : ∀ c : Char, c.toNat < 128 →
    (c.toUpper = '/' → c = '/') ∧ (c.toLower = '/' → c = '/') :=
  forall_ascii (by decide +kernel)

theorem slash_mem_upperChar {c : Char} : '/' ∈ upperChar c ↔ c = '/' := by
  constructor
  · intro h
    unfold upperChar at h
    split at h
    · rename_i hc
      exact (ascii_slash c hc).1 (List.mem_singleton.1 h).symm
    · exact eq_slash_of_mem_mapped leadsToNoSlash_upper h
  · rintro rfl
    decide

theorem slash_mem_lowerChar {c : Char} : '/' ∈ lowerChar c ↔ c = '/' := by
  constructor
  · intro h
    unfold lowerChar at h
    split at h
    · rename_i hc
      exact (ascii_slash c hc).2 (List.mem_singleton.1 h).symm
    · exact eq_slash_of_mem_mapped leadsToNoSlash_lower h
  · rintro rfl
    decide

theorem slash_mem_upper {text : List Char} : '/' ∈ upper text ↔ '/' ∈ text := by
  simp [upper, slash_mem_upperChar]

theorem slash_mem_lowerAfter (before text : List Char) :
    '/' ∈ lowerAfter before text ↔ '/' ∈ text := by
  induction text generalizing before with
  | nil => rfl
  | cons c rest ih =>
    rw [lowerAfter, List.mem_append, ih, List.mem_cons]
    refine or_congr_left ?_
    split
    · rename_i hsigma
      have hne : '/' ≠ lowerSigma before rest := by
        unfold lowerSigma
        split <;> decide
      simp [hsigma, hne]
    · rw [slash_mem_lowerChar, eq_comm]

theorem slash_mem_trim {text : List Char} : '/' ∈ trim text ↔ '/' ∈ text := by
  obtain ⟨pre, post, htext, hpre, hpost⟩ := exists_eq_trim_between text
  have hfront : '/' ∉ pre := hpre.not_mem (by decide)
  have hback : '/' ∉ post := hpost.not_mem (by decide)
  conv_rhs => rw [htext]
  simp [hfront, hback]

theorem lowerChar_ne_nil (c : Char) : lowerChar c ≠ [] := by
  unfold lowerChar mapped
  split
  · simp
  · split
    · rename_i codes hcodes
      obtain ⟨l₁, l₂, hentries, -⟩ := List.lookup_eq_some_iff.1 hcodes
      have hmem : (c.toNat, codes) ∈ lowerSpecial := by rw [hentries]; simp
      rw [List.mem_singleton.1 hmem |> Prod.mk.inj |>.2]
      simp
    · split <;> simp

theorem lower_ne_nil {text : List Char} (h : text ≠ []) : lower text ≠ [] := by
  cases text with
  | nil => exact absurd rfl h
  | cons c rest =>
    rw [lower, lowerAfter]
    refine List.append_ne_nil_of_left_ne_nil ?_ _
    split
    · simp
    · exact lowerChar_ne_nil c

theorem head?_upper {text : List Char} (h : text.head? ≠ some '/') :
    (upper text).head? ≠ some '/' := by
  cases text with
  | nil => simp [upper]
  | cons c rest =>
    intro hhead
    rw [upper, List.flatMap_cons, List.head?_append_of_ne_nil _ (upperChar_final c).1] at hhead
    have hc := slash_mem_upperChar.1 (List.mem_of_mem_head? hhead)
    exact h (by rw [hc]; rfl)

theorem head?_lower {text : List Char} (h : text.head? ≠ some '/') :
    (lower text).head? ≠ some '/' := by
  cases text with
  | nil => simp [lower, lowerAfter]
  | cons c rest =>
    intro hhead
    rw [lower, lowerAfter] at hhead
    split at hhead
    · rw [List.singleton_append, List.head?_cons] at hhead
      unfold lowerSigma at hhead
      split at hhead <;> exact absurd hhead (by decide)
    · rw [List.head?_append_of_ne_nil _ (lowerChar_ne_nil c)] at hhead
      have hc := slash_mem_lowerChar.1 (List.mem_of_mem_head? hhead)
      exact h (by rw [hc]; rfl)

end TimeSeries.Text
