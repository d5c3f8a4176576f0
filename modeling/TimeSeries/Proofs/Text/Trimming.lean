import Mathlib.Data.List.TakeWhile
import TimeSeries.Text.Blank

set_option autoImplicit false

/-!
# What trimming takes away

A text is its trimmed form between two runs of blanks, and blanks around a text do not change its
trimmed form.
-/
namespace TimeSeries.Text

/-- A run of blanks. -/
def Blanks (text : List Char) : Prop := ∀ c ∈ text, isBlank c = true

/-- A run of spaces, as formulas are laid out with. -/
def Spaces (text : List Char) : Prop := ∀ c ∈ text, c = ' '

/-- Neither end of the text is blank. -/
def HasSolidEnds (text : List Char) : Prop :=
  (∀ c ∈ text.head?, isBlank c = false) ∧ ∀ c ∈ text.getLast?, isBlank c = false

theorem hasSolidEnds_of_forall {text : List Char} (h : ∀ c ∈ text, isBlank c = false) :
    HasSolidEnds text :=
  ⟨fun c hc => h c (List.mem_of_mem_head? hc), fun c hc => h c (List.mem_of_mem_getLast? hc)⟩

theorem hasSolidEnds_of_ends {text : List Char} {first last : Char}
    (hfirst : text.head? = some first) (hlast : text.getLast? = some last)
    (hf : isBlank first = false) (hl : isBlank last = false) : HasSolidEnds text := by
  refine ⟨fun c hc => ?_, fun c hc => ?_⟩
  · rw [Option.mem_unique hc hfirst]
    exact hf
  · rw [Option.mem_unique hc hlast]
    exact hl

theorem HasSolidEnds.append {a b : List Char} (ha : HasSolidEnds a) (hb : HasSolidEnds b) :
    HasSolidEnds (a ++ b) := by
  refine ⟨fun c hc => ?_, fun c hc => ?_⟩
  · cases a with
    | nil => exact hb.1 c hc
    | cons d rest => exact ha.1 c hc
  · rw [List.getLast?_append] at hc
    cases hlast : b.getLast? with
    | none => exact ha.2 c (by simpa [hlast] using hc)
    | some d => exact hb.2 c (by simpa [hlast] using hc)

theorem blanks_nil : Blanks [] := by
  intro c hc
  cases hc

theorem blanks_space : Blanks [' '] := by
  intro c hc
  rw [List.mem_singleton.1 hc]
  decide

theorem Spaces.blanks {text : List Char} (h : Spaces text) : Blanks text := by
  intro c hc
  rw [h c hc]
  decide

theorem spaces_nil : Spaces [] :=
  List.forall_mem_nil _

theorem spaces_space : Spaces [' '] :=
  List.forall_mem_singleton.2 rfl

theorem Blanks.not_mem {text : List Char} (h : Blanks text) {c : Char} (hc : isBlank c = false) :
    c ∉ text := by
  intro hmem
  rw [h c hmem] at hc
  cases hc

theorem Blanks.append {a b : List Char} (ha : Blanks a) (hb : Blanks b) : Blanks (a ++ b) := by
  intro c hc
  rcases List.mem_append.1 hc with h | h
  · exact ha c h
  · exact hb c h

theorem Blanks.reverse {text : List Char} (h : Blanks text) : Blanks text.reverse := by
  intro c hc
  exact h c (List.mem_reverse.1 hc)

theorem allBlank_iff {text : List Char} : allBlank text = true ↔ Blanks text := by
  simp [allBlank, Blanks]

theorem trimStart_append {pre : List Char} (h : Blanks pre) (text : List Char) :
    trimStart (pre ++ text) = trimStart text :=
  List.dropWhile_append_of_pos h

theorem trimEnd_append {post : List Char} (h : Blanks post) (text : List Char) :
    trimEnd (text ++ post) = trimEnd text := by
  unfold trimEnd
  rw [List.reverse_append, List.dropWhile_append_of_pos h.reverse]

theorem trimStart_eq_self {text : List Char} (h : ∀ c ∈ text.head?, isBlank c = false) :
    trimStart text = text := by
  cases text with
  | nil => rfl
  | cons c rest =>
    have hc := h c rfl
    exact List.dropWhile_cons_of_neg (by simp [hc])

theorem trimEnd_eq_self {text : List Char} (h : ∀ c ∈ text.getLast?, isBlank c = false) :
    trimEnd text = text := by
  have hs : trimStart text.reverse = text.reverse :=
    trimStart_eq_self (by simpa only [List.head?_reverse] using h)
  unfold trimStart at hs
  rw [trimEnd, hs, List.reverse_reverse]

theorem trimStart_eq_nil {text : List Char} (h : Blanks text) : trimStart text = [] :=
  List.dropWhile_eq_nil_iff.2 h

theorem trim_eq_self {text : List Char} (h : HasSolidEnds text) : trim text = text := by
  rw [trim, trimStart_eq_self h.1, trimEnd_eq_self h.2]

theorem trim_eq_nil {text : List Char} (h : Blanks text) : trim text = [] := by
  rw [trim, trimStart_eq_nil h]
  rfl

theorem trim_between {pre text post : List Char} (hpre : Blanks pre) (hpost : Blanks post) :
    trim (pre ++ text ++ post) = trim text := by
  rw [List.append_assoc, trim, trimStart_append hpre]
  by_cases h : Blanks text
  · rw [trimStart_eq_nil (h.append hpost), trim_eq_nil h]
    rfl
  · have hd : text.dropWhile isBlank ≠ [] := fun hn => h (List.dropWhile_eq_nil_iff.1 hn)
    have hs : trimStart (text ++ post) = trimStart text ++ post := by
      simp only [trimStart, List.dropWhile_append, List.isEmpty_iff, hd, if_false]
    rw [hs, trimEnd_append hpost, trim]

theorem takeWhile_between {pre text post : List Char} (hpre : Blanks pre) (hne : text ≠ [])
    (h : HasSolidEnds text) : (pre ++ text ++ post).takeWhile isBlank = pre := by
  cases text with
  | nil => exact absurd rfl hne
  | cons c rest =>
    have hc := h.1 c rfl
    rw [List.append_assoc, List.takeWhile_append_of_pos hpre, List.cons_append,
      List.takeWhile_cons_of_neg (by simp [hc]), List.append_nil]

theorem exists_eq_trim_between (text : List Char) :
    ∃ pre post, text = pre ++ trim text ++ post ∧ Blanks pre ∧ Blanks post := by
  refine ⟨text.takeWhile isBlank, ((trimStart text).reverse.takeWhile isBlank).reverse, ?_, ?_, ?_⟩
  · have hend := congrArg List.reverse
      (List.takeWhile_append_dropWhile (p := isBlank) (l := (trimStart text).reverse))
    rw [List.reverse_append, List.reverse_reverse] at hend
    have hstart := List.takeWhile_append_dropWhile (p := isBlank) (l := text)
    rw [List.append_assoc, trim, trimEnd, hend]
    exact hstart.symm
  · exact fun c hc => List.mem_takeWhile_imp hc
  · exact fun c hc => List.mem_takeWhile_imp (List.mem_reverse.1 hc)

theorem mem_trim {c : Char} (hc : isBlank c = false) {text : List Char} :
    c ∈ trim text ↔ c ∈ text := by
  obtain ⟨pre, post, htext, hpre, hpost⟩ := exists_eq_trim_between text
  rw [htext, List.mem_append, List.mem_append, ← htext]
  simp [hpre.not_mem hc, hpost.not_mem hc]

theorem count_trim {c : Char} (hc : isBlank c = false) (text : List Char) :
    (trim text).count c = text.count c := by
  obtain ⟨pre, post, htext, hpre, hpost⟩ := exists_eq_trim_between text
  have hbefore := List.count_eq_zero.2 (hpre.not_mem hc)
  have hafter := List.count_eq_zero.2 (hpost.not_mem hc)
  have hcount := congrArg (List.count c) htext
  rw [List.count_append, List.count_append] at hcount
  omega

theorem blanks_of_trim_eq_nil {text : List Char} (h : trim text = []) : Blanks text := by
  obtain ⟨pre, post, htext, hpre, hpost⟩ := exists_eq_trim_between text
  rw [h, List.append_nil] at htext
  rw [htext]
  exact hpre.append hpost

theorem hasSolidEnds_trim (text : List Char) : HasSolidEnds (trim text) := by
  have hlast : ∀ c ∈ (trim text).getLast?, isBlank c = false := by
    intro c hc
    rw [trim, trimEnd, List.getLast?_reverse] at hc
    have := List.head?_dropWhile_not isBlank (trimStart text).reverse
    rw [Option.mem_def.1 hc] at this
    simpa using this
  refine ⟨?_, hlast⟩
  intro c hc
  have hsuffix := List.dropWhile_suffix isBlank (l := (trimStart text).reverse)
  obtain ⟨cut, hcut⟩ := hsuffix
  have hstart : trimStart text = trim text ++ cut.reverse := by
    rw [trim, trimEnd, ← List.reverse_append, hcut, List.reverse_reverse]
  have hhead : (trimStart text).head? = some c := by
    rw [hstart, List.head?_append, Option.mem_def.1 hc]
    rfl
  have := List.head?_dropWhile_not isBlank text
  rw [show text.dropWhile isBlank = trimStart text from rfl, hhead] at this
  simpa using this

theorem trim_trim (text : List Char) : trim (trim text) = trim text :=
  trim_eq_self (hasSolidEnds_trim text)

end TimeSeries.Text
