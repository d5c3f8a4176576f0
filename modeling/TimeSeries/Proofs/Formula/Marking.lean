import TimeSeries.Formula.Nesting

set_option autoImplicit false

/-!
# Marks along a text

`Marks` describes the scanner as a walk: from a depth and a quote state over marked characters to a
depth and a quote state. A scan succeeds exactly when the walk leads from the top level back to it,
so marked texts can be joined and cut wherever the walk is on the top level, and each part has in
itself the marks that it has in the whole.
-/
namespace TimeSeries

/-- A character that changes neither the depth nor the quote state. -/
def IsPlain (c : Char) : Prop := c ≠ '"' ∧ c ≠ '(' ∧ c ≠ ')'

/-- From a depth and a quote state the characters have these marks, and lead to a depth and a quote
state. -/
inductive Marks : Nat → Bool → MarkedText → Nat → Bool → Prop
  | nil (level : Nat) (inside : Bool) : Marks level inside [] level inside
  | quote {level level' : Nat} {inside inside' : Bool} {rest : MarkedText} :
      Marks level (!inside) rest level' inside' →
      Marks level inside (('"', ⟨level, true⟩) :: rest) level' inside'
  | quoted {level level' : Nat} {inside' : Bool} {c : Char} {rest : MarkedText} :
      c ≠ '"' → Marks level true rest level' inside' →
      Marks level true ((c, ⟨level, true⟩) :: rest) level' inside'
  | opening {level level' : Nat} {inside' : Bool} {rest : MarkedText} :
      Marks (level + 1) false rest level' inside' →
      Marks level false (('(', ⟨level, false⟩) :: rest) level' inside'
  | closing {level level' : Nat} {inside' : Bool} {rest : MarkedText} :
      Marks level false rest level' inside' →
      Marks (level + 1) false ((')', ⟨level, false⟩) :: rest) level' inside'
  | plain {level level' : Nat} {inside' : Bool} {c : Char} {rest : MarkedText} :
      IsPlain c → Marks level false rest level' inside' →
      Marks level false ((c, ⟨level, false⟩) :: rest) level' inside'

namespace MarkedText

@[simp] theorem text_nil : text [] = [] := rfl

@[simp] theorem text_cons (entry : Char × Mark) (rest : MarkedText) :
    text (entry :: rest) = entry.1 :: text rest := rfl

@[simp] theorem text_append (a b : MarkedText) : text (a ++ b) = text a ++ text b :=
  List.map_append

@[simp] theorem text_map_mark (mark : Mark) (chars : List Char) :
    text (chars.map (·, mark)) = chars := by
  simp [text, Function.comp_def]

theorem exists_append_of_text {marked : MarkedText} {a b : List Char}
    (h : marked.text = a ++ b) :
    ∃ ma mb : MarkedText, marked = ma ++ mb ∧ ma.text = a ∧ mb.text = b :=
  List.map_eq_append_iff.1 h

def raise (levels : Nat) (marked : MarkedText) : MarkedText :=
  marked.map fun (c, mark) => (c, ⟨mark.depth + levels, mark.quoted⟩)

@[simp] theorem text_raise (levels : Nat) (marked : MarkedText) :
    (marked.raise levels).text = marked.text := by
  simp [raise, text, Function.comp_def]

end MarkedText

namespace Marks

variable {level level' level'' : Nat} {inside inside' inside'' : Bool} {a b marked : MarkedText}

theorem append (ha : Marks level inside a level' inside')
    (hb : Marks level' inside' b level'' inside'') :
    Marks level inside (a ++ b) level'' inside'' := by
  induction ha with
  | nil => exact hb
  | quote _ ih => exact .quote (ih hb)
  | quoted hc _ ih => exact .quoted hc (ih hb)
  | opening _ ih => exact .opening (ih hb)
  | closing _ ih => exact .closing (ih hb)
  | plain hc _ ih => exact .plain hc (ih hb)

theorem exists_of_append (h : Marks level inside (a ++ b) level'' inside'') :
    ∃ level' inside', Marks level inside a level' inside' ∧
      Marks level' inside' b level'' inside'' := by
  induction a generalizing level inside with
  | nil => exact ⟨level, inside, .nil _ _, h⟩
  | cons entry rest ih =>
    rw [List.cons_append] at h
    cases h with
    | quote h => obtain ⟨l, i, h₁, h₂⟩ := ih h; exact ⟨l, i, .quote h₁, h₂⟩
    | quoted hc h => obtain ⟨l, i, h₁, h₂⟩ := ih h; exact ⟨l, i, .quoted hc h₁, h₂⟩
    | opening h => obtain ⟨l, i, h₁, h₂⟩ := ih h; exact ⟨l, i, .opening h₁, h₂⟩
    | closing h => obtain ⟨l, i, h₁, h₂⟩ := ih h; exact ⟨l, i, .closing h₁, h₂⟩
    | plain hc h => obtain ⟨l, i, h₁, h₂⟩ := ih h; exact ⟨l, i, .plain hc h₁, h₂⟩

theorem raise (levels : Nat) (h : Marks level inside marked level' inside') :
    Marks (level + levels) inside (marked.raise levels) (level' + levels) inside' := by
  induction h with
  | nil => exact .nil _ _
  | quote _ ih => exact .quote ih
  | quoted hc _ ih => exact .quoted hc ih
  | opening _ ih => exact .opening (by rwa [Nat.add_right_comm] at ih)
  | @closing l _ _ _ _ ih => rw [Nat.add_right_comm l 1 levels]; exact .closing ih
  | plain hc _ ih => exact .plain hc ih

theorem of_plain (level : Nat) {text : List Char} (h : ∀ c ∈ text, IsPlain c) :
    Marks level false (text.map (·, ⟨level, false⟩)) level false := by
  induction text with
  | nil => exact .nil _ _
  | cons c rest ih =>
    exact .plain (h c (by simp)) (ih fun d hd => h d (by simp [hd]))

theorem eq_of_plain (h : Marks level inside marked level' inside')
    (hp : ∀ c ∈ marked.text, IsPlain c) :
    level' = level ∧ inside' = inside ∧ ∀ entry ∈ marked, entry.2 = ⟨level, inside⟩ := by
  induction h with
  | nil => exact ⟨rfl, rfl, by simp⟩
  | quote => exact absurd rfl (hp '"' (by simp)).1
  | opening => exact absurd rfl (hp '(' (by simp)).2.1
  | closing => exact absurd rfl (hp ')' (by simp)).2.2
  | quoted _ _ ih | plain _ _ ih =>
    obtain ⟨hl, hi, hall⟩ := ih fun c hc => hp c (by simp [hc])
    refine ⟨hl, hi, ?_⟩
    intro entry he
    rcases List.mem_cons.1 he with rfl | he
    · rfl
    · exact hall entry he

theorem inside_eq (h : Marks level inside marked level' inside') :
    inside' = (inside ^^ decide (marked.text.count '"' % 2 = 1)) := by
  induction h with
  | nil => simp
  | @quote _ _ inside _ rest _ ih =>
    rw [ih, MarkedText.text_cons, List.count_cons_self]
    by_cases h : rest.text.count '"' % 2 = 1
    · rw [show decide ((rest.text.count '"' + 1) % 2 = 1) = false by simp; omega]
      simp [h]
    · rw [show decide ((rest.text.count '"' + 1) % 2 = 1) = true by simp; omega]
      simp [h]
  | quoted hc _ ih => rw [ih, MarkedText.text_cons, List.count_cons_of_ne hc]
  | opening _ ih => rw [ih, MarkedText.text_cons, List.count_cons_of_ne (by simp)]
  | closing _ ih => rw [ih, MarkedText.text_cons, List.count_cons_of_ne (by simp)]
  | plain hc _ ih => rw [ih, MarkedText.text_cons, List.count_cons_of_ne hc.1]

theorem cut_top {c : Char} {mark : Mark} (hc : IsPlain c) (htop : mark.isTopLevel = true)
    (h : Marks level inside (a ++ (c, mark) :: b) level' inside') :
    mark = ⟨0, false⟩ ∧ Marks level inside a 0 false ∧ Marks 0 false b level' inside' := by
  obtain ⟨l, i, ha, hb⟩ := exists_of_append h
  cases hb with
  | quote => exact absurd rfl hc.1
  | quoted => simp [Mark.isTopLevel] at htop
  | opening => exact absurd rfl hc.2.1
  | closing => exact absurd rfl hc.2.2
  | plain _ hb =>
    have hl : l = 0 := by simpa [Mark.isTopLevel] using htop
    subst hl
    exact ⟨rfl, ha, hb⟩

end Marks

namespace MarkedText

theorem ofText?_of_marks {level level' : Nat} {inside inside' : Bool} {marked : MarkedText}
    (h : Marks level inside marked level' inside') (hl : level' = 0) :
    ofText? level inside marked.text = some marked := by
  induction h with
  | nil => simp [ofText?, hl]
  | quote _ ih => simp [ofText?, ih hl]
  | quoted hc _ ih => simp [ofText?, hc, ih hl]
  | opening _ ih => simp [ofText?, ih hl]
  | closing _ ih => simp [ofText?, ih hl]
  | plain hc _ ih => simp [ofText?, hc.1, hc.2.1, hc.2.2, ih hl]

theorem marks_of_ofText? {level : Nat} {inside : Bool} {text : List Char} {marked : MarkedText}
    (h : ofText? level inside text = some marked) :
    ∃ inside', Marks level inside marked 0 inside' := by
  fun_induction ofText? level inside text generalizing marked with
  | case1 => cases h; exact ⟨_, .nil _ _⟩
  | case2 => cases h
  | case3 _ _ _ ih =>
    obtain ⟨tail, ht, rfl⟩ := Option.map_eq_some_iff.1 h
    obtain ⟨i, hm⟩ := ih ht
    exact ⟨i, .quote hm⟩
  | case4 _ _ _ hc ih =>
    obtain ⟨tail, ht, rfl⟩ := Option.map_eq_some_iff.1 h
    obtain ⟨i, hm⟩ := ih ht
    exact ⟨i, .quoted hc hm⟩
  | case5 _ inside _ hi _ ih =>
    obtain ⟨tail, ht, rfl⟩ := Option.map_eq_some_iff.1 h
    obtain ⟨i, hm⟩ := ih ht
    cases inside
    · exact ⟨i, .opening hm⟩
    · exact absurd rfl hi
  | case6 => cases h
  | case7 inside _ hi _ _ _ ih =>
    obtain ⟨tail, ht, rfl⟩ := Option.map_eq_some_iff.1 h
    obtain ⟨i, hm⟩ := ih ht
    cases inside
    · exact ⟨i, .closing hm⟩
    · exact absurd rfl hi
  | case8 _ inside _ _ hq hi ho hc ih =>
    obtain ⟨tail, ht, rfl⟩ := Option.map_eq_some_iff.1 h
    obtain ⟨i, hm⟩ := ih ht
    cases inside
    · exact ⟨i, .plain ⟨hq, ho, hc⟩ hm⟩
    · exact absurd rfl hi

end MarkedText

/-- A scan is a walk from the top level back to it. -/
theorem scan_eq_ok_iff {text : List Char} {marked : MarkedText} :
    scan text = .ok marked ↔ marked.text = text ∧ Marks 0 false marked 0 false := by
  constructor
  · intro h
    have ht := text_of_scan h
    refine ⟨ht, ?_⟩
    unfold scan at h
    split at h
    · cases h
    · rename_i heven
      split at h
      · rename_i found
        cases h
        obtain ⟨i, hm⟩ := MarkedText.marks_of_ofText? found
        have hi := hm.inside_eq
        rw [ht, decide_eq_false heven] at hi
        rw [show i = false from hi] at hm
        exact hm
      · cases h
  · rintro ⟨rfl, h⟩
    have heven : ¬ marked.text.count '"' % 2 = 1 := by
      have hi := h.inside_eq
      intro hodd
      simp [hodd] at hi
    rw [scan, if_neg heven, MarkedText.ofText?_of_marks h rfl]

theorem Marks.depth_le {level level' : Nat} {inside inside' : Bool} {marked : MarkedText}
    (h : Marks level inside marked level' inside') :
    ∀ entry ∈ marked, entry.2.depth ≤ level + marked.length := by
  induction h with
  | nil => simp
  | quote _ ih | quoted _ _ ih | opening _ ih | closing _ ih | plain _ _ ih =>
    intro entry he
    rw [List.length_cons]
    rcases List.mem_cons.1 he with rfl | he
    · dsimp only
      omega
    · have hrest := ih entry he
      omega

/-- Depths are those of signed 32-bit words as long as the text has fewer than `2 ^ 31` characters. -/
theorem toInt_depth {text : List Char} {marked : MarkedText} (hs : scan text = .ok marked)
    (hshort : text.length < 2147483648) :
    ∀ entry ∈ marked, (Int32.ofNat entry.2.depth).toInt = entry.2.depth := by
  intro entry he
  obtain ⟨htext, hmarks⟩ := scan_eq_ok_iff.1 hs
  have hdepth := hmarks.depth_le entry he
  have hlength : marked.length = text.length := by
    rw [← htext, MarkedText.length_text]
  exact Int32.toInt_ofNat_of_lt (by omega)

end TimeSeries
