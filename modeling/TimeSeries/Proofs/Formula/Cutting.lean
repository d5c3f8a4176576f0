import TimeSeries.Proofs.Formula.Parsing

set_option autoImplicit false

/-!
# Cuts at delimiters and at parentheses

Cutting at the first top-level delimiter, at all of them, and at the parentheses of a call. Every
part is marked in itself as it is in the whole, the arguments of a call one level lower.
-/
namespace TimeSeries

namespace MarkedText

variable {delimiter : Char} {marked : MarkedText}

theorem first_top_cases (delimiter : Char) (marked : MarkedText) :
    (∀ entry ∈ marked, isTop delimiter entry = false) ∨
    ∃ (a b : MarkedText) (mark : Mark), marked = a ++ (delimiter, mark) :: b ∧
      mark.isTopLevel = true ∧ ∀ entry ∈ a, isTop delimiter entry = false := by
  cases h : marked.find? (isTop delimiter) with
  | none =>
    refine .inl fun entry he => ?_
    simpa using List.find?_eq_none.1 h entry he
  | some entry =>
    obtain ⟨htop, a, b, rfl, ha⟩ := List.find?_eq_some_iff_append.1 h
    obtain ⟨c, mark⟩ := entry
    simp only [isTop, Bool.and_eq_true, beq_iff_eq] at htop
    obtain ⟨rfl, hmark⟩ := htop
    exact .inr ⟨a, b, mark, rfl, hmark, fun e he => by simpa using ha e he⟩

theorem isTop_self {mark : Mark} (h : mark.isTopLevel = true) :
    isTop delimiter (delimiter, mark) = true := by
  simp [isTop, h]

theorem isTop_of_not_mem (h : delimiter ∉ marked.text) :
    ∀ entry ∈ marked, isTop delimiter entry = false := by
  intro entry he
  have hne : entry.1 ≠ delimiter := by
    rintro rfl
    exact h (List.mem_map_of_mem he)
  simp [isTop, hne]

theorem dropWhile_top {a b : MarkedText} {mark : Mark} (hm : mark.isTopLevel = true)
    (ha : ∀ entry ∈ a, isTop delimiter entry = false) :
    (a ++ (delimiter, mark) :: b).dropWhile (!isTop delimiter ·) = (delimiter, mark) :: b := by
  rw [List.dropWhile_append_of_pos fun e he => by simp [ha e he],
    List.dropWhile_cons_of_neg (by simp [isTop_self hm])]

theorem takeWhile_top {a b : MarkedText} {mark : Mark} (hm : mark.isTopLevel = true)
    (ha : ∀ entry ∈ a, isTop delimiter entry = false) :
    (a ++ (delimiter, mark) :: b).takeWhile (!isTop delimiter ·) = a := by
  rw [List.takeWhile_append_of_pos fun e he => by simp [ha e he],
    List.takeWhile_cons_of_neg (by simp [isTop_self hm]), List.append_nil]

theorem cut?_eq_none (h : ∀ entry ∈ marked, isTop delimiter entry = false) :
    marked.cut? delimiter = none := by
  have hd : marked.dropWhile (!isTop delimiter ·) = [] :=
    List.dropWhile_eq_nil_iff.2 fun e he => by simp [h e he]
  rw [cut?, hd]

theorem cut?_eq_some {a b : MarkedText} {mark : Mark} (hm : mark.isTopLevel = true)
    (ha : ∀ entry ∈ a, isTop delimiter entry = false) :
    (a ++ (delimiter, mark) :: b).cut? delimiter = some (a.text, b.text) := by
  rw [cut?, dropWhile_top hm ha, takeWhile_top hm ha]

/-- What holds of a marked text and, after every top-level delimiter, of the rest holds throughout:
induction along the top-level delimiters. -/
theorem induction_on_top {motive : MarkedText → Prop} (delimiter : Char) (marked : MarkedText)
    (single : ∀ m : MarkedText, (∀ entry ∈ m, isTop delimiter entry = false) → motive m)
    (cut : ∀ (a b : MarkedText) (mark : Mark), mark.isTopLevel = true →
      (∀ entry ∈ a, isTop delimiter entry = false) → motive b →
      motive (a ++ (delimiter, mark) :: b)) : motive marked := by
  induction hlen : marked.length using Nat.strongRecOn generalizing marked with
  | ind length ih =>
    rcases first_top_cases delimiter marked with h | ⟨a, b, mark, rfl, hm, ha⟩
    · exact single marked h
    · exact cut a b mark hm ha (ih b.length (by simp at hlen; omega) b rfl)

theorem splitOnP_top {a b : MarkedText} {mark : Mark} (hm : mark.isTopLevel = true)
    (ha : ∀ entry ∈ a, isTop delimiter entry = false) :
    (a ++ (delimiter, mark) :: b).splitOnP (isTop delimiter) =
      a :: b.splitOnP (isTop delimiter) :=
  List.splitOnP_append_cons_of_forall_mem ha _ (isTop_self hm) _

theorem marks_of_mem_splitOnP (hd : IsPlain delimiter) (h : Marks 0 false marked 0 false) :
    ∀ part ∈ marked.splitOnP (isTop delimiter), Marks 0 false part 0 false := by
  induction marked using induction_on_top delimiter with
  | single m hm =>
    rw [List.splitOnP_eq_singleton hm]
    simpa using h
  | cut a b mark hmark ha ih =>
    obtain ⟨-, hwalk, hrest⟩ := h.cut_top hd hmark
    rw [splitOnP_top hmark ha]
    intro part hp
    rcases List.mem_cons.1 hp with rfl | hp
    · exact hwalk
    · exact ih hrest part hp

theorem sum_placeholders_splitOnP (hname : continuesName [(delimiter, ⟨0, false⟩)] = false)
    (hne : delimiter ≠ '%') (marked : MarkedText) :
    ((marked.splitOnP (isTop delimiter)).map placeholders).sum = marked.placeholders := by
  induction marked using induction_on_top delimiter with
  | single m hm => simp [List.splitOnP_eq_singleton hm]
  | cut a b mark hmark ha ih =>
    have hcut : continuesName ((delimiter, mark) :: b) = false := hname
    rw [splitOnP_top hmark ha, List.map_cons, List.sum_cons, ih, placeholders_append hcut,
      placeholders_cons_of_inert (inert_of_ne hne)]

theorem isTop_raise {entry : Char × Mark} (h : entry ∈ marked.raise 1) :
    isTop delimiter entry = false := by
  obtain ⟨⟨c, mark⟩, -, rfl⟩ := List.mem_map.1 h
  simp [isTop, Mark.isTopLevel]

end MarkedText

theorem Marks.pos_of_open {level level' : Nat} {inside inside' : Bool} {marked : MarkedText}
    (h : Marks level inside marked level' inside') (hopen : 0 < level)
    (hclose : ∀ entry ∈ marked, MarkedText.isTop ')' entry = false) : 0 < level' := by
  induction h with
  | nil => exact hopen
  | quote _ ih | quoted _ _ ih | plain _ _ ih =>
    exact ih hopen fun entry he => hclose entry (List.mem_cons_of_mem _ he)
  | opening _ ih =>
    exact ih (Nat.succ_pos _) fun entry he => hclose entry (List.mem_cons_of_mem _ he)
  | @closing level _ _ _ _ ih =>
    have htop := hclose _ List.mem_cons_self
    have hpos : 0 < level := by
      rw [Nat.pos_iff_ne_zero]
      rintro rfl
      cases htop
    exact ih hpos fun entry he => hclose entry (List.mem_cons_of_mem _ he)

/-- Where no top-level parenthesis closes, the walk stays inside one that is open. -/
theorem Marks.exists_eq_raise {level level' : Nat} {inside inside' : Bool} {marked : MarkedText}
    (h : Marks (level + 1) inside marked (level' + 1) inside')
    (hclose : ∀ entry ∈ marked, MarkedText.isTop ')' entry = false) :
    ∃ inner : MarkedText, marked = inner.raise 1 ∧ Marks level inside inner level' inside' := by
  induction marked generalizing level inside with
  | nil =>
    cases h
    exact ⟨[], rfl, .nil _ _⟩
  | cons entry rest ih =>
    have hrest : ∀ e ∈ rest, MarkedText.isTop ')' e = false := fun e he => hclose e (by simp [he])
    cases h with
    | quote h =>
      obtain ⟨inner, rfl, hin⟩ := ih h hrest
      exact ⟨_ :: inner, rfl, .quote hin⟩
    | quoted hc h =>
      obtain ⟨inner, rfl, hin⟩ := ih h hrest
      exact ⟨(_, ⟨level, true⟩) :: inner, rfl, .quoted hc hin⟩
    | opening h =>
      obtain ⟨inner, rfl, hin⟩ := ih h hrest
      exact ⟨_ :: inner, rfl, .opening hin⟩
    | closing h =>
      cases level with
      | zero => exact absurd (hclose _ List.mem_cons_self) (by simp [MarkedText.isTop, Mark.isTopLevel])
      | succ outer =>
        obtain ⟨inner, rfl, hin⟩ := ih h hrest
        exact ⟨_ :: inner, rfl, .closing hin⟩
    | plain hc h =>
      obtain ⟨inner, rfl, hin⟩ := ih h hrest
      exact ⟨(_, ⟨level, false⟩) :: inner, rfl, .plain hc hin⟩

end TimeSeries
