import Mathlib.Algebra.Ring.Nat
import TimeSeries.Proofs.Formula.Splitting

set_option autoImplicit false

/-!
# Counting placeholders in parts

A placeholder ends where a name cannot go on, so the placeholders of a text are those of its parts
whenever the text is cut in front of a character that is in no name.
-/
namespace TimeSeries.MarkedText

/-- A marked character that begins no placeholder. -/
def Inert (entry : Char × Mark) : Prop := entry.1 = '%' → entry.2.quoted = true

@[simp] theorem placeholders_nil : placeholders [] = 0 := rfl

theorem placeholders_cons_of_inert {entry : Char × Mark} (h : Inert entry) (rest : MarkedText) :
    placeholders (entry :: rest) = placeholders rest := by
  obtain ⟨c, mark⟩ := entry
  cases rest with
  | nil => rfl
  | cons next rest =>
    rw [placeholders, if_neg, Nat.zero_add]
    rintro ⟨hc, _, hq, _⟩
    have hquoted : mark.quoted = true := h hc
    simp [hquoted] at hq

theorem placeholders_append_of_inert {a : MarkedText} (h : ∀ entry ∈ a, Inert entry)
    (b : MarkedText) : placeholders (a ++ b) = placeholders b := by
  induction a with
  | nil => rfl
  | cons entry rest ih =>
    rw [List.cons_append, placeholders_cons_of_inert (h entry (by simp))]
    exact ih fun e he => h e (by simp [he])

theorem placeholders_of_inert {marked : MarkedText} (h : ∀ entry ∈ marked, Inert entry) :
    placeholders marked = 0 := by
  simpa using placeholders_append_of_inert h []

theorem placeholders_append {b : MarkedText} (hb : continuesName b = false) (a : MarkedText) :
    placeholders (a ++ b) = placeholders a + placeholders b := by
  induction a with
  | nil => simp
  | cons entry rest ih =>
    obtain ⟨c, mark⟩ := entry
    cases rest with
    | nil =>
      cases b with
      | nil => rfl
      | cons next rest =>
        obtain ⟨d, mark'⟩ := next
        have hd : d ≠ 'd' := by
          rintro rfl
          exact absurd hb (by simp [continuesName])
        simp [placeholders, hd]
    | cons next rest =>
      obtain ⟨d, mark'⟩ := next
      have hnext : continuesName (rest ++ b) = continuesName rest := by
        cases rest with
        | nil => exact hb
        | cons e tail => rfl
      rw [List.cons_append] at ih
      rw [List.cons_append, List.cons_append, placeholders, placeholders, hnext, ih,
        Nat.add_assoc]

theorem inert_of_ne {entry : Char × Mark} (h : entry.1 ≠ '%') : Inert entry :=
  fun hp => absurd hp h

theorem inert_of_blanks {marked : MarkedText} (h : Text.Blanks marked.text) :
    ∀ entry ∈ marked, Inert entry := by
  intro entry he
  apply inert_of_ne
  intro hc
  have hmem : entry.1 ∈ marked.text := List.mem_map_of_mem he
  rw [hc] at hmem
  exact h.not_mem (by decide) hmem

theorem continuesName_of_blanks {marked : MarkedText} (h : Text.Blanks marked.text) :
    continuesName marked = false := by
  cases marked with
  | nil => rfl
  | cons entry rest =>
    have hblank := h entry.1 (by simp)
    have hword := (OperatorSplit.not_token_of_isBlank hblank).1
    have hother : entry.1 ≠ '_' ∧ entry.1 ≠ '(' := by
      constructor <;>
      · intro hc
        rw [hc] at hblank
        exact absurd hblank (by decide)
    simp [continuesName, hword, hother.1, hother.2]

theorem continuesName_symbol (op : Operator) (mark : Mark) (rest : MarkedText) :
    continuesName ((op.symbol, mark) :: rest) = false := by
  cases op <;> rfl

theorem placeholders_between {pre text post : MarkedText} (hpre : Text.Blanks pre.text)
    (hpost : Text.Blanks post.text) :
    placeholders (pre ++ text ++ post) = placeholders text := by
  rw [List.append_assoc, placeholders_append_of_inert (inert_of_blanks hpre),
    placeholders_append (continuesName_of_blanks hpost),
    placeholders_of_inert (inert_of_blanks hpost), Nat.add_zero]

theorem placeholders_append_cons {c : Char} (hp : c ≠ '%') (hd : c ≠ 'd') (a : MarkedText)
    (mark : Mark) (b : MarkedText) :
    placeholders (a ++ (c, mark) :: b) = placeholders (a ++ [(c, mark)]) + placeholders b := by
  induction a with
  | nil =>
    rw [List.nil_append, List.nil_append, placeholders_cons_of_inert (inert_of_ne hp),
      placeholders_cons_of_inert (inert_of_ne hp), placeholders_nil, Nat.zero_add]
  | cons entry tail ih =>
    obtain ⟨d, mark'⟩ := entry
    cases tail with
    | nil =>
      simp only [List.cons_append, List.nil_append] at ih ⊢
      rw [placeholders, placeholders, ih]
      simp [hd]
    | cons next others =>
      obtain ⟨e, mark''⟩ := next
      have hname : continuesName (others ++ (c, mark) :: b) =
          continuesName (others ++ [(c, mark)]) := by
        cases others <;> rfl
      simp only [List.cons_append] at ih ⊢
      rw [placeholders, placeholders, ih, hname, Nat.add_assoc]

theorem placeholders_operation (a : MarkedText) (op : Operator) (mark : Mark) (b : MarkedText) :
    placeholders (a ++ (op.symbol, mark) :: b) = placeholders a + placeholders b := by
  have hne : op.symbol ≠ '%' := by cases op <;> decide
  rw [placeholders_append (continuesName_symbol op mark b),
    placeholders_cons_of_inert (inert_of_ne hne)]

theorem placeholders_raise (levels : Nat) (marked : MarkedText) :
    placeholders (marked.raise levels) = placeholders marked := by
  induction marked with
  | nil => rfl
  | cons entry rest ih =>
    obtain ⟨c, mark⟩ := entry
    cases rest with
    | nil => rfl
    | cons next rest =>
      obtain ⟨d, mark'⟩ := next
      have hname : continuesName (raise levels rest) = continuesName rest := by
        cases rest with
        | nil => rfl
        | cons e tail => rfl
      simp only [raise, List.map_cons] at ih hname ⊢
      rw [placeholders, placeholders, ih, hname]

end TimeSeries.MarkedText
