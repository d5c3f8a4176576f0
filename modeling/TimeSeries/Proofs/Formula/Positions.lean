import TimeSeries.Proofs.Formula.Placeholders

set_option autoImplicit false

/-!
# Positions of placeholders

The placeholders of a text are numbered from left to right. Where a part stands in the text, its
placeholders have the numbers from the count of those before it on.
-/
namespace TimeSeries

namespace MarkedText

def beginsPlaceholder : MarkedText → Bool
  | (c, mark) :: (d, _) :: rest => c == '%' && d == 'd' && !mark.quoted && !continuesName rest
  | _ => false

def placeholdersBefore (marked : MarkedText) (position : Nat) : Nat :=
  (List.range position).countP fun i => beginsPlaceholder (marked.drop i)

theorem placeholders_eq (marked : MarkedText) :
    marked.placeholders = marked.beginsPlaceholder.toNat + placeholders marked.tail := by
  match marked with
  | [] => rfl
  | [_] => rfl
  | (c, mark) :: (d, mark') :: rest =>
    rw [placeholders, List.tail_cons, beginsPlaceholder]
    congr 1
    by_cases h : c = '%' ∧ d = 'd' ∧ !mark.quoted ∧ !continuesName rest
    · obtain ⟨rfl, rfl, hq, hn⟩ := h
      simp [hq, hn]
    · rw [if_neg h, eq_comm, Bool.toNat_eq_zero, Bool.eq_false_iff]
      intro hall
      simp only [Bool.and_eq_true, beq_iff_eq] at hall
      exact h ⟨hall.1.1.1, hall.1.1.2, hall.1.2, hall.2⟩

theorem placeholdersBefore_add (marked : MarkedText) (position : Nat) :
    marked.placeholdersBefore position + placeholders (marked.drop position) =
      marked.placeholders := by
  induction position with
  | zero => simp [placeholdersBefore]
  | succ i ih =>
    rw [placeholders_eq (marked.drop i), List.tail_drop] at ih
    rw [← ih, placeholdersBefore, placeholdersBefore, List.range_succ, List.countP_append,
      List.countP_singleton]
    cases beginsPlaceholder (marked.drop i) with
    | false => simp
    | true =>
      simp
      omega

theorem raise_zero (marked : MarkedText) : marked.raise 0 = marked := by
  simp [raise]

theorem raise_raise (m n : Nat) (marked : MarkedText) :
    (marked.raise m).raise n = marked.raise (m + n) := by
  simp [raise, Function.comp_def, Nat.add_assoc]

theorem raise_append (levels : Nat) (a b : MarkedText) :
    (a ++ b).raise levels = a.raise levels ++ b.raise levels := List.map_append

theorem length_raise (levels : Nat) (marked : MarkedText) :
    (marked.raise levels).length = marked.length := List.length_map _

theorem continuesName_append {a b : MarkedText} (ha : continuesName a = false)
    (hb : continuesName b = false) : continuesName (a ++ b) = false := by
  cases a with
  | nil => exact hb
  | cons entry rest => exact ha

theorem continuesName_raise (levels : Nat) (marked : MarkedText) :
    continuesName (marked.raise levels) = continuesName marked := by
  cases marked <;> rfl

/-- Marked text stands in a whole at a position, perhaps inside parentheses, and no name goes on
behind it. -/
def StandsAt (whole : MarkedText) (start : Nat) (part : MarkedText) : Prop :=
  ∃ (front after : MarkedText) (levels : Nat), whole = front ++ (part.raise levels ++ after) ∧
    front.length = start ∧ continuesName after = false

namespace StandsAt

variable {whole a b c part : MarkedText} {start : Nat}

theorem whole_self (whole : MarkedText) : StandsAt whole 0 whole :=
  ⟨[], [], 0, by simp [raise_zero], rfl, rfl⟩

theorem of_raise {levels : Nat} (h : StandsAt whole start (part.raise levels)) :
    StandsAt whole start part := by
  obtain ⟨front, after, more, rfl, hlength, hafter⟩ := h
  rw [raise_raise]
  exact ⟨front, after, levels + more, rfl, hlength, hafter⟩

theorem left (h : StandsAt whole start (a ++ b)) (hb : continuesName b = false) :
    StandsAt whole start a := by
  obtain ⟨front, after, levels, rfl, hlength, hafter⟩ := h
  refine ⟨front, b.raise levels ++ after, levels, by simp [raise_append], hlength, ?_⟩
  exact continuesName_append ((continuesName_raise levels b).trans hb) hafter

theorem right (h : StandsAt whole start (a ++ b)) : StandsAt whole (start + a.length) b := by
  obtain ⟨front, after, levels, rfl, rfl, hafter⟩ := h
  refine ⟨front ++ a.raise levels, after, levels, by simp [raise_append], ?_, hafter⟩
  rw [List.length_append, length_raise]

theorem exists_placeholders (h : StandsAt whole start part) :
    ∃ rest, whole.placeholders = whole.placeholdersBefore start + part.placeholders + rest := by
  obtain ⟨front, after, levels, rfl, rfl, hafter⟩ := h
  refine ⟨after.placeholders, ?_⟩
  rw [← placeholdersBefore_add _ front.length, List.drop_left, placeholders_append hafter,
    placeholders_raise, Nat.add_assoc]

theorem placeholdersBefore_right (h : StandsAt whole start (a ++ b)) :
    whole.placeholdersBefore (start + a.length) + b.placeholders =
      whole.placeholdersBefore start + (a ++ b).placeholders := by
  obtain ⟨front, after, levels, rfl, rfl, hafter⟩ := h
  have hwhole := placeholdersBefore_add (front ++ ((a ++ b).raise levels ++ after)) front.length
  rw [List.drop_left, placeholders_append hafter, placeholders_raise] at hwhole
  have hlength : front.length + a.length = (front ++ a.raise levels).length := by
    rw [List.length_append, length_raise]
  have hsplit : front ++ ((a ++ b).raise levels ++ after) =
      (front ++ a.raise levels) ++ (b.raise levels ++ after) := by
    simp [raise_append]
  have hrest := placeholdersBefore_add (front ++ ((a ++ b).raise levels ++ after))
    (front.length + a.length)
  rw [hlength] at hrest ⊢
  conv at hrest =>
    lhs
    rhs
    rw [hsplit, List.drop_left, placeholders_append hafter, placeholders_raise]
  omega

end StandsAt

end MarkedText

end TimeSeries
