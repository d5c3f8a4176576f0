import TimeSeries.Proofs.Calendar.PeriodOrder
import TimeSeries.Proofs.Table.Checks

set_option autoImplicit false

/-!
# The order of observations

Sorting by date forgets the order that observations came in, unless two of them have one date; then
the least date that two of them have is the fault, again in every order. Sorted dates are never
refused for their order.
-/
namespace TimeSeries.Table

section Sorting

variable {α : Type} {points points' : List (Date × α)}

theorem perm_sortByDate (points : List (Date × α)) : (sortByDate points).Perm points :=
  List.mergeSort_perm points _

theorem pairwise_sortByDate (points : List (Date × α)) :
    (sortByDate points).Pairwise fun a b => a.1 ≤ b.1 := by
  have hpairwise := @List.pairwise_mergeSort (Date × α) (fun a b => a.1 ≤ b.1)
    (fun a b c hab hbc => decide_eq_true (Date.le_trans (of_decide_eq_true hab) (of_decide_eq_true hbc)))
    (fun a b => by
      rcases Date.lt_or_eq_or_gt a.1 b.1 with h | h | h
      · simp [Date.le_of_lt h]
      · simp [h, Date.le_refl]
      · simp [Date.le_of_lt h]) points
  exact hpairwise.imp of_decide_eq_true

theorem pairwise_dates_sortByDate (points : List (Date × α)) :
    ((sortByDate points).map Prod.fst).Pairwise (· ≤ ·) :=
  List.pairwise_map.2 (pairwise_sortByDate points)

theorem dates_sortByDate_of_perm (h : points.Perm points') :
    (sortByDate points).map Prod.fst = (sortByDate points').map Prod.fst := by
  have hperm := ((perm_sortByDate points).trans h).trans (perm_sortByDate points').symm
  exact List.Perm.eq_of_pairwise (fun a b _ _ => Date.eq_of_le_of_le)
    (pairwise_dates_sortByDate points) (pairwise_dates_sortByDate points') (hperm.map Prod.fst)

theorem sortByDate_of_perm (h : points.Perm points') (hdistinct : (points.map Prod.fst).Nodup) :
    sortByDate points = sortByDate points' := by
  have hperm := ((perm_sortByDate points).trans h).trans (perm_sortByDate points').symm
  refine List.Perm.eq_of_pairwise (fun a b ha hb hab hba => ?_) (pairwise_sortByDate points)
    (pairwise_sortByDate points') hperm
  have ha' : a ∈ points := (perm_sortByDate points).mem_iff.1 ha
  have hb' : b ∈ points := h.mem_iff.2 ((perm_sortByDate points').mem_iff.1 hb)
  exact List.inj_on_of_nodup_map hdistinct ha' hb' (Date.eq_of_le_of_le hab hba)

end Sorting

/-! ## Checks of sorted dates -/

/-- The first date that comes more than once. -/
structure IsLeastRepeated (dates : List Date) (date : Date) : Prop where
  repeated : 2 ≤ dates.count date
  least : ∀ other, 2 ≤ dates.count other → date ≤ other

theorem IsLeastRepeated.of_perm {dates dates' : List Date} {date : Date}
    (h : IsLeastRepeated dates date) (hperm : dates.Perm dates') : IsLeastRepeated dates' date := by
  refine ⟨hperm.count_eq date ▸ h.repeated, fun other hother => h.least other ?_⟩
  rwa [hperm.count_eq]

variable {dates : List Date}

theorem IsLeastRepeated.cons {date first : Date} (h : IsLeastRepeated dates date)
    (hfirst : ∀ other ∈ dates, first < other) : IsLeastRepeated (first :: dates) date := by
  have hcount {other : Date} (hmem : other ∈ dates) :
      (first :: dates).count other = dates.count other :=
    List.count_cons_of_ne (Date.ne_of_lt (hfirst other hmem))
  constructor
  · have hmem : date ∈ dates := List.count_pos_iff.1 (Nat.lt_of_lt_of_le Nat.two_pos h.repeated)
    rw [hcount hmem]
    exact h.repeated
  · intro other hother
    have hmem : other ∈ dates := by
      by_contra hnot
      have hone : (first :: dates).count other ≤ 1 := by
        rw [List.count_cons, List.count_eq_zero_of_not_mem hnot]
        split <;> omega
      omega
    exact h.least other (hcount hmem ▸ hother)

theorem checkDates_of_sorted (h : dates.Pairwise (· ≤ ·)) :
    dates.Pairwise (· < ·) ∨
      ∃ date, checkDates dates = .error (.duplicateDate date) ∧ IsLeastRepeated dates date := by
  induction dates with
  | nil => exact .inl .nil
  | cons a dates ih =>
    cases dates with
    | nil => exact .inl (List.pairwise_singleton _ _)
    | cons b rest =>
      obtain ⟨hfirst, hrest⟩ := List.pairwise_cons.1 h
      by_cases hab : a = b
      -- Two equal neighbours are the first fault that the check meets, and all other dates are later.
      · subst hab
        refine .inr ⟨a, by rw [checkDates, if_pos rfl], by simp, fun other hother => ?_⟩
        have hmem : other ∈ a :: a :: rest := List.count_pos_iff.1 (by omega)
        rcases List.mem_cons.1 hmem with rfl | hmem
        · exact Date.le_refl other
        · exact hfirst other hmem
      · have hle := hfirst b List.mem_cons_self
        have hlt : a < b := ((Date.lt_or_eq_or_gt a b).resolve_right fun hge =>
          hge.elim hab fun hgt => hle hgt)
        have hbelow : ∀ other ∈ b :: rest, a < other := by
          intro other hother
          rcases List.mem_cons.1 hother with rfl | hmem
          · exact hlt
          · exact Date.lt_of_lt_of_le hlt ((List.pairwise_cons.1 hrest).1 other hmem)
        rcases ih hrest with hascending | ⟨date, herror, hleast⟩
        · exact .inl (.cons hbelow hascending)
        · refine .inr ⟨date, ?_, hleast.cons hbelow⟩
          rw [checkDates, if_neg hab, if_neg hle, herror]

theorem checkColumns_ne_unsorted {rows : Nat} {names : List String} {columns : List Column}
    {earlier later : Date} :
    checkColumns rows names columns ≠ .error (.unsortedDates earlier later) := by
  intro herror
  induction columns generalizing names with
  | nil => cases herror
  | cons column rest ih =>
    rw [checkColumns] at herror
    split at herror
    · cases herror
    · split at herror
      · cases herror
      · exact ih herror

/-- Dates that have been sorted are never refused for their order. -/
theorem ofColumns_ne_unsorted (h : dates.Pairwise (· ≤ ·)) {columns : List Column}
    {earlier later : Date} :
    ofColumns dates columns ≠ .error (.unsortedDates earlier later) := by
  intro herror
  rcases bind_eq_error.1 herror with hdates | ⟨_, -, hrest⟩
  · rcases checkDates_of_sorted h with hascending | ⟨date, hduplicate, -⟩
    · rw [checkDates_eq_ok.2 hascending] at hdates
      cases hdates
    · rw [hduplicate] at hdates
      cases hdates
  · rcases bind_eq_error.1 hrest with hcolumns | ⟨_, -, hreturn⟩
    · exact checkColumns_ne_unsorted hcolumns
    · cases hreturn

section Observations

variable {α : Type} {points points' : List (Date × α)}

/-- What is made of sorted observations, the dates apart, does not matter when a date repeats. -/
theorem ofColumns_of_repeated (hrepeated : ¬ (points.map Prod.fst).Nodup) :
    ∃ date, IsLeastRepeated (points.map Prod.fst) date ∧ ∀ columns,
      ofColumns ((sortByDate points).map Prod.fst) columns = .error (.duplicateDate date) := by
  have hperm := (perm_sortByDate points).map Prod.fst
  rcases checkDates_of_sorted (pairwise_dates_sortByDate points) with hascending | ⟨date, h, hleast⟩
  · exact absurd (hperm.nodup_iff.1 (hascending.imp Date.ne_of_lt)) hrepeated
  · refine ⟨date, hleast.of_perm hperm, fun columns => ?_⟩
    rw [ofColumns, h]
    rfl

theorem ofColumns_sortByDate_of_perm (h : points.Perm points')
    (columns : List (Date × α) → List Column) :
    ofColumns ((sortByDate points).map Prod.fst) (columns (sortByDate points)) =
      ofColumns ((sortByDate points').map Prod.fst) (columns (sortByDate points')) := by
  by_cases hdistinct : (points.map Prod.fst).Nodup
  · rw [sortByDate_of_perm h hdistinct]
  · obtain ⟨date, -, herror⟩ := ofColumns_of_repeated hdistinct
    rw [herror, ← dates_sortByDate_of_perm h, herror]

end Observations

theorem exists_ofPoints (name : String) {points : List (Date × Cell)}
    (hdistinct : (points.map Prod.fst).Nodup) : ∃ table, ofPoints name points = .ok table := by
  have hperm := (perm_sortByDate points).map Prod.fst
  have hsorted := pairwise_dates_sortByDate points
  rcases checkDates_of_sorted hsorted with hascending | ⟨date, -, hleast⟩
  · exact ⟨_, single_eq name hascending (by simp)⟩
  · have hone := List.nodup_iff_count_le_one.1 (hperm.nodup_iff.2 hdistinct) date
    have htwo := hleast.repeated
    omega

end TimeSeries.Table
