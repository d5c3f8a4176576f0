import Mathlib.Data.String.Basic
import TimeSeries.NameMap

set_option autoImplicit false

/-!
# Entries of maps from names

What is found after an insertion, and which insertions may trade places or are void.
-/
namespace TimeSeries

namespace NameMap

variable {α : Type} {map : NameMap α} {name other : String} {value : α}

theorem find?_insert_of_ne (h : other ≠ name) :
    (map.insert name value).find? other = map.find? other := by
  obtain ⟨entries⟩ := map
  change (insertEntry name value entries).lookup other = entries.lookup other
  have hbeq : (other == name) = false := beq_eq_false_iff_ne.2 h
  induction entries with
  | nil =>
    rw [insertEntry, List.lookup_cons, hbeq]
  | cons entry rest ih =>
    obtain ⟨first, old⟩ := entry
    rw [insertEntry]
    split
    · rw [List.lookup_cons, hbeq]
    · split
      · rename_i heq
        subst heq
        rw [List.lookup_cons, List.lookup_cons, hbeq]
      · rw [List.lookup_cons, List.lookup_cons, ih]

theorem find?_insert_self : (map.insert name value).find? name = some value := by
  obtain ⟨entries⟩ := map
  change (insertEntry name value entries).lookup name = some value
  induction entries with
  | nil => rw [insertEntry, List.lookup_cons, beq_self_eq_true]
  | cons entry rest ih =>
    obtain ⟨first, old⟩ := entry
    rw [insertEntry]
    split
    · rw [List.lookup_cons, beq_self_eq_true]
    · split
      · rw [List.lookup_cons, beq_self_eq_true]
      · rename_i hne
        rw [List.lookup_cons, beq_eq_false_iff_ne.2 hne]
        exact ih

theorem mem_names_insert : other ∈ (map.insert name value).names ↔ other = name ∨ other ∈ map.names := by
  obtain ⟨entries⟩ := map
  change other ∈ (insertEntry name value entries).map Prod.fst ↔
    other = name ∨ other ∈ entries.map Prod.fst
  induction entries with
  | nil => simp [insertEntry]
  | cons entry rest ih =>
    obtain ⟨first, old⟩ := entry
    rw [insertEntry]
    split
    · simp
    · split
      · rename_i heq
        subst heq
        simp
      · simp only [List.map_cons, List.mem_cons, ih, or_left_comm]

theorem exists_find? (h : name ∈ map.names) : ∃ value, map.find? name = some value := by
  obtain ⟨⟨key, value⟩, hmem, rfl⟩ := List.mem_map.1 h
  cases hfind : map.find? key with
  | some found => exact ⟨found, rfl⟩
  | none =>
    have hne := List.lookup_eq_none_iff.1 hfind _ hmem
    simp at hne

theorem contains_eq_false_iff : map.contains name = false ↔ name ∉ map.names := by
  constructor
  · intro h hmem
    obtain ⟨value, hvalue⟩ := exists_find? hmem
    rw [contains, hvalue] at h
    cases h
  · intro h
    have hnone : map.entries.lookup name = none := by
      rw [List.lookup_eq_none_iff]
      intro entry hentry
      rw [bne_iff_ne]
      rintro rfl
      exact h (List.mem_map_of_mem hentry)
    rw [contains, find?, hnone]
    rfl

theorem find?_eq_some_iff (h : map.names.Nodup) :
    map.find? name = some value ↔ (name, value) ∈ map.entries := by
  obtain ⟨entries⟩ := map
  change entries.lookup name = some value ↔ (name, value) ∈ entries
  induction entries with
  | nil => simp
  | cons entry rest ih =>
    obtain ⟨first, old⟩ := entry
    obtain ⟨hfirst, hrest⟩ := List.nodup_cons.1 h
    rw [List.lookup_cons]
    split
    · rename_i heq
      obtain rfl := beq_iff_eq.1 heq
      have hnone : (name, value) ∉ rest := fun hmem => hfirst (List.mem_map.2 ⟨_, hmem, rfl⟩)
      simp [hnone, eq_comm]
    · rename_i hne
      have hne := beq_eq_false_iff_ne.1 hne
      simp [hne, ih hrest]

theorem perm_entries_insert (h : name ∉ map.names) :
    (map.insert name value).entries.Perm ((name, value) :: map.entries) := by
  obtain ⟨entries⟩ := map
  change (insertEntry name value entries).Perm ((name, value) :: entries)
  induction entries with
  | nil => exact .refl _
  | cons entry rest ih =>
    obtain ⟨first, old⟩ := entry
    obtain ⟨hne, hrest⟩ := not_or.1 (mt List.mem_cons.2 h)
    rw [insertEntry, if_neg (show ¬ name = first from hne)]
    split
    · exact .refl _
    · exact ((ih hrest).cons _).trans (.swap _ _ _)

theorem mem_values_insert_iff (h : name ∉ map.names) {v : α} :
    v ∈ (map.insert name value).values ↔ v = value ∨ v ∈ map.values :=
  ((perm_entries_insert h).map Prod.snd).mem_iff.trans List.mem_cons

/-- Each entry stands under the name that its value has, and no two under one name. -/
structure IsKeyedBy (map : NameMap α) (nameOf : α → String) : Prop where
  name_eq : ∀ entry ∈ map.entries, nameOf entry.2 = entry.1
  nodup : map.names.Nodup

theorem isKeyedBy_empty (nameOf : α → String) : (empty : NameMap α).IsKeyedBy nameOf :=
  ⟨nofun, List.nodup_nil⟩

namespace IsKeyedBy

variable {nameOf : α → String}

theorem insert (h : map.IsKeyedBy nameOf) (hname : nameOf value = name) (hnew : name ∉ map.names) :
    (map.insert name value).IsKeyedBy nameOf := by
  have hperm : (map.insert name value).entries.Perm ((name, value) :: map.entries) :=
    perm_entries_insert hnew
  constructor
  · intro entry hentry
    rcases List.mem_cons.1 (hperm.mem_iff.1 hentry) with rfl | hentry
    · exact hname
    · exact h.name_eq entry hentry
  · exact (hperm.map Prod.fst).nodup_iff.2 (List.nodup_cons.2 ⟨hnew, h.nodup⟩)

theorem map_values (h : map.IsKeyedBy nameOf) : map.values.map nameOf = map.names := by
  rw [values, names, List.map_map]
  exact List.map_congr_left h.name_eq

theorem find?_eq_some_iff (h : map.IsKeyedBy nameOf) :
    map.find? name = some value ↔ value ∈ map.values ∧ nameOf value = name := by
  rw [NameMap.find?_eq_some_iff h.nodup]
  constructor
  · exact fun hentry => ⟨List.mem_map_of_mem hentry, h.name_eq _ hentry⟩
  · rintro ⟨hvalue, rfl⟩
    obtain ⟨entry, hentry, rfl⟩ := List.mem_map.1 hvalue
    rw [h.name_eq entry hentry]
    exact hentry

end IsKeyedBy

section Inserting

variable {α : Type} {map : NameMap α} {name other first : String} {value value' old : α}
  {rest : List (String × α)}

theorem insertEntry_of_lt (h : name < first) :
    insertEntry name value ((first, old) :: rest) = (name, value) :: (first, old) :: rest := by
  rw [insertEntry, if_pos h]

theorem insertEntry_self :
    insertEntry name value ((name, old) :: rest) = (name, value) :: rest := by
  rw [insertEntry, if_neg (lt_irrefl name), if_pos rfl]

theorem insertEntry_of_gt (h : first < name) :
    insertEntry name value ((first, old) :: rest) = (first, old) :: insertEntry name value rest := by
  rw [insertEntry, if_neg (lt_asymm h), if_neg (ne_of_gt h)]

theorem insert_insert_self : (map.insert name value).insert name value' = map.insert name value' := by
  obtain ⟨entries⟩ := map
  refine congrArg NameMap.mk ?_
  change insertEntry name value' (insertEntry name value entries) = insertEntry name value' entries
  induction entries with
  | nil => exact insertEntry_self
  | cons entry rest ih =>
    obtain ⟨first, old⟩ := entry
    rcases lt_trichotomy name first with hlt | rfl | hgt
    · rw [insertEntry_of_lt hlt, insertEntry_self, insertEntry_of_lt hlt]
    · rw [insertEntry_self, insertEntry_self, insertEntry_self]
    · rw [insertEntry_of_gt hgt, insertEntry_of_gt hgt, insertEntry_of_gt hgt, ih]

theorem insertEntry_comm_of_lt (h : name < other) (entries : List (String × α)) :
    insertEntry other value' (insertEntry name value entries) =
      insertEntry name value (insertEntry other value' entries) := by
  induction entries with
  | nil => exact (insertEntry_of_gt h).trans (insertEntry_of_lt h).symm
  | cons entry rest ih =>
    obtain ⟨first, old⟩ := entry
    rcases lt_trichotomy other first with hlt | rfl | hgt
    · rw [insertEntry_of_lt (lt_trans h hlt), insertEntry_of_gt h, insertEntry_of_lt hlt,
        insertEntry_of_lt h]
    · rw [insertEntry_of_lt h, insertEntry_of_gt h, insertEntry_self, insertEntry_of_lt h]
    -- The entry comes before `other`, so only the place of `name` is still open.
    · rw [insertEntry_of_gt hgt]
      rcases lt_trichotomy name first with hlt | rfl | hgt'
      · rw [insertEntry_of_lt hlt, insertEntry_of_lt hlt, insertEntry_of_gt h, insertEntry_of_gt hgt]
      · rw [insertEntry_self, insertEntry_self, insertEntry_of_gt h]
      · rw [insertEntry_of_gt hgt', insertEntry_of_gt hgt', insertEntry_of_gt hgt, ih]

theorem insert_comm (h : name ≠ other) :
    (map.insert name value).insert other value' = (map.insert other value').insert name value := by
  rcases lt_or_gt_of_ne h with hlt | hgt
  · exact congrArg NameMap.mk (insertEntry_comm_of_lt hlt map.entries)
  · exact congrArg NameMap.mk (insertEntry_comm_of_lt hgt map.entries).symm

end Inserting

end NameMap

end TimeSeries
