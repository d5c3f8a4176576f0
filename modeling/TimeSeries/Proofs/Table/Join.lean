import Mathlib.Data.List.Forall2
import TimeSeries.Proofs.Calendar.Order
import TimeSeries.Table.Join

set_option autoImplicit false

/-!
# Dates and cells of a join

The dates of a join are the distinct dates of its tables, ascending; an ascending list of dates is
known by its members. Each column of the join has the cells of one column, read off at those dates.
-/
namespace TimeSeries

section Dates

variable {dates others : List Date} {date : Date}

@[simp] theorem mem_insertDate {d : Date} : d ∈ insertDate date dates ↔ d = date ∨ d ∈ dates := by
  induction dates with
  | nil => simp [insertDate]
  | cons first rest ih =>
    rw [insertDate]
    split
    · simp
    · split
      · rename_i heq
        subst heq
        simp
      · simp only [List.mem_cons, ih, or_left_comm]

theorem pairwise_insertDate (h : dates.Pairwise (· < ·)) :
    (insertDate date dates).Pairwise (· < ·) := by
  induction dates with
  | nil => simp [insertDate]
  | cons first rest ih =>
    obtain ⟨hfirst, hrest⟩ := List.pairwise_cons.1 h
    rw [insertDate]
    split
    · rename_i hlt
      refine List.pairwise_cons.2 ⟨fun d hd => ?_, h⟩
      rcases List.mem_cons.1 hd with rfl | hd
      · exact hlt
      · exact Date.lt_trans hlt (hfirst d hd)
    · split
      · exact h
      · rename_i hlt hne
        refine List.pairwise_cons.2 ⟨fun d hd => ?_, ih hrest⟩
        rcases mem_insertDate.1 hd with rfl | hd
        · exact (Date.lt_or_eq_or_gt d first).resolve_left hlt |>.resolve_left hne
        · exact hfirst d hd

@[simp] theorem mem_distinctDates : date ∈ distinctDates dates ↔ date ∈ dates := by
  induction dates with
  | nil => rfl
  | cons first rest ih =>
    change date ∈ insertDate first (distinctDates rest) ↔ _
    rw [mem_insertDate, ih, List.mem_cons]

theorem pairwise_distinctDates (dates : List Date) : (distinctDates dates).Pairwise (· < ·) := by
  induction dates with
  | nil => exact .nil
  | cons first rest ih => exact pairwise_insertDate ih

theorem eq_of_mem_iff (hd : dates.Pairwise (· < ·)) (ho : others.Pairwise (· < ·))
    (h : ∀ d, d ∈ dates ↔ d ∈ others) : dates = others := by
  have hnodup {l : List Date} (hl : l.Pairwise (· < ·)) : l.Nodup := hl.imp Date.ne_of_lt
  refine List.Perm.eq_of_pairwise (fun a b _ _ hab hba => ?_) hd ho
    ((List.perm_ext_iff_of_nodup (hnodup hd) (hnodup ho)).2 h)
  exact absurd (Date.lt_trans hab hba) (Date.lt_irrefl a)

theorem filter_distinctDates (keep : Date → Bool) (dates : List Date) :
    (distinctDates dates).filter keep = distinctDates (dates.filter keep) := by
  refine eq_of_mem_iff ((pairwise_distinctDates dates).filter keep) (pairwise_distinctDates _) ?_
  simp

end Dates

theorem pairwise_unionDates (tables : List Table) : (unionDates tables).Pairwise (· < ·) :=
  pairwise_distinctDates _

theorem unionDates_congr {tables tables' : List Table}
    (h : List.Forall₂ (fun t t' => t.dates = t'.dates) tables tables') :
    unionDates tables = unionDates tables' := by
  have hdates : tables.flatMap Table.dates = tables'.flatMap Table.dates := by
    induction h with
    | nil => rfl
    | cons ht _ ih => rw [List.flatMap_cons, List.flatMap_cons, ht, ih]
  rw [unionDates, unionDates, hdates]

@[simp] theorem length_reindex (dates : List Date) (cells : List Cell) (others : List Date) :
    (reindex dates cells others).length = others.length := by
  simp [reindex]

/-- Columns of the same names stay columns of the same names when more are added: the names that are
taken are the same in both. -/
theorem forall₂_addColumns {S : Column → Column → Prop} (hname : ∀ c c', S c c' → c.name = c'.name)
    {dates dates' : List Date} {columns columns' : List Column} {table table' : Table}
    (htable : List.Forall₂ (fun c c' => c.name = c'.name ∧ ∀ name,
      S (.of name (reindex table.dates c.cells dates))
        (.of name (reindex table'.dates c'.cells dates'))) table.columns table'.columns)
    (h : List.Forall₂ S columns columns') :
    List.Forall₂ S (addColumns dates columns table) (addColumns dates' columns' table') := by
  rw [addColumns, addColumns]
  generalize table.columns = added, table'.columns = added' at htable
  induction htable generalizing columns columns' with
  | nil => exact h
  | @cons c c' rest rest' hc _ ih =>
    -- A free name depends only on the names that are taken.
    have hnames : columns.map Column.name = columns'.map Column.name :=
      List.forall₂_eq_eq_eq ▸
        List.forall₂_map_left_iff.2 (List.forall₂_map_right_iff.2 (h.imp hname))
    rw [List.foldl_cons, List.foldl_cons, hc.1, hnames]
    exact ih (List.rel_append h (.cons (hc.2 _) .nil))

theorem forall₂_joined {S : Column → Column → Prop} (hname : ∀ c c', S c c' → c.name = c'.name)
    {dates dates' : List Date} {tables tables' : List Table}
    (htables : List.Forall₂ (fun t t' => List.Forall₂ (fun c c' => c.name = c'.name ∧ ∀ name,
      S (.of name (reindex t.dates c.cells dates)) (.of name (reindex t'.dates c'.cells dates')))
      t.columns t'.columns) tables tables') :
    List.Forall₂ S (tables.foldl (addColumns dates) []) (tables'.foldl (addColumns dates') []) := by
  have hfold {columns columns' : List Column} (h : List.Forall₂ S columns columns') :
      List.Forall₂ S (tables.foldl (addColumns dates) columns)
        (tables'.foldl (addColumns dates') columns') := by
    induction htables generalizing columns columns' with
    | nil => exact h
    | cons ht _ ih => exact ih (forall₂_addColumns hname ht h)
  exact hfold .nil

theorem eq_map_of_forall₂ {f : List Cell → List Cell} {columns others : List Column}
    (h : List.Forall₂ (fun c c' => c.name = c'.name ∧ c'.cells = f c.cells) columns others) :
    others = columns.map fun column => ⟨column.name, f column.cells⟩ := by
  refine List.forall₂_eq_eq_eq ▸ List.forall₂_map_right_iff.2 (h.flip.imp ?_)
  rintro ⟨name, cells⟩ column ⟨hname, hcells⟩
  rw [hname]
  exact congrArg (Column.mk name) hcells

@[simp] theorem cellAt_of_nil (dates : List Date) (date : Date) : cellAt dates [] date = none := by
  rw [cellAt, List.zip_nil_right]
  rfl

theorem cellAt_cons (d : Date) (dates : List Date) (cell : Cell) (cells : List Cell) (date : Date) :
    cellAt (d :: dates) (cell :: cells) date = if date = d then cell else cellAt dates cells date := by
  rw [cellAt, List.zip_cons_cons, List.lookup_cons]
  by_cases h : date = d
  · simp [h]
  · have hbeq : (date == d) = false := beq_eq_false_iff_ne.2 h
    simp [h, hbeq, cellAt]

end TimeSeries
