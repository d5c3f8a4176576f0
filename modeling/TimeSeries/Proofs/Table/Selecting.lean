import TimeSeries.Proofs.Table.Operations

set_option autoImplicit false

/-!
# Operations on selected rows

Selecting rows by their dates commutes with every operation that computes each row from this row
alone: with functions of numbers, with joins and with what is computed row by row.
-/
namespace TimeSeries

namespace Table

section Cells

variable {keep : Date → Bool} {dates : List Date}

theorem keepCells_map (f : Cell → Cell) (cells : List Cell) :
    keepCells keep dates (cells.map f) = (keepCells keep dates cells).map f := by
  induction dates generalizing cells with
  | nil => rfl
  | cons date dates ih =>
    cases cells with
    | nil => simp
    | cons cell cells =>
      rw [List.map_cons, keepCells_cons, keepCells_cons, ih]
      split <;> rfl

theorem keepCells_zipWith (f : Cell → Cell → Cell) (as bs : List Cell) :
    keepCells keep dates (as.zipWith f bs) =
      (keepCells keep dates as).zipWith f (keepCells keep dates bs) := by
  induction dates generalizing as bs with
  | nil => rfl
  | cons date dates ih =>
    cases as with
    | nil => simp
    | cons a as =>
      cases bs with
      | nil => simp
      | cons b bs =>
        rw [List.zipWith_cons_cons, keepCells_cons, keepCells_cons, keepCells_cons, ih]
        split <;> rfl

theorem keepCells_of_map {α : Type} (keep : Date → Bool) (items : List α) (date : α → Date)
    (f : α → Cell) : keepCells keep (items.map date) (items.map f) =
      (items.filter fun item => keep (date item)).map f := by
  induction items with
  | nil => rfl
  | cons item items ih =>
    rw [List.map_cons, List.map_cons, keepCells_cons, ih, List.filter_cons]
    split <;> rfl

theorem cellAt_keepCells (cells : List Cell) {date : Date} (h : keep date = true) :
    cellAt (dates.filter keep) (keepCells keep dates cells) date = cellAt dates cells date := by
  induction dates generalizing cells with
  | nil => rfl
  | cons first dates ih =>
    cases cells with
    | nil => rw [keepCells_of_nil, cellAt_of_nil, cellAt_of_nil]
    | cons cell cells =>
      rw [keepCells_cons, List.filter_cons, cellAt_cons]
      by_cases hfirst : keep first = true
      · rw [if_pos hfirst, if_pos hfirst, cellAt_cons, ih]
      · have hne : date ≠ first := by
          rintro rfl
          exact hfirst h
        rw [if_neg hfirst, if_neg hfirst, if_neg hne, ih]

theorem reindex_keepCells (cells : List Cell) (others : List Date) :
    reindex (dates.filter keep) (keepCells keep dates cells) (others.filter keep) =
      keepCells keep others (reindex dates cells others) := by
  have hkept := keepCells_of_map keep others id (cellAt dates cells)
  rw [List.map_id] at hkept
  rw [reindex, reindex, hkept]
  exact List.map_congr_left fun date hdate => cellAt_keepCells cells (List.mem_filter.1 hdate).2

theorem keepCells_eq_cons {date : Date} {cells : List Cell}
    (h : cells.length = (date :: dates).length) : keepCells keep (date :: dates) cells =
      if keep date then cells.getD 0 none :: keepCells keep dates cells.tail
      else keepCells keep dates cells.tail := by
  cases cells with
  | nil => cases h
  | cons cell cells => exact keepCells_cons keep date dates cell cells

end Cells

section Rows

theorem rows_cons (date : Date) (dates : List Date) (columns : List Column) :
    rows ⟨date :: dates, columns⟩ = (date, columns.map fun c => c.cells.getD 0 none) ::
      rows ⟨dates, columns.map fun c => ⟨c.name, c.cells.tail⟩⟩ := by
  rw [rows, rows, List.zipIdx_cons, List.map_cons, List.zipIdx_succ, List.map_map]
  refine congrArg _ (List.map_congr_left fun item _ => ?_)
  simp

theorem rows_keepRows (keep : Date → Bool) (table : Table)
    (h : ∀ column ∈ table.columns, column.cells.length = table.dates.length) :
    (table.keepRows keep).rows = table.rows.filter fun row => keep row.1 := by
  obtain ⟨dates, columns⟩ := table
  change rows ⟨dates.filter keep, columns.map fun c => ⟨c.name, keepCells keep dates c.cells⟩⟩ = _
  -- The first row takes one cell off every column; the columns that remain vary with the induction.
  induction dates generalizing columns with
  | nil => rfl
  | cons date dates ih =>
    have htails : ∀ column ∈ columns.map fun c => (⟨c.name, c.cells.tail⟩ : Column),
        column.cells.length = dates.length := by
      intro column hc
      obtain ⟨c, hmem, rfl⟩ := List.mem_map.1 hc
      rw [List.length_tail, h c hmem, List.length_cons, Nat.add_sub_cancel]
    have hrest := ih _ htails
    rw [List.map_map] at hrest
    rw [rows_cons, List.filter_cons, List.filter_cons, ← hrest]
    have hcolumns : columns.map (fun c => (⟨c.name, keepCells keep (date :: dates) c.cells⟩ : Column)) =
        columns.map fun c => ⟨c.name, if keep date then
          c.cells.getD 0 none :: keepCells keep dates c.cells.tail
          else keepCells keep dates c.cells.tail⟩ :=
      List.map_congr_left fun c hc => by rw [keepCells_eq_cons (h c hc)]
    rw [hcolumns]
    cases keep date with
    | false => rfl
    | true =>
      simp only [if_true, rows_cons, List.map_map]
      rfl

end Rows

end Table

def Column.Selected (keep : Date → Bool) (dates : List Date) (column kept : Column) : Prop :=
  column.name = kept.name ∧ column.cells.length = dates.length ∧
    kept.cells = Table.keepCells keep dates column.cells

theorem Column.Selected.of {keep : Date → Bool} {dates : List Date} {cells : List Cell}
    (h : cells.length = dates.length) (name : String) :
    Column.Selected keep dates (.of name cells) (.of name (Table.keepCells keep dates cells)) :=
  ⟨rfl, (List.length_map _).trans h, (Table.keepCells_map Cell.observed cells).symm⟩

namespace Table

structure Selected (keep : Date → Bool) (table kept : Table) : Prop where
  ascending : table.dates.Pairwise (· < ·)
  dates : kept.dates = table.dates.filter keep
  columns : List.Forall₂ (Column.Selected keep table.dates) table.columns kept.columns

variable {keep : Date → Bool} {dates : List Date} {table kept : Table}

theorem Selected.eq (h : table.Selected keep kept) : kept = table.keepRows keep := by
  obtain ⟨dates', columns'⟩ := kept
  obtain ⟨-, hdates, hcolumns⟩ := h
  dsimp only at hdates hcolumns
  rw [hdates, eq_map_of_forall₂ (hcolumns.imp fun _ _ hc => ⟨hc.1, hc.2.2⟩), keepRows]

theorem IsValid.selected_keepRows (h : table.IsValid) (keep : Date → Bool) :
    table.Selected keep (table.keepRows keep) :=
  ⟨h.ascending, rfl, List.forall₂_map_right_iff.2
    (List.forall₂_same.2 fun column hc => ⟨rfl, h.lengths column hc, rfl⟩)⟩

theorem Selected.lengths (h : table.Selected keep kept) :
    ∀ column ∈ table.columns, column.cells.length = table.dates.length :=
  (List.forall₂_and_left (p := fun c : Column => c.cells.length = table.dates.length) _ _).1
    (h.columns.imp fun _ _ hc => ⟨hc.2.1, hc⟩) |>.1

theorem agree_ofColumns_selected (hdates : dates.Pairwise (· < ·)) {columns columns' : List Column}
    (h : List.Forall₂ (Column.Selected keep dates) columns columns') :
    Agree (Selected keep) (ofColumns dates columns) (ofColumns (dates.filter keep) columns') := by
  refine agree_ofColumns hdates (hdates.filter keep) (h.imp fun c c' hc => ?_) ⟨hdates, rfl, h⟩
  exact ⟨hc.1, hc.2.1, hc.2.2 ▸ length_keepCells keep hc.2.1⟩

theorem agree_single_selected (hdates : dates.Pairwise (· < ·)) {cells : List Cell}
    (h : cells.length = dates.length) (name : String) :
    Agree (Selected keep) (single name dates cells)
      (single name (dates.filter keep) (keepCells keep dates cells)) :=
  agree_ofColumns_selected hdates (.cons (.of h name) .nil)

theorem Selected.mapValues (h : table.Selected keep kept) (f : Float → Cell) :
    (table.mapValues f).Selected keep (kept.mapValues f) := by
  refine ⟨h.ascending, h.dates, List.forall₂_map_left_iff.2 (List.forall₂_map_right_iff.2
    (h.columns.imp fun column column' hc => ?_))⟩
  rw [← hc.1, hc.2.2, ← keepCells_map]
  exact .of ((List.length_map _).trans hc.2.1) _

theorem unionDates_selected {tables tables' : List Table}
    (h : List.Forall₂ (Selected keep) tables tables') :
    unionDates tables' = (unionDates tables).filter keep := by
  have hdates : tables'.flatMap Table.dates = tables.flatMap fun t => t.dates.filter keep := by
    induction h with
    | nil => rfl
    | cons ht _ ih => rw [List.flatMap_cons, List.flatMap_cons, ht.dates, ih]
  rw [unionDates, unionDates, filter_distinctDates, List.filter_flatMap, hdates]

theorem agree_joinTables_selected {tables tables' : List Table}
    (h : List.Forall₂ (Selected keep) tables tables') :
    Agree (Selected keep) (joinTables tables) (joinTables tables') := by
  rw [joinTables, joinTables, unionDates_selected h]
  refine agree_ofColumns_selected (pairwise_unionDates _) (forall₂_joined (fun _ _ hc => hc.1) ?_)
  refine h.imp fun t t' ht => ht.columns.imp fun c c' hc => ⟨hc.1, fun name => ?_⟩
  rw [ht.dates, hc.2.2, reindex_keepCells]
  exact .of (length_reindex ..) name

theorem Selected.map_rows (h : table.Selected keep kept) (f : List Cell → Cell) :
    (kept.rows.map fun row => f row.2) =
      keepCells keep table.dates (table.rows.map fun row => f row.2) := by
  rw [h.eq, rows_keepRows keep table h.lengths, ← map_fst_rows, keepCells_of_map]

end Table

end TimeSeries
