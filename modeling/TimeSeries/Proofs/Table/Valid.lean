import Mathlib.Data.List.Chain
import Mathlib.Data.List.Forall2
import TimeSeries.Proofs.Agreement
import TimeSeries.Proofs.Calendar.Order
import TimeSeries.Proofs.Outcome
import TimeSeries.Table.Basic

set_option autoImplicit false

/-!
# Valid tables

Dates ascend strictly, every column has a cell for every date, names differ and are in their normal
form, and observed cells are finite. `Table.ofColumns` accepts exactly what satisfies the first
three.
-/
namespace TimeSeries

namespace Table

/-- What every table keeps to. -/
structure IsValid (table : Table) : Prop where
  ascending : table.dates.Pairwise (· < ·)
  lengths : ∀ column ∈ table.columns, column.cells.length = table.dates.length
  distinct : (table.columns.map Column.name).Nodup
  trimmed : ∀ column ∈ table.columns, Text.trimmed column.name = column.name
  uppercase : ∀ column ∈ table.columns, Text.uppercase column.name = column.name
  finite : ∀ column ∈ table.columns, ∀ x, some x ∈ column.cells → x.isFinite = true

theorem checkDates_cons_cons (a b : Date) (rest : List Date) :
    checkDates (a :: b :: rest) = .ok () ↔ a < b ∧ checkDates (b :: rest) = .ok () := by
  rw [checkDates]
  rcases Date.lt_or_eq_or_gt a b with h | rfl | h
  · have hne : a ≠ b := by
      rintro rfl
      exact Date.lt_irrefl a h
    have hnot : ¬ b < a := Date.le_of_lt h
    simp [h, hne, hnot]
  · simp [Date.lt_irrefl]
  · have hnot : ¬ a < b := Date.le_of_lt h
    split <;> simp [hnot]

theorem checkDates_eq_ok {dates : List Date} :
    checkDates dates = .ok () ↔ dates.Pairwise (· < ·) := by
  rw [← List.isChain_iff_pairwise]
  induction dates with
  | nil => simp [checkDates]
  | cons a dates ih =>
    cases dates with
    | nil => simp [checkDates]
    | cons b rest => rw [checkDates_cons_cons, ih, List.isChain_cons_cons]

theorem checkColumns_eq_ok {rows : Nat} {earlier : List String} {columns : List Column} :
    checkColumns rows earlier columns = .ok () ↔
      (∀ column ∈ columns, column.cells.length = rows) ∧
        (∀ column ∈ columns, column.name ∉ earlier) ∧ (columns.map Column.name).Nodup := by
  induction columns generalizing earlier with
  | nil => simp [checkColumns]
  | cons column columns ih =>
    rw [checkColumns]
    by_cases hlength : column.cells.length = rows
    · by_cases hname : column.name ∈ earlier
      · simp [hlength, hname]
      · rw [if_neg (not_not.2 hlength), if_neg hname, ih, List.forall_mem_cons, List.forall_mem_cons,
          List.map_cons, List.nodup_cons]
        constructor
        · rintro ⟨hlengths, hnames, hnodup⟩
          refine ⟨⟨hlength, hlengths⟩, ⟨hname, fun c hc hmem => ?_⟩, fun hmem => ?_, hnodup⟩
          · exact hnames c hc (List.mem_cons_of_mem _ hmem)
          · obtain ⟨c, hc, heq⟩ := List.mem_map.1 hmem
            exact hnames c hc (by rw [heq]; exact List.mem_cons_self)
        · rintro ⟨⟨-, hlengths⟩, ⟨-, hnames⟩, hnew, hnodup⟩
          refine ⟨hlengths, fun c hc hmem => ?_, hnodup⟩
          rcases List.mem_cons.1 hmem with heq | hmem
          · exact hnew (heq ▸ List.mem_map_of_mem hc)
          · exact hnames c hc hmem
    · simp [hlength]

theorem ofColumns_eq_ok {dates : List Date} {columns : List Column} {table : Table} :
    ofColumns dates columns = .ok table ↔ table = ⟨dates, columns⟩ ∧ dates.Pairwise (· < ·) ∧
      (∀ column ∈ columns, column.cells.length = dates.length) ∧
        (columns.map Column.name).Nodup := by
  rw [ofColumns]
  constructor
  · intro h
    obtain ⟨_, hdates, h⟩ := bind_eq_ok.1 h
    obtain ⟨_, hcolumns, h⟩ := bind_eq_ok.1 h
    obtain ⟨hlengths, -, hnodup⟩ := checkColumns_eq_ok.1 hcolumns
    cases h
    exact ⟨rfl, checkDates_eq_ok.1 hdates, hlengths, hnodup⟩
  · rintro ⟨rfl, hdates, hlengths, hnodup⟩
    rw [checkDates_eq_ok.2 hdates]
    change (checkColumns dates.length [] columns >>= _) = _
    rw [checkColumns_eq_ok.2 ⟨hlengths, by simp, hnodup⟩]
    rfl

theorem checkColumns_congr {rows rows' : Nat} {columns columns' : List Column}
    (h : List.Forall₂ (fun c c' => c.name = c'.name ∧ c.cells.length = rows ∧
      c'.cells.length = rows') columns columns') (earlier : List String) :
    checkColumns rows earlier columns = checkColumns rows' earlier columns' := by
  induction h generalizing earlier with
  | nil => rfl
  | @cons c c' rest rest' hc _ ih =>
    obtain ⟨hname, hlength, hlength'⟩ := hc
    rw [checkColumns, checkColumns, if_neg (not_not.2 hlength), if_neg (not_not.2 hlength'), hname, ih]

/-- Columns of the same names over ascending dates are refused alike, or make related tables. -/
theorem agree_ofColumns {R : Table → Table → Prop} {dates dates' : List Date}
    {columns columns' : List Column} (hdates : dates.Pairwise (· < ·))
    (hdates' : dates'.Pairwise (· < ·))
    (hcolumns : List.Forall₂ (fun c c' => c.name = c'.name ∧ c.cells.length = dates.length ∧
      c'.cells.length = dates'.length) columns columns')
    (h : R ⟨dates, columns⟩ ⟨dates', columns'⟩) :
    Agree R (ofColumns dates columns) (ofColumns dates' columns') := by
  rw [ofColumns, ofColumns, checkDates_eq_ok.2 hdates, checkDates_eq_ok.2 hdates',
    checkColumns_congr hcolumns []]
  exact .bind_same _ fun _ => .bind_same _ fun _ => .ok h

theorem agree_valueColumn {S : Column → Column → Prop} {table table' : Table}
    (h : List.Forall₂ S table.columns table'.columns) :
    Agree S table.valueColumn table'.valueColumn := by
  unfold valueColumn
  generalize table.columns = columns, table'.columns = columns' at h
  cases h with
  | nil => exact .error _
  | cons hc hrest =>
    cases hrest with
    | nil => exact .ok hc
    | cons _ hrest =>
      dsimp only [List.length_cons]
      rw [hrest.length_eq]
      exact .error _

variable {table : Table}

theorem IsValid.ofColumns_eq (h : table.IsValid) :
    ofColumns table.dates table.columns = .ok table :=
  ofColumns_eq_ok.2 ⟨rfl, h.ascending, h.lengths, h.distinct⟩

theorem IsValid.column_of (h : table.IsValid) {column : Column} (hc : column ∈ table.columns) :
    Column.of column.name column.cells = column := by
  have hname : Text.normalName column.name = column.name := by
    rw [Text.normalName, h.trimmed column hc, h.uppercase column hc]
  have hcells : column.cells.map Cell.observed = column.cells := by
    refine (List.map_congr_left fun cell hcell => ?_).trans (List.map_id _)
    cases cell with
    | none => rfl
    | some x => simp [Cell.observed, h.finite column hc x hcell]
  rw [Column.of, hname, hcells]

theorem sortByDate_of_pairwise {α : Type} {points : List (Date × α)}
    (h : (points.map Prod.fst).Pairwise (· < ·)) : sortByDate points = points := by
  refine List.mergeSort_of_pairwise (List.Pairwise.imp ?_ (List.pairwise_map.1 h))
  intro a b hab
  exact decide_eq_true (Date.le_of_lt hab)

@[simp] theorem map_fst_rows (table : Table) : table.rows.map Prod.fst = table.dates := by
  rw [rows, List.map_map]
  change table.dates.zipIdx.map Prod.fst = table.dates
  exact List.zipIdx_map_fst 0 table.dates

theorem length_of_mem_rows {row : Date × List Cell} (h : row ∈ table.rows) :
    row.2.length = table.columns.length := by
  obtain ⟨⟨date, index⟩, -, rfl⟩ := List.mem_map.1 h
  exact List.length_map _

theorem exists_column_of_mem_rows {row : Date × List Cell} (h : row ∈ table.rows) {x : Float}
    (hx : some x ∈ row.2) : ∃ column ∈ table.columns, some x ∈ column.cells := by
  obtain ⟨⟨date, index⟩, -, rfl⟩ := List.mem_map.1 h
  obtain ⟨column, hc, hcell⟩ := List.mem_map.1 hx
  refine ⟨column, hc, ?_⟩
  rw [List.getD_eq_getElem?_getD] at hcell
  cases hget : column.cells[index]? with
  | none =>
    rw [hget] at hcell
    cases hcell
  | some cell =>
    rw [hget] at hcell
    exact hcell ▸ List.mem_of_getElem? hget

theorem IsValid.map_rows (h : table.IsValid) {index : Nat} {column : Column}
    (hc : table.columns[index]? = some column) :
    (table.rows.map fun row => row.2.getD index none) = column.cells := by
  have hlength := h.lengths column (List.mem_of_getElem? hc)
  refine List.ext_getElem (by simp [rows, hlength]) fun row hleft hright => ?_
  simp [rows, hc, hright]

end Table

end TimeSeries
