import TimeSeries.Proofs.Table.Valid
import TimeSeries.Proofs.Text.Case

set_option autoImplicit false

/-!
# Tables in shape

Dates ascend, every column has a cell for every date, and names differ and are in their normal form;
the cells may hold any numbers. A table is valid when moreover its cells are finite.
-/
namespace TimeSeries

/-- The name is in its normal form and observed cells are finite. -/
structure Column.IsNormal (column : Column) : Prop where
  trimmed : Text.trimmed column.name = column.name
  uppercase : Text.uppercase column.name = column.name
  finite : ∀ x, some x ∈ column.cells → x.isFinite = true

namespace Column

@[simp] theorem name_of (name : String) (cells : List Cell) :
    (Column.of name cells).name = Text.normalName name :=
  rfl

theorem isNormal_of (name : String) (cells : List Cell) : (Column.of name cells).IsNormal := by
  refine ⟨Text.trimmed_normalName name, Text.uppercase_normalName name, fun x hx => ?_⟩
  obtain ⟨cell, -, hcell⟩ := List.mem_map.1 hx
  exact (Option.filter_eq_some_iff.1 hcell).2

theorem IsNormal.normalName_eq {column : Column} (h : column.IsNormal) :
    Text.normalName column.name = column.name := by
  rw [Text.normalName, h.trimmed, h.uppercase]

end Column

/-- Columns that make a table over some dates. -/
structure ColumnsFit (dates : List Date) (columns : List Column) : Prop where
  lengths : ∀ column ∈ columns, column.cells.length = dates.length
  distinct : (columns.map Column.name).Nodup

namespace Table

/-- What a table keeps to, whatever its cells. -/
structure IsShaped (table : Table) : Prop where
  ascending : table.dates.Pairwise (· < ·)
  fit : ColumnsFit table.dates table.columns
  normal : ∀ column ∈ table.columns, Text.normalName column.name = column.name

variable {dates : List Date} {table : Table}

theorem isValid_iff_isShaped : table.IsValid ↔ table.IsShaped ∧
    ∀ column ∈ table.columns, ∀ x, some x ∈ column.cells → x.isFinite = true := by
  constructor
  · intro h
    refine ⟨⟨h.ascending, ⟨h.lengths, h.distinct⟩, fun column hc => ?_⟩, h.finite⟩
    rw [Text.normalName, h.trimmed column hc, h.uppercase column hc]
  · rintro ⟨h, hfinite⟩
    refine ⟨h.ascending, h.fit.lengths, h.fit.distinct, fun column hc => ?_, fun column hc => ?_,
      hfinite⟩
    · rw [← h.normal column hc, Text.trimmed_normalName]
    · rw [← h.normal column hc, Text.uppercase_normalName]

theorem IsValid.isShaped (h : table.IsValid) : table.IsShaped := (isValid_iff_isShaped.1 h).1

theorem isValid_of_column {name : String} {cells : List Cell} (hdates : dates.Pairwise (· < ·))
    (hlength : cells.length = dates.length) (hname : Text.normalName name = name)
    (hfinite : (cells.all fun cell => cell.all Float.isFinite) = true) :
    IsValid ⟨dates, [⟨name, cells⟩]⟩ := by
  refine isValid_iff_isShaped.2 ⟨⟨hdates, ⟨?_, by simp⟩, ?_⟩, ?_⟩
  · exact List.forall_mem_singleton.2 hlength
  · exact List.forall_mem_singleton.2 hname
  · exact List.forall_mem_singleton.2 fun x hx => List.all_eq_true.1 hfinite (some x) hx

theorem IsShaped.columnsFit_of (h : table.IsShaped) {cells : Column → List Cell}
    (hlength : ∀ column ∈ table.columns, (cells column).length = dates.length) :
    ColumnsFit dates (table.columns.map fun column => Column.of column.name (cells column)) := by
  constructor
  · rw [List.forall_mem_map]
    intro column hc
    rw [Column.of, List.length_map, hlength column hc]
  · have hnames : (table.columns.map fun column => Text.normalName column.name) =
        table.columns.map Column.name := List.map_congr_left h.normal
    simp only [List.map_map, Function.comp_def, Column.name_of, hnames]
    exact h.fit.distinct

theorem IsShaped.mapValues (h : table.IsShaped) (f : Float → Cell) :
    (table.mapValues f).IsShaped := by
  refine ⟨h.ascending, h.columnsFit_of fun column hc => ?_, ?_⟩
  · rw [List.length_map, h.fit.lengths column hc]
    rfl
  · rw [Table.mapValues, List.forall_mem_map]
    exact fun column _ => (Column.isNormal_of _ _).normalName_eq

theorem IsShaped.withCells (h : table.IsShaped) (hdates : dates.Pairwise (· < ·))
    {f : List Cell → List Cell}
    (hlength : ∀ column ∈ table.columns, (f column.cells).length = dates.length) :
    IsShaped ⟨dates, table.columns.map fun column => ⟨column.name, f column.cells⟩⟩ := by
  refine ⟨hdates, ⟨?_, ?_⟩, ?_⟩
  · rw [List.forall_mem_map]
    exact hlength
  · rw [List.map_map]
    exact h.fit.distinct
  · rw [List.forall_mem_map]
    exact h.normal

end Table

end TimeSeries
