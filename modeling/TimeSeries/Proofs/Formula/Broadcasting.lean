import TimeSeries.Formula.Arithmetic
import TimeSeries.Proofs.Table.OuterJoin
import TimeSeries.Proofs.Table.Runs

set_option autoImplicit false

/-!
# Numbers as series

An operator takes a number for the series that has this number at each date of the other operand. The
number is combined with the cells where they stand; the series is joined first. Over equal dates the
join leaves the cells where they are, so that both ways combine the same cells, and both refuse a
table without a single column.
-/
namespace TimeSeries

namespace Table

/-- A series with the same number at each of some dates. -/
structure IsConstant (dates : List Date) (x : Float) (table : Table) : Prop where
  isShaped : table.IsShaped
  dates : table.dates = dates
  column : ∃ column, table.columns = [column] ∧ ∀ cell ∈ column.cells, cell = some x

variable {table constant : Table} {x : Float}

theorem IsConstant.valueColumn {dates : List Date} (h : constant.IsConstant dates x) :
    ∃ name, constant.valueColumn = .ok ⟨name, List.replicate dates.length (some x)⟩ := by
  obtain ⟨column, hcolumn, hcells⟩ := h.column
  have hvalue := valueColumn_eq hcolumn
  have hlength := h.isShaped.length_valueColumn hvalue
  refine ⟨column.name, hvalue.trans ?_⟩
  rw [← h.dates, ← hlength, ← List.eq_replicate_of_mem hcells]

theorem exists_single_isConstant {dates : List Date} (h : dates.Pairwise (· < ·))
    (hx : x.isFinite = true) (name : String) : ∃ constant,
      single name dates (List.replicate dates.length (some x)) = .ok constant ∧
        constant.IsConstant dates x := by
  have hcells : Column.of name (List.replicate dates.length (some x)) =
      ⟨Text.normalName name, List.replicate dates.length (some x)⟩ := by
    rw [Column.of, List.map_replicate, Cell.observed, Option.filter_some, if_pos hx]
  have hvalid : IsValid ⟨dates, [⟨Text.normalName name, List.replicate dates.length (some x)⟩]⟩ :=
    isValid_of_column h List.length_replicate (Column.isNormal_of name []).normalName_eq (by simp [hx])
  refine ⟨_, ?_, hvalid.isShaped, rfl, _, rfl, fun cell hcell => List.eq_of_mem_replicate hcell⟩
  rw [single_eq name h List.length_replicate, hcells]

end Table

section Operators

variable {table constant : Table} {x : Float}

theorem zipWith_replicate (f : Cell → Cell → Cell) (cells : List Cell) (cell : Cell) :
    cells.zipWith f (List.replicate cells.length cell) = cells.map (f · cell) := by
  rw [← List.map_const', List.zipWith_map_right, List.zipWith_self]

theorem replicate_zipWith (f : Cell → Cell → Cell) (cells : List Cell) (cell : Cell) :
    (List.replicate cells.length cell).zipWith f cells = cells.map (f cell) := by
  rw [List.zipWith_comm, zipWith_replicate]

theorem combine_right (h : table.IsShaped) (hc : constant.IsConstant table.dates x)
    (op : Operator) (fillMissing : Bool) :
    combine op fillMissing (.series table) (.number x) =
      combine op fillMissing (.series table) (.series constant) := by
  obtain ⟨name, hvalue⟩ := hc.valueColumn
  rw [combine, combine, broadcast, alignPair_of_dates_eq h hc.isShaped hc.dates, hvalue]
  cases hcolumn : table.valueColumn with
  | error cause => rfl
  | ok column =>
    change (liftTable (Table.single _ _ (column.cells.map _)) >>= _) =
      (liftTable (Table.single _ _ (column.cells.zipWith _ (List.replicate _ _))) >>= _)
    rw [← h.length_valueColumn hcolumn, zipWith_replicate]

theorem combine_left (h : table.IsShaped) (hc : constant.IsConstant table.dates x)
    (op : Operator) (fillMissing : Bool) :
    combine op fillMissing (.number x) (.series table) =
      combine op fillMissing (.series constant) (.series table) := by
  obtain ⟨name, hvalue⟩ := hc.valueColumn
  rw [combine, combine, broadcast, alignPair_of_dates_eq hc.isShaped h hc.dates.symm, hvalue,
    hc.dates]
  cases hcolumn : table.valueColumn with
  | error cause => rfl
  | ok column =>
    change (liftTable (Table.single _ _ (column.cells.map _)) >>= _) =
      (liftTable (Table.single _ _ ((List.replicate _ _).zipWith _ column.cells)) >>= _)
    rw [← h.length_valueColumn hcolumn, replicate_zipWith]

/-- For an operator a finite number is the series that has it at each date of the other operand. -/
theorem combine_number (h : table.IsValid) (hx : x.isFinite = true) (name : String) :
    (∃ constant, Table.single name table.dates (List.replicate table.dates.length (some x)) =
      .ok constant ∧ constant.IsConstant table.dates x) ∧
    ∀ constant : Table, constant.IsConstant table.dates x → ∀ (op : Operator) (fillMissing : Bool),
      combine op fillMissing (.series table) (.number x) =
        combine op fillMissing (.series table) (.series constant) ∧
      combine op fillMissing (.number x) (.series table) =
        combine op fillMissing (.series constant) (.series table) := by
  refine ⟨Table.exists_single_isConstant h.ascending hx name, fun constant hc op fillMissing => ?_⟩
  exact ⟨combine_right h.isShaped hc op fillMissing, combine_left h.isShaped hc op fillMissing⟩

/-- Four months taken from two, where the two that are missing count as zero. -/
theorem combine_number_gapped :
    Table.gapped.IsValid ∧ (2 : Float).isFinite = true ∧
      ∃ twos, Table.single "TWO" Table.gapped.dates (List.replicate 4 (some 2)) = .ok twos ∧
        combine .subtract true (.number 2) (.series Table.gapped) =
          combine .subtract true (.series twos) (.series Table.gapped) ∧
        combine .subtract true (.series twos) (.series Table.gapped) =
          .ok (.series ⟨Table.gapped.dates, [⟨"VALUE", [some 1, some 0, some 2, some 2]⟩]⟩) := by
  obtain ⟨⟨twos, htwos, hconstant⟩, hcombine⟩ :=
    @combine_number _ 2 Table.isValid_gapped (by decide) "TWO"
  have hnumber := (hcombine twos hconstant .subtract true).2
  exact ⟨Table.isValid_gapped, by decide, twos, htwos, hnumber, hnumber.symm.trans rfl⟩

end Operators

end TimeSeries
