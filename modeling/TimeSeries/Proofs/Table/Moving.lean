import TimeSeries.Proofs.Calendar.PeriodOrder
import TimeSeries.Proofs.Table.Operations

set_option autoImplicit false

/-!
# Moves along the rows

A moved column has in each row the cell of the row that lies so many rows before, counted over all
integers, and is missing where there is no such row. So moves in one direction add up, and a move
there and back clears the rows whose cells were moved over the edge. The calendar has fewer days than
there are machine words, so that the row numbers may be such words.
-/
namespace TimeSeries.Table

variable {cells : List Cell} {row : Nat}

/-! ## Rows -/

def cellOfRow (cells : List Cell) (row : Int) : Cell :=
  if 0 ≤ row then cells.getD row.toNat none else none

theorem getElem?_eq_cellOfRow (h : row < cells.length) : cells[row]? = some (cellOfRow cells row) := by
  rw [cellOfRow, if_pos (Int.natCast_nonneg row), Int.toNat_natCast, List.getD_eq_getElem?_getD,
    List.getElem?_eq_getElem h]
  rfl

theorem cellOfRow_eq_none {row : Int} (h : row < 0 ∨ cells.length ≤ row) :
    cellOfRow cells row = none := by
  rw [cellOfRow]
  split
  · have hlength : cells.length ≤ row.toNat := by omega
    rw [List.getD_eq_getElem?_getD, List.getElem?_eq_none hlength]
    rfl
  · rfl

theorem getElem?_shiftCells (periods : Int) (h : row < cells.length) :
    (shiftCells periods cells)[row]? = some (cellOfRow cells (row - periods)) := by
  have hold (source : Nat) (hsource : source < cells.length) (heq : (row : Int) - periods = source) :
      cells[source]? = some (cellOfRow cells (row - periods)) := by
    rw [heq, getElem?_eq_cellOfRow hsource]
  have hnew (hout : (row : Int) - periods < 0 ∨ cells.length ≤ (row : Int) - periods) :
      some none = some (cellOfRow cells (row - periods)) := by
    rw [cellOfRow_eq_none hout]
  rw [shiftCells]
  split
  · rw [List.getElem?_append, List.length_replicate, List.getElem?_replicate, List.getElem?_take]
    split
    · exact hnew (by omega)
    · rw [if_pos (by omega)]
      exact hold _ (by omega) (by omega)
  · rw [List.getElem?_append, List.length_drop, List.getElem?_drop, List.getElem?_replicate]
    split
    · exact hold _ (by omega) (by omega)
    · rw [if_pos (by omega)]
      exact hnew (by omega)

theorem eq_of_rows {as bs : List Cell} (hlength : as.length = bs.length)
    (h : ∀ row < as.length, as[row]? = bs[row]?) : as = bs := by
  refine List.ext_getElem?' fun row hrow => h row ?_
  rwa [← hlength, Nat.max_self] at hrow

theorem getElem?_shiftCells_shiftCells (a b : Int) (h : row < cells.length) :
    (shiftCells b (shiftCells a cells))[row]? = some
      (if 0 ≤ row - b ∧ row - b < cells.length then cellOfRow cells (row - b - a) else none) := by
  have hlength := length_shiftCells a cells
  rw [getElem?_shiftCells b (hlength ▸ h)]
  split
  · rename_i hinside
    obtain ⟨source, hsource⟩ := Int.eq_ofNat_of_zero_le hinside.1
    have hlt : source < cells.length := by omega
    rw [hsource, ← getElem?_eq_cellOfRow (hlength ▸ hlt), getElem?_shiftCells a hlt]
  · rw [cellOfRow_eq_none (by omega)]

theorem shiftCells_add {a b : Int} (h : 0 ≤ a ∧ 0 ≤ b ∨ a ≤ 0 ∧ b ≤ 0) (cells : List Cell) :
    shiftCells b (shiftCells a cells) = shiftCells (a + b) cells := by
  refine eq_of_rows (by simp) fun row hrow => ?_
  have hlt : row < cells.length := by simpa using hrow
  -- the second move reads the first one, as far as that has a row
  rw [getElem?_shiftCells_shiftCells a b hlt, getElem?_shiftCells (a + b) hlt]
  split
  · congr 2
    omega
  · -- a row that the second move does not have is beyond the same edge for both moves together
    rw [cellOfRow_eq_none (by omega)]

def clearCells (gone : Nat → Bool) (cells : List Cell) : List Cell :=
  cells.mapIdx fun row cell => if gone row then none else cell

theorem getElem?_clearCells (gone : Nat → Bool) (h : row < cells.length) :
    (clearCells gone cells)[row]? = some (if gone row then none else cellOfRow cells row) := by
  rw [clearCells, List.getElem?_mapIdx, getElem?_eq_cellOfRow h]
  rfl

theorem shiftCells_down_up (n : Nat) (cells : List Cell) :
    shiftCells (-n) (shiftCells n cells) = clearCells (cells.length - n ≤ ·) cells := by
  refine eq_of_rows (by simp [clearCells]) fun row hrow => ?_
  have hlt : row < cells.length := by simpa using hrow
  have hback : (row : Int) - -(n : Int) - n = row := by omega
  rw [getElem?_shiftCells_shiftCells n (-n) hlt, getElem?_clearCells _ hlt, hback]
  by_cases hlast : cells.length - n ≤ row
  · rw [if_neg (by omega), if_pos (by simpa using hlast)]
  · rw [if_pos (by omega), if_neg (by simpa using hlast)]

theorem shiftCells_up_down (n : Nat) (cells : List Cell) :
    shiftCells n (shiftCells (-n) cells) = clearCells (· < n) cells := by
  refine eq_of_rows (by simp [clearCells]) fun row hrow => ?_
  have hlt : row < cells.length := by simpa using hrow
  have hback : (row : Int) - n - -(n : Int) = row := by omega
  rw [getElem?_shiftCells_shiftCells (-n) n hlt, getElem?_clearCells _ hlt, hback]
  by_cases hfirst : row < n
  · rw [if_neg (by omega), if_pos (by simpa using hfirst)]
  · rw [if_pos (by omega), if_neg (by simpa using hfirst)]

/-! ## Tables -/

/-- The cells of one column moved by a number of rows. -/
structure MovesCells (periods : Int) (cells moved : List Cell) : Prop where
  length : moved.length = cells.length
  own : ∀ row < cells.length, ∀ source < cells.length, (source : Int) = row - periods →
    moved[row]? = cells[source]?
  missing : ∀ row < cells.length, (∀ source < cells.length, (source : Int) ≠ row - periods) →
    moved[row]? = some none

theorem movesCells_shiftCells (periods : Int) (cells : List Cell) :
    MovesCells periods cells (shiftCells periods cells) where
  length := length_shiftCells periods cells
  own row hrow source hsource heq := by
    rw [getElem?_shiftCells periods hrow, ← heq, getElem?_eq_cellOfRow hsource]
  missing row hrow hnone := by
    have hout : (row : Int) - periods < 0 ∨ cells.length ≤ (row : Int) - periods := by
      by_contra hinside
      exact hnone ((row : Int) - periods).toNat (by omega) (by omega)
    rw [getElem?_shiftCells periods hrow, cellOfRow_eq_none hout]

/-- All columns of a table moved by a number of rows, under the same dates and names. -/
structure MovesRows (periods : Int) (table moved : Table) : Prop where
  dates : moved.dates = table.dates
  names : moved.columns.map Column.name = table.columns.map Column.name
  cells : ∀ (index : Nat) (column : Column), table.columns[index]? = some column →
    ∃ given, moved.columns[index]? = some given ∧ MovesCells periods column.cells given.cells

theorem movesRows_shift (periods : Int) (table : Table) :
    MovesRows periods table (table.shift periods) where
  dates := rfl
  names := by
    rw [shift, List.map_map]
    rfl
  cells index column hc := by
    refine ⟨⟨column.name, shiftCells periods column.cells⟩, ?_, movesCells_shiftCells _ _⟩
    rw [shift, List.getElem?_map, hc]
    rfl

theorem shift_shift {a b : Int} (h : 0 ≤ a ∧ 0 ≤ b ∨ a ≤ 0 ∧ b ≤ 0) (table : Table) :
    (table.shift a).shift b = table.shift (a + b) := by
  rw [shift, shift, shift, List.map_map]
  refine congrArg (Table.mk _) (List.map_congr_left fun column _ => ?_)
  exact congrArg (Column.mk _) (shiftCells_add h column.cells)

def clearRows (gone : Nat → Bool) (table : Table) : Table :=
  ⟨table.dates, table.columns.map fun column => ⟨column.name, clearCells gone column.cells⟩⟩

variable {table : Table}

theorem IsShaped.shift_down_up (h : table.IsShaped) (n : Nat) :
    (table.shift n).shift (-n) = table.clearRows (table.rowCount - n ≤ ·) := by
  rw [Table.shift, Table.shift, List.map_map]
  refine congrArg (Table.mk _) (List.map_congr_left fun column hc => ?_)
  rw [rowCount, ← h.fit.lengths column hc]
  exact congrArg (Column.mk _) (shiftCells_down_up n column.cells)

theorem shift_up_down (n : Nat) (table : Table) :
    (table.shift (-n)).shift n = table.clearRows (· < n) := by
  rw [shift, shift, List.map_map]
  refine congrArg (Table.mk _) (List.map_congr_left fun column _ => ?_)
  exact congrArg (Column.mk _) (shiftCells_up_down n column.cells)

/-! ## Machine words -/

theorem wordCell_eq (hcells : cells.length < 2 ^ 63) (h : row < cells.length) (periods : Int64) :
    wordCell cells periods row = cellOfRow cells (row - periods.toInt) := by
  have hrow : (Int64.ofNat row).toInt = row := Int64.toInt_ofNat_of_lt (Nat.lt_trans h hcells)
  have hlength : (Int64.ofNat cells.length).toInt = cells.length := Int64.toInt_ofNat_of_lt hcells
  rw [wordCell]
  split
  · rename_i hover
    simp only [BitVec.ssubOverflow, Bool.or_eq_true, decide_eq_true_eq] at hover
    change (Int64.ofNat row).toInt - periods.toInt ≥ 2 ^ 63 ∨
      (Int64.ofNat row).toInt - periods.toInt < -2 ^ 63 at hover
    rw [hrow] at hover
    rw [cellOfRow_eq_none (by omega)]
  · rename_i hfits
    have hsource : (Int64.ofNat row - periods).toInt = row - periods.toInt :=
      (BitVec.toInt_sub_of_not_ssubOverflow hfits).trans (congrArg (· - periods.toInt) hrow)
    have hinside : 0 ≤ Int64.ofNat row - periods ∧
        Int64.ofNat row - periods < Int64.ofNat cells.length ↔
        0 ≤ (row : Int) - periods.toInt ∧ (row : Int) - periods.toInt < cells.length := by
      rw [Int64.le_iff_toInt_le, Int64.lt_iff_toInt_lt, hsource, hlength]
      rfl
    rw [hsource]
    split
    · rename_i hin
      rw [cellOfRow, if_pos (hinside.1 hin).1]
    · rename_i hout
      have hout := mt hinside.2 hout
      rw [cellOfRow_eq_none (by omega)]

theorem length_le_of_ascending {dates : List Date} (h : dates.Pairwise (· < ·)) {low high : Int}
    (hle : low ≤ high + 1) (hlow : ∀ date ∈ dates, low ≤ date.dayNumber)
    (hhigh : ∀ date ∈ dates, date.dayNumber ≤ high) : dates.length + low ≤ high + 1 := by
  induction dates generalizing low with
  | nil => simpa using hle
  | cons first rest ih =>
    obtain ⟨hfirst, hrest⟩ := List.pairwise_cons.1 h
    have hlowest := hlow first List.mem_cons_self
    have hhighest := hhigh first List.mem_cons_self
    have htail := @ih hrest (first.dayNumber + 1) (by omega)
      (fun date hd => Date.dayNumber_lt_of_lt (hfirst date hd))
      fun date hd => hhigh date (List.mem_cons_of_mem _ hd)
    rw [List.length_cons]
    omega

theorem length_lt_of_ascending {dates : List Date} (h : dates.Pairwise (· < ·)) :
    dates.length < 2 ^ 63 := by
  have hfirst (date : Date) : daysBeforeYear firstYear ≤ date.dayNumber := by
    have hyear := daysBeforeYear_mono date.isDate.1.1
    rw [Date.dayNumber]
    omega
  have hlast (date : Date) := Date.dayNumber_le_of_le date.le_last
  have hcount := @length_le_of_ascending _ h (daysBeforeYear firstYear) _ (by decide)
    (fun date _ => hfirst date) fun date _ => hlast date
  have hdays : Date.dayNumber ⟨lastYear, 12, 31, by decide⟩ + 1 - daysBeforeYear firstYear < 2 ^ 63 := by
    decide
  omega

theorem IsShaped.shiftWords_eq (h : table.IsShaped) (periods : Int64) :
    table.shiftWords periods = table.shift periods.toInt := by
  have hrows := length_lt_of_ascending h.ascending
  refine congrArg (Table.mk _) (List.map_congr_left fun column hc => ?_)
  have hlength := h.fit.lengths column hc
  refine congrArg (Column.mk _) (eq_of_rows (by simp) fun row hrow => ?_)
  have hlt : row < column.cells.length := by simpa using hrow
  rw [List.getElem?_map, List.getElem?_range hlt, getElem?_shiftCells _ hlt, Option.map_some,
    wordCell_eq (hlength ▸ hrows) hlt]

end TimeSeries.Table
