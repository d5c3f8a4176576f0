import TimeSeries.Proofs.Table.Names
import TimeSeries.Proofs.Table.Operations

set_option autoImplicit false

/-!
# Checks that do not fail

From tables in shape every operation makes a table: none of the checks of `Table.ofColumns` fails.
What is left to fail is that a table has no single column.
-/
namespace TimeSeries

def TableError.IsColumnCount : TableError → Prop
  | columnNotFound _ | ambiguousColumn _ => True
  | _ => False

namespace Table

variable {dates : List Date} {columns : List Column} {table : Table} {cause : TableError}

theorem exists_ofColumns (hdates : dates.Pairwise (· < ·)) (h : ColumnsFit dates columns) :
    ∃ result, ofColumns dates columns = .ok result :=
  ⟨_, ofColumns_eq_ok.2 ⟨rfl, hdates, h.lengths, h.distinct⟩⟩

theorem single_eq (name : String) {cells : List Cell} (hdates : dates.Pairwise (· < ·))
    (hlength : cells.length = dates.length) :
    single name dates cells = .ok ⟨dates, [Column.of name cells]⟩ :=
  ofColumns_eq_ok.2 ⟨rfl, hdates, by simp [Column.of, hlength], List.nodup_singleton _⟩

theorem single_ne_error {name : String} {cells : List Cell} (hdates : dates.Pairwise (· < ·))
    (hlength : cells.length = dates.length) : single name dates cells ≠ .error cause := by
  rw [single_eq name hdates hlength]
  nofun

theorem IsShaped.mapColumns_eq (h : table.IsShaped) {f : List Cell → List Cell}
    (hlength : ∀ cells, (f cells).length = cells.length) : table.mapColumns f =
      .ok ⟨table.dates, table.columns.map fun column => Column.of column.name (f column.cells)⟩ := by
  have hfit : ColumnsFit table.dates
      (table.columns.map fun column => Column.of column.name (f column.cells)) :=
    h.columnsFit_of fun column hc => (hlength column.cells).trans (h.fit.lengths column hc)
  exact ofColumns_eq_ok.2 ⟨rfl, h.ascending, hfit.lengths, hfit.distinct⟩

theorem IsShaped.exists_resample (h : table.IsShaped) (frequency : Frequency)
    (aggregation : Aggregation) : ∃ result, table.resample frequency aggregation = .ok result :=
  exists_ofColumns (pairwise_distinctDates _) (h.columnsFit_of fun _ _ => List.length_map _)

/-! ## Frequencies -/

theorem detectFrequency_eq_ok {found : Frequency} :
    detectFrequency dates = .ok found ↔ Frequency.detect? dates = some found := by
  unfold detectFrequency
  cases Frequency.detect? dates with
  | none => simp
  | some own => simp

theorem exists_detectFrequency (h : 2 ≤ dates.length) :
    ∃ frequency, detectFrequency dates = .ok frequency := by
  rw [detectFrequency, Frequency.detect?, if_neg (Nat.not_lt.2 h)]
  exact ⟨_, rfl⟩

theorem IsShaped.exists_conform (h : table.IsShaped) (start stop : Option Date)
    (frequency : Option Frequency) :
    ∃ result, table.conform start stop frequency = .ok result := by
  unfold conform
  cases frequency with
  | none => exact ⟨_, rfl⟩
  | some target =>
    dsimp only
    split
    · exact ⟨_, rfl⟩
    · rename_i hrows
      obtain ⟨own, hown⟩ := exists_detectFrequency (Nat.not_lt.1 hrows)
      simp only [hown, bind, Except.bind]
      split
      · exact (h.within start stop).exists_resample target .mean
      · exact ⟨_, rfl⟩

/-! ## Tables of one column -/

theorem valueColumn_eq_ok {column : Column} (h : table.valueColumn = .ok column) :
    table.columns = [column] := by
  unfold valueColumn at h
  split at h
  · cases h
    assumption
  · cases h
  · cases h

theorem valueColumn_eq_error (h : table.valueColumn = .error cause) : cause.IsColumnCount := by
  unfold valueColumn at h
  split at h
  · cases h
  · cases h
    trivial
  · cases h
    trivial

theorem IsShaped.length_valueColumn (h : table.IsShaped) {column : Column}
    (hc : table.valueColumn = .ok column) : column.cells.length = table.dates.length :=
  h.fit.lengths column (by rw [valueColumn_eq_ok hc]; exact List.mem_singleton_self _)

end Table

/-! ## Joins -/

theorem alignPair_eq_ok {left right : Table} {pair : AlignedPair}
    (h : alignPair left right = .ok pair) : pair.dates.Pairwise (· < ·) ∧
      pair.left.length = pair.dates.length ∧ pair.right.length = pair.dates.length := by
  obtain ⟨l, -, h⟩ := bind_eq_ok.1 h
  obtain ⟨r, -, h⟩ := bind_eq_ok.1 h
  cases h
  exact ⟨pairwise_unionDates _, length_reindex _ _ _, length_reindex _ _ _⟩

theorem alignPair_eq_error {left right : Table} {cause : TableError}
    (h : alignPair left right = .error cause) : cause.IsColumnCount := by
  rcases bind_eq_error.1 h with h | ⟨l, -, h⟩
  · exact Table.valueColumn_eq_error h
  · rcases bind_eq_error.1 h with h | ⟨r, -, h⟩
    · exact Table.valueColumn_eq_error h
    · cases h

theorem ColumnsFit.addColumns {dates : List Date} {columns : List Column} {table : Table}
    (h : ColumnsFit dates columns)
    (hnormal : ∀ column ∈ table.columns, Text.normalName column.name = column.name) :
    ColumnsFit dates (addColumns dates columns table) := by
  unfold TimeSeries.addColumns
  generalize table.columns = added at hnormal
  induction added generalizing columns with
  | nil => exact h
  | cons first rest ih =>
    refine ih ⟨fun column hc => ?_, ?_⟩ fun c hc => hnormal c (List.mem_cons_of_mem _ hc)
    · rcases List.mem_append.1 hc with hc | hc
      · exact h.lengths column hc
      · rw [List.mem_singleton.1 hc, Column.of, List.length_map, length_reindex]
    · have hname := normalName_freeName (hnormal first List.mem_cons_self) (columns.map Column.name)
      rw [List.map_append, List.map_singleton, Column.name_of, hname]
      exact List.nodup_append.2 ⟨h.distinct, List.nodup_singleton _,
        fun a ha b hb hab => freeName_not_mem _ _ (List.mem_singleton.1 hb ▸ hab ▸ ha)⟩

theorem exists_joinTables {tables : List Table} (h : ∀ table ∈ tables, table.IsShaped) :
    ∃ result, joinTables tables = .ok result := by
  have hfold {dates : List Date} {columns : List Column} (hfit : ColumnsFit dates columns) :
      ColumnsFit dates (tables.foldl (addColumns dates) columns) := by
    induction tables generalizing columns with
    | nil => exact hfit
    | cons table tables ih =>
      exact ih (fun t ht => h t (List.mem_cons_of_mem _ ht))
        (hfit.addColumns (h table List.mem_cons_self).normal)
  exact Table.exists_ofColumns (pairwise_unionDates tables) (hfold ⟨by simp, by simp⟩)

end TimeSeries
