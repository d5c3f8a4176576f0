import TimeSeries.Csv.Table
import TimeSeries.Formula.Source
import TimeSeries.Formula.Transform
import TimeSeries.Proofs.Table.Join
import TimeSeries.Proofs.Table.Shaped

set_option autoImplicit false

/-!
# Operations on valid tables

A table that is made from checked columns is valid because its columns are normal. The operations
that make tables without a check keep dates, lengths and names, and observe no cell that was not
observed before.
-/
namespace TimeSeries

namespace Table

variable {dates : List Date} {columns : List Column} {table result : Table}

theorem isValid_of_isNormal (hdates : dates.Pairwise (· < ·))
    (hlengths : ∀ column ∈ columns, column.cells.length = dates.length)
    (hnodup : (columns.map Column.name).Nodup) (h : ∀ column ∈ columns, column.IsNormal) :
    IsValid ⟨dates, columns⟩ :=
  ⟨hdates, hlengths, hnodup, fun c hc => (h c hc).trimmed, fun c hc => (h c hc).uppercase,
    fun c hc => (h c hc).finite⟩

theorem ofColumns_eq_ok_iff_isValid (h : ∀ column ∈ columns, column.IsNormal) :
    ofColumns dates columns = .ok result ↔ result = ⟨dates, columns⟩ ∧ result.IsValid := by
  rw [ofColumns_eq_ok]
  constructor
  · rintro ⟨rfl, hdates, hlengths, hnodup⟩
    exact ⟨rfl, isValid_of_isNormal hdates hlengths hnodup h⟩
  · rintro ⟨rfl, hvalid⟩
    exact ⟨rfl, hvalid.ascending, hvalid.lengths, hvalid.distinct⟩

theorem isValid_of_ofColumns {α : Type} {items : List α} {name : α → String}
    {cells : α → List Cell}
    (h : ofColumns dates (items.map fun item => Column.of (name item) (cells item)) = .ok result) :
    result.IsValid := by
  refine ((ofColumns_eq_ok_iff_isValid fun column hc => ?_).1 h).2
  obtain ⟨item, -, rfl⟩ := List.mem_map.1 hc
  exact Column.isNormal_of _ _

theorem isValid_of_single {name : String} {cells : List Cell}
    (h : single name dates cells = .ok result) : result.IsValid := by
  have hnormal : ∀ column ∈ [Column.of name cells], column.IsNormal := by
    simp [Column.isNormal_of]
  exact ((ofColumns_eq_ok_iff_isValid hnormal).1 h).2

theorem isValid_of_ofPoints {name : String} {points : List (Date × Cell)}
    (h : ofPoints name points = .ok result) : result.IsValid :=
  isValid_of_single h

theorem isValid_of_renameColumns {f : String → String} (h : table.renameColumns f = .ok result) :
    result.IsValid :=
  isValid_of_ofColumns h

theorem isValid_of_mapColumns {f : List Cell → List Cell} (h : table.mapColumns f = .ok result) :
    result.IsValid :=
  isValid_of_ofColumns h

theorem isValid_of_resample {frequency : Frequency} {aggregation : Aggregation}
    (h : table.resample frequency aggregation = .ok result) : result.IsValid :=
  isValid_of_ofColumns h

theorem IsValid.withCells (h : table.IsValid) (hdates : dates.Pairwise (· < ·))
    {f : List Cell → List Cell}
    (hlength : ∀ column ∈ table.columns, (f column.cells).length = dates.length)
    (hcells : ∀ column ∈ table.columns, ∀ x, some x ∈ f column.cells → some x ∈ column.cells) :
    IsValid ⟨dates, table.columns.map fun column => ⟨column.name, f column.cells⟩⟩ := by
  refine isValid_iff_isShaped.2 ⟨h.isShaped.withCells hdates hlength, ?_⟩
  rw [List.forall_mem_map]
  exact fun column hc x hx => h.finite column hc x (hcells column hc x hx)

theorem IsValid.mapValues (h : table.IsValid) (f : Float → Cell) : (table.mapValues f).IsValid := by
  refine isValid_iff_isShaped.2 ⟨h.isShaped.mapValues f, ?_⟩
  rw [Table.mapValues, List.forall_mem_map]
  exact fun column _ => (Column.isNormal_of _ _).finite

@[simp] theorem keepCells_of_nil (keep : Date → Bool) (dates : List Date) :
    keepCells keep dates [] = [] := by
  rw [keepCells, List.zip_nil_right]
  rfl

theorem keepCells_cons (keep : Date → Bool) (date : Date) (dates : List Date) (cell : Cell)
    (cells : List Cell) : keepCells keep (date :: dates) (cell :: cells) =
      if keep date then cell :: keepCells keep dates cells else keepCells keep dates cells := by
  rw [keepCells, List.zip_cons_cons, List.filter_cons]
  cases keep date <;> rfl

theorem length_keepCells (keep : Date → Bool) {cells : List Cell}
    (h : cells.length = dates.length) :
    (keepCells keep dates cells).length = (dates.filter keep).length := by
  have hzip : (dates.zip cells).map Prod.fst = dates := List.map_fst_zip (Nat.le_of_eq h.symm)
  rw [keepCells, List.length_map]
  conv_rhs => rw [← hzip, List.filter_map, List.length_map]
  rfl

theorem mem_of_mem_keepCells {keep : Date → Bool} {cells : List Cell} {cell : Cell}
    (h : cell ∈ keepCells keep dates cells) : cell ∈ cells := by
  obtain ⟨row, hrow, rfl⟩ := List.mem_map.1 h
  exact (List.of_mem_zip (List.mem_of_mem_filter hrow)).2

theorem IsValid.keepRows (h : table.IsValid) (keep : Date → Bool) : (table.keepRows keep).IsValid :=
  h.withCells (h.ascending.filter keep) (fun column hc => length_keepCells keep (h.lengths column hc))
    fun _ _ _ hx => mem_of_mem_keepCells hx

theorem keepCells_eq_self {keep : Date → Bool} (hall : ∀ date ∈ dates, keep date = true)
    {cells : List Cell} (h : cells.length = dates.length) : keepCells keep dates cells = cells := by
  have hkept : ∀ row ∈ dates.zip cells, keep row.1 = true := fun row hrow =>
    hall row.1 (List.of_mem_zip hrow).1
  rw [keepCells, List.filter_eq_self.2 hkept, List.map_snd_zip (Nat.le_of_eq h)]

theorem IsValid.keepRows_eq_self (h : table.IsValid) {keep : Date → Bool}
    (hall : ∀ date ∈ table.dates, keep date = true) : table.keepRows keep = table := by
  have hcolumns : (table.columns.map fun c => ⟨c.name, keepCells keep table.dates c.cells⟩) =
      table.columns := by
    refine (List.map_congr_left fun c hc => ?_).trans (List.map_id _)
    rw [keepCells_eq_self hall (h.lengths c hc)]
    rfl
  rw [Table.keepRows, hcolumns, List.filter_eq_self.2 hall]

theorem IsValid.within (h : table.IsValid) (start stop : Option Date) :
    (table.within start stop).IsValid :=
  h.keepRows _

theorem IsShaped.within (h : table.IsShaped) (start stop : Option Date) :
    (table.within start stop).IsShaped :=
  h.withCells (h.ascending.filter _) fun column hc => length_keepCells _ (h.fit.lengths column hc)

@[simp] theorem length_shiftCells (periods : Int) (cells : List Cell) :
    (shiftCells periods cells).length = cells.length := by
  rw [shiftCells]
  split <;> simp only [List.length_append, List.length_replicate, List.length_take,
    List.length_drop] <;> omega

theorem mem_of_mem_shiftCells {periods : Int} {cells : List Cell} {x : Float}
    (h : some x ∈ shiftCells periods cells) : some x ∈ cells := by
  rw [shiftCells] at h
  split at h <;> rcases List.mem_append.1 h with h | h
  · cases List.eq_of_mem_replicate h
  · exact List.mem_of_mem_take h
  · exact List.mem_of_mem_drop h
  · cases List.eq_of_mem_replicate h

theorem IsValid.shift (h : table.IsValid) (periods : Int) : (table.shift periods).IsValid :=
  h.withCells h.ascending
    (fun column hc => (length_shiftCells periods column.cells).trans (h.lengths column hc))
    fun _ _ _ hx => mem_of_mem_shiftCells hx

theorem IsShaped.shift (h : table.IsShaped) (periods : Int) : (table.shift periods).IsShaped :=
  h.withCells h.ascending fun column hc =>
    (length_shiftCells periods column.cells).trans (h.fit.lengths column hc)

/-- A condition of tables that checked tables satisfy and that no other operation breaks. -/
structure IsKept (P : Table → Prop) : Prop where
  of_isValid : ∀ {table}, table.IsValid → P table
  within : ∀ {table}, P table → ∀ start stop, P (table.within start stop)
  shift : ∀ {table}, P table → ∀ periods, P (table.shift periods)
  mapValues : ∀ {table}, P table → ∀ f, P (table.mapValues f)

theorem isKept_isValid : IsKept IsValid where
  of_isValid := id
  within := IsValid.within
  shift := IsValid.shift
  mapValues := IsValid.mapValues

theorem isKept_isShaped : IsKept IsShaped where
  of_isValid := IsValid.isShaped
  within := IsShaped.within
  shift := IsShaped.shift
  mapValues := IsShaped.mapValues

theorem eq_of_conform {start stop : Option Date} {frequency : Option Frequency}
    (hr : table.conform start stop frequency = .ok result) : result = table.within start stop ∨
      ∃ target, frequency = some target ∧
        (table.within start stop).resample target .mean = .ok result := by
  unfold conform at hr
  dsimp only at hr
  split at hr
  · exact Or.inl (Except.ok.inj hr).symm
  · split at hr
    · exact Or.inl (Except.ok.inj hr).symm
    · obtain ⟨own, -, hr⟩ := bind_eq_ok.1 hr
      split at hr
      · exact Or.inr ⟨_, rfl, hr⟩
      · exact Or.inl (Except.ok.inj hr).symm

theorem IsKept.of_conform {P : Table → Prop} (hP : IsKept P) (h : P table)
    {start stop : Option Date} {frequency : Option Frequency}
    (hr : table.conform start stop frequency = .ok result) : P result := by
  rcases eq_of_conform hr with rfl | ⟨target, -, hresample⟩
  · exact hP.within h start stop
  · exact hP.of_isValid (isValid_of_resample hresample)

theorem IsValid.of_conform (h : table.IsValid) {start stop : Option Date}
    {frequency : Option Frequency} (hr : table.conform start stop frequency = .ok result) :
    result.IsValid :=
  isKept_isValid.of_conform h hr

end Table

theorem isNormal_addColumns {dates : List Date} {columns : List Column} (table : Table)
    (h : ∀ column ∈ columns, column.IsNormal) :
    ∀ column ∈ addColumns dates columns table, column.IsNormal := by
  rw [addColumns]
  generalize table.columns = added
  induction added generalizing columns with
  | nil => exact h
  | cons first rest ih =>
    refine ih fun column hc => ?_
    rcases List.mem_append.1 hc with hc | hc
    · exact h column hc
    · rw [List.mem_singleton.1 hc]
      exact Column.isNormal_of _ _

theorem isValid_of_joinTables {tables : List Table} {result : Table}
    (h : joinTables tables = .ok result) : result.IsValid := by
  have hnormal {dates : List Date} {columns : List Column} (hcolumns : ∀ c ∈ columns, c.IsNormal) :
      ∀ column ∈ tables.foldl (addColumns dates) columns, column.IsNormal := by
    clear h
    induction tables generalizing columns with
    | nil => exact hcolumns
    | cons table tables ih => exact ih (isNormal_addColumns table hcolumns)
  exact ((Table.ofColumns_eq_ok_iff_isValid (hnormal (by simp))).1 h).2

theorem isValid_of_readTable {options : Csv.ReadOptions} {bytes : List UInt8} {result : Table}
    (h : Csv.readTable options bytes = .ok result) : result.IsValid := by
  unfold Csv.readTable at h
  obtain ⟨header, -, h⟩ := bind_eq_ok.1 h
  obtain ⟨index, -, h⟩ := bind_eq_ok.1 h
  obtain ⟨rows, -, h⟩ := bind_eq_ok.1 h
  exact Table.isValid_of_ofColumns (mapError_eq_ok.1 h)

end TimeSeries
