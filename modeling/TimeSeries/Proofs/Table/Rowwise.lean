import TimeSeries.Proofs.Table.Operations

set_option autoImplicit false

/-!
# Tables related row by row

Two tables of the same shape are compared cell by cell, by a relation that may depend on the date of
the row. Every operation on tables that takes the cells of a row from this row, or from earlier
ones, keeps such a relation.
-/
namespace TimeSeries

/-- A relation of cells by the date of their row. It allows all that leaves a cell alone, is missing
where an operand is missing, or carries a cell to a later row. -/
structure CellRelation where
  holds : Date → Cell → Cell → Prop
  refl : ∀ date cell, holds date cell cell
  strict : ∀ (f : Cell → Cell), f none = none → ∀ date a b, holds date a b → holds date (f a) (f b)
  strict₂ : ∀ (f : Cell → Cell → Cell), (∀ cell, f none cell = none) → (∀ cell, f cell none = none) →
    ∀ date a b a' b', holds date a b → holds date a' b' → holds date (f a a') (f b b')
  later : ∀ date later a b, date < later → holds date a b → holds later a b

inductive CellsRelated (R : Date → Cell → Cell → Prop) : List Date → List Cell → List Cell → Prop
  | nil : CellsRelated R [] [] []
  | cons {date : Date} {a b : Cell} {dates : List Date} {as bs : List Cell} (head : R date a b)
      (tail : CellsRelated R dates as bs) : CellsRelated R (date :: dates) (a :: as) (b :: bs)

namespace CellsRelated

variable {R S T : Date → Cell → Cell → Prop} {dates : List Date} {as bs as' bs' : List Cell}

theorem length_left (h : CellsRelated R dates as bs) : as.length = dates.length := by
  induction h with
  | nil => rfl
  | cons _ _ ih => rw [List.length_cons, List.length_cons, ih]

theorem length_right (h : CellsRelated R dates as bs) : bs.length = dates.length := by
  induction h with
  | nil => rfl
  | cons _ _ ih => rw [List.length_cons, List.length_cons, ih]

theorem refl (hR : ∀ date cell, R date cell cell) (h : as.length = dates.length) :
    CellsRelated R dates as as := by
  induction dates generalizing as with
  | nil =>
    rw [List.length_nil, List.length_eq_zero_iff] at h
    exact h ▸ .nil
  | cons date dates ih =>
    cases as with
    | nil => cases h
    | cons a as => exact .cons (hR date a) (ih (Nat.succ.inj h))

theorem map (h : CellsRelated R dates as bs) {f g : Cell → Cell}
    (hf : ∀ date a b, R date a b → S date (f a) (g b)) :
    CellsRelated S dates (as.map f) (bs.map g) := by
  induction h with
  | nil => exact .nil
  | cons head _ ih => exact .cons (hf _ _ _ head) ih

theorem mono (h : CellsRelated R dates as bs) (hle : ∀ date a b, R date a b → S date a b) :
    CellsRelated S dates as bs := by
  induction h with
  | nil => exact .nil
  | cons head _ ih => exact .cons (hle _ _ _ head) ih

theorem zipWith (h : CellsRelated R dates as bs) (h' : CellsRelated S dates as' bs')
    {f g : Cell → Cell → Cell}
    (hf : ∀ date a b a' b', R date a b → S date a' b' → T date (f a a') (g b b')) :
    CellsRelated T dates (as.zipWith f as') (bs.zipWith g bs') := by
  induction h generalizing as' bs' with
  | nil => exact .nil
  | cons head _ ih =>
    cases h' with
    | cons head' tail' => exact .cons (hf _ _ _ _ _ head head') (ih tail')

theorem of_map {α : Type} {items : List α} {date : α → Date} {f g : α → Cell}
    (h : ∀ item ∈ items, R (date item) (f item) (g item)) :
    CellsRelated R (items.map date) (items.map f) (items.map g) := by
  induction items with
  | nil => exact .nil
  | cons item items ih =>
    exact .cons (h item List.mem_cons_self) (ih fun i hi => h i (List.mem_cons_of_mem _ hi))

theorem forall₂ (h : CellsRelated R dates as bs)
    (hignores : ∀ date date' a b, R date a b → R date' a b) :
    List.Forall₂ (fun a b => ∀ date, R date a b) as bs := by
  induction h with
  | nil => exact .nil
  | cons head _ ih => exact .cons (fun date => hignores _ date _ _ head) ih

theorem of_forall₂ (h : List.Forall₂ (fun a b => ∀ date, R date a b) as bs)
    (hlength : as.length = dates.length) : CellsRelated R dates as bs := by
  induction h generalizing dates with
  | nil =>
    obtain rfl := List.length_eq_zero_iff.1 hlength.symm
    exact .nil
  | cons head _ ih =>
    cases dates with
    | nil => cases hlength
    | cons date dates => exact .cons (head date) (ih (Nat.succ.inj hlength))

theorem cellAt (h : CellsRelated R dates as bs) (hnone : ∀ date, R date none none) (date : Date) :
    R date (cellAt dates as date) (TimeSeries.cellAt dates bs date) := by
  induction h with
  | nil => exact hnone date
  | cons head _ ih =>
    rw [cellAt_cons, cellAt_cons]
    split
    · rename_i heq
      exact heq ▸ head
    · exact ih

theorem reindex (h : CellsRelated R dates as bs) (hnone : ∀ date, R date none none)
    (others : List Date) :
    CellsRelated R others (reindex dates as others) (TimeSeries.reindex dates bs others) := by
  have hcells : CellsRelated R (others.map id) (others.map (TimeSeries.cellAt dates as))
      (others.map (TimeSeries.cellAt dates bs)) :=
    of_map fun date _ => h.cellAt hnone date
  rwa [List.map_id] at hcells

theorem getD (h : CellsRelated R dates as bs) {index : Nat} {date : Date}
    (hdate : dates[index]? = some date) : R date (as.getD index none) (bs.getD index none) := by
  induction h generalizing index with
  | nil => cases hdate
  | cons head _ ih =>
    cases index with
    | zero =>
      cases hdate
      exact head
    | succ index => exact ih hdate

theorem keepCells (h : CellsRelated R dates as bs) (keep : Date → Bool) :
    CellsRelated R (dates.filter keep) (Table.keepCells keep dates as)
      (Table.keepCells keep dates bs) := by
  induction h with
  | nil => exact .nil
  | @cons date a b dates as bs head _ ih =>
    rw [Table.keepCells_cons, Table.keepCells_cons, List.filter_cons]
    cases keep date with
    | true => exact .cons head ih
    | false => exact ih

variable {K : CellRelation}

theorem observed (h : CellsRelated K.holds dates as bs) :
    CellsRelated K.holds dates (as.map Cell.observed) (bs.map Cell.observed) :=
  h.map (K.strict Cell.observed rfl)

theorem moveDown (hdates : dates.Pairwise (· < ·)) {first : Date} {a b : Cell}
    (hfirst : ∀ date ∈ dates, first < date) (hab : K.holds first a b)
    (h : CellsRelated K.holds dates as bs) :
    CellsRelated K.holds dates ((a :: as).take dates.length) ((b :: bs).take dates.length) := by
  induction h generalizing first a b with
  | nil => exact .nil
  | @cons date a' b' dates as bs head _ ih =>
    obtain ⟨hdate, hrest⟩ := List.pairwise_cons.1 hdates
    exact .cons (K.later _ _ _ _ (hfirst date List.mem_cons_self) hab) (ih hrest hdate head)

theorem lag (hdates : dates.Pairwise (· < ·)) (h : CellsRelated K.holds dates as bs) (n : Nat) :
    CellsRelated K.holds dates ((List.replicate n none ++ as).take dates.length)
      ((List.replicate n none ++ bs).take dates.length) := by
  have htake (m : Nat) (cells : List Cell) :
      (none :: cells).take m = (none :: cells.take m).take m := by
    cases m with
    | zero => rfl
    | succ m => rw [List.take_succ_cons, List.take_succ_cons, List.take_take, Nat.min_eq_left m.le_succ]
  -- One row at a time: each step moves cells by one row, and that to a later date.
  induction n with
  | zero =>
    rw [List.replicate_zero, List.nil_append, List.nil_append,
      List.take_of_length_le (Nat.le_of_eq h.length_left),
      List.take_of_length_le (Nat.le_of_eq h.length_right)]
    exact h
  | succ n ih =>
    rw [List.replicate_succ, List.cons_append, List.cons_append, htake, htake dates.length (_ ++ bs)]
    generalize (List.replicate n none ++ as).take dates.length = cells,
      (List.replicate n none ++ bs).take dates.length = cells' at ih
    cases ih with
    | nil => exact .nil
    | cons head tail =>
      obtain ⟨hfirst, hrest⟩ := List.pairwise_cons.1 hdates
      exact .cons (K.refl _ none) (moveDown hrest hfirst head tail)

end CellsRelated

def Column.Rowwise (K : CellRelation) (dates : List Date) (column column' : Column) : Prop :=
  column.name = column'.name ∧ CellsRelated K.holds dates column.cells column'.cells

theorem Column.Rowwise.of {K : CellRelation} {dates : List Date} {cells cells' : List Cell}
    (h : CellsRelated K.holds dates cells cells') (name : String) :
    Column.Rowwise K dates (.of name cells) (.of name cells') :=
  ⟨rfl, h.observed⟩

namespace Table

/-- The same dates, ascending, and the same names, with cells related one by one. -/
structure Rowwise (K : CellRelation) (table table' : Table) : Prop where
  ascending : table.dates.Pairwise (· < ·)
  dates : table.dates = table'.dates
  columns : List.Forall₂ (Column.Rowwise K table.dates) table.columns table'.columns

variable {K : CellRelation} {table table' : Table} {dates : List Date}

theorem IsValid.rowwise (h : table.IsValid) (K : CellRelation) : table.Rowwise K table :=
  ⟨h.ascending, rfl, List.forall₂_same.2 fun column hc => ⟨rfl, .refl K.refl (h.lengths column hc)⟩⟩

theorem agree_ofColumns_rowwise (hdates : dates.Pairwise (· < ·)) {columns columns' : List Column}
    (h : List.Forall₂ (Column.Rowwise K dates) columns columns') :
    Agree (Rowwise K) (ofColumns dates columns) (ofColumns dates columns') :=
  agree_ofColumns hdates hdates
    (h.imp fun _ _ hc => ⟨hc.1, hc.2.length_left, hc.2.length_right⟩) ⟨hdates, rfl, h⟩

theorem agree_single (hdates : dates.Pairwise (· < ·)) {cells cells' : List Cell}
    (h : CellsRelated K.holds dates cells cells') (name : String) :
    Agree (Rowwise K) (single name dates cells) (single name dates cells') :=
  agree_ofColumns_rowwise hdates (.cons (.of h name) .nil)

namespace Rowwise

theorem mono (h : Rowwise K table table') {L : CellRelation}
    (hle : ∀ date a b, K.holds date a b → L.holds date a b) : Rowwise L table table' :=
  ⟨h.ascending, h.dates, h.columns.imp fun _ _ hc => ⟨hc.1, hc.2.mono hle⟩⟩

theorem rowCount_eq (h : Rowwise K table table') : table.rowCount = table'.rowCount := by
  rw [rowCount, rowCount, h.dates]

theorem map_columns (h : Rowwise K table table') (column column' : String → List Cell → Column)
    (hcells : ∀ name cells cells', CellsRelated K.holds table.dates cells cells' →
      Column.Rowwise K dates (column name cells) (column' name cells')) :
    List.Forall₂ (Column.Rowwise K dates) (table.columns.map fun c => column c.name c.cells)
      (table'.columns.map fun c => column' c.name c.cells) :=
  List.forall₂_map_left_iff.2 (List.forall₂_map_right_iff.2
    (h.columns.imp fun c _ hc => hc.1 ▸ hcells c.name _ _ hc.2))

theorem agree_ofColumns_map (h : Rowwise K table table') (hdates : dates.Pairwise (· < ·))
    {f : List Cell → List Cell}
    (hf : ∀ cells cells', CellsRelated K.holds table.dates cells cells' →
      CellsRelated K.holds dates (f cells) (f cells')) :
    Agree (Rowwise K) (ofColumns dates (table.columns.map fun c => .of c.name (f c.cells)))
      (ofColumns dates (table'.columns.map fun c => .of c.name (f c.cells))) :=
  agree_ofColumns_rowwise hdates (h.map_columns (fun name cells => .of name (f cells))
    (fun name cells => .of name (f cells)) fun name cells cells' hcells =>
      .of (hf cells cells' hcells) name)

theorem agree_mapColumns (h : Rowwise K table table') {f : List Cell → List Cell}
    (hf : ∀ cells cells', CellsRelated K.holds table.dates cells cells' →
      CellsRelated K.holds table.dates (f cells) (f cells')) :
    Agree (Rowwise K) (table.mapColumns f) (table'.mapColumns f) := by
  rw [mapColumns, mapColumns, ← h.dates]
  exact h.agree_ofColumns_map h.ascending hf

theorem mapValues (h : Rowwise K table table') (f : Float → Cell) :
    Rowwise K (table.mapValues f) (table'.mapValues f) :=
  ⟨h.ascending, h.dates,
    h.map_columns (fun name cells => .of name (cells.map (·.bind f))) _ fun name _ _ hcells =>
      .of (hcells.map (K.strict (·.bind f) rfl)) name⟩

theorem keepRows (h : Rowwise K table table') (keep : Date → Bool) :
    Rowwise K (table.keepRows keep) (table'.keepRows keep) := by
  refine ⟨h.ascending.filter keep, congrArg (List.filter keep) h.dates, ?_⟩
  exact h.map_columns (fun name cells => ⟨name, keepCells keep table.dates cells⟩)
    (fun name cells => ⟨name, keepCells keep table'.dates cells⟩)
    fun name _ _ hcells => ⟨rfl, h.dates ▸ hcells.keepCells keep⟩

theorem withCells (h : Rowwise K table table') {f g : List Cell → List Cell}
    (hcells : ∀ cells cells', CellsRelated K.holds table.dates cells cells' →
      CellsRelated K.holds table.dates (f cells) (g cells')) :
    Rowwise K ⟨table.dates, table.columns.map fun c => ⟨c.name, f c.cells⟩⟩
      ⟨table'.dates, table'.columns.map fun c => ⟨c.name, g c.cells⟩⟩ :=
  ⟨h.ascending, h.dates, h.map_columns (fun name cells => ⟨name, f cells⟩)
    (fun name cells => ⟨name, g cells⟩) fun _ _ _ hc => ⟨rfl, hcells _ _ hc⟩⟩

end Rowwise

theorem shiftCells_natCast (n : Nat) (cells : List Cell) :
    shiftCells (n : Int) cells = (List.replicate n none ++ cells).take cells.length := by
  rw [shiftCells, if_pos (Int.natCast_nonneg n), Int.natAbs_natCast, List.take_append,
    List.take_replicate, List.length_replicate, Nat.min_comm n]
  congr 2
  omega

theorem Rowwise.shiftDown (h : Rowwise K table table') (n : Nat) :
    Rowwise K (table.shift n) (table'.shift n) := by
  have hcells (cells cells' : List Cell) (hc : CellsRelated K.holds table.dates cells cells') :
      CellsRelated K.holds table.dates (shiftCells n cells) (shiftCells n cells') := by
    rw [shiftCells_natCast, shiftCells_natCast, hc.length_left, hc.length_right]
    exact hc.lag h.ascending n
  exact h.withCells hcells

/-- Moves up carry cells to earlier dates, which only a relation that ignores dates allows. -/
theorem Rowwise.shift (h : Rowwise K table table')
    (hignores : ∀ date date' a b, K.holds date a b → K.holds date' a b) (periods : Int) :
    Rowwise K (table.shift periods) (table'.shift periods) := by
  refine h.withCells fun cells cells' hc => ?_
  have hpairs := hc.forall₂ hignores
  refine .of_forall₂ ?_ ((length_shiftCells periods cells).trans hc.length_left)
  have hnone (n : Nat) : List.Forall₂ (fun a b => ∀ date, K.holds date a b)
      (List.replicate n none) (List.replicate n none) :=
    List.forall₂_same.2 fun cell _ date => K.refl date cell
  rw [shiftCells, shiftCells, hpairs.length_eq]
  split
  · exact List.rel_append (hnone _) (List.forall₂_take _ hpairs)
  · exact List.rel_append (List.forall₂_drop _ hpairs) (hnone _)

theorem agree_joinTables {tables tables' : List Table}
    (h : List.Forall₂ (Rowwise K) tables tables') :
    Agree (Rowwise K) (joinTables tables) (joinTables tables') := by
  rw [joinTables, joinTables, unionDates_congr (h.imp fun _ _ ht => ht.dates)]
  refine agree_ofColumns_rowwise (pairwise_unionDates _) (forall₂_joined (fun _ _ hc => hc.1) ?_)
  exact h.imp fun t t' ht => ht.columns.imp fun c c' hc => ⟨hc.1, fun name =>
    .of (ht.dates ▸ hc.2.reindex (fun date => K.refl date none) _) name⟩

theorem Rowwise.map_rows (h : Rowwise K table table') {f g : List Cell → Cell}
    (hf : ∀ date row row', List.Forall₂ (K.holds date) row row' → K.holds date (f row) (g row')) :
    CellsRelated K.holds table.dates (table.rows.map fun row => f row.2)
      (table'.rows.map fun row => g row.2) := by
  rw [rows, rows, ← h.dates, List.map_map, List.map_map]
  have hitems : ∀ item ∈ table.dates.zipIdx, K.holds item.1
      (f (table.columns.map fun c => c.cells.getD item.2 none))
      (g (table'.columns.map fun c => c.cells.getD item.2 none)) := by
    rintro ⟨date, index⟩ hitem
    have hdate : table.dates[index]? = some date := List.mem_zipIdx_iff_getElem?.1 hitem
    exact hf date _ _ (List.forall₂_map_left_iff.2 (List.forall₂_map_right_iff.2
      (h.columns.imp fun c c' hc => hc.2.getD hdate)))
  have hcells := CellsRelated.of_map hitems
  rwa [List.zipIdx_map_fst] at hcells

end Table

end TimeSeries
