import Mathlib.Data.List.TakeDrop
import TimeSeries.Proofs.Table.Checks

set_option autoImplicit false

/-!
# Outer joins

The join of tables has the dates of all of them, and their columns in turn. A column is read at the
dates of the join: it has its own cells at its own dates and is missing at the others. Since dates
ascend, one walk along both lists of dates reads it as well as a lookup for each date. A name that an
earlier column has taken gets the least number that makes it free.
-/
namespace TimeSeries

/-! ## Cells at other dates -/

/-- Cells that belong to `dates`, read at `others`: the cell of the date where there is one, and
missing elsewhere. -/
structure IsReadAt (dates : List Date) (cells : List Cell) (others : List Date)
    (found : List Cell) : Prop where
  length : found.length = others.length
  own : ∀ (i j : Nat) (date : Date), dates[i]? = some date → others[j]? = some date →
    found[j]? = cells[i]?
  missing : ∀ (j : Nat) (date : Date), others[j]? = some date → date ∉ dates → found[j]? = some none

section Cells

variable {dates others : List Date} {cells : List Cell} {date : Date}

theorem cellAt_of_not_mem (cells : List Cell) (h : date ∉ dates) :
    cellAt dates cells date = none := by
  induction dates generalizing cells with
  | nil => rfl
  | cons first rest ih =>
    obtain ⟨hne, hrest⟩ := not_or.1 (mt List.mem_cons.2 h)
    cases cells with
    | nil => exact cellAt_of_nil _ _
    | cons cell cells => rw [cellAt_cons, if_neg hne, ih cells hrest]

theorem cellAt_of_getElem? (hnodup : dates.Nodup) {i : Nat} (h : dates[i]? = some date)
    (hlength : cells.length = dates.length) : some (cellAt dates cells date) = cells[i]? := by
  induction dates generalizing cells i with
  | nil => cases h
  | cons first rest ih =>
    obtain ⟨hfirst, hrest⟩ := List.nodup_cons.1 hnodup
    cases cells with
    | nil => cases hlength
    | cons cell cells =>
      rw [cellAt_cons]
      cases i with
      | zero =>
        cases h
        rw [if_pos rfl]
        rfl
      | succ i =>
        rw [List.getElem?_cons_succ] at h ⊢
        have hne : date ≠ first := by
          rintro rfl
          exact hfirst (List.mem_of_getElem? h)
        rw [if_neg hne]
        exact ih hrest h (Nat.succ.inj hlength)

theorem cellAt_map {f : Cell → Cell} (hf : f none = none) (dates : List Date) (cells : List Cell)
    (date : Date) : cellAt dates (cells.map f) date = f (cellAt dates cells date) := by
  induction dates generalizing cells with
  | nil => exact hf.symm
  | cons first rest ih =>
    cases cells with
    | nil => simp [hf]
    | cons cell cells =>
      rw [List.map_cons, cellAt_cons, cellAt_cons, ih]
      split <;> rfl

theorem reindex_map {f : Cell → Cell} (hf : f none = none) (dates : List Date) (cells : List Cell)
    (others : List Date) : reindex dates (cells.map f) others = (reindex dates cells others).map f := by
  rw [reindex, reindex, List.map_map]
  exact List.map_congr_left fun date _ => cellAt_map hf dates cells date

theorem isReadAt_reindex (hnodup : dates.Nodup) (hlength : cells.length = dates.length) :
    IsReadAt dates cells others (reindex dates cells others) where
  length := length_reindex dates cells others
  own i j date hi hj := by
    rw [reindex, List.getElem?_map, hj, Option.map_some, cellAt_of_getElem? hnodup hi hlength]
  missing j date hj h := by
    rw [reindex, List.getElem?_map, hj, Option.map_some, cellAt_of_not_mem cells h]

theorem reindex_self (hnodup : dates.Nodup) (hlength : cells.length = dates.length) :
    reindex dates cells dates = cells := by
  have hread := @isReadAt_reindex _ dates _ hnodup hlength
  refine List.ext_getElem? fun row => ?_
  cases hrow : dates[row]? with
  | some date => exact hread.own row row date hrow hrow
  | none =>
    have hend := List.getElem?_eq_none_iff.1 hrow
    rw [List.getElem?_eq_none (hread.length ▸ hend), List.getElem?_eq_none (hlength ▸ hend)]

def firstCell (date : Date) : List (Date × Cell) → Cell
  | [] => none
  | entry :: _ => if entry.1 = date then entry.2 else none

/-- Cells with their dates, read at other dates in one walk along both: what stands before a date is
passed over for good. -/
def walkCells (entries : List (Date × Cell)) : List Date → List Cell
  | [] => []
  | date :: rest =>
    let ahead := entries.dropWhile (·.1 < date)
    firstCell date ahead :: walkCells ahead rest

theorem lookup_passed (entries : List (Date × Cell)) {later : Date} (h : ¬ later < date) :
    (entries.dropWhile (·.1 < date)).lookup later = entries.lookup later := by
  induction entries with
  | nil => rfl
  | cons entry rest ih =>
    by_cases hbefore : entry.1 < date
    · have hne : (later == entry.1) = false := by
        rw [beq_eq_false_iff_ne]
        rintro rfl
        exact h hbefore
      rw [List.dropWhile_cons_of_pos (by simpa using hbefore), ih, List.lookup_cons, hne]
    · rw [List.dropWhile_cons_of_neg (by simpa using hbefore)]

theorem lookup_stopped {entries : List (Date × Cell)} (h : entries.Pairwise (·.1 < ·.1))
    (hstop : ∀ entry ∈ entries.head?, ¬ entry.1 < date) :
    firstCell date entries = (entries.lookup date).join := by
  cases entries with
  | nil => rfl
  | cons entry rest =>
    obtain ⟨hfirst, -⟩ := List.pairwise_cons.1 h
    obtain ⟨first, cell⟩ := entry
    by_cases heq : first = date
    · subst heq
      simp [firstCell]
    · have hbefore : date < first :=
        (Date.lt_or_eq_or_gt first date).resolve_left (hstop _ rfl) |>.resolve_left heq
      have hnone : rest.lookup date = none := by
        rw [List.lookup_eq_none_iff]
        intro later hlater
        have hafter := Date.lt_trans hbefore (hfirst later hlater)
        simpa using Date.ne_of_lt hafter
      have hne : (date == first) = false := by simpa using Ne.symm heq
      simp [firstCell, List.lookup_cons, hne, hnone, heq]

theorem walkCells_eq_map {entries : List (Date × Cell)} (hentries : entries.Pairwise (·.1 < ·.1))
    (hothers : others.Pairwise (· < ·)) :
    walkCells entries others = others.map fun date => (entries.lookup date).join := by
  induction others generalizing entries with
  | nil => rfl
  | cons date rest ih =>
    obtain ⟨hdate, hrest⟩ := List.pairwise_cons.1 hothers
    have hahead : (entries.dropWhile (·.1 < date)).Pairwise (·.1 < ·.1) :=
      hentries.sublist (List.dropWhile_sublist _)
    have hstop : ∀ entry ∈ (entries.dropWhile (·.1 < date)).head?, ¬ entry.1 < date := by
      intro entry he
      have hnot := List.head?_dropWhile_not (·.1 < date) entries
      rw [he] at hnot
      simpa using hnot
    rw [walkCells, lookup_stopped hahead hstop, lookup_passed entries (Date.lt_irrefl date),
      ih hahead hrest]
    refine congrArg (List.cons _) (List.map_congr_left fun later hlater => ?_)
    rw [lookup_passed entries fun hback =>
      Date.lt_irrefl date (Date.lt_trans (hdate later hlater) hback)]

theorem walkCells_eq_reindex (hdates : dates.Pairwise (· < ·)) (hothers : others.Pairwise (· < ·))
    (hlength : cells.length = dates.length) :
    walkCells (dates.zip cells) others = reindex dates cells others := by
  refine walkCells_eq_map ?_ hothers
  rw [← List.pairwise_map, List.map_fst_zip (Nat.le_of_eq hlength.symm)]
  exact hdates

theorem Table.IsValid.column_of_reindex {table : Table} (h : table.IsValid) {column : Column}
    (hc : column ∈ table.columns) {name : String} (hname : Text.normalName name = name)
    (others : List Date) : Column.of name (reindex table.dates column.cells others) =
      ⟨name, reindex table.dates column.cells others⟩ := by
  have hcells : column.cells.map Cell.observed = column.cells :=
    congrArg Column.cells (h.column_of hc)
  rw [Column.of, hname, ← reindex_map rfl, hcells]

end Cells

/-! ## Columns in turn -/

/-- The columns of tables, each with the table that it stands in. -/
def tableColumns (tables : List Table) : List (Table × Column) :=
  tables.flatMap fun table => table.columns.map (Prod.mk table)

/-- Adds a column of a table, over other dates, to columns that are there already. -/
def addColumn (dates : List Date) (columns : List Column) (source : Table × Column) : List Column :=
  columns ++ [Column.of (freeName source.2.name (columns.map Column.name))
    (reindex source.1.dates source.2.cells dates)]

section Columns

variable {dates : List Date} {columns : List Column} {tables : List Table}
  {sources : List (Table × Column)} {source : Table × Column}

theorem mem_tableColumns :
    source ∈ tableColumns tables ↔ source.1 ∈ tables ∧ source.2 ∈ source.1.columns := by
  constructor
  · intro h
    obtain ⟨table, htable, hmem⟩ := List.mem_flatMap.1 h
    obtain ⟨column, hc, rfl⟩ := List.mem_map.1 hmem
    exact ⟨htable, hc⟩
  · rintro ⟨htable, hc⟩
    exact List.mem_flatMap.2 ⟨source.1, htable, List.mem_map.2 ⟨source.2, hc, rfl⟩⟩

theorem foldl_addColumns (dates : List Date) (columns : List Column) (tables : List Table) :
    tables.foldl (addColumns dates) columns =
      (tableColumns tables).foldl (addColumn dates) columns := by
  induction tables generalizing columns with
  | nil => rfl
  | cons table tables ih =>
    rw [List.foldl_cons, ih, tableColumns, tableColumns, List.flatMap_cons, List.foldl_append,
      List.foldl_map]
    rfl

theorem prefix_foldl_addColumn (dates : List Date) (columns : List Column)
    (sources : List (Table × Column)) : columns <+: sources.foldl (addColumn dates) columns := by
  induction sources generalizing columns with
  | nil => exact List.prefix_rfl
  | cons source sources ih => exact (List.prefix_append _ _).trans (ih _)

theorem length_foldl_addColumn (dates : List Date) (columns : List Column)
    (sources : List (Table × Column)) :
    (sources.foldl (addColumn dates) columns).length = columns.length + sources.length := by
  induction sources generalizing columns with
  | nil => rfl
  | cons source sources ih =>
    rw [List.foldl_cons, ih, addColumn, List.length_append, List.length_singleton, List.length_cons]
    omega

theorem getElem?_foldl_addColumn {k : Nat} (h : sources[k]? = some source) :
    (sources.foldl (addColumn dates) [])[k]? = some (Column.of
      (freeName source.2.name (((sources.foldl (addColumn dates) []).take k).map Column.name))
      (reindex source.1.dates source.2.cells dates)) := by
  have hk : k < sources.length := (List.getElem?_eq_some_iff.1 h).1
  -- The columns in front come from the sources in front, and the later ones only extend them.
  have hsplit : sources = sources.take k ++ source :: sources.drop (k + 1) := by
    rw [← (List.getElem?_eq_some_iff.1 h).2, List.cons_getElem_drop_succ, List.take_append_drop]
  have hlength : ((sources.take k).foldl (addColumn dates) []).length = k := by
    rw [length_foldl_addColumn, List.length_nil, List.length_take]
    omega
  have hfold : sources.foldl (addColumn dates) [] = (sources.drop (k + 1)).foldl (addColumn dates)
      (addColumn dates ((sources.take k).foldl (addColumn dates) []) source) := by
    conv_lhs => rw [hsplit, List.foldl_append, List.foldl_cons]
  obtain ⟨later, hlater⟩ := prefix_foldl_addColumn dates
    (addColumn dates ((sources.take k).foldl (addColumn dates) []) source) (sources.drop (k + 1))
  rw [hfold, ← hlater, addColumn, List.append_assoc, List.take_left' hlength,
    List.getElem?_append_right (Nat.le_of_eq hlength), hlength, Nat.sub_self]
  rfl

end Columns

/-! ## The join -/

/-- What the join of some tables is. -/
structure IsOuterJoin (tables : List Table) (joined : Table) : Prop where
  ascending : joined.dates.Pairwise (· < ·)
  dates : ∀ date, date ∈ joined.dates ↔ ∃ table ∈ tables, date ∈ table.dates
  count : joined.columns.length = (tableColumns tables).length
  distinct : (joined.columns.map Column.name).Nodup
  column : ∀ (k : Nat) (table : Table) (column : Column), (tableColumns tables)[k]? = some (table, column) →
    ∃ given, joined.columns[k]? = some given ∧
      IsFreeName column.name ((joined.columns.take k).map Column.name) given.name ∧
      IsReadAt table.dates column.cells joined.dates given.cells

section Join

variable {tables : List Table} {joined : Table}

theorem mem_unionDates {date : Date} :
    date ∈ unionDates tables ↔ ∃ table ∈ tables, date ∈ table.dates := by
  rw [unionDates, mem_distinctDates, List.mem_flatMap]

theorem eq_of_joinTables (h : joinTables tables = .ok joined) : joined = ⟨unionDates tables,
    (tableColumns tables).foldl (addColumn (unionDates tables)) []⟩ := by
  rw [← foldl_addColumns]
  exact (Table.ofColumns_eq_ok.1 h).1

theorem getElem?_of_joinTables (htables : ∀ table ∈ tables, table.IsValid)
    (h : joinTables tables = .ok joined) {k : Nat} {table : Table} {column : Column}
    (hk : (tableColumns tables)[k]? = some (table, column)) :
    joined.columns[k]? = some
      ⟨freeName column.name ((joined.columns.take k).map Column.name),
        reindex table.dates column.cells joined.dates⟩ := by
  obtain ⟨htable, hc⟩ := mem_tableColumns.1 (List.mem_of_getElem? hk)
  have hvalid := htables table htable
  have hname := normalName_freeName (hvalid.isShaped.normal column hc)
    ((joined.columns.take k).map Column.name)
  have hcolumn := @getElem?_foldl_addColumn joined.dates _ _ _ hk
  rw [← hvalid.column_of_reindex hc hname]
  rw [eq_of_joinTables h] at hcolumn ⊢
  exact hcolumn

theorem length_of_joinTables (h : joinTables tables = .ok joined) :
    joined.columns.length = (tableColumns tables).length := by
  rw [eq_of_joinTables h, length_foldl_addColumn, List.length_nil, Nat.zero_add]

theorem cells_of_joinTables (htables : ∀ table ∈ tables, table.IsValid)
    (h : joinTables tables = .ok joined) : joined.columns.map Column.cells =
      (tableColumns tables).map fun source =>
        reindex source.1.dates source.2.cells joined.dates := by
  refine List.ext_getElem? fun k => ?_
  rw [List.getElem?_map, List.getElem?_map]
  cases hk : (tableColumns tables)[k]? with
  | none =>
    have hend := List.getElem?_eq_none_iff.1 hk
    rw [← length_of_joinTables h] at hend
    rw [List.getElem?_eq_none hend]
    rfl
  | some source =>
    rw [getElem?_of_joinTables htables h hk]
    rfl

theorem isOuterJoin_of_joinTables (htables : ∀ table ∈ tables, table.IsValid)
    (h : joinTables tables = .ok joined) : IsOuterJoin tables joined where
  ascending := (isValid_of_joinTables h).ascending
  dates date := by
    rw [eq_of_joinTables h]
    exact mem_unionDates
  count := length_of_joinTables h
  distinct := (isValid_of_joinTables h).distinct
  column k table column hk := by
    obtain ⟨htable, hc⟩ := mem_tableColumns.1 (List.mem_of_getElem? hk)
    have hvalid := htables table htable
    refine ⟨_, getElem?_of_joinTables htables h hk, isFreeName_freeName _ _, ?_⟩
    exact isReadAt_reindex (hvalid.ascending.imp Date.ne_of_lt) (hvalid.lengths column hc)

/-- Every column of a join is read in one walk along its dates and those of the join. -/
theorem joinTables_eq_walk (htables : ∀ table ∈ tables, table.IsValid) : joinTables tables =
    Table.ofColumns (unionDates tables) ((tableColumns tables).foldl (fun columns source =>
      columns ++ [Column.of (freeName source.2.name (columns.map Column.name))
        (walkCells (source.1.dates.zip source.2.cells) (unionDates tables))]) []) := by
  have hwalk : ∀ source ∈ tableColumns tables,
      walkCells (source.1.dates.zip source.2.cells) (unionDates tables) =
        reindex source.1.dates source.2.cells (unionDates tables) := by
    intro source hsource
    obtain ⟨htable, hc⟩ := mem_tableColumns.1 hsource
    have hvalid := htables source.1 htable
    exact walkCells_eq_reindex hvalid.ascending (pairwise_unionDates tables)
      (hvalid.lengths source.2 hc)
  rw [joinTables, foldl_addColumns]
  refine congrArg (Table.ofColumns _) (List.foldl_ext _ _ _ fun columns source hsource => ?_)
  rw [addColumn, hwalk source hsource]

theorem Table.valueColumn_eq {table : Table} {column : Column} (h : table.columns = [column]) :
    table.valueColumn = .ok column := by
  rw [valueColumn, h]

theorem alignPair_of_joinTables {left right : Table} {a b : Column} (hleft : left.IsValid)
    (hright : right.IsValid) (ha : left.columns = [a]) (hb : right.columns = [b])
    (h : joinTables [left, right] = .ok joined) : ∃ pair, alignPair left right = .ok pair ∧
      pair.dates = joined.dates ∧ joined.columns.map Column.cells = [pair.left, pair.right] := by
  have htables : ∀ table ∈ [left, right], table.IsValid := by simp [hleft, hright]
  have hsources : tableColumns [left, right] = [(left, a), (right, b)] := by
    simp [tableColumns, ha, hb]
  have hdates : joined.dates = unionDates [left, right] := congrArg Table.dates (eq_of_joinTables h)
  refine ⟨⟨joined.dates, reindex left.dates a.cells joined.dates,
    reindex right.dates b.cells joined.dates⟩, ?_, rfl, ?_⟩
  · rw [alignPair, Table.valueColumn_eq ha, Table.valueColumn_eq hb, hdates]
    rfl
  · rw [cells_of_joinTables htables h, hsources]
    rfl

theorem unionDates_pair {left right : Table} (hascending : left.dates.Pairwise (· < ·))
    (h : right.dates = left.dates) : unionDates [left, right] = left.dates := by
  refine eq_of_mem_iff (pairwise_unionDates _) hascending fun date => ?_
  simp [mem_unionDates, h]

theorem alignPair_of_dates_eq {left right : Table} (hleft : left.IsShaped) (hright : right.IsShaped)
    (h : right.dates = left.dates) : alignPair left right = (do
      let leftColumn ← left.valueColumn
      let rightColumn ← right.valueColumn
      return ⟨left.dates, leftColumn.cells, rightColumn.cells⟩) := by
  have hnodup : left.dates.Nodup := hleft.ascending.imp Date.ne_of_lt
  rw [alignPair, unionDates_pair hleft.ascending h, h]
  cases ha : left.valueColumn with
  | error cause => rfl
  | ok a =>
    cases hb : right.valueColumn with
    | error cause => rfl
    | ok b =>
      have hlength := (hright.length_valueColumn hb).trans (congrArg List.length h)
      change Except.ok (AlignedPair.mk left.dates _ _) = .ok ⟨left.dates, a.cells, b.cells⟩
      rw [reindex_self hnodup (hleft.length_valueColumn ha), reindex_self hnodup hlength]

end Join

/-- The join of valid tables is their outer join, and aligning two series reads off the same cells
at the same dates. -/
theorem joinTables_isOuterJoin :
    (∀ tables : List Table, (∀ table ∈ tables, table.IsValid) →
      ∃ joined, joinTables tables = .ok joined ∧ IsOuterJoin tables joined) ∧
    ∀ (left right : Table) (a b : Column), left.IsValid → right.IsValid → left.columns = [a] →
      right.columns = [b] → ∃ joined pair, joinTables [left, right] = .ok joined ∧
        alignPair left right = .ok pair ∧ pair.dates = joined.dates ∧
        joined.columns.map Column.cells = [pair.left, pair.right] := by
  constructor
  · intro tables htables
    obtain ⟨joined, hjoined⟩ := exists_joinTables fun table ht => (htables table ht).isShaped
    exact ⟨joined, hjoined, isOuterJoin_of_joinTables htables hjoined⟩
  · intro left right a b hleft hright ha hb
    have hshaped : ∀ table ∈ [left, right], table.IsShaped := by
      simp [hleft.isShaped, hright.isShaped]
    obtain ⟨joined, hjoined⟩ := exists_joinTables hshaped
    obtain ⟨pair, hpair, hrest⟩ := alignPair_of_joinTables hleft hright ha hb hjoined
    exact ⟨joined, pair, hjoined, hpair, hrest⟩

def observation (name : String) (date : Date) (x : Float) : Table :=
  ⟨[date], [⟨name, [some x]⟩]⟩

theorem isValid_observation {name : String} (hname : Text.normalName name = name) (date : Date)
    {x : Float} (hx : x.isFinite = true) : (observation name date x).IsValid :=
  Table.isValid_of_column (List.pairwise_singleton _ _) rfl hname (by simp [hx])

def clashing : List Table :=
  [observation "GDP_2" ⟨2024, 2, 29, by decide⟩ 1, observation "GDP" ⟨2024, 2, 28, by decide⟩ 2,
    observation "GDP" ⟨2024, 2, 28, by decide⟩ 3]

theorem isValid_clashing : ∀ table ∈ clashing, table.IsValid := by
  simp only [clashing, List.forall_mem_cons]
  exact ⟨isValid_observation rfl _ (by decide), isValid_observation rfl _ (by decide),
    isValid_observation rfl _ (by decide), by simp⟩

theorem joinTables_isOuterJoin_clashing :
    (∀ table ∈ clashing, table.IsValid) ∧
      (∃ joined, joinTables clashing = .ok joined ∧ IsOuterJoin clashing joined ∧
        joined.columns = [⟨"GDP_2", [none, some 1]⟩, ⟨"GDP", [some 2, none]⟩,
          ⟨"GDP_3", [some 3, none]⟩]) ∧
      ∃ joined pair, joinTables [observation "GDP_2" ⟨2024, 2, 29, by decide⟩ 1,
          observation "GDP" ⟨2024, 2, 28, by decide⟩ 2] = .ok joined ∧
        alignPair (observation "GDP_2" ⟨2024, 2, 29, by decide⟩ 1)
          (observation "GDP" ⟨2024, 2, 28, by decide⟩ 2) = .ok pair ∧ pair.dates = joined.dates ∧
        joined.columns.map Column.cells = [pair.left, pair.right] := by
  have hfirst := isValid_clashing _ List.mem_cons_self
  have hsecond := isValid_clashing _ (List.mem_cons_of_mem _ List.mem_cons_self)
  obtain ⟨joined, hjoined, hspec⟩ := joinTables_isOuterJoin.1 clashing isValid_clashing
  have hcolumns : joined.columns = [⟨"GDP_2", [none, some 1]⟩, ⟨"GDP", [some 2, none]⟩,
      ⟨"GDP_3", [some 3, none]⟩] := by
    rw [eq_of_joinTables hjoined]
    rfl
  exact ⟨isValid_clashing, ⟨joined, hjoined, hspec, hcolumns⟩,
    joinTables_isOuterJoin.2 _ _ _ _ hfirst hsecond rfl rfl⟩

end TimeSeries
