import TimeSeries.Proofs.Table.OuterJoin

set_option autoImplicit false

/-!
# Joins in steps

A join may stand for the tables that it was made from when more tables are joined. Its dates are
theirs, so that a cell that is missing at one of its dates is missing in them; and its names are
free, so that they are given again.
-/
namespace TimeSeries

section Cells

variable {dates others : List Date} {date : Date}

theorem cellAt_map_self (g : Date → Cell) (h : date ∈ dates) :
    cellAt dates (dates.map g) date = g date := by
  induction dates with
  | nil => cases h
  | cons first rest ih =>
    rw [List.map_cons, cellAt_cons]
    by_cases heq : date = first
    · rw [if_pos heq, heq]
    · rw [if_neg heq, ih ((List.mem_cons.1 h).resolve_left heq)]

theorem reindex_reindex (hsubset : dates ⊆ others) (cells : List Cell) (later : List Date) :
    reindex others (reindex dates cells others) later = reindex dates cells later := by
  refine List.map_congr_left fun date _ => ?_
  -- A date that is not among the others is not an own date either.
  by_cases h : date ∈ others
  · exact cellAt_map_self _ h
  · rw [cellAt_of_not_mem _ h, cellAt_of_not_mem _ fun hmem => h (hsubset hmem)]

end Cells

section Steps

variable {dates : List Date} {columns : List Column} {first table : Table} {ts us : List Table}

theorem addColumns_of_nodup
    (hnormal : ∀ column ∈ table.columns, Text.normalName column.name = column.name)
    (hnodup : ((columns ++ table.columns).map Column.name).Nodup) :
    addColumns dates columns table = columns ++ table.columns.map fun column =>
      Column.of column.name (reindex table.dates column.cells dates) := by
  rw [addColumns]
  generalize table.columns = added at hnormal hnodup
  -- The names that are taken grow along the induction, and stay apart from those to come.
  induction added generalizing columns with
  | nil => simp
  | cons column added ih =>
    have hfree : column.name ∉ columns.map Column.name := by
      rw [List.map_append, List.map_cons] at hnodup
      exact fun hmem => (List.nodup_append.1 hnodup).2.2 _ hmem _ List.mem_cons_self rfl
    have hname := (isFreeName_freeName column.name (columns.map Column.name)).kept hfree
    rw [List.foldl_cons, hname, ih, List.append_assoc]
    · rfl
    · exact fun c hc => hnormal c (List.mem_cons_of_mem _ hc)
    · simpa [hnormal column List.mem_cons_self] using hnodup

theorem unionDates_append (h : joinTables ts = .ok first) (us : List Table) :
    unionDates (first :: us) = unionDates (ts ++ us) := by
  refine eq_of_mem_iff (pairwise_unionDates _) (pairwise_unionDates _) fun date => ?_
  have hdates : date ∈ first.dates ↔ ∃ table ∈ ts, date ∈ table.dates := by
    rw [eq_of_joinTables h]
    exact mem_unionDates
  simp only [mem_unionDates, List.mem_cons, List.mem_append, or_and_right, exists_or, hdates,
    exists_eq_left]

theorem foldl_addColumns_of_joinTables (h : joinTables ts = .ok first) (dates : List Date) :
    ts.foldl (addColumns dates) [] = first.columns.map fun column =>
      ⟨column.name, reindex first.dates column.cells dates⟩ := by
  have hdates : first.dates = unionDates ts := congrArg Table.dates (eq_of_joinTables h)
  have hcolumns : first.columns = ts.foldl (addColumns first.dates) [] := by
    rw [eq_of_joinTables h, foldl_addColumns]
  refine @eq_map_of_forall₂ (fun cells => reindex first.dates cells dates) _ _ ?_
  rw [hcolumns]
  refine forall₂_joined (fun _ _ hc => hc.1) (List.forall₂_same.2 fun table ht =>
    List.forall₂_same.2 fun column _ => ⟨rfl, fun name => ⟨rfl, ?_⟩⟩)
  have hsubset : table.dates ⊆ first.dates := by
    intro date hdate
    rw [hdates]
    exact mem_unionDates.2 ⟨table, ht, hdate⟩
  dsimp only [Column.of]
  rw [reindex_map rfl, reindex_reindex hsubset]

/-- A join in front of other tables counts for the tables that it was made from. -/
theorem joinTables_cons_of_joinTables (h : joinTables ts = .ok first) (us : List Table) :
    joinTables (first :: us) = joinTables (ts ++ us) := by
  have hvalid := isValid_of_joinTables h
  have hnormal := hvalid.isShaped.normal
  have hfirst : addColumns (unionDates (ts ++ us)) [] first =
      ts.foldl (addColumns (unionDates (ts ++ us))) [] := by
    rw [foldl_addColumns_of_joinTables h, @addColumns_of_nodup _ [] _ hnormal hvalid.distinct,
      List.nil_append]
    exact List.map_congr_left fun column hc =>
      hvalid.column_of_reindex hc (hnormal column hc) _
  rw [joinTables, joinTables, unionDates_append h, List.foldl_cons, List.foldl_append, hfirst]

end Steps

/-- Joining some tables first makes no difference to the join: its dates, its cells, the order of its
columns and their names are the same. -/
theorem joinTables_stepwise {ts us : List Table} (hts : ∀ table ∈ ts, table.IsValid)
    (hus : ∀ table ∈ us, table.IsValid) :
    ∃ first whole, joinTables ts = .ok first ∧ joinTables (ts ++ us) = .ok whole ∧
      joinTables ([first] ++ us) = .ok whole := by
  have hall : ∀ table ∈ ts ++ us, table.IsShaped := by
    intro table ht
    rcases List.mem_append.1 ht with ht | ht
    · exact (hts table ht).isShaped
    · exact (hus table ht).isShaped
  obtain ⟨first, hfirst⟩ := exists_joinTables fun table ht => (hts table ht).isShaped
  obtain ⟨whole, hwhole⟩ := exists_joinTables hall
  exact ⟨first, whole, hfirst, hwhole, (joinTables_cons_of_joinTables hfirst us).trans hwhole⟩

/-- The numbers that the first step gives are taken in the second step. -/
theorem joinTables_stepwise_clashing :
    (∀ table ∈ clashing, table.IsValid) ∧
      ∃ first whole, joinTables clashing = .ok first ∧
        joinTables (clashing ++ clashing) = .ok whole ∧
        joinTables ([first] ++ clashing) = .ok whole ∧
        whole.columns.map Column.name = ["GDP_2", "GDP", "GDP_3", "GDP_2_2", "GDP_4", "GDP_5"] := by
  obtain ⟨first, whole, hfirst, hwhole, hstep⟩ :=
    joinTables_stepwise isValid_clashing isValid_clashing
  refine ⟨isValid_clashing, first, whole, hfirst, hwhole, hstep, ?_⟩
  rw [eq_of_joinTables hwhole]
  rfl

end TimeSeries
