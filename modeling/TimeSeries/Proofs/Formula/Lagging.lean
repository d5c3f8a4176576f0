import TimeSeries.Proofs.Formula.Moving
import TimeSeries.Proofs.Formula.Rowwise
import TimeSeries.Proofs.Formula.Safe

set_option autoImplicit false

/-!
# Changes of lagged series

A lag moves all cells of a column down by the same number of rows, so that the two cells of a change
stay as far apart as they were, and keeps the dates, from which the rows of a year are told. So the
changes of a lagged series are the lagged changes.
-/
namespace TimeSeries

namespace Table

section Cells

theorem shiftCells_map (n : Nat) {f : Cell → Cell} (hf : f none = none) (cells : List Cell) :
    shiftCells n (cells.map f) = (shiftCells n cells).map f := by
  rw [shiftCells_natCast, shiftCells_natCast, List.map_take, List.map_append, List.map_replicate, hf,
    List.length_map]

theorem shiftCells_zipWith (n : Nat) {f : Cell → Cell → Cell} (hf : f none none = none)
    {as bs : List Cell} (h : as.length = bs.length) :
    shiftCells n (as.zipWith f bs) = (shiftCells n as).zipWith f (shiftCells n bs) := by
  rw [shiftCells_natCast, shiftCells_natCast, shiftCells_natCast, List.length_zipWith, ← h,
    Nat.min_self, ← List.take_zipWith, List.zipWith_append (by simp), List.zipWith_replicate,
    Nat.min_self, hf]

theorem changeCells_shiftCells (lag : Nat) (f : Float → Float → Cell) (n : Nat)
    (cells : List Cell) :
    changeCells lag f (shiftCells n cells) = shiftCells n (changeCells lag f cells) := by
  have hcomm : shiftCells lag (shiftCells n cells) = shiftCells n (shiftCells lag cells) := by
    rw [shiftCells_add (by omega), shiftCells_add (by omega), Int.add_comm]
  rw [changeCells_eq, changeCells_eq, ← shiftCells_natCast, ← shiftCells_natCast, hcomm]
  exact (shiftCells_zipWith n rfl (length_shiftCells _ _).symm).symm

end Cells

/-- The second table is the first one, over these dates, with all cells moved down by `n` rows. -/
structure Lagged (n : Nat) (dates : List Date) (table table' : Table) : Prop where
  isShaped : table.IsShaped
  dates_eq : table.dates = dates
  eq_shift : table' = table.shift n

variable {n : Nat} {dates : List Date} {table table' : Table}

theorem Lagged.agree_mapColumns (h : Lagged n dates table table') {f : List Cell → List Cell}
    (hlength : ∀ cells, (f cells).length = cells.length)
    (hf : ∀ cells, f (shiftCells n cells) = shiftCells n (f cells)) :
    Agree (Lagged n dates) (table.mapColumns f) (table'.mapColumns f) := by
  obtain ⟨hshaped, hdates, rfl⟩ := h
  have hmap := hshaped.mapColumns_eq hlength
  rw [hmap, (hshaped.shift n).mapColumns_eq hlength]
  refine .ok ⟨(isValid_of_mapColumns hmap).isShaped, hdates, ?_⟩
  rw [shift, shift, List.map_map, List.map_map]
  refine congrArg (Table.mk _) (List.map_congr_left fun column _ => ?_)
  change Column.of column.name (f (shiftCells n column.cells)) = _
  rw [hf, Column.of, ← shiftCells_map n rfl]
  rfl

theorem respectsChanges_lagged (n : Nat) (dates : List Date) :
    Function.RespectsChanges (Lagged n dates) where
  changes lag f _ _ h :=
    (h.agree_mapColumns (length_changeCells lag f) (changeCells_shiftCells lag f n)).series
  yearLag := by
    rintro table _ ⟨-, -, rfl⟩
    rfl
  allMissing _ _ h :=
    (h.agree_mapColumns (fun _ => List.length_map _) fun cells => (shiftCells_map n rfl cells).symm).series

end Table

section Calls

variable {context : Context} {function : Function}

theorem Function.exists_changed {table : Table} (h : table.IsShaped)
    (hf : function ∈ changeFunctions) (context : Context) :
    ∃ changed, function.invoke [.series table] context = .ok (.series changed) := by
  have haccepted : (∀ run, function.transformation ≠ .seriesList run) ∧
      function.check [.series table] = .ok () := by
    simp only [changeFunctions, List.mem_cons, List.not_mem_nil, or_false] at hf
    -- all of them take one series, so each check passes by computation
    rcases hf with rfl | rfl | rfl | rfl | rfl | rfl | rfl
    all_goals
      refine ⟨fun run hlist => ?_, rfl⟩
      cases hlist
  refine exists_series_of_check ?_ haccepted.1 ?_ haccepted.2
  · simp only [builtIns, List.mem_append, hf, true_or]
  · intro other hother
    cases List.mem_singleton.1 hother
    exact h

/-- `LAG` moves a series by a number of rows that depends on the other arguments and on the dates. -/
theorem FunctionRegistry.lag_eq_ok {table : Table} {periods : List Value} {lagged : Value}
    (h : standard.call "LAG" (.series table :: periods) context = .ok lagged) :
    ∃ n : Nat, lagged = .series (table.shift n) ∧
      ∀ other : Table, other.dates = table.dates →
        standard.call "LAG" (.series other :: periods) context = .ok (.series (other.shift n)) := by
  obtain ⟨count, hcount, hlagged⟩ := call_lag.1 h
  -- the number of rows is cut to those of the table, which the dates tell
  refine ⟨min count table.rowCount, hlagged, fun other hdates => call_lag.2 ⟨count, hcount, ?_⟩⟩
  rw [Table.rowCount, Table.rowCount, hdates]

/-- Whatever number of periods `LAG` accepts, each change of the lagged series is the lagged change of
the series. -/
theorem FunctionRegistry.change_of_lagged {table : Table} (h : table.IsValid)
    (hf : function ∈ changeFunctions) {periods : List Value} {lagged : Value}
    (hlag : standard.call "LAG" (.series table :: periods) context = .ok lagged) :
    ∃ changed result,
      standard.call function.name [.series table] context = .ok (.series changed) ∧
      standard.call function.name [lagged] context = .ok (.series result) ∧
      standard.call "LAG" (.series changed :: periods) context = .ok (.series result) := by
  obtain ⟨n, rfl, hlagged⟩ := lag_eq_ok hlag
  have hcall (arguments : List Value) : standard.call function.name arguments context =
      function.invoke arguments context :=
    call_standard (by simp only [List.mem_append, hf, true_or]) arguments context
  obtain ⟨changed, hchanged⟩ := Function.exists_changed h.isShaped hf context
  have hrespects : function.Respects (Table.Lagged n table.dates) context context :=
    Function.respects_change (Table.respectsChanges_lagged n table.dates) hf
  have hagree := hrespects [.series table] [.series (table.shift n)]
    (.cons (.series ⟨h.isShaped, rfl, rfl⟩) .nil)
  obtain ⟨_, hresult, hrelated⟩ := hagree.of_ok hchanged
  cases hrelated with
  | series related =>
    obtain ⟨-, hdates, rfl⟩ := related
    exact ⟨changed, _, (hcall _).trans hchanged, (hcall _).trans hresult, hlagged changed hdates⟩

/-- The difference of the first two of four months, lagged to the third. -/
theorem FunctionRegistry.change_of_lagged_gapped :
    Table.gapped.IsValid ∧
      standard.call "LAG" [.series Table.gapped, .number 1] .default =
        .ok (.series (Table.gapped.shift 1)) ∧
      ∃ changed result,
        standard.call "DIFF" [.series Table.gapped] .default = .ok (.series changed) ∧
        standard.call "DIFF" [.series (Table.gapped.shift 1)] .default = .ok (.series result) ∧
        standard.call "LAG" [.series changed, .number 1] .default = .ok (.series result) ∧
        result = ⟨Table.gapped.dates, [⟨"GDP", [none, none, some 1, none]⟩]⟩ := by
  have hlag : standard.call "LAG" [.series Table.gapped, .number 1] .default =
      .ok (.series (Table.gapped.shift 1)) := rfl
  have hdifference : standard.call "DIFF" [.series (Table.gapped.shift 1)] .default =
      .ok (.series ⟨Table.gapped.dates, [⟨"GDP", [none, none, some 1, none]⟩]⟩) := rfl
  obtain ⟨changed, result, hchanged, hresult, hlagged⟩ :=
    change_of_lagged Table.isValid_gapped List.mem_cons_self hlag
  cases hresult.symm.trans hdifference
  exact ⟨Table.isValid_gapped, hlag, changed, _, hchanged, hdifference, hlagged, rfl⟩

end Calls

end TimeSeries
