import TimeSeries.Proofs.Formula.BuiltIn
import TimeSeries.Proofs.Table.Rowwise

set_option autoImplicit false

/-!
# Computing row by row

Operators and the built-in functions other than `LEAD` compute each row from this row and earlier
ones. They keep every relation of cells that the operators on cells and the aggregates of a row
keep.
-/
namespace TimeSeries

/-- Operators on cells and aggregates of a row keep the relation from one context to the other. -/
structure CellRelation.Carries (K : CellRelation) (c c' : Context) : Prop where
  operator : ∀ (op : Operator) date l l' r r', K.holds date l l' → K.holds date r r' →
    K.holds date (op.applyCells c.fillMissing l r) (op.applyCells c'.fillMissing l' r')
  aggregate : ∀ (f : List Float → Float) date row row', List.Forall₂ (K.holds date) row row' →
    K.holds date (aggregateRow c.fillMissing f row) (aggregateRow c'.fillMissing f row')

open Table

variable {K : CellRelation} {c c' : Context} {t t' : Table}

section Changes

theorem changeCells_eq (lag : Nat) (f : Float → Float → Cell) (cells : List Cell) :
    changeCells lag f cells = cells.zipWith (fun current? previous? =>
      match current?, previous? with
      | some current, some previous => f current previous
      | _, _ => none) ((List.replicate lag none ++ cells).take cells.length) := by
  have htake (g : Cell → Cell → Cell) (others : List Cell) :
      cells.zipWith g others = cells.zipWith g (others.take cells.length) := by
    induction cells generalizing others with
    | nil => rfl
    | cons cell cells ih =>
      cases others with
      | nil => rfl
      | cons other others => exact congrArg (List.cons _) (ih others)
  exact htake _ _

theorem agree_changes (h : Rowwise K t t') (lag : Nat) (f : Float → Float → Cell) :
    Agree (Value.Related (Rowwise K)) (changes lag f t) (changes lag f t') := by
  refine (h.agree_mapColumns fun cells cells' hcells => ?_).series
  rw [changeCells_eq, changeCells_eq, hcells.length_left, hcells.length_right]
  refine hcells.zipWith (hcells.lag h.ascending lag) (K.strict₂ _ (fun _ => rfl) fun cell => ?_)
  cases cell <;> rfl

theorem agree_allMissing (h : Rowwise K t t') :
    Agree (Value.Related (Rowwise K)) (allMissing t) (allMissing t') :=
  (h.agree_mapColumns fun _ _ hcells => hcells.map fun date _ _ _ => K.refl date none).series

theorem yearLag?_congr (h : Rowwise K t t') : yearLag? t = yearLag? t' := by
  rw [yearLag?, yearLag?, h.rowCount_eq, h.dates]

end Changes

section Aggregates

theorem agree_aggregateRows (hK : K.Carries c c') {tables tables' : List Table}
    (h : List.Forall₂ (Rowwise K) tables tables') (name : String) (f : List Float → Float) :
    Agree (Value.Related (Rowwise K)) (aggregateRows name f tables c)
      (aggregateRows name f tables' c') := by
  refine agree_aggregateRows_of (fun t t' ht => (agree_valueColumn ht.columns).mono fun _ _ _ => trivial)
    (fun ts ts' => agree_joinTables) (fun t t' ht => ?_) h
  rw [← ht.dates]
  exact agree_single ht.ascending (ht.map_rows fun date row row' => hK.aggregate f date row row') name

end Aggregates

section Arithmetic

theorem agree_broadcast (h : Rowwise K t t') {f f' : Cell → Cell}
    (hf : ∀ date a b, K.holds date a b → K.holds date (f a) (f' b)) :
    Agree (Value.Related (Rowwise K)) (broadcast f t) (broadcast f' t') := by
  refine ((agree_valueColumn h.columns).mapError _).bind fun column column' hc => ?_
  rw [← h.dates]
  exact (agree_single h.ascending (hc.2.map hf) resultColumn).bind_series

structure AlignedPair.Rowwise (K : CellRelation) (pair pair' : AlignedPair) : Prop where
  ascending : pair.dates.Pairwise (· < ·)
  dates : pair.dates = pair'.dates
  left : CellsRelated K.holds pair.dates pair.left pair'.left
  right : CellsRelated K.holds pair.dates pair.right pair'.right

theorem agree_alignPair {l l' r r' : Table} (hl : Rowwise K l l') (hr : Rowwise K r r') :
    Agree (AlignedPair.Rowwise K) (alignPair l r) (alignPair l' r') := by
  have hnone (date : Date) : K.holds date none none := K.refl date none
  have hdates : unionDates [l, r] = unionDates [l', r'] :=
    unionDates_congr (.cons hl.dates (.cons hr.dates .nil))
  refine (agree_valueColumn hl.columns).bind fun left left' hleft => ?_
  refine (agree_valueColumn hr.columns).bind fun right right' hright => .ok ?_
  exact ⟨pairwise_unionDates _, hdates, hdates ▸ hl.dates ▸ hleft.2.reindex hnone _,
    hdates ▸ hr.dates ▸ hright.2.reindex hnone _⟩

theorem agree_combine (hK : K.Carries c c') (op : Operator) {l l' r r' : Value}
    (hl : Value.Related (Rowwise K) l l') (hr : Value.Related (Rowwise K) r r') :
    Agree (Value.Related (Rowwise K)) (combine op c.fillMissing l r)
      (combine op c'.fillMissing l' r') := by
  refine agree_combine_of (fun l l' r r' hl hr => ?_) (fun t t' x ht => ?_) (fun t t' x ht => ?_) hl hr
  · refine ((agree_alignPair hl hr).mapError _).bind fun pair pair' hpair => ?_
    rw [← hpair.dates]
    exact (agree_single hpair.ascending (hpair.left.zipWith hpair.right fun date a b a' b' =>
      hK.operator op date a b a' b') resultColumn).bind_series
  · exact agree_broadcast ht fun date a b hab => hK.operator op date a b _ _ hab (K.refl date _)
  · exact agree_broadcast ht fun date a b hab => hK.operator op date _ _ a b (K.refl date _) hab

end Arithmetic

theorem display_congr (h : Rowwise K t t') :
    (Value.series t).display = (Value.series t').display := by
  rw [Value.display, Value.display, h.rowCount_eq, h.columns.length_eq]

theorem lagSeries_congr (h : Rowwise K t t') (periods : Option Nat) :
    Rowwise K (lagSeries t periods) (lagSeries t' periods) := by
  rw [lagSeries, lagSeries, ← h.rowCount_eq]
  exact h.shiftDown _

theorem leadSeries_congr (h : Rowwise K t t')
    (hignores : ∀ date date' a b, K.holds date a b → K.holds date' a b) (periods : Option Nat) :
    Rowwise K (leadSeries t periods) (leadSeries t' periods) := by
  rw [leadSeries, leadSeries, ← h.rowCount_eq]
  exact h.shift hignores _

theorem CellRelation.Carries.respectsOperations (hK : K.Carries c c') :
    Function.RespectsOperations (Rowwise K) c c' where
  changes lag f _ _ h := agree_changes h lag f
  yearLag _ _ := yearLag?_congr
  allMissing _ _ := agree_allMissing
  size _ _ := display_congr
  lag periods _ _ h := lagSeries_congr h periods
  aggregate name f _ _ h := agree_aggregateRows hK h name f
  join _ _ := agree_joinTables
  mapValues f _ _ h := h.mapValues f

end TimeSeries
