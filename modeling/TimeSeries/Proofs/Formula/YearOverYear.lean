import TimeSeries.Proofs.Formula.Safe

set_option autoImplicit false

/-!
# Changes over a year

The functions that compare with the year before step back as many rows as the detected frequency has
periods in a year. Over regular rows that leads to the same month of the year before. Where a period
has no row it leads further back, as the frequency is that of the median gap only.
-/
namespace TimeSeries

/-! ## Months between rows -/

namespace Date

/-- The months are counted without gaps from year to year. -/
def monthNumber (date : Date) : Int := 12 * date.year + date.month

/-- The first date lies in the same calendar month as the second one, in the year before. -/
def IsYearBefore (earlier date : Date) : Prop :=
  earlier.year + 1 = date.year ∧ earlier.month = date.month

instance (earlier date : Date) : Decidable (earlier.IsYearBefore date) :=
  inferInstanceAs (Decidable (_ ∧ _))

theorem isYearBefore_iff {earlier date : Date} :
    earlier.IsYearBefore date ↔ date.monthNumber = earlier.monthNumber + 12 := by
  have hearlier := earlier.isDate.2.1
  have hdate := date.isDate.2.1
  unfold IsYearBefore monthNumber
  omega

/-- The second date lies a number of months after the first one, whatever their days. -/
def MonthsLater (months : Nat) (a b : Date) : Prop := b.monthNumber = a.monthNumber + months

/-- The second date lies at least a number of months after the first one. -/
def LeastMonthsLater (months : Nat) (a b : Date) : Prop := a.monthNumber + months ≤ b.monthNumber

end Date

/-- From row `first` to row `last`, each date is related to the next one. -/
def NeighboursRelated (R : Date → Date → Prop) (dates : List Date) (first last : Nat) : Prop :=
  ∀ (row : Nat) (a b : Date), first ≤ row → row < last →
    dates[row]? = some a → dates[row + 1]? = some b → R a b

theorem neighboursRelated_succ {R : Date → Date → Prop} {dates : List Date} {first last : Nat}
    {a b : Date} (hle : first ≤ last) (ha : dates[last]? = some a) (hb : dates[last + 1]? = some b) :
    NeighboursRelated R dates first (last + 1) ↔ NeighboursRelated R dates first last ∧ R a b := by
  constructor
  · intro h
    exact ⟨fun row x y hlow hhigh => h row x y hlow (by omega), h last a b hle (by omega) ha hb⟩
  · rintro ⟨h, hlast⟩ row x y hlow hhigh hx hy
    by_cases heq : row = last
    · subst heq
      cases hx.symm.trans ha
      cases hy.symm.trans hb
      exact hlast
    · exact h row x y hlow (by omega) hx hy

/-- Over rows that are at least some months apart as many steps lead at least as many times further,
and exactly so only if all steps do. -/
theorem monthNumber_of_neighbours {dates : List Date} {months first steps : Nat} {a b : Date}
    (h : NeighboursRelated (Date.LeastMonthsLater months) dates first (first + steps))
    (ha : dates[first]? = some a) (hb : dates[first + steps]? = some b) :
    a.monthNumber + steps * months ≤ b.monthNumber ∧
      (b.monthNumber = a.monthNumber + steps * months ↔
        NeighboursRelated (Date.MonthsLater months) dates first (first + steps)) := by
  -- the bound is proved along: a step too far is never made up for by the others
  induction steps generalizing b with
  | zero =>
    cases ha.symm.trans hb
    exact ⟨by omega, fun _ row _ _ hlow hhigh => by omega, fun _ => by omega⟩
  | succ steps ih =>
    obtain ⟨c, hc⟩ : ∃ c, dates[first + steps]? = some c := by
      have hlength := (List.getElem?_eq_some_iff.1 hb).1
      exact ⟨_, List.getElem?_eq_getElem (by omega)⟩
    rw [← Nat.add_assoc] at h hb ⊢
    rw [neighboursRelated_succ (Nat.le_add_right _ _) hc hb] at h ⊢
    obtain ⟨hle, hiff⟩ := ih h.1 hc
    have hstep : c.monthNumber + months ≤ b.monthNumber := h.2
    rw [← hiff, Int.natCast_succ, Int.add_mul, Int.one_mul, Date.MonthsLater]
    omega

theorem Table.IsShaped.exists_date {table : Table} (h : table.IsShaped) {column : Column}
    (hc : column ∈ table.columns) {row : Nat} {cell : Cell} (hcell : column.cells[row]? = some cell) :
    ∃ date, table.dates[row]? = some date := by
  have hrow := (List.getElem?_eq_some_iff.1 hcell).1
  rw [h.fit.lengths column hc] at hrow
  exact ⟨_, List.getElem?_eq_getElem hrow⟩

/-! ## Changes -/

/-- A number computed from two observed cells of a column. -/
def Column.Compares (compare : Float → Float → Cell) (column : Column) (earlier row : Nat)
    (value : Float) : Prop :=
  ∃ previous current, column.cells[earlier]? = some (some previous) ∧
    column.cells[row]? = some (some current) ∧ compare current previous = some value

theorem Column.getElem?_of_of {name : String} {cells : List Cell} {row : Nat} {value : Float}
    (h : (Column.of name cells).cells[row]? = some (some value)) :
    cells[row]? = some (some value) := by
  rw [Column.of, List.getElem?_map] at h
  obtain ⟨cell, hcell, hobserved⟩ := Option.map_eq_some_iff.1 h
  rw [hcell, (Option.filter_eq_some_iff.1 hobserved).1]

theorem compares_of_changeCells {lag row : Nat} {compare : Float → Float → Cell} {column : Column}
    {value : Float} (h : (changeCells lag compare column.cells)[row]? = some (some value)) :
    ∃ earlier, earlier + lag = row ∧ column.Compares compare earlier row value := by
  rw [changeCells, List.getElem?_zipWith_eq_some] at h
  obtain ⟨current?, previous?, hcurrent, hprevious, hvalue⟩ := h
  cases current? with
  | none => cases hvalue
  | some current =>
    cases previous? with
    | none => cases hvalue
    | some previous =>
      -- the first `lag` rows are compared with cells that are missing
      have hlag : lag ≤ row := by
        by_contra hlt
        rw [List.getElem?_append_left (by simpa using hlt), List.getElem?_replicate,
          if_pos (by omega)] at hprevious
        cases hprevious
      rw [List.getElem?_append_right (by simpa using hlag), List.length_replicate] at hprevious
      exact ⟨row - lag, by omega, previous, current, hprevious, hcurrent, hvalue⟩

/-- The functions that compare with the year before, and how they compare. -/
inductive ComparesYears : String → (Float → Float → Cell) → Prop
  | dify : ComparesYears "DIFY" difference
  | yryr : ComparesYears "YRYR" percentChange
  | pctchy : ComparesYears "PCTCHY" percentChange

theorem yearLag?_eq {table : Table} {f : Frequency} (h : detectFrequency table.dates = .ok f) :
    yearLag? table = .ok (some f.periodsPerYear) := by
  have hrows : ¬ table.rowCount < 2 := by
    intro hlt
    rw [Table.detectFrequency_eq_ok, Frequency.detect?,
      if_pos (show table.dates.length < 2 from hlt)] at h
    cases h
  rw [yearLag?, if_neg hrows, h]
  rfl

theorem ComparesYears.call_eq {name : String} {compare : Float → Float → Cell}
    (h : ComparesYears name compare) (table : Table) (context : Context) :
    FunctionRegistry.standard.call name [.series table] context =
      yearlyChanges table fun lag => changes lag compare table := by
  cases h <;> rfl

/-- The year functions compare the row of each value with an earlier row, as many rows before it as the
frequency has periods in a year. Where rows are never closer than the periods are, that row is of the
same month of the year before exactly if all rows from there on are one period apart. -/
theorem FunctionRegistry.change_over_year {table : Table} (h : table.IsValid) {name : String}
    {compare : Float → Float → Cell} (hfunction : ComparesYears name compare) {f : Frequency}
    (hfrequency : detectFrequency table.dates = .ok f) {months : Nat}
    (hmonths : f.periodsPerYear * months = 12) (context : Context) :
    ∃ result, standard.call name [.series table] context = .ok (.series result) ∧
      result.dates = table.dates ∧
      result.columns.map Column.name = table.columns.map Column.name ∧
      ∀ (index row : Nat) (column changed : Column) (value : Float),
        table.columns[index]? = some column → result.columns[index]? = some changed →
        changed.cells[row]? = some (some value) →
        ∃ earlier before date, earlier + f.periodsPerYear = row ∧
          table.dates[earlier]? = some before ∧ table.dates[row]? = some date ∧
          column.Compares compare earlier row value ∧
          (NeighboursRelated (Date.LeastMonthsLater months) table.dates earlier row →
            (before.IsYearBefore date ↔
              NeighboursRelated (Date.MonthsLater months) table.dates earlier row)) := by
  have hshaped := h.isShaped
  rw [hfunction.call_eq, yearlyChanges, yearLag?_eq hfrequency]
  refine ⟨_, congrArg (fun made => (liftTable made).map Value.series)
    (hshaped.mapColumns_eq (length_changeCells f.periodsPerYear compare)), rfl, ?_, ?_⟩
  · rw [List.map_map]
    exact List.map_congr_left hshaped.normal
  · intro index row column changed value hcolumn hchanged hvalue
    rw [List.getElem?_map, hcolumn] at hchanged
    obtain rfl := Option.some.inj hchanged
    obtain ⟨earlier, hrow, hcompares⟩ := compares_of_changeCells (Column.getElem?_of_of hvalue)
    obtain ⟨previous, current, hprevious, hcurrent, hcompare⟩ := hcompares
    have hmem := List.mem_of_getElem? hcolumn
    obtain ⟨before, hbefore⟩ := hshaped.exists_date hmem hprevious
    obtain ⟨date, hdate⟩ := hshaped.exists_date hmem hcurrent
    refine ⟨earlier, before, date, hrow, hbefore, hdate,
      ⟨previous, current, hprevious, hcurrent, hcompare⟩, fun hspaced => ?_⟩
    subst hrow
    have hyear := (monthNumber_of_neighbours hspaced hbefore hdate).2
    rw [show (f.periodsPerYear : Int) * months = 12 by exact_mod_cast hmonths] at hyear
    rw [Date.isYearBefore_iff, hyear]

/-- The ends of 2018, 2019 and 2021, without a row for 2020. -/
def skippedYear : Table :=
  ⟨[⟨2018, 12, 31, by decide⟩, ⟨2019, 12, 31, by decide⟩, ⟨2021, 12, 31, by decide⟩],
    [⟨"GDP", [some 1, some 2, some 4]⟩]⟩

theorem isValid_skippedYear : skippedYear.IsValid :=
  Table.isValid_of_column (by decide) rfl rfl (by decide)

theorem detectFrequency_skippedYear : detectFrequency skippedYear.dates = .ok .annual := by
  have hgaps : Frequency.gaps skippedYear.dates = [365, 731] := by decide
  have hsorted : ([365, 731] : List Int).mergeSort (· ≤ ·) = [365, 731] :=
    List.mergeSort_of_pairwise (by decide)
  unfold detectFrequency Frequency.detect? Frequency.median
  rw [hgaps, hsorted]
  rfl

theorem call_skippedYear :
    FunctionRegistry.standard.call "DIFY" [.series skippedYear] .default =
      .ok (.series ⟨skippedYear.dates, [⟨"GDP", [none, some 1, some 2]⟩]⟩) := by
  rw [ComparesYears.dify.call_eq, yearlyChanges, yearLag?_eq detectFrequency_skippedYear]
  rfl

/-- The difference of 2019 is that from the year before, as its row is one year after the first. -/
theorem FunctionRegistry.change_over_year_skipped :
    skippedYear.IsValid ∧ ComparesYears "DIFY" difference ∧
      detectFrequency skippedYear.dates = .ok .annual ∧
      Frequency.annual.periodsPerYear * 12 = 12 ∧
      ∃ result, standard.call "DIFY" [.series skippedYear] .default = .ok (.series result) ∧
        result = ⟨skippedYear.dates, [⟨"GDP", [none, some 1, some 2]⟩]⟩ ∧
        ∃ earlier before date, earlier + Frequency.annual.periodsPerYear = 1 ∧
          skippedYear.dates[earlier]? = some before ∧ skippedYear.dates[1]? = some date ∧
          Column.Compares difference ⟨"GDP", [some 1, some 2, some 4]⟩ earlier 1 1 ∧
          before.IsYearBefore date := by
  obtain ⟨result, hresult, -, -, hcells⟩ := change_over_year isValid_skippedYear .dify
    detectFrequency_skippedYear (show Frequency.annual.periodsPerYear * 12 = 12 from rfl) .default
  cases hresult.symm.trans call_skippedYear
  obtain ⟨earlier, before, date, hrow, hbefore, hdate, hcompares, hspaced⟩ :=
    hcells 0 1 _ _ 1 rfl rfl rfl
  obtain rfl : earlier = 0 := Nat.succ.inj hrow
  have hexact : NeighboursRelated (Date.MonthsLater 12) skippedYear.dates 0 1 := by
    intro row a b _ hlast ha hb
    obtain rfl := Nat.lt_one_iff.1 hlast
    cases ha
    cases hb
    rfl
  have hyear := (hspaced fun row a b hlow hhigh ha hb =>
    Int.le_of_eq (hexact row a b hlow hhigh ha hb).symm).2 hexact
  exact ⟨isValid_skippedYear, .dify, detectFrequency_skippedYear, rfl, _, hresult, rfl, 0, before,
    date, hrow, hbefore, hdate, hcompares, hyear⟩

/-- The difference of 2021 is one from 2019, and there is no row of the year before. -/
theorem FunctionRegistry.change_skips_year :
    skippedYear.IsValid ∧ detectFrequency skippedYear.dates = .ok .annual ∧
      standard.call "DIFY" [.series skippedYear] .default =
        .ok (.series ⟨skippedYear.dates, [⟨"GDP", [none, some 1, some 2]⟩]⟩) ∧
      skippedYear.dates[2]? = some ⟨2021, 12, 31, by decide⟩ ∧
      ∀ earlier ∈ skippedYear.dates, ¬ earlier.IsYearBefore ⟨2021, 12, 31, by decide⟩ :=
  ⟨isValid_skippedYear, detectFrequency_skippedYear, call_skippedYear, rfl, by decide⟩

end TimeSeries
