import TimeSeries.Proofs.Formula.BuiltIn
import TimeSeries.Proofs.Table.Moving
import TimeSeries.Proofs.Table.Runs

set_option autoImplicit false

/-!
# Lags and leads

`LAG` and `LEAD` take the same numbers of periods and move a series by as many rows, down or up, but by
no more rows than it has. So neither a row number nor the number of periods overflows, and a lag that
is taken back loses the last rows, a lead that is taken back the first ones.
-/
namespace TimeSeries

namespace Function

variable {name description : String} {context : Context}

/-- The arguments behind a series name a number of periods: without any it is one. -/
inductive NamesPeriods : List Value → Nat → Prop
  | unnamed : NamesPeriods [] 1
  | named {x : Float} {count : Nat} : wholeNumber? x = some count → count ≤ largestPeriods →
      NamesPeriods [.number x] count

theorem periodsOf_eq_ok {value : Value} {count : Nat} : periodsOf name value = .ok count ↔
    ∃ x, value = .number x ∧ wholeNumber? x = some count ∧ count ≤ largestPeriods := by
  cases value with
  | series table => simp [periodsOf, argumentError]
  | text content => simp [periodsOf, argumentError]
  | number x =>
    rw [periodsOf]
    cases hwhole : wholeNumber? x with
    | none => simp [argumentError, hwhole]
    | some found =>
      by_cases hle : found ≤ largestPeriods
      · simp only [if_pos hle, Except.ok.injEq]
        constructor
        · rintro rfl
          exact ⟨x, rfl, hwhole, hle⟩
        · rintro ⟨_, heq, hcount, -⟩
          cases heq
          exact Option.some.inj (hwhole.symm.trans hcount)
      · simp only [if_neg hle, argumentError, reduceCtorEq, false_iff]
        rintro ⟨_, heq, hcount, hsmall⟩
        cases heq
        exact hle (Option.some.inj (hwhole.symm.trans hcount) ▸ hsmall)

theorem invoke_eq_ok_iff {run : Table → Option Nat → Context → Except FormulaError Value}
    {table : Table} {arguments : List Value} {value : Value}
    (hdefault : run table none context = run table (some 1) context) :
    invoke ⟨name, description, .seriesWithPeriods run⟩ (.series table :: arguments) context =
        .ok value ↔
      ∃ count, NamesPeriods arguments count ∧ run table (some count) context = .ok value := by
  match arguments with
  | [] =>
    change run table none context = _ ↔ _
    rw [hdefault]
    constructor
    · intro h
      exact ⟨1, .unnamed, h⟩
    · rintro ⟨_, ⟨⟩, h⟩
      exact h
  | [argument] =>
    change (periodsOf name argument >>= fun count => pure (some count)) >>=
      (fun periods => run table periods context) = _ ↔ _
    rw [bind_assoc, bind_eq_ok]
    constructor
    · rintro ⟨count, hcount, h⟩
      obtain ⟨x, rfl, hwhole, hle⟩ := periodsOf_eq_ok.1 hcount
      exact ⟨count, .named hwhole hle, h⟩
    · rintro ⟨count, hnames, h⟩
      cases hnames with
      | named hwhole hle => exact ⟨count, periodsOf_eq_ok.2 ⟨_, rfl, hwhole, hle⟩, h⟩
  | first :: second :: rest =>
    -- of more than two arguments none is read
    have hmany : checkCount ⟨name, description, .seriesWithPeriods run⟩ (rest.length + 3) =
        .error (.argumentCount name (.atMost 2) (rest.length + 3)) := by
      have hlt : 2 < rest.length + 3 := by omega
      simp [checkCount, Transformation.arity, hlt]
    change checkCount ⟨name, description, .seriesWithPeriods run⟩ (rest.length + 3) >>= _ = _ ↔ _
    rw [hmany]
    constructor
    · intro h
      cases h
    · rintro ⟨count, hnames, -⟩
      cases hnames

end Function

namespace FunctionRegistry

variable {table : Table} {arguments : List Value} {context : Context} {value : Value}

theorem call_shift {move : Table → Option Nat → Table} {name description : String}
    (hmem : ⟨name, description, .seriesWithPeriods fun table periods _ =>
      .ok (.series (move table periods))⟩ ∈ shiftFunctions)
    (hdefault : move table none = move table (some 1)) :
    standard.call name (.series table :: arguments) context = .ok value ↔
      ∃ count, Function.NamesPeriods arguments count ∧ value = .series (move table (some count)) := by
  have hcall : standard.call name (.series table :: arguments) context =
      Function.invoke ⟨name, description, .seriesWithPeriods fun table periods _ =>
        .ok (.series (move table periods))⟩ (.series table :: arguments) context :=
    call_standard (List.mem_append_left numberFunctions
      (List.mem_append_left aggregateFunctions (List.mem_append_right changeFunctions hmem))) _ _
  rw [hcall, Function.invoke_eq_ok_iff (by rw [hdefault])]
  simp only [Except.ok.injEq, eq_comm]

theorem call_lag : standard.call "LAG" (.series table :: arguments) context = .ok value ↔
    ∃ count, Function.NamesPeriods arguments count ∧
      value = .series (table.shift (min count table.rowCount : Nat)) :=
  call_shift List.mem_cons_self rfl

theorem call_lead : standard.call "LEAD" (.series table :: arguments) context = .ok value ↔
    ∃ count, Function.NamesPeriods arguments count ∧
      value = .series (table.shift (-(min count table.rowCount : Nat))) :=
  call_shift (List.mem_cons_of_mem _ List.mem_cons_self) rfl

/-- Both functions accept the same arguments. What they move fits into words, and moving it back
leaves the series without the rows that went over the edge. -/
theorem lag_lead (h : table.IsShaped) {count : Nat} (hcount : Function.NamesPeriods arguments count) :
    ∃ lagged led, standard.call "LAG" (.series table :: arguments) context = .ok (.series lagged) ∧
      lagged = table.shiftWords (.ofNat (min count table.rowCount)) ∧
      standard.call "LEAD" (.series table :: arguments) context = .ok (.series led) ∧
      led = table.shiftWords (-.ofNat (min count table.rowCount)) ∧
      standard.call "LEAD" (.series lagged :: arguments) context =
        .ok (.series (table.clearRows (table.rowCount - min count table.rowCount ≤ ·))) ∧
      standard.call "LAG" (.series led :: arguments) context =
        .ok (.series (table.clearRows (· < min count table.rowCount))) := by
  have hrows : min count table.rowCount < 2 ^ 63 :=
    Nat.lt_of_le_of_lt (Nat.min_le_right _ _) (Table.length_lt_of_ascending h.ascending)
  have hdown := Int64.toInt_ofNat_of_lt hrows
  have hup := Int64.toInt_neg_ofNat_of_le (Nat.le_of_lt hrows)
  refine ⟨table.shift (min count table.rowCount : Nat), table.shift (-(min count table.rowCount : Nat)),
    call_lag.2 ⟨count, hcount, rfl⟩, ?_, call_lead.2 ⟨count, hcount, rfl⟩, ?_,
    call_lead.2 ⟨count, hcount, ?_⟩, call_lag.2 ⟨count, hcount, ?_⟩⟩
  · rw [h.shiftWords_eq, hdown]
  · rw [h.shiftWords_eq, hup]
  -- a moved table has as many rows, so that both calls move by the same number of rows
  · exact congrArg Value.series (h.shift_down_up _).symm
  · exact congrArg Value.series (Table.shift_up_down _ table).symm

/-- Moves by words put in each row the cell so many rows before, over all integers, moves in one
direction add up, and `LAG` and `LEAD` undo each other but for the rows moved over the edge. -/
theorem moves_rows (h : table.IsValid) :
    (∀ periods : Int64, table.shiftWords periods = table.shift periods.toInt ∧
      table.MovesRows periods.toInt (table.shift periods.toInt)) ∧
    (∀ a b : Int64, (0 ≤ a.toInt ∧ 0 ≤ b.toInt ∨ a.toInt ≤ 0 ∧ b.toInt ≤ 0) →
      (a + b).toInt = a.toInt + b.toInt →
      (table.shiftWords a).shiftWords b = table.shiftWords (a + b)) ∧
    ∀ (arguments : List Value) (context : Context),
      ((∃ value, standard.call "LAG" (.series table :: arguments) context = .ok value) ↔
        ∃ count, Function.NamesPeriods arguments count) ∧
      ((∃ value, standard.call "LEAD" (.series table :: arguments) context = .ok value) ↔
        ∃ count, Function.NamesPeriods arguments count) ∧
      ∀ count, Function.NamesPeriods arguments count → ∃ lagged led,
        standard.call "LAG" (.series table :: arguments) context = .ok (.series lagged) ∧
        lagged = table.shiftWords (.ofNat (min count table.rowCount)) ∧
        standard.call "LEAD" (.series table :: arguments) context = .ok (.series led) ∧
        led = table.shiftWords (-.ofNat (min count table.rowCount)) ∧
        standard.call "LEAD" (.series lagged :: arguments) context =
          .ok (.series (table.clearRows (table.rowCount - min count table.rowCount ≤ ·))) ∧
        standard.call "LAG" (.series led :: arguments) context =
          .ok (.series (table.clearRows (· < min count table.rowCount))) := by
  have hwords (periods : Int64) := h.isShaped.shiftWords_eq periods
  refine ⟨fun periods => ⟨hwords periods, Table.movesRows_shift _ table⟩, ?_, fun arguments context =>
    ⟨?_, ?_, fun count hcount => lag_lead h.isShaped hcount⟩⟩
  · intro a b hdirection hsum
    rw [hwords a, (h.isShaped.shift a.toInt).shiftWords_eq b, Table.shift_shift hdirection, hwords, hsum]
  · rw [exists_congr fun _ => call_lag, exists_comm]
    simp
  · rw [exists_congr fun _ => call_lead, exists_comm]
    simp

/-- Four months moved by the least word, and by a million periods there and back. -/
theorem moves_rows_gapped :
    Table.gapped.IsValid ∧
      Table.gapped.shiftWords Int64.minValue = Table.gapped.clearRows (fun _ => true) ∧
      (Table.gapped.shiftWords 1).shiftWords 2 = Table.gapped.shiftWords 3 ∧
      ∃ lagged, standard.call "LAG" [.series Table.gapped, .number 1000000] .default =
          .ok (.series lagged) ∧
        standard.call "LEAD" [.series lagged, .number 1000000] .default =
          .ok (.series (Table.gapped.clearRows (0 ≤ ·))) := by
  obtain ⟨hwords, hadd, hcalls⟩ := moves_rows Table.isValid_gapped
  have hcount : Function.NamesPeriods [.number 1000000] 1000000 := .named rfl (by decide)
  obtain ⟨lagged, -, hlag, -, -, -, hback, -⟩ := (hcalls _ .default).2.2 _ hcount
  refine ⟨Table.isValid_gapped, (hwords Int64.minValue).1.trans rfl, ?_, lagged, hlag, hback⟩
  exact hadd 1 2 (by decide) (by decide)

end FunctionRegistry

end TimeSeries
