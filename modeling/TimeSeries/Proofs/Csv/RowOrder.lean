import TimeSeries.Csv.Table
import TimeSeries.Proofs.Csv.Records
import TimeSeries.Proofs.Table.RowOrder

set_option autoImplicit false

/-!
# The order of rows in a file

What a row is read as depends on its fields and not on where it stands; its place shows only in
errors. So when all rows can be read, files with the same rows in different orders have the same
table, or are refused for the same date or column.
-/
namespace TimeSeries.Csv

variable {options : ReadOptions} {position position' : RecordPosition} {count dates : Nat}

/-! ## Rows without their places -/

theorem decodeFields_congr {fields : List Field} {index : Nat} {texts : List (List Char)}
    (h : decodeFields position index fields = .ok texts) (position' : RecordPosition) :
    decodeFields position' index fields = .ok texts := by
  induction fields generalizing index texts with
  | nil => exact h
  | cons field rest ih =>
    rw [decodeFields] at h ⊢
    split at h
    · cases h
    · obtain ⟨others, hothers, rfl⟩ := map_eq_ok.1 h
      rw [ih hothers]
      rfl

theorem readCell_congr {row column : Nat} {text : List Char} {cell : Cell}
    (h : readCell options row column text = .ok cell) (row' : Nat) :
    readCell options row' column text = .ok cell := by
  unfold readCell at h ⊢
  split
  · rwa [if_pos (by assumption)] at h
  · rw [if_neg (by assumption)] at h
    split
    · rename_i x hx
      rw [hx] at h
      exact h
    · rename_i hx
      rw [hx] at h
      cases h

theorem readRow_congr {fields : List Field} {row : Date × List Cell}
    (h : readRow options count dates ⟨position, fields⟩ = .ok row) (position' : RecordPosition) :
    readRow options count dates ⟨position', fields⟩ = .ok row := by
  obtain ⟨texts, htexts, h⟩ := bind_eq_ok.1 h
  obtain ⟨date, hdate, h⟩ := bind_eq_ok.1 h
  obtain ⟨cells, hcells, h⟩ := bind_eq_ok.1 h
  have htexts' : readRecord count ⟨position', fields⟩ = .ok texts := by
    unfold readRecord at htexts ⊢
    split at htexts
    · cases htexts
    · rename_i hlength
      rw [if_neg hlength]
      exact decodeFields_congr htexts position'
  have hcells' := mapM_congr_ok (fun (entry : List Char × Nat) cell hcell =>
    readCell_congr hcell position'.line) hcells
  have hdate' := mapError_eq_ok.1 hdate
  exact bind_eq_ok.2 ⟨texts, htexts', bind_eq_ok.2 ⟨date, mapError_eq_ok.2 hdate',
    bind_eq_ok.2 ⟨cells, hcells', h⟩⟩⟩

/-- The row that fields are read as, wherever they stand. -/
def rowOf (options : ReadOptions) (count dates : Nat) (fields : List Field) :
    Option (Date × List Cell) :=
  (readRow options count dates ⟨⟨0, 1, 0⟩, fields⟩).toOption

theorem readRow_eq_ok {record : Record} {row : Date × List Cell} :
    readRow options count dates record = .ok row ↔ rowOf options count dates record.fields = some row := by
  constructor
  · intro h
    have hsame : readRow options count dates ⟨record.position, record.fields⟩ = .ok row := h
    rw [rowOf, readRow_congr hsame]
    rfl
  · intro h
    exact readRow_congr (eq_ok_of_toOption h) record.position

theorem mapM_readRow {records : List Record}
    (h : ∀ record ∈ records, ∃ row, readRow options count dates record = .ok row) :
    records.mapM (readRow options count dates) =
      .ok ((records.map Record.fields).filterMap (rowOf options count dates)) := by
  refine @mapM_eq_ok _ _ _ _ _ (fun record => rowOf options count dates record.fields) some _ _ ?_
    fun record row _ hrow => readRow_eq_ok.2 hrow
  induction records with
  | nil => rfl
  | cons record rest ih =>
    obtain ⟨⟨row, hrow⟩, hrest⟩ := List.forall_mem_cons.1 h
    rw [List.map_cons, List.map_cons, List.filterMap_cons_some (readRow_eq_ok.1 hrow), List.map_cons,
      ih hrest, readRow_eq_ok.1 hrow]

/-! ## The header -/

theorem position_recordsFrom {dialect : Dialect} {bytes : List UInt8} {first : Record}
    {rest : List Record} (h : recordsFrom dialect position bytes = first :: rest) :
    first.position = position := by
  rw [recordsFrom] at h
  split at h
  · cases h
  · cases h
    rfl

theorem position_splitRecords {dialect : Dialect} {bytes : List UInt8} {first : Record}
    {rest : List Record} (h : splitRecords dialect bytes = first :: rest) :
    first.position = ⟨0, 1, 0⟩ := by
  unfold splitRecords at h
  dsimp only at h
  split at h
  · split at h
    · cases h
    · cases h
      rfl
  · exact position_recordsFrom h

/-- Files with the same header, and otherwise with the same records in two orders. -/
structure Reordered (dialect : Dialect) (bytes bytes' : List UInt8) : Prop where
  header : ((splitRecords dialect bytes).map Record.fields).head? =
    ((splitRecords dialect bytes').map Record.fields).head?
  rows : (((splitRecords dialect bytes).drop 1).map Record.fields).Perm
    (((splitRecords dialect bytes').drop 1).map Record.fields)

/-- Every record behind the header has as many fields as the header, a date, and cells. -/
def RowsParse (options : ReadOptions) (bytes : List UInt8) : Prop :=
  ∀ header dates, readHeader (splitRecords options.dialect bytes) = .ok header →
    dateIndex options header = .ok dates →
    ∀ record ∈ (splitRecords options.dialect bytes).drop 1,
      ∃ row, readRow options header.length dates record = .ok row

section Files

variable {bytes bytes' : List UInt8}

theorem Reordered.readHeader_eq {dialect : Dialect} (h : Reordered dialect bytes bytes') :
    readHeader (splitRecords dialect bytes) = readHeader (splitRecords dialect bytes') := by
  have hheader := h.header
  cases hs : splitRecords dialect bytes with
  | nil =>
    cases hs' : splitRecords dialect bytes' with
    | nil => rfl
    | cons first' rest' => simp [hs, hs'] at hheader
  | cons first rest =>
    cases hs' : splitRecords dialect bytes' with
    | nil => simp [hs, hs'] at hheader
    | cons first' rest' =>
      have hfields : first.fields = first'.fields := by simpa [hs, hs'] using hheader
      rw [readHeader, readHeader, hfields, position_splitRecords hs, position_splitRecords hs']

theorem Reordered.rowsParse (h : Reordered options.dialect bytes bytes')
    (hparse : RowsParse options bytes) : RowsParse options bytes' := by
  intro header dates hheader hdates record hrecord
  have hmem : record.fields ∈ ((splitRecords options.dialect bytes).drop 1).map Record.fields :=
    h.rows.mem_iff.2 (List.mem_map_of_mem hrecord)
  obtain ⟨other, hother, hfields⟩ := List.mem_map.1 hmem
  obtain ⟨row, hrow⟩ := hparse header dates (h.readHeader_eq.trans hheader) hdates other hother
  refine ⟨row, readRow_eq_ok.2 ?_⟩
  rw [← hfields]
  exact readRow_eq_ok.1 hrow

/-- The columns that a header names, over rows in their final order. -/
def columnsOf (header : List (List Char)) (dates : Nat) (sorted : List (Date × List Cell)) :
    List Column :=
  (header.eraseIdx dates).zipIdx.map fun (name, column) =>
    Column.of (String.ofList name) (sorted.map fun row => row.2.getD column none)

def tableOf (header : List (List Char)) (dates : Nat) (rows : List (Date × List Cell)) :
    Except TableError Table :=
  Table.ofColumns ((Table.sortByDate rows).map Prod.fst)
    (columnsOf header dates (Table.sortByDate rows))

theorem readTable_eq (options : ReadOptions) (bytes : List UInt8) :
    readTable options bytes = (do
      let header ← readHeader (splitRecords options.dialect bytes)
      let dates ← dateIndex options header
      let rows ← ((splitRecords options.dialect bytes).drop 1).mapM
        (readRow options header.length dates)
      (tableOf header dates rows).mapError .table) :=
  rfl

theorem readTable_of_reordered (h : Reordered options.dialect bytes bytes')
    (hparse : RowsParse options bytes) : readTable options bytes = readTable options bytes' := by
  rw [readTable_eq, readTable_eq, ← h.readHeader_eq]
  cases hheader : readHeader (splitRecords options.dialect bytes) with
  | error e => rfl
  | ok header =>
    dsimp only [bind, Except.bind]
    cases hdates : dateIndex options header with
    | error e => rfl
    | ok dates =>
      -- Both files have their rows read against this header, so that only their order differs.
      have hheader' := h.readHeader_eq.symm.trans hheader
      have hrows := mapM_readRow (hparse header dates hheader hdates)
      have hrows' := mapM_readRow (h.rowsParse hparse header dates hheader' hdates)
      have hperm := h.rows.filterMap (rowOf options header.length dates)
      have htable := Table.ofColumns_sortByDate_of_perm hperm (columnsOf header dates)
      dsimp only
      rw [hrows, hrows']
      exact congrArg (Except.mapError CsvError.table) htable

theorem readTable_of_rowsParse (hparse : RowsParse options bytes) {header : List (List Char)}
    {dates : Nat} (hheader : readHeader (splitRecords options.dialect bytes) = .ok header)
    (hdates : dateIndex options header = .ok dates) :
    ∃ rows, readTable options bytes = (tableOf header dates rows).mapError .table := by
  rw [readTable_eq, hheader]
  dsimp only [bind, Except.bind]
  rw [hdates]
  dsimp only
  rw [mapM_readRow (hparse header dates hheader hdates)]
  exact ⟨_, rfl⟩

theorem reordered_writeRecord {dialect : Dialect} (hd : dialect.IsProper) (lineEnd : LineEnd)
    {header : List Field} {records records' : List (List Field)} (hperm : records.Perm records')
    (hne : ∀ fields ∈ header :: records, fields ≠ [])
    (hmark : ¬ byteOrderMark <+: (header :: records).flatMap (writeRecord dialect lineEnd))
    (hmark' : ¬ byteOrderMark <+: (header :: records').flatMap (writeRecord dialect lineEnd)) :
    Reordered dialect ((header :: records).flatMap (writeRecord dialect lineEnd))
      ((header :: records').flatMap (writeRecord dialect lineEnd)) := by
  have hne' : ∀ fields ∈ header :: records', fields ≠ [] :=
    fun fields hfields => hne fields ((hperm.cons header).mem_iff.2 hfields)
  have hsplit := splitRecords_writeRecord hd lineEnd hne hmark
  have hsplit' := splitRecords_writeRecord hd lineEnd hne' hmark'
  constructor
  · rw [hsplit, hsplit']
    rfl
  · rw [List.map_drop, List.map_drop, hsplit, hsplit']
    exact hperm

theorem rowsParse_of_fields {first : List Field} {records : List (List Field)}
    (hsplit : (splitRecords options.dialect bytes).map Record.fields = first :: records)
    {header : List (List Char)} (hheader : decodeFields ⟨0, 1, 0⟩ 0 first = .ok header)
    {dates : Nat} (hdates : dateIndex options header = .ok dates)
    (hrows : ∀ fields ∈ records, (rowOf options header.length dates fields).isSome = true) :
    RowsParse options bytes := by
  cases hs : splitRecords options.dialect bytes with
  | nil =>
    rw [hs] at hsplit
    cases hsplit
  | cons own rest =>
    rw [hs] at hsplit
    obtain ⟨rfl, rfl⟩ := List.cons.inj hsplit
    intro header' dates' hheader' hdates' record hrecord
    rw [hs, readHeader, position_splitRecords hs, hheader] at hheader'
    cases hheader'
    rw [hdates] at hdates'
    cases hdates'
    rw [hs] at hrecord
    obtain ⟨row, hrow⟩ := Option.isSome_iff_exists.1 (hrows _ (List.mem_map_of_mem hrecord))
    exact ⟨row, readRow_eq_ok.2 hrow⟩

end Files

/-! ## Refusals of the text -/

section Refusals

variable {cause : TableError}

theorem decodeFields_ne_table {fields : List Field} {index : Nat} :
    decodeFields position index fields ≠ .error (.table cause) := by
  induction fields generalizing index with
  | nil => nofun
  | cons field rest ih =>
    rw [decodeFields]
    split
    · nofun
    · exact fun h => ih (map_eq_error.1 h)

theorem readHeader_ne_table {records : List Record} : readHeader records ≠ .error (.table cause) := by
  cases records with
  | nil => nofun
  | cons header rest => exact decodeFields_ne_table

theorem dateIndex_ne_table {header : List (List Char)} :
    dateIndex options header ≠ .error (.table cause) := by
  unfold dateIndex
  split
  · split <;> nofun
  · split <;> nofun

theorem readCell_ne_table {row column : Nat} {text : List Char} :
    readCell options row column text ≠ .error (.table cause) := by
  unfold readCell
  split
  · nofun
  · split <;> nofun

theorem readRow_ne_table {record : Record} :
    readRow options count dates record ≠ .error (.table cause) := by
  intro h
  rcases bind_eq_error.1 h with h | ⟨texts, -, h⟩
  · unfold readRecord at h
    split at h
    · cases h
    · exact decodeFields_ne_table h
  · rcases bind_eq_error.1 h with h | ⟨date, -, h⟩
    · obtain ⟨fault, -, h⟩ := mapError_eq_error.1 h
      cases h
    · rcases bind_eq_error.1 h with h | ⟨cells, -, h⟩
      · obtain ⟨⟨text, column⟩, -, h⟩ := mapM_eq_error h
        exact readCell_ne_table h
      · cases h

theorem exists_tableOf_of_error {bytes : List UInt8}
    (h : readTable options bytes = .error (.table cause)) :
    ∃ header dates rows, tableOf header dates rows = .error cause := by
  rw [readTable_eq] at h
  rcases bind_eq_error.1 h with h | ⟨header, -, h⟩
  · exact absurd h readHeader_ne_table
  · rcases bind_eq_error.1 h with h | ⟨dates, -, h⟩
    · exact absurd h dateIndex_ne_table
    · rcases bind_eq_error.1 h with h | ⟨rows, -, h⟩
      · obtain ⟨record, -, h⟩ := mapM_eq_error h
        exact absurd h readRow_ne_table
      · obtain ⟨cause', htable, h⟩ := mapError_eq_error.1 h
        cases h
        exact ⟨header, dates, rows, htable⟩

end Refusals

/-- The order of rows does not matter, neither in a file whose rows can be read nor among
observations. Where dates repeat, the first one that does is the fault. The order of dates is never
at fault. -/
theorem rows_in_any_order :
    (∀ (options : ReadOptions) (bytes bytes' : List UInt8),
      Reordered options.dialect bytes bytes' → RowsParse options bytes →
      readTable options bytes = readTable options bytes' ∧
      ∀ header dates, readHeader (splitRecords options.dialect bytes) = .ok header →
        dateIndex options header = .ok dates →
        ∃ result : Except TableError Table, readTable options bytes = result.mapError .table) ∧
    (∀ (name : String) (points points' : List (Date × Cell)), points.Perm points' →
      Table.ofPoints name points = Table.ofPoints name points' ∧
      ((points.map Prod.fst).Nodup → ∃ table, Table.ofPoints name points = .ok table) ∧
      (¬ (points.map Prod.fst).Nodup → ∃ date, Table.IsLeastRepeated (points.map Prod.fst) date ∧
        Table.ofPoints name points = .error (.duplicateDate date))) ∧
    ∀ earlier later,
      (∀ options bytes, readTable options bytes ≠ .error (.table (.unsortedDates earlier later))) ∧
      ∀ name points, Table.ofPoints name points ≠ .error (.unsortedDates earlier later) := by
  refine ⟨fun options bytes bytes' hreordered hparse => ⟨?_, ?_⟩, fun name points points' hperm => ?_,
    fun earlier later => ⟨fun options bytes h => ?_, fun name points => ?_⟩⟩
  · exact readTable_of_reordered hreordered hparse
  · intro header dates hheader hdates
    obtain ⟨rows, hrows⟩ := readTable_of_rowsParse hparse hheader hdates
    exact ⟨_, hrows⟩
  · refine ⟨?_, Table.exists_ofPoints name, fun hrepeated => ?_⟩
    · exact Table.ofColumns_sortByDate_of_perm hperm fun sorted =>
        [Column.of name (sorted.map Prod.snd)]
    · obtain ⟨date, hleast, herror⟩ := Table.ofColumns_of_repeated hrepeated
      exact ⟨date, hleast, herror _⟩
  · obtain ⟨header, dates, rows, htable⟩ := exists_tableOf_of_error h
    exact Table.ofColumns_ne_unsorted (Table.pairwise_dates_sortByDate rows) htable
  · exact Table.ofColumns_ne_unsorted (Table.pairwise_dates_sortByDate points)

/-- Two months in both orders, and three observations of which two have one date. -/
theorem rows_in_any_order_monthly :
    let file := Text.encode "date,GDP,CPI\n2020-02-01,2,\n2020-01-01, 1.5,NA\n".toList
    let sorted := Text.encode "date,GDP,CPI\n2020-01-01, 1.5,NA\n2020-02-01,2,\n".toList
    let january : Date := ⟨2020, 1, 1, by decide⟩
    let february : Date := ⟨2020, 2, 1, by decide⟩
    let points : List (Date × Cell) := [(february, none), (january, none), (february, some 1)]
    let points' : List (Date × Cell) := [(february, some 1), (february, none), (january, none)]
    Reordered (dialectOf ',') file sorted ∧ RowsParse .default file ∧
      readTable .default file = readTable .default sorted ∧ points.Perm points' ∧
      Table.ofPoints "GDP" points = Table.ofPoints "GDP" points' ∧
      Table.ofPoints "GDP" points = .error (.duplicateDate february) := by
  intro file sorted january february points points'
  let header := ["date", "GDP", "CPI"].map fun text => Text.encode text.toList
  let first := ["2020-02-01", "2", ""].map fun text => Text.encode text.toList
  let second := ["2020-01-01", " 1.5", "NA"].map fun text => Text.encode text.toList
  have hd : (dialectOf ',').IsProper := ⟨by decide, by decide, by decide⟩
  have hfile : file = [header, first, second].flatMap (writeRecord (dialectOf ',') .lf) := by
    decide +kernel
  have hsorted : sorted = [header, second, first].flatMap (writeRecord (dialectOf ',') .lf) := by
    decide +kernel
  have hne : ∀ fields ∈ [header, first, second], fields ≠ [] := by decide +kernel
  have hmark : ¬ byteOrderMark <+: file := by decide +kernel
  have hmark' : ¬ byteOrderMark <+: sorted := by decide +kernel
  rw [hfile] at hmark
  rw [hsorted] at hmark'
  have hreordered := reordered_writeRecord hd .lf (List.Perm.swap second first []) hne hmark hmark'
  rw [← hfile, ← hsorted] at hreordered
  have hsplit := splitRecords_writeRecord hd .lf hne hmark
  rw [← hfile] at hsplit
  have hparse : RowsParse .default file := by
    have hheader : ∃ names, decodeFields ⟨0, 1, 0⟩ 0 header = .ok names ∧
        dateIndex .default names = .ok 0 ∧
        ∀ fields ∈ [first, second], (rowOf .default names.length 0 fields).isSome = true :=
      ⟨["date", "GDP", "CPI"].map String.toList, by decide +kernel, by decide +kernel,
        by decide +kernel⟩
    obtain ⟨names, hnames, hdates, hrows⟩ := hheader
    exact rowsParse_of_fields hsplit hnames hdates hrows
  have hperm : points.Perm points' :=
    @List.perm_append_comm _ [(february, none), (january, none)] [(february, some 1)]
  obtain ⟨hfiles, hpoints, -⟩ := rows_in_any_order
  obtain ⟨hsame, -, hrepeated⟩ := hpoints "GDP" _ _ hperm
  obtain ⟨date, hleast, herror⟩ := hrepeated (by decide)
  have hdate : date = february := by
    have htwo := hleast.repeated
    by_contra hne
    have hne' : ¬ february = date := fun heq => hne heq.symm
    simp only [points, List.map_cons, List.map_nil, List.count_cons, List.count_nil, beq_iff_eq, hne',
      if_false] at htwo
    split at htwo <;> omega
  rw [hdate] at herror
  exact ⟨hreordered, hparse, (hfiles .default file sorted hreordered hparse).1, hperm, hsame, herror⟩

end TimeSeries.Csv
