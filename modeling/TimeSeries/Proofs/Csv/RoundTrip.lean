import TimeSeries.Proofs.Calendar.Ymd
import TimeSeries.Proofs.Csv.Fields
import TimeSeries.Proofs.Csv.Records
import TimeSeries.Proofs.Decimal.Numeral
import TimeSeries.Proofs.Table.Valid

set_option autoImplicit false

/-!
# Tables that are written and read

A valid table that is written with a header is read back as itself, whatever ASCII character
delimits the fields, whichever line end is used, and whichever of the known words stands for a
missing cell.
-/
namespace TimeSeries.Csv

open Text

def ReadOptions.delimited (delimiter : Char) : ReadOptions :=
  { ReadOptions.default with dialect := dialectOf delimiter }

/-- A header, dates with year, month and day, and double quotes. -/
def WriteOptions.delimited (delimiter : Char) (missing : String) (lineEnd : LineEnd) :
    WriteOptions :=
  ⟨dialectOf delimiter, true, Pattern.ofText "%Y-%m-%d".toList, missing, lineEnd⟩

/-- A text that is nothing, or one of the known words, when it is trimmed. -/
def ReadsAsMissing (text : String) : Prop :=
  trim text.toList = [] ∨
    ∃ word ∈ ["NA", "NaN", "."], sameIgnoringAsciiCase word.toList (trim text.toList) = true

/-- An ASCII character that can delimit fields between double quotes. -/
structure IsDelimiter (c : Char) : Prop where
  ascii : c.toNat < 128
  ne_quote : c ≠ '"'
  ne_carriageReturn : c ≠ '\r'
  ne_lineFeed : c ≠ '\n'

theorem toUInt8_ne {c d : Char} (hc : c.toNat < 128) (hd : d.toNat < 128) (h : c ≠ d) :
    c.toUInt8 ≠ d.toUInt8 := by
  intro heq
  have hvalue (e : Char) (he : e.toNat < 128) : e.toUInt8.toNat = e.toNat := by
    change e.toNat % 256 = e.toNat
    omega
  have hnat := congrArg UInt8.toNat heq
  rw [hvalue c hc, hvalue d hd] at hnat
  exact h (Char.toNat_inj.1 hnat)

theorem IsDelimiter.isProper {c : Char} (h : IsDelimiter c) : (dialectOf c).IsProper := by
  have hquote : c.toUInt8 ≠ '"'.toUInt8 := toUInt8_ne h.ascii (by decide) h.ne_quote
  have hreturn : c.toUInt8 ≠ carriageReturn := toUInt8_ne h.ascii (by decide) h.ne_carriageReturn
  have hfeed : c.toUInt8 ≠ lineFeed := toUInt8_ne h.ascii (by decide) h.ne_lineFeed
  refine ⟨hquote, ?_, rfl⟩
  simp [dialectOf, isLineEnd, hreturn, hfeed]

section

variable {delimiter : Char} {missing : String} {lineEnd : LineEnd}

theorem readCell_cellText (hmissing : ReadsAsMissing missing) {cell : Cell}
    (hfinite : ∀ x, cell = some x → x.isFinite = true)
    (hread : ∀ x, cell = some x → Decimal.read (Decimal.write x).toList = some x)
    (row column : Nat) :
    readCell (.delimited delimiter) row column
      (trim (cellText (.delimited delimiter missing lineEnd) cell)) = .ok cell := by
  cases cell with
  | none =>
    have hword : isMissing (.delimited delimiter) (trim missing.toList) = true := by
      rcases hmissing with hnil | ⟨word, hmem, hsame⟩
      · simp [isMissing, hnil]
      · rw [isMissing, Bool.or_eq_true, List.any_eq_true]
        exact Or.inr ⟨word, hmem, hsame⟩
    rw [cellText, WriteOptions.delimited, readCell, if_pos hword]
  | some x =>
    have hx := hfinite x rfl
    have hword : isMissing (.delimited delimiter) (Decimal.write x).toList = false := by
      obtain ⟨sign, c, rest, heq, -, -, -⟩ := Decimal.write_eq hx
      have hne : (Decimal.write x).toList.isEmpty = false := by simp [heq]
      rw [isMissing, hne, Bool.false_or, List.any_eq_false]
      intro word hmem
      have hdigits : ∀ word ∈ ["NA", "NaN", "."],
          (word.toList.map Char.toLower).any Char.isDigit = false := by decide
      rw [Bool.not_eq_true]
      exact Decimal.sameIgnoringAsciiCase_write hx (hdigits word hmem)
    rw [cellText, Decimal.trim_write hx, readCell, hword, hread x rfl]
    rfl

def rowTexts (options : WriteOptions) (row : Date × List Cell) : List (List Char) :=
  Pattern.ymd.write row.1 :: row.2.map (cellText options)

theorem readRow_of_fields (hmissing : ReadsAsMissing missing) {row : Date × List Cell}
    (hfinite : ∀ x, some x ∈ row.2 → x.isFinite = true)
    (hread : ∀ x, some x ∈ row.2 → Decimal.read (Decimal.write x).toList = some x)
    {record : Record}
    (hfields : record.fields = (rowTexts (.delimited delimiter missing lineEnd) row).map encode) :
    readRow (.delimited delimiter) (row.2.length + 1) 0 record = .ok row := by
  obtain ⟨date, cells⟩ := row
  let texts := rowTexts (.delimited delimiter missing lineEnd) (date, cells)
  have hrecord : readRecord (cells.length + 1) record = .ok (texts.map trim) := by
    have hcount : ¬ record.fields.length ≠ cells.length + 1 := by simp [hfields, rowTexts]
    rw [readRecord, if_neg hcount, hfields, List.map_map]
    exact decodeFields_map trimField_encode record.position 0 texts
  have hcells : ((texts.map trim).zipIdx.eraseIdx 0).mapM (fun other =>
      readCell (.delimited delimiter) record.position.line other.2 other.1) = .ok cells := by
    refine @mapM_eq_ok _ _ _ _ _ Prod.fst
      (fun cell => trim (cellText (.delimited delimiter missing lineEnd) cell)) _ _ ?_ ?_
    · simp [texts, rowTexts, List.zipIdx_map_fst, Function.comp_def]
    · rintro ⟨text, column⟩ cell hcell htext
      change text = _ at htext
      rw [htext]
      refine readCell_cellText hmissing (fun x hx => ?_) (fun x hx => ?_) _ _
      · exact hfinite x (hx ▸ hcell)
      · exact hread x (hx ▸ hcell)
  have hdate : (ReadOptions.delimited delimiter).datePattern.read ((texts.map trim).getD 0 []) =
      .ok date := by
    change Pattern.ymd.read (trim (Pattern.ymd.write date)) = .ok date
    rw [trim_write_ymd, read_ymd_write]
  exact bind_eq_ok.2 ⟨_, hrecord, bind_eq_ok.2 ⟨date, mapError_eq_ok.2 hdate,
    bind_eq_ok.2 ⟨cells, hcells, rfl⟩⟩⟩

theorem not_byteOrderMark (records : List (List Field)) (names : List Field) :
    ¬ byteOrderMark <+: ((encode "date".toList :: names) :: records).flatMap
      (writeRecord (dialectOf delimiter) lineEnd) := by
  have hfield : ∃ byte tail, writeField (dialectOf delimiter) (encode "date".toList) =
      byte :: tail ∧ byte ≠ 0xef := by
    rw [writeField]
    split
    · exact ⟨'"'.toUInt8, _, rfl, by decide⟩
    · exact ⟨100, _, rfl, by decide⟩
  obtain ⟨byte, tail, hfirst, hbyte⟩ := hfield
  have hhead : ∃ rest, ((encode "date".toList :: names) :: records).flatMap
      (writeRecord (dialectOf delimiter) lineEnd) = byte :: rest := by
    have hne : encode "date".toList :: names ≠ [[]] := by
      intro h
      cases h
    rw [List.flatMap_cons, writeRecord, if_neg hne, List.map_cons, hfirst]
    cases names with
    | nil => exact ⟨_, rfl⟩
    | cons name names => exact ⟨_, rfl⟩
  obtain ⟨rest, hhead⟩ := hhead
  rw [hhead]
  intro hmark
  obtain ⟨more, hmore⟩ := hmark
  exact hbyte (List.cons.inj hmore).1.symm

theorem map_column_of {table : Table} (htable : table.IsValid) :
    ((table.columns.map fun column => trim column.name.toList).zipIdx.map fun (name, index) =>
      Column.of (String.ofList name) (table.rows.map fun row => row.2.getD index none)) =
        table.columns := by
  refine List.ext_getElem (by simp) fun index hleft hright => ?_
  have hmem : table.columns[index] ∈ table.columns := List.getElem_mem hright
  have hcells := htable.map_rows (List.getElem?_eq_getElem hright)
  have hname : String.ofList (trim table.columns[index].name.toList) = table.columns[index].name :=
    htable.trimmed _ hmem
  simp only [List.getElem_map, List.getElem_zipIdx, Nat.zero_add, hname, hcells]
  exact htable.column_of hmem

theorem splitRecords_writeTable (hdelimiter : IsDelimiter delimiter) (table : Table) :
    ∃ header records, splitRecords (dialectOf delimiter)
        (writeTable (.delimited delimiter missing lineEnd) table) = header :: records ∧
      header.fields = ("date".toList :: table.columns.map (·.name.toList)).map encode ∧
      records.map Record.fields = table.rows.map fun row =>
        (rowTexts (.delimited delimiter missing lineEnd) row).map encode := by
  let texts := rowTexts (.delimited delimiter missing lineEnd)
  let names := table.columns.map (·.name.toList)
  let fields := (("date".toList :: names) :: table.rows.map texts).map (List.map encode)
  have hbytes : writeTable (.delimited delimiter missing lineEnd) table =
      fields.flatMap (writeRecord (dialectOf delimiter) lineEnd) := by
    rw [List.flatMap_map]
    rfl
  have hne : ∀ record ∈ fields, record ≠ [] := by
    intro record hrecord
    obtain ⟨line, hline, rfl⟩ := List.mem_map.1 hrecord
    rcases List.mem_cons.1 hline with rfl | hline
    · simp
    · obtain ⟨row, -, rfl⟩ := List.mem_map.1 hline
      simp [texts, rowTexts]
  have hrecords :=
    splitRecords_writeRecord hdelimiter.isProper lineEnd hne (not_byteOrderMark _ _)
  rw [← hbytes] at hrecords
  cases hsplit : splitRecords (dialectOf delimiter)
      (writeTable (.delimited delimiter missing lineEnd) table) with
  | nil =>
    rw [hsplit] at hrecords
    simp [fields] at hrecords
  | cons header records =>
    rw [hsplit] at hrecords
    obtain ⟨hheader, hrows⟩ := List.cons.inj hrecords
    exact ⟨header, records, rfl, hheader, hrows.trans List.map_map⟩

/-- A valid table that is written is read back. -/
theorem readTable_writeTable {table : Table} (htable : table.IsValid)
    (hdelimiter : IsDelimiter delimiter) (hmissing : ReadsAsMissing missing)
    (hread : ∀ column ∈ table.columns, ∀ x, some x ∈ column.cells →
      Decimal.read (Decimal.write x).toList = some x) :
    readTable (.delimited delimiter) (writeTable (.delimited delimiter missing lineEnd) table) =
      .ok table := by
  obtain ⟨header, records, hsplit, hheader, hrows⟩ :=
    @splitRecords_writeTable delimiter missing lineEnd hdelimiter table
  let names := ("date".toList :: table.columns.map (·.name.toList)).map trim
  have hlength : names.length = table.columns.length + 1 := by simp [names]
  have hnames : readHeader (header :: records) = .ok names := by
    rw [readHeader, hheader]
    exact decodeFields_map (fun text => ⟨text, rfl, rfl⟩) header.position 0 _
  have hcells : records.mapM (readRow (.delimited delimiter) names.length 0) = .ok table.rows := by
    refine mapM_eq_ok hrows fun record row hrow hrecord => ?_
    have hobserved {x : Float} (hx : some x ∈ row.2) := Table.exists_column_of_mem_rows hrow hx
    rw [hlength, ← Table.length_of_mem_rows hrow]
    refine readRow_of_fields hmissing (fun x hx => ?_) (fun x hx => ?_) hrecord
    · obtain ⟨column, hc, hx⟩ := hobserved hx
      exact htable.finite column hc x hx
    · obtain ⟨column, hc, hx⟩ := hobserved hx
      exact hread column hc x hx
  -- The rows are written in the order of their dates, so that sorting leaves them alone.
  have hsorted : Table.sortByDate table.rows = table.rows :=
    Table.sortByDate_of_pairwise (by rw [Table.map_fst_rows]; exact htable.ascending)
  have hresult : (Table.ofColumns (table.rows.map Prod.fst) table.columns).mapError
      CsvError.table = .ok table := by
    rw [Table.map_fst_rows, mapError_eq_ok, htable.ofColumns_eq]
  rw [readTable]
  change splitRecords (ReadOptions.delimited delimiter).dialect _ = _ at hsplit
  rw [hsplit]
  refine bind_eq_ok.2 ⟨_, hnames, bind_eq_ok.2 ⟨0, rfl, bind_eq_ok.2 ⟨table.rows, hcells, ?_⟩⟩⟩
  rw [hsorted]
  rw [← map_column_of htable] at hresult
  simpa [names, Function.comp_def] using hresult

end

/-- Years with a sign, the empty name, and a name with the delimiter, quotes and the end of a
line. -/
theorem readTable_writeTable_quoted :
    let table : Table := ⟨[⟨-1, 2, 28, by decide⟩, ⟨12024, 12, 31, by decide⟩],
      [⟨"", [some 1.5, none]⟩, ⟨"A;\"B\"\nC", [none, some (-0.25)]⟩]⟩
    table.IsValid ∧ IsDelimiter ';' ∧ ReadsAsMissing " na " ∧
      (∀ column ∈ table.columns, ∀ x, some x ∈ column.cells →
        Decimal.read (Decimal.write x).toList = some x) ∧
      readTable (.delimited ';') (writeTable (.delimited ';' " na " .crlf) table) = .ok table := by
  intro table
  have hobserved (column : Column) (hc : column ∈ table.columns) (x : Float)
      (hx : some x ∈ column.cells) : x = 1.5 ∨ x = -0.25 := by
    simp only [table, List.mem_cons, List.not_mem_nil, or_false] at hc
    rcases hc with rfl | rfl
    · exact Or.inl (by simpa using hx)
    · exact Or.inr (by simpa using hx)
  have htable : table.IsValid := by
    refine ⟨by decide, by decide, by decide, by decide +kernel, by decide +kernel, ?_⟩
    intro column hc x hx
    rcases hobserved column hc x hx with rfl | rfl
    · decide +kernel
    · decide +kernel
  have hdelimiter : IsDelimiter ';' := ⟨by decide, by decide, by decide, by decide⟩
  have hmissing : ReadsAsMissing " na " := Or.inr ⟨"NA", by decide, by decide⟩
  have hread (column : Column) (hc : column ∈ table.columns) (x : Float)
      (hx : some x ∈ column.cells) : Decimal.read (Decimal.write x).toList = some x := by
    rcases hobserved column hc x hx with rfl | rfl
    · decide +kernel
    · decide +kernel
  exact ⟨htable, hdelimiter, hmissing, hread,
    readTable_writeTable htable hdelimiter hmissing hread⟩

end TimeSeries.Csv
