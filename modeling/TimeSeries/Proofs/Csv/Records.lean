import Mathlib.Data.List.TakeWhile
import TimeSeries.Csv.Record

set_option autoImplicit false

/-!
# Records that are written and read

The reader takes a written record apart into its fields again and stops behind it. Between the two
ends of a field only one thing matters of what follows: that it closes a field.
-/
namespace TimeSeries.Csv

/-- The delimiter, the quote and the ends of lines are told apart. -/
structure Dialect.IsProper (dialect : Dialect) : Prop where
  delimiter_ne_quote : dialect.delimiter ≠ dialect.quote
  delimiter_isLineEnd : isLineEnd dialect.delimiter = false
  quote_isLineEnd : isLineEnd dialect.quote = false

/-- The bytes go on with a delimiter or with the end of a line. -/
def Closes (dialect : Dialect) (bytes : List UInt8) : Prop :=
  ∃ byte rest, bytes = byte :: rest ∧ (byte = dialect.delimiter ∨ isLineEnd byte = true)

@[simp] theorem Scanned.fields_count (byte : UInt8) (scanned : Scanned) :
    (scanned.count byte).fields = scanned.fields := rfl

@[simp] theorem Scanned.tail_count (byte : UInt8) (scanned : Scanned) :
    (scanned.count byte).tail = scanned.tail := rfl

@[simp] theorem Scanned.fields_consByte (byte : UInt8) (scanned : Scanned) :
    (scanned.consByte byte).fields = scanned.fields.modifyHead (byte :: ·) := rfl

@[simp] theorem Scanned.tail_consByte (byte : UInt8) (scanned : Scanned) :
    (scanned.consByte byte).tail = scanned.tail := rfl

@[simp] theorem Scanned.fields_consField (scanned : Scanned) :
    scanned.consField.fields = [] :: scanned.fields := rfl

@[simp] theorem Scanned.tail_consField (scanned : Scanned) :
    scanned.consField.tail = scanned.tail := rfl

@[simp] theorem modifyHead_self (fields : List Field) :
    fields.modifyHead (fun field => field) = fields := by
  cases fields <;> rfl

variable {dialect : Dialect} {field : Field} {bytes rest : List UInt8}

theorem Dialect.IsProper.ne_quote (hd : dialect.IsProper) {byte : UInt8}
    (hb : byte = dialect.delimiter ∨ isLineEnd byte = true) : byte ≠ dialect.quote := by
  rintro rfl
  rcases hb with hb | hb
  · exact hd.delimiter_ne_quote hb.symm
  · rw [hd.quote_isLineEnd] at hb
    cases hb

/-- In front of the end of a field it does not matter how the field began. -/
theorem scanRecord_of_closes (hd : dialect.IsProper) (hclose : Closes dialect bytes)
    {state : FieldState} (hstate : state ≠ .quoted) :
    scanRecord dialect state bytes = scanRecord dialect .plain bytes := by
  obtain ⟨byte, rest, rfl, hb⟩ := hclose
  have hquote := hd.ne_quote hb
  cases state with
  | quoted => exact absurd rfl hstate
  | plain => rfl
  | start => simp only [scanRecord, hquote, if_false]
  | afterQuote => simp only [scanRecord, hquote, if_false]

theorem scanRecord_delimiter (rest : List UInt8) :
    (scanRecord dialect .plain (dialect.delimiter :: rest)).fields =
        [] :: (scanRecord dialect .start rest).fields ∧
      (scanRecord dialect .plain (dialect.delimiter :: rest)).tail =
        (scanRecord dialect .start rest).tail := by
  simp [scanRecord]

theorem scanRecord_lineEnd (hd : dialect.IsProper) {byte : UInt8} (hb : isLineEnd byte = true)
    (rest : List UInt8) :
    (scanRecord dialect .plain (byte :: rest)).fields = [[]] ∧
      (scanRecord dialect .plain (byte :: rest)).tail = rest := by
  have hne : byte ≠ dialect.delimiter := by
    rintro rfl
    rw [hd.delimiter_isLineEnd] at hb
    cases hb
  simp [scanRecord, hne, hb, endRecord]

theorem scanRecord_plain (hfield : ∀ byte ∈ field, isSpecial dialect byte = false) :
    (scanRecord dialect .plain (field ++ bytes)).fields =
        (scanRecord dialect .plain bytes).fields.modifyHead (field ++ ·) ∧
      (scanRecord dialect .plain (field ++ bytes)).tail = (scanRecord dialect .plain bytes).tail := by
  induction field with
  | nil => simp
  | cons byte field ih =>
    obtain ⟨ihfields, ihtail⟩ := ih fun b hb => hfield b (List.mem_cons_of_mem _ hb)
    have hbyte := hfield byte List.mem_cons_self
    simp only [isSpecial, Bool.or_eq_false_iff, beq_eq_false_iff_ne, ne_eq] at hbyte
    obtain ⟨⟨hdelimiter, -⟩, hend⟩ := hbyte
    simp [scanRecord, hdelimiter, hend, ihfields, ihtail, List.modifyHead_modifyHead,
      Function.comp_def]

theorem scanRecord_quoted :
    let doubled := field.flatMap fun byte => if byte = dialect.quote then [byte, byte] else [byte]
    (scanRecord dialect .quoted (doubled ++ dialect.quote :: bytes)).fields =
        (scanRecord dialect .afterQuote bytes).fields.modifyHead (field ++ ·) ∧
      (scanRecord dialect .quoted (doubled ++ dialect.quote :: bytes)).tail =
        (scanRecord dialect .afterQuote bytes).tail := by
  intro doubled
  induction field with
  | nil => simp [doubled, scanRecord]
  | cons byte field ih =>
    obtain ⟨ihfields, ihtail⟩ := ih
    by_cases hbyte : byte = dialect.quote
    · subst hbyte
      simp [doubled, scanRecord, ihfields, ihtail, List.modifyHead_modifyHead, Function.comp_def]
    · simp [doubled, scanRecord, hbyte, ihfields, ihtail, List.modifyHead_modifyHead,
        Function.comp_def]

theorem scanRecord_writeField (hd : dialect.IsProper) (field : Field)
    (hclose : Closes dialect bytes) :
    (scanRecord dialect .start (writeField dialect field ++ bytes)).fields =
        (scanRecord dialect .plain bytes).fields.modifyHead (field ++ ·) ∧
      (scanRecord dialect .start (writeField dialect field ++ bytes)).tail =
        (scanRecord dialect .plain bytes).tail := by
  by_cases hany : field.any (isSpecial dialect) = true
  · have hquoted := @scanRecord_quoted dialect field bytes
    rw [scanRecord_of_closes hd hclose (by simp)] at hquoted
    simp only [writeField, hany, if_true, quoteField, List.cons_append, List.append_assoc,
      List.nil_append, scanRecord, Scanned.fields_count, Scanned.tail_count]
    exact hquoted
  · have hplain : ∀ byte ∈ field, isSpecial dialect byte = false := by simpa using hany
    rw [writeField, if_neg hany]
    cases field with
    | nil => simp [scanRecord_of_closes hd hclose]
    | cons byte field =>
      have hbyte := hplain byte List.mem_cons_self
      simp only [isSpecial, Bool.or_eq_false_iff, beq_eq_false_iff_ne, ne_eq] at hbyte
      obtain ⟨⟨hdelimiter, hquote⟩, hend⟩ := hbyte
      have hstart : scanRecord dialect .start (byte :: field ++ bytes) =
          scanRecord dialect .plain (byte :: field ++ bytes) := by
        simp [scanRecord, hdelimiter, hquote, hend]
      rw [hstart]
      exact scanRecord_plain hplain

theorem scanRecord_intercalate (hd : dialect.IsProper) {fields : List Field} (hne : fields ≠ [])
    {byte : UInt8} (hb : isLineEnd byte = true) (rest : List UInt8) :
    let line := [dialect.delimiter].intercalate (fields.map (writeField dialect))
    (scanRecord dialect .start (line ++ byte :: rest)).fields = fields ∧
      (scanRecord dialect .start (line ++ byte :: rest)).tail = rest := by
  intro line
  induction fields with
  | nil => exact absurd rfl hne
  | cons field others ih =>
    cases others with
    | nil =>
      obtain ⟨hfields, htail⟩ :=
        scanRecord_writeField hd field ⟨byte, rest, rfl, Or.inr hb⟩
      obtain ⟨hendfields, hendtail⟩ := scanRecord_lineEnd hd hb rest
      rw [hendfields] at hfields
      rw [hendtail] at htail
      simpa [line, List.intercalate] using And.intro hfields htail
    | cons second others =>
      obtain ⟨ihfields, ihtail⟩ := ih (by simp)
      let tail := [dialect.delimiter].intercalate ((second :: others).map (writeField dialect))
      have hline : line ++ byte :: rest =
          writeField dialect field ++ dialect.delimiter :: (tail ++ byte :: rest) := by
        simp only [line, tail, List.map_cons, List.intercalate_cons_cons, List.append_assoc,
          List.cons_append, List.nil_append]
      obtain ⟨hfields, htail⟩ :=
        scanRecord_writeField hd field ⟨dialect.delimiter, tail ++ byte :: rest, rfl, Or.inl rfl⟩
      obtain ⟨hnextfields, hnexttail⟩ := @scanRecord_delimiter dialect (tail ++ byte :: rest)
      rw [hline, hfields, htail, hnextfields, hnexttail, ihfields, ihtail]
      simp

theorem exists_bytes_eq (lineEnd : LineEnd) :
    ∃ byte more, lineEnd.bytes = byte :: more ∧ isLineEnd byte = true ∧
      ∀ b ∈ more, isLineEnd b = true := by
  cases lineEnd
  · exact ⟨lineFeed, [], rfl, rfl, by simp⟩
  · exact ⟨carriageReturn, [lineFeed], rfl, rfl, List.forall_mem_singleton.2 rfl⟩
  · exact ⟨carriageReturn, [], rfl, rfl, by simp⟩

theorem scanRecord_writeRecord (hd : dialect.IsProper) (lineEnd : LineEnd) {fields : List Field}
    (hne : fields ≠ []) (rest : List UInt8) :
    ∃ more, (∀ b ∈ more, isLineEnd b = true) ∧
      (scanRecord dialect .start (writeRecord dialect lineEnd fields ++ rest)).fields = fields ∧
      (scanRecord dialect .start (writeRecord dialect lineEnd fields ++ rest)).tail =
        more ++ rest := by
  obtain ⟨byte, more, hbytes, hb, hmore⟩ := exists_bytes_eq lineEnd
  refine ⟨more, hmore, ?_⟩
  rw [writeRecord, hbytes, List.append_assoc, List.cons_append]
  by_cases hempty : fields = [[]]
  · obtain ⟨hfields, htail⟩ := @scanRecord_quoted dialect [] (byte :: (more ++ rest))
    obtain ⟨hendfields, hendtail⟩ := scanRecord_lineEnd hd hb (more ++ rest)
    have hclose : scanRecord dialect .afterQuote (byte :: (more ++ rest)) =
        scanRecord dialect .plain (byte :: (more ++ rest)) :=
      scanRecord_of_closes hd ⟨byte, _, rfl, Or.inr hb⟩ (by simp)
    rw [hclose, hendfields] at hfields
    rw [hclose, hendtail] at htail
    rw [if_pos hempty, hempty]
    simpa [quoteField, scanRecord] using And.intro hfields htail
  · rw [if_neg hempty]
    exact scanRecord_intercalate hd hne hb (more ++ rest)

theorem head?_writeRecord (hd : dialect.IsProper) (lineEnd : LineEnd) {fields : List Field}
    (hne : fields ≠ []) (rest : List UInt8) :
    ∃ byte tail, writeRecord dialect lineEnd fields ++ rest = byte :: tail ∧
      isLineEnd byte = false := by
  have hquoted (field : Field) (bytes : List UInt8) :
      ∃ byte tail, quoteField dialect field ++ bytes = byte :: tail ∧ isLineEnd byte = false :=
    ⟨dialect.quote, _, rfl, hd.quote_isLineEnd⟩
  rw [writeRecord, List.append_assoc]
  by_cases hempty : fields = [[]]
  · rw [if_pos hempty]
    exact hquoted _ _
  · rw [if_neg hempty]
    have hfield (field : Field) (hfield : field ≠ []) (bytes : List UInt8) :
        ∃ byte tail, writeField dialect field ++ bytes = byte :: tail ∧ isLineEnd byte = false := by
      by_cases hany : field.any (isSpecial dialect) = true
      · rw [writeField, if_pos hany]
        exact hquoted _ _
      · rw [writeField, if_neg hany]
        cases field with
        | nil => exact absurd rfl hfield
        | cons byte field =>
          refine ⟨byte, field ++ bytes, rfl, ?_⟩
          simp only [List.any_cons, isSpecial, Bool.or_eq_true, not_or, Bool.not_eq_true] at hany
          exact hany.1.2
    cases fields with
    | nil => exact absurd rfl hne
    | cons field others =>
      cases others with
      | nil =>
        rw [List.map_cons, List.map_nil, List.intercalate_singleton]
        exact hfield field (fun h => hempty (by rw [h])) _
      | cons second others =>
        rw [List.map_cons, List.map_cons, List.intercalate_cons_cons, List.append_assoc,
          List.append_assoc, List.singleton_append]
        by_cases hfirst : field = []
        · subst hfirst
          exact ⟨dialect.delimiter, _, rfl, hd.delimiter_isLineEnd⟩
        · exact hfield field hfirst _

theorem recordsFrom_writeRecord (hd : dialect.IsProper) (lineEnd : LineEnd)
    {records : List (List Field)} (hne : ∀ fields ∈ records, fields ≠ [])
    (position : RecordPosition) {blank : List UInt8} (hblank : ∀ b ∈ blank, isLineEnd b = true) :
    (recordsFrom dialect position
      (blank ++ records.flatMap (writeRecord dialect lineEnd))).map Record.fields = records := by
  induction records generalizing position blank with
  | nil =>
    have hdrop : blank.dropWhile isLineEnd = [] := List.dropWhile_eq_nil_iff.2 hblank
    rw [recordsFrom]
    split
    · rfl
    · rename_i heq
      rw [List.flatMap_nil, List.append_nil, hdrop] at heq
      cases heq
  | cons fields records ih =>
    have hfields := hne fields List.mem_cons_self
    let rest := records.flatMap (writeRecord dialect lineEnd)
    obtain ⟨byte, tail, hhead, hbyte⟩ := head?_writeRecord hd lineEnd hfields rest
    have hdrop : (blank ++ (fields :: records).flatMap (writeRecord dialect lineEnd)).dropWhile
        isLineEnd = byte :: tail := by
      rw [List.dropWhile_append_of_pos hblank, List.flatMap_cons, hhead,
        List.dropWhile_cons_of_neg (by simp [hbyte])]
    obtain ⟨more, hmore, hscanned, htail⟩ := scanRecord_writeRecord hd lineEnd hfields rest
    rw [hhead] at hscanned htail
    rw [recordsFrom]
    split
    · rename_i heq
      rw [hdrop] at heq
      cases heq
    · rename_i heq
      rw [hdrop] at heq
      cases heq
      simp only [List.map_cons, hscanned, htail]
      rw [ih (fun f hf => hne f (List.mem_cons_of_mem _ hf)) _ hmore]

/-- A file that begins with a written record has no byte order mark in front of it. -/
theorem splitRecords_writeRecord (hd : dialect.IsProper) (lineEnd : LineEnd)
    {records : List (List Field)} (hne : ∀ fields ∈ records, fields ≠ [])
    (hmark : ¬ byteOrderMark <+: records.flatMap (writeRecord dialect lineEnd)) :
    (splitRecords dialect (records.flatMap (writeRecord dialect lineEnd))).map Record.fields =
      records := by
  have hprefix : byteOrderMark.isPrefixOf (records.flatMap (writeRecord dialect lineEnd)) =
      false := by
    rw [← Bool.not_eq_true, List.isPrefixOf_iff_prefix]
    exact hmark
  rw [splitRecords, hprefix]
  exact @recordsFrom_writeRecord _ hd lineEnd _ hne ⟨0, 1, 0⟩ [] (by simp)

end TimeSeries.Csv
