import TimeSeries.Calendar.Reader
import TimeSeries.Files.Path
import TimeSeries.Table.Error

set_option autoImplicit false

/-!
# Why a CSV text is not a table

Faults of the records themselves, faults of what the fields say, and faults of the file around them.
-/
namespace TimeSeries

/-- Where a record begins: its number, the line and the byte that were reached before it. -/
structure RecordPosition where
  record : Nat
  line : Nat
  byte : Nat
  deriving DecidableEq, Repr

inductive RecordError where
  | unequalLengths (position : RecordPosition) (found expected : Nat)
  | notUtf8 (position : RecordPosition) (field index : Nat)
  | unreadable (fault : FileFault)
  deriving DecidableEq

def RecordError.utf8Detail (field index : Nat) : String :=
  s!"invalid utf-8: invalid UTF-8 in field {field} near byte index {index}"

def RecordError.message : RecordError → String
  | unequalLengths position found expected =>
    s!"CSV error: record {position.record} (line: {position.line}, byte: {position.byte}): " ++
      s!"found record with {found} fields, but the previous record has {expected} fields"
  | notUtf8 position field index =>
    s!"CSV parse error: record {position.record} (line {position.line}, field: {field}, " ++
      s!"byte: {position.byte}): {utf8Detail field index}"
  | unreadable fault => fault.message

inductive FieldFault where
  | missingHeader
  | noDateColumn (wanted : String)
  | badDate (field : String) (fault : DateFault)
  | notANumber (field : String)
  deriving DecidableEq

def FieldFault.message : FieldFault → String
  | missingHeader => "missing header row"
  | noDateColumn wanted => s!"no '{wanted}' column"
  | badDate field fault => s!"invalid date '{field}': {fault.message}"
  | notANumber field => s!"'{field}' is not a number"

/-- Why a file has no table; a field is given by its line and its column, both counted from 1. -/
inductive CsvError where
  | file (fault : FileFault)
  | records (error : RecordError)
  | field (row column : Nat) (fault : FieldFault)
  | seriesNotFound (name path : String)
  | table (error : TableError)
  deriving DecidableEq

def CsvError.message : CsvError → String
  | file fault => s!"IO error: {fault.message}"
  | records error => s!"CSV error: {error.message}"
  | field row column fault => s!"Parse error at row {row}, column {column}: {fault.message}"
  | seriesNotFound name path => s!"Series {name} not found (expected {path})"
  | table error => s!"Core error: {error.message}"

end TimeSeries
