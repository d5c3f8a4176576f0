import TimeSeries.Calendar.Reader
import TimeSeries.Csv.Record
import TimeSeries.Decimal.Numeral
import TimeSeries.Table.Basic

set_option autoImplicit false

/-!
# Tables as CSV

A file has a header, one column of dates and any number of numeric columns named in the header.
`readTable` takes rows in any order; `writeTable` puts the dates first.
-/
namespace TimeSeries.Csv

structure ReadOptions where
  dialect : Dialect
  /-- the header of the dates; the first column when there is none -/
  dateColumn : Option String
  datePattern : Pattern
  /-- contents that are read as missing, in any case -/
  missing : List String

/-- The dialect with this delimiter and double quotes. -/
def dialectOf (delimiter : Char) : Dialect := ⟨delimiter.toUInt8, '"'.toUInt8⟩

def ReadOptions.default : ReadOptions :=
  ⟨dialectOf ',', none, Pattern.ymd, ["NA", "NaN", "."]⟩

def isAsciiBlank (byte : UInt8) : Bool := [9, 10, 12, 13, 32].contains byte

/-- A field without ASCII blanks at its ends. -/
def trimField (field : Field) : Field :=
  ((field.dropWhile isAsciiBlank).reverse.dropWhile isAsciiBlank).reverse

/-- The texts of fields; the first that is no text is the fault. -/
def decodeFields (position : RecordPosition) (index : Nat) :
    List Field → Except CsvError (List (List Char))
  | [] => .ok []
  | field :: rest =>
    match Text.decode field with
    | .error at? => .error (.records (.notUtf8 position index at?))
    | .ok text => (decodeFields position (index + 1) rest).map (Text.trim text :: ·)

/-- The names in the header; of a file without records there are none. -/
def readHeader : List Record → Except CsvError (List (List Char))
  | [] => .ok []
  | header :: _ => decodeFields header.position 0 header.fields

/-- The texts of a record, which must have as many fields as the header. -/
def readRecord (count : Nat) (record : Record) : Except CsvError (List (List Char)) :=
  if record.fields.length ≠ count then
    .error (.records (.unequalLengths record.position record.fields.length count))
  else decodeFields record.position 0 (record.fields.map trimField)

/-- The index of the column of dates. -/
def dateIndex (options : ReadOptions) (header : List (List Char)) : Except CsvError Nat :=
  match options.dateColumn with
  | none => if header = [] then .error (.field 1 1 .missingHeader) else .ok 0
  | some wanted =>
    match header.findIdx? (Text.sameIgnoringAsciiCase · wanted.toList) with
    | some index => .ok index
    | none => .error (.field 1 1 (.noDateColumn wanted))

/-- Whether the content of a field stands for a missing cell. -/
def isMissing (options : ReadOptions) (text : List Char) : Bool :=
  text.isEmpty || options.missing.any (Text.sameIgnoringAsciiCase ·.toList text)

def readCell (options : ReadOptions) (row column : Nat) (text : List Char) :
    Except CsvError Cell :=
  if isMissing options text then .ok none
  else
    match Decimal.read text with
    | some x => .ok (some x)
    | none => .error (.field row (column + 1) (.notANumber (String.ofList text)))

def readRow (options : ReadOptions) (count dates : Nat) (record : Record) :
    Except CsvError (Date × List Cell) := do
  let texts ← readRecord count record
  let row := record.position.line
  let text := texts.getD dates []
  let date ← (options.datePattern.read text).mapError fun fault =>
    .field row (dates + 1) (.badDate (String.ofList text) fault)
  let others := texts.zipIdx.eraseIdx dates
  let cells ← others.mapM fun (text, column) => readCell options row column text
  return (date, cells)

def readTable (options : ReadOptions) (bytes : List UInt8) : Except CsvError Table := do
  let records := splitRecords options.dialect bytes
  let header ← readHeader records
  let dates ← dateIndex options header
  let rows ← (records.drop 1).mapM (readRow options header.length dates)
  let sorted := Table.sortByDate rows
  let columns := (header.eraseIdx dates).zipIdx.map fun (name, column) =>
    Column.of (String.ofList name) (sorted.map fun row => row.2.getD column none)
  (Table.ofColumns (sorted.map Prod.fst) columns).mapError .table

structure WriteOptions where
  dialect : Dialect
  header : Bool
  datePattern : Pattern
  /-- the content of missing cells -/
  missing : String
  lineEnd : LineEnd

def WriteOptions.default : WriteOptions := ⟨dialectOf ',', true, Pattern.ymd, "", .lf⟩

def cellText (options : WriteOptions) (cell : Cell) : List Char :=
  match cell with
  | some x => (Decimal.write x).toList
  | none => options.missing.toList

/-- The texts of all lines: the header, where there is one, and a line for each date. -/
def tableTexts (options : WriteOptions) (table : Table) : List (List (List Char)) :=
  let header := "date".toList :: table.columns.map (·.name.toList)
  let rows := table.rows.map fun (date, cells) =>
    options.datePattern.write date :: cells.map (cellText options)
  if options.header then header :: rows else rows

def writeTable (options : WriteOptions) (table : Table) : List UInt8 :=
  (tableTexts options table).flatMap fun texts =>
    writeRecord options.dialect options.lineEnd (texts.map Text.encode)

end TimeSeries.Csv
