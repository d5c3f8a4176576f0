import TimeSeries.Csv.Error
import TimeSeries.Text.Utf8

set_option autoImplicit false

/-!
# CSV records

A record is a line of fields with delimiters between. A field between quotes may hold delimiters
and line ends, and holds a quote for two of them. `splitRecords` takes bytes apart into records with
their positions, and `writeRecord` writes a record so that it is read back.
-/
namespace TimeSeries.Csv

def lineFeed : UInt8 := 10

def carriageReturn : UInt8 := 13

def isLineEnd (byte : UInt8) : Bool := byte == lineFeed || byte == carriageReturn

/-- The two bytes that shape a record. -/
structure Dialect where
  delimiter : UInt8
  quote : UInt8

/-- Where in a field the reader stands. -/
inductive FieldState where
  | start
  | plain
  | quoted
  /-- after a quote within a quoted field -/
  | afterQuote

/-- A field is bytes, since a file need not be text. -/
abbrev Field := List UInt8

/-- What a record was read as: its fields, the bytes after it, and how many bytes and line feeds
were consumed. -/
structure Scanned where
  fields : List Field
  tail : List UInt8
  size : Nat
  lines : Nat

namespace Scanned

def consByte (byte : UInt8) (scanned : Scanned) : Scanned :=
  { scanned with fields := scanned.fields.modifyHead (byte :: ·) }

def consField (scanned : Scanned) : Scanned := { scanned with fields := [] :: scanned.fields }

def count (byte : UInt8) (scanned : Scanned) : Scanned :=
  { scanned with
    size := scanned.size + 1
    lines := scanned.lines + if byte = lineFeed then 1 else 0 }

end Scanned

/-- The end of a record in front of some bytes: a last field without a byte so far. -/
def endRecord (tail : List UInt8) : Scanned := ⟨[[]], tail, 0, 0⟩

/-- Reads up to the end of the record. -/
def scanRecord (dialect : Dialect) (state : FieldState) : List UInt8 → Scanned
  | [] => endRecord []
  | byte :: rest => Scanned.count byte <|
    match state with
    | .quoted =>
      if byte = dialect.quote then scanRecord dialect .afterQuote rest
      else (scanRecord dialect .quoted rest).consByte byte
    | .start =>
      if byte = dialect.quote then scanRecord dialect .quoted rest
      else if byte = dialect.delimiter then (scanRecord dialect .start rest).consField
      else if isLineEnd byte then endRecord rest
      else (scanRecord dialect .plain rest).consByte byte
    | .plain =>
      if byte = dialect.delimiter then (scanRecord dialect .start rest).consField
      else if isLineEnd byte then endRecord rest
      else (scanRecord dialect .plain rest).consByte byte
    | .afterQuote =>
      if byte = dialect.quote then (scanRecord dialect .quoted rest).consByte byte
      else if byte = dialect.delimiter then (scanRecord dialect .start rest).consField
      else if isLineEnd byte then endRecord rest
      else (scanRecord dialect .plain rest).consByte byte

theorem length_tail_scanRecord (dialect : Dialect) (state : FieldState) (bytes : List UInt8) :
    (scanRecord dialect state bytes).tail.length ≤ bytes.length - 1 := by
  induction bytes generalizing state with
  | nil => simp [scanRecord, endRecord]
  | cons byte rest ih =>
    have h (s : FieldState) : (scanRecord dialect s rest).tail.length ≤ rest.length :=
      Nat.le_trans (ih s) (Nat.sub_le ..)
    simp only [scanRecord, List.length_cons, Nat.add_sub_cancel, Scanned.count]
    split <;> repeat' split
    all_goals simp [Scanned.consByte, Scanned.consField, endRecord, h]

structure Record where
  position : RecordPosition
  fields : List Field

/-- The records of some bytes. Line ends before a record are part of it. -/
def recordsFrom (dialect : Dialect) (position : RecordPosition) (bytes : List UInt8) :
    List Record :=
  let blank := bytes.takeWhile isLineEnd
  match body : bytes.dropWhile isLineEnd with
  | [] => []
  | byte :: rest =>
    let scanned := scanRecord dialect .start (byte :: rest)
    have _ : scanned.tail.length < bytes.length := by
      have hsuffix := (List.dropWhile_suffix isLineEnd (l := bytes)).length_le
      have htail := length_tail_scanRecord dialect .start (byte :: rest)
      simp only [body, List.length_cons, Nat.add_sub_cancel] at hsuffix htail
      exact Nat.lt_of_le_of_lt htail hsuffix
    ⟨position, scanned.fields⟩ ::
      recordsFrom dialect
        ⟨position.record + 1, position.line + blank.count lineFeed + scanned.lines,
          position.byte + blank.length + scanned.size⟩ scanned.tail
termination_by bytes.length

/-- The mark that may precede UTF-8 text. -/
def byteOrderMark : List UInt8 := [0xef, 0xbb, 0xbf]

/-- The records of a file. A byte order mark counts as bytes of the first record only. -/
def splitRecords (dialect : Dialect) (bytes : List UInt8) : List Record :=
  let start : RecordPosition := ⟨0, 1, 0⟩
  if byteOrderMark.isPrefixOf bytes then
    match recordsFrom dialect ⟨0, 1, byteOrderMark.length⟩ (bytes.drop byteOrderMark.length) with
    | [] => []
    | first :: rest => ⟨start, first.fields⟩ :: rest
  else recordsFrom dialect start bytes

inductive LineEnd where
  | lf
  | crlf
  | cr
  deriving DecidableEq, Repr

def LineEnd.bytes : LineEnd → List UInt8
  | lf => [lineFeed]
  | crlf => [carriageReturn, lineFeed]
  | cr => [carriageReturn]

/-- Whether a byte can stand in a field only between quotes. -/
def isSpecial (dialect : Dialect) (byte : UInt8) : Bool :=
  byte == dialect.delimiter || byte == dialect.quote || isLineEnd byte

/-- A field between quotes, with each quote in it doubled. -/
def quoteField (dialect : Dialect) (field : Field) : List UInt8 :=
  dialect.quote ::
    (field.flatMap fun byte => if byte = dialect.quote then [byte, byte] else [byte]) ++
    [dialect.quote]

/-- A field as it is written: between quotes only where it needs them. -/
def writeField (dialect : Dialect) (field : Field) : List UInt8 :=
  if field.any (isSpecial dialect) then quoteField dialect field else field

/-- A record as a line. A single empty field is quoted, because an empty line is no record. -/
def writeRecord (dialect : Dialect) (lineEnd : LineEnd) (fields : List Field) : List UInt8 :=
  (if fields = [[]] then quoteField dialect []
    else [dialect.delimiter].intercalate (fields.map (writeField dialect))) ++ lineEnd.bytes

end TimeSeries.Csv
