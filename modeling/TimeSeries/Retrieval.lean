import TimeSeries.Formula.Evaluation
import TimeSeries.Store.SeriesStore

set_option autoImplicit false

/-!
# Retrieval

Interpreters over a directory of series, tables as files, and batches of formulas. The formulas of
a batch are independent: one that fails leaves the others as they are.
-/
namespace TimeSeries

inductive RetrievalError where
  | formula (error : FormulaError)
  | csv (error : CsvError)
  | table (error : TableError)
  | noDirectory (path : String)
  | unsupportedFile (path : String)

def RetrievalError.message : RetrievalError → String
  | formula error => error.message
  | csv error => error.message
  | table error => error.message
  | noDirectory path => s!"Data directory not found: {path}"
  | unsupportedFile path => s!"Unsupported file format: {path}"

/-- The interpreter with the built-in functions over the series of a directory. -/
def Interpreter.overDirectory (files : Files) (directory : String) :
    Except RetrievalError Interpreter :=
  if files.isDirectory directory then
    match (SeriesStore.of directory).registry files with
    | .ok sources => .ok ⟨.standard, sources⟩
    | .error error => .error (.formula error)
  else .error (.noDirectory directory)

/-- The delimiter that goes with the extension of a path, in any case. -/
def delimiterOf? (path : String) : Option Char :=
  match (Path.extension? path).map fun extension => String.ofList (Text.lower extension) with
  | some "csv" => some ','
  | some "tsv" => some '\t'
  | _ => none

def openTable (files : Files) (path : String) : Except RetrievalError Table :=
  match delimiterOf? path with
  | none => .error (.unsupportedFile path)
  | some delimiter =>
    match files.find path with
    | .error fault => .error (.csv (.file fault))
    | .ok (.directory _) => .error (.csv (.records (.unreadable .isADirectory)))
    | .ok (.file content) =>
      let options := { Csv.ReadOptions.default with dialect := Csv.dialectOf delimiter }
      (Csv.readTable options content).mapError .csv

def saveTable (files : Files) (path : String) (table : Table) : Except RetrievalError Files :=
  match delimiterOf? path with
  | none => .error (.unsupportedFile path)
  | some delimiter =>
    let options := { Csv.WriteOptions.default with dialect := Csv.dialectOf delimiter }
    (files.write path (Csv.writeTable options table)).mapError fun fault => .csv (.file fault)

/-- A formula with its tables, and a context of its own where it has one. -/
structure Request where
  formula : String
  tables : List Table
  context : Option Context

/-- The results of a batch, in the order of its requests. -/
def Interpreter.evaluateAll (interpreter : Interpreter) (context : Context)
    (requests : List Request) : List (Except FormulaError Evaluation) :=
  requests.map fun request =>
    interpreter.evaluate request.formula (request.context.getD context) request.tables

def succeeded {ε α : Type} (result : Except ε α) : Bool :=
  match result with
  | .ok _ => true
  | .error _ => false

end TimeSeries
