import TimeSeries.Command.Arguments
import TimeSeries.Retrieval
import TimeSeries.Text.Json

set_option autoImplicit false

/-!
# Running jobs

What the program answers to a command line over a directory tree: an exit code, two texts and the
tree afterwards. A failure is reported as what failed, followed by the chain of its causes.
-/
namespace TimeSeries.Command

/-- What a run leaves behind: an exit code, the output, a report on what happened, and the files. -/
structure Outcome where
  exitCode : Nat
  output : String
  report : String
  files : Files

/-- A chain of causes below an error. -/
abbrev Causes := List String

def recordCauses : RecordError → Causes
  | .unequalLengths _ _ _ => []
  | .notUtf8 _ field index => [RecordError.utf8Detail field index]
  | .unreadable fault => [fault.message]

def csvCauses : CsvError → Causes
  | .file fault => [fault.message]
  | .records error => error.message :: recordCauses error
  | .field _ _ _ => []
  | .seriesNotFound _ _ => []
  | .table error => [error.message]

def sourceCauses : SourceFault → Causes
  | .csv error => csvCauses error
  | _ => []

def formulaCauses : FormulaError → Causes
  | .sourceFetch _ _ cause => cause.message :: sourceCauses cause
  | _ => []

def retrievalCauses : RetrievalError → Causes
  | .formula error => formulaCauses error
  | .csv error => csvCauses error
  | _ => []

/-- The lines of a cause, the first behind `head` and the others indented as far. -/
def causeLines (head indent cause : String) : String :=
  head ++ String.intercalate ("\n" ++ indent)
    ((cause.toList.splitOnP (· == '\n')).map String.ofList)

/-- The causes below one another, numbered when there are several. -/
def causesText (causes : Causes) : String :=
  match causes with
  | [cause] => causeLines "    " "    " cause
  | _ => String.intercalate "\n" (causes.zipIdx.map fun (cause, i) =>
      let number := toString i
      let margin := String.ofList (List.replicate (5 - number.length) ' ')
      causeLines (margin ++ number ++ ": ") "       " cause)

def failureText (failure : String) (causes : Causes) : String :=
  if causes.isEmpty then s!"Error: {failure}\n"
  else s!"Error: {failure}\n\nCaused by:\n{causesText causes}\n"

/-- A failed run, whose report ends with the failure and its causes. -/
def fail (files : Files) (output report failure : String) (causes : Causes) : Outcome :=
  ⟨1, output, report ++ failureText failure causes, files⟩

def Settings.context (settings : Settings) : Context :=
  { (settings.source.map Context.ofSource).getD Context.default with
    start := settings.start
    stop := settings.stop
    frequency := settings.frequency
    fillMissing := settings.fillMissing }

def textOf (bytes : List UInt8) : String :=
  match Text.decode bytes with
  | .ok text => String.ofList text
  | .error _ => ""

/-- A value as it is printed: a series as CSV, anything else on a line. -/
def valueText : Value → String
  | .series table => textOf (Csv.writeTable .default table)
  | .number x => Decimal.write x ++ "\n"
  | .text content => content ++ "\n"

def infoJson (info : SourceInfo) : Text.Json :=
  .object [("source", .string info.source), ("description", Text.Json.ofString? info.description),
    ("attributes", .object (info.attributes.entries.map fun (name, text) => (name, .string text)))]

def nodeJson (id : Option String) (info : Option SourceInfo) (operation : String)
    (operands : List Text.Json) : Text.Json :=
  .object [("id", Text.Json.ofString? id), ("source", (info.map infoJson).getD .null),
    ("operation", .string operation), ("children", .array operands)]

mutual

def provenanceJson : Provenance → Text.Json
  | .leaf id info operation => nodeJson (some id) info operation []
  | .node operation operands => nodeJson none none operation (provenanceJsons operands)

def provenanceJsons : List Provenance → List Text.Json
  | [] => []
  | tree :: rest => provenanceJson tree :: provenanceJsons rest

end

def provenanceText (tree : Provenance) : String :=
  String.ofList ((provenanceJson tree).pretty 0) ++ "\n"

/-- Writes the result of a formula, to a file when one is given. -/
def deliver (files : Files) (evaluation : Evaluation) (output : Option String) (report : String) :
    Outcome :=
  match output, evaluation.value with
  | none, value => ⟨0, valueText value, report, files⟩
  | some path, .series table =>
    match files.write path (Csv.writeTable .default table) with
    | .ok files => ⟨0, "", report, files⟩
    | .error fault =>
      let error := CsvError.file fault
      fail files "" "" s!"Failed to write '{path}'" (error.message :: csvCauses error)
  | some _, _ => fail files "" "" "Only series results can be written to a file" []

def openFailure (settings : Settings) : String :=
  s!"Failed to open data directory '{settings.directory}'"

def runEval (files : Files) (formula : String) (settings : Settings) (output : Option String)
    (provenance : Bool) : Outcome :=
  match Interpreter.overDirectory files settings.directory with
  | .error error =>
    fail files "" "" (openFailure settings) (error.message :: retrievalCauses error)
  | .ok interpreter =>
    match interpreter.evaluate formula settings.context [] with
    | .error error =>
      fail files "" "" s!"Failed to evaluate '{formula}'" (error.message :: formulaCauses error)
    | .ok evaluation =>
      let report := if provenance then provenanceText evaluation.provenance else ""
      deliver files evaluation output report

/-- The formulas of a batch: the lines that are neither blank nor begin with a semicolon. -/
def formulasOf (text : List Char) : List String :=
  let lines := (text.splitOnP (· == '\n')).map Text.trim
  (lines.filter fun line => line ≠ [] ∧ line.head? ≠ some ';').map String.ofList

/-- A formula of a batch with its value or its error. -/
def resultText (formula : String) (result : Except FormulaError Evaluation) : String :=
  s!"; {formula}\n" ++
    match result with
    | .ok evaluation => valueText evaluation.value
    | .error error => s!"; error: {error.message}\n"

def runBatch (files : Files) (file : String) (settings : Settings) : Outcome :=
  match files.readText file with
  | .error fault => fail files "" "" s!"Failed to read '{file}'" [fault.message]
  | .ok text =>
    match Interpreter.overDirectory files settings.directory with
    | .error error =>
      fail files "" "" (openFailure settings) (error.message :: retrievalCauses error)
    | .ok interpreter =>
      let formulas := formulasOf text
      let results := interpreter.evaluateAll settings.context
        (formulas.map fun formula => ⟨formula, [], none⟩)
      let output := String.join (formulas.zipWith resultText results)
      let failures := results.countP fun result => !succeeded result
      let report := s!"Evaluated {results.length} formulas ({failures} failed)\n"
      if 0 < failures then
        fail files output report s!"{failures} of {results.length} formulas failed" []
      else ⟨0, output, report, files⟩

/-- A function with its description, from the ninth column on. -/
def functionLine (function : Function) : String :=
  let padding := String.ofList (List.replicate (8 - function.name.length) ' ')
  function.name ++ padding ++ " " ++ function.description ++ "\n"

def runFunctions (files : Files) : Outcome :=
  ⟨0, String.join (FunctionRegistry.standard.definitions.map functionLine), "", files⟩

def run (files : Files) : Job → Outcome
  | .eval formula settings output provenance => runEval files formula settings output provenance
  | .batch file settings => runBatch files file settings
  | .functions => runFunctions files

def usage : String := "Usage: skit [OPTIONS] <COMMAND>\n"

def answer (files : Files) (arguments : List String) : Outcome :=
  match readArguments arguments with
  | .run job => run files job
  | .help => ⟨0, usage, "", files⟩
  | .version => ⟨0, "skit 0.1.0\n", "", files⟩
  | .misuse => ⟨2, "", usage, files⟩

end TimeSeries.Command
