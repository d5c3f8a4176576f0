import TimeSeries.Csv.Table
import TimeSeries.Files.Tree
import TimeSeries.Formula.Source

set_option autoImplicit false

/-!
# Series stores

A directory with a CSV file for each series: the series of a name is in the file named like it in
lower case.
-/
namespace TimeSeries

/-- A directory of series, the identifier of the source it makes, and how its files are read. -/
structure SeriesStore where
  id : String
  root : String
  options : Csv.ReadOptions

namespace SeriesStore

/-- The store of a directory, with the usual identifier and options. -/
def of (root : String) : SeriesStore := ⟨"LOCAL", root, .default⟩

def pathFor (store : SeriesStore) (name : String) : String :=
  Path.join store.root (Text.lowerName name ++ ".csv")

def contains (store : SeriesStore) (files : Files) (name : String) : Bool :=
  files.isFile (store.pathFor name)

/-- The name of the series in a file, when it is a CSV file. -/
def seriesName? (fileName : String) : Option String :=
  let (stem, extension?) := Path.splitAtDot fileName.toList
  match extension? with
  | some extension =>
    if Text.sameIgnoringAsciiCase extension ['c', 's', 'v'] then
      some (String.ofList (Text.upper stem))
    else none
  | none => none

def seriesNames (store : SeriesStore) (files : Files) : Except CsvError (List String) :=
  match files.list store.root with
  | .ok names => .ok ((names.filterMap seriesName?).mergeSort (· ≤ ·))
  | .error fault => .error (.file fault)

def read (store : SeriesStore) (files : Files) (name : String) : Except CsvError Table :=
  let path := store.pathFor name
  match files.find path with
  | .ok (.file content) => Csv.readTable store.options content
  | _ => .error (.seriesNotFound (Text.normalName name) path)

/-- The table of a series as the context asks for it, with its file, its size and, where it can be
told, its frequency. -/
def fetch (store : SeriesStore) (files : Files) (name : String) (context : Context) :
    Except CsvError (Table × Provenance) := do
  let whole ← store.read files name
  let table ← (context.conform whole).mapError .table
  let attributes := (NameMap.empty.insert "path" (store.pathFor name)).insert "rows"
    (toString table.rowCount)
  let attributes := match Frequency.detect? table.dates with
    | some frequency => attributes.insert "frequency" frequency.code
    | none => attributes
  return (table, .fetched (name ++ "@" ++ store.id)
    ⟨store.id, some ("Local CSV store at " ++ store.root), attributes⟩)

def toSource (store : SeriesStore) (files : Files) : Source :=
  ⟨store.id, fun name context => (store.fetch files name context).mapError .csv⟩

/-- The registry that has a store alone, which is also the source of names without one. -/
def registry (store : SeriesStore) (files : Files) : Except FormulaError SourceRegistry := do
  let sources ← SourceRegistry.empty.register (store.toSource files)
  sources.registerAlias "DEFAULT" store.id

end SeriesStore

end TimeSeries
