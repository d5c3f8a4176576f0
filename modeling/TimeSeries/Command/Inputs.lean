import TimeSeries.Command.Run

set_option autoImplicit false

/-!
# The inputs of a job

The paths that a job may read, so that the files at them can be gathered before it runs. The
paths of a batch's series are known once the file with its formulas has been gathered.
-/
namespace TimeSeries

namespace Path

/-- The paths of the directories on the way to a path, the longer ones later, then the path. -/
def prefixes (path : String) : List String :=
  let names := parts path
  let shown (n : Nat) := String.ofList (['/'].intercalate (names.take n))
  ((List.range names.length).map fun n => shown (n + 1)).map fun name =>
    if name = "" then "/" else name

/-- The names that a path leads along when every part going up undoes the part before it. -/
def names (working : List String) (path : String) : List String :=
  (parts path).foldl (fun names part =>
    if part = [] ∨ part = ['.'] then names
    else if part = ['.', '.'] then names.dropLast
    else names ++ [String.ofList part]) (if isAbsolute path then [] else working)

end Path

/-- The files with what was found at a path. A directory that is there already keeps its entries. -/
def Files.gather (files : Files) (path : String) (found : FileTree) : Files :=
  let names := Path.names files.working path
  match files.root.at? names, found with
  | some (.directory _), .directory _ => files
  | _, _ => { files with root := FileTree.put found names files.root }

mutual

/-- The names of the series that an expression may fetch. -/
def Expr.seriesNames : Expr → List (List Char)
  | .reference _ name _ => [name]
  | .operation _ _ left right => left.seriesNames ++ right.seriesNames
  | .overlay _ _ body => body.seriesNames
  | .call _ arguments => argumentNames arguments
  | .malformed _ | .table | .number _ _ | .literal _ => []

/-- The names in arguments; the text of an argument may be a name itself. -/
def argumentNames : List (Argument Expr) → List (List Char)
  | [] => []
  | ⟨text, _, body⟩ :: rest =>
    let written := match unquote text with
      | .ok (some content) => Text.trim content
      | _ => Text.trim text
    written :: body.seriesNames ++ argumentNames rest

end

namespace Command

/-- The files of the series that a formula may fetch from a directory. -/
def seriesPaths (directory formula : String) : List String :=
  (Expr.parse formula.toList).seriesNames.map fun name =>
    (SeriesStore.of directory).pathFor (Text.normalName (String.ofList name))

/-- The paths that a job may use, as far as the files at hand tell. -/
def inputs (files : Files) : Job → List String
  | .eval formula settings output _ =>
    settings.directory :: output.toList ++ seriesPaths settings.directory formula
  | .batch file settings =>
    let formulas := match files.readText file with
      | .ok text => formulasOf text
      | .error _ => []
    [settings.directory, file] ++ formulas.flatMap (seriesPaths settings.directory)
  | .functions => []

end Command

end TimeSeries
