import TimeSeries.Command.Inputs

set_option autoImplicit false

/-!
# The program

Gathers the files that a job may read, runs the job on them, prints its output and its
report, and writes the file that it asks for.
-/
namespace TimeSeries.Program

open Command

/-- The error number for reading a directory as a file. -/
def isDirectoryCode : UInt32 := 21

def lookUp (path : String) : IO (Option FileTree) := do
  try
    let content ← IO.FS.readBinFile path
    return some (.file content.toList)
  catch error =>
    match error with
    | .inappropriateType _ code _ =>
      return if code = isDirectoryCode then some (.directory []) else none
    | _ => return none

/-- The files with what is on the disk at a path and on the way there. -/
def gather (files : Files) (path : String) : IO Files :=
  (Path.prefixes path).foldlM (fun files path => do
    match ← lookUp path with
    | some found => return files.gather path found
    | none => return files) files

/-- The files that a job may use: gathered twice, since the first time may lead to more. -/
def gatherInputs (working : List String) (job : Job) : IO Files := do
  let start : Files := ⟨FileTree.put (.directory []) working (.directory []), working⟩
  let files ← (inputs start job).foldlM gather start
  (inputs files job).foldlM gather files

/-- Writes the file that a job asks for, when it has made one. -/
def save (files : Files) : Job → IO Unit
  | .eval _ _ (some path) _ => do
    match files.read path with
    | .ok content => IO.FS.writeBinFile path ⟨content.toArray⟩
    | .error _ => return
  | _ => return

def runProgram (arguments : List String) : IO UInt32 := do
  let working := Path.names [] (toString (← IO.currentDir))
  let (files, job?) ← match readArguments arguments with
    | .run job => do pure (← gatherInputs working job, some job)
    | _ => pure (⟨.directory [], working⟩, none)
  let outcome := answer files arguments
  IO.print outcome.output
  IO.eprint outcome.report
  if outcome.exitCode = 0 then job?.forM (save outcome.files)
  return outcome.exitCode.toUInt32

end TimeSeries.Program

def main (arguments : List String) : IO UInt32 := TimeSeries.Program.runProgram arguments
