import TimeSeries.Files.Path
import TimeSeries.Text.Utf8

set_option autoImplicit false

/-!
# Directory trees

The files that a command sees, as a value: a tree of directories and the working directory in it.
Paths are resolved part by part, and every part before the last must be a directory that exists.
-/
namespace TimeSeries

/-- A file with its bytes, or a directory with its named entries. -/
inductive FileTree where
  | file (content : List UInt8)
  | directory (entries : List (String × FileTree))

namespace FileTree

def child? (tree : FileTree) (name : String) : Option FileTree :=
  match tree with
  | directory entries => entries.lookup name
  | file _ => none

/-- The tree below a directory, along names. -/
def at? (tree : FileTree) : List String → Option FileTree
  | [] => some tree
  | name :: rest => (tree.child? name).bind (·.at? rest)

def setEntry (name : String) (child : FileTree) :
    List (String × FileTree) → List (String × FileTree)
  | [] => [(name, child)]
  | (other, old) :: rest =>
    if name = other then (name, child) :: rest else (other, old) :: setEntry name child rest

/-- Puts a tree below a directory, along names; directories on the way are made. -/
def put (content : FileTree) : List String → FileTree → FileTree
  | [], _ => content
  | name :: rest, tree =>
    let entries := match tree with
      | directory entries => entries
      | file _ => []
    directory (setEntry name (put content rest ((entries.lookup name).getD (directory []))) entries)

end FileTree

/-- A directory tree and the names that lead from its root to the working directory. -/
structure Files where
  root : FileTree
  working : List String

namespace Files

/-- One part of a path, from a directory that is reached along `names`. -/
def step (files : Files) (names : List String) (part : List Char) :
    Except FileFault (List String) :=
  match files.root.at? names with
  | none => .error .notFound
  | some (.file _) => .error .notADirectory
  | some (.directory _) =>
    if part = [] ∨ part = ['.'] then .ok names
    else if part = ['.', '.'] then .ok names.dropLast
    else .ok (names ++ [String.ofList part])

/-- The names that a path leads along; its last part may not exist. -/
def resolve (files : Files) (path : String) : Except FileFault (List String) :=
  if path.toList.contains (Char.ofNat 0) then .error .badName
  else if path = "" then .error .notFound
  else (Path.parts path).foldlM files.step (if Path.isAbsolute path then [] else files.working)

def find (files : Files) (path : String) : Except FileFault FileTree := do
  let names ← files.resolve path
  match files.root.at? names with
  | some tree => return tree
  | none => throw .notFound

def isFile (files : Files) (path : String) : Bool :=
  match files.find path with
  | .ok (.file _) => true
  | _ => false

def isDirectory (files : Files) (path : String) : Bool :=
  match files.find path with
  | .ok (.directory _) => true
  | _ => false

def read (files : Files) (path : String) : Except FileFault (List UInt8) := do
  match ← files.find path with
  | .file content => return content
  | .directory _ => throw .isADirectory

def readText (files : Files) (path : String) : Except FileFault (List Char) := do
  let content ← files.read path
  (Text.decode content).mapError fun _ => .notText

def list (files : Files) (path : String) : Except FileFault (List String) := do
  match ← files.find path with
  | .directory entries => return entries.map Prod.fst
  | .file _ => throw .notADirectory

/-- The files with other bytes at a path, whose directory must exist. A path with a slash at its end
means a directory, whatever is there. -/
def write (files : Files) (path : String) (content : List UInt8) : Except FileFault Files := do
  let filePath := Path.withoutEnd path
  let names ← files.resolve filePath
  match files.root.at? names with
  | some (.directory _) => throw .isADirectory
  | _ =>
    if filePath ≠ path then throw .isADirectory
    return { files with root := FileTree.put (.file content) names files.root }

end Files

end TimeSeries
