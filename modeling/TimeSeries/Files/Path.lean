set_option autoImplicit false

/-!
# Paths

Paths are texts with slashes between their parts. What follows the last dot of a file name is its
extension, unless the dot comes first. A file system says why a path cannot be used.
-/
namespace TimeSeries

/-- Why a path leads to nothing that can be used. -/
inductive FileFault where
  | notFound
  | notADirectory
  | isADirectory
  | badName
  | notText
  deriving DecidableEq, Repr

def FileFault.message : FileFault → String
  | notFound => "No such file or directory (os error 2)"
  | notADirectory => "Not a directory (os error 20)"
  | isADirectory => "Is a directory (os error 21)"
  | badName => "file name contained an unexpected NUL byte"
  | notText => "stream did not contain valid UTF-8"

namespace Path

def parts (path : String) : List (List Char) := path.toList.splitOnP (· == '/')

def isAbsolute (path : String) : Bool := path.toList.head? == some '/'

/-- A path below a directory; an absolute path stands for itself. -/
def join (directory path : String) : String :=
  if isAbsolute path || directory = "" then path
  else if directory.toList.getLast? = some '/' then directory ++ path
  else directory ++ "/" ++ path

/-- A path without slashes at its end; the root keeps one. -/
def withoutEnd (path : String) : String :=
  match path.toList.reverse.dropWhile (· == '/') with
  | [] => if path = "" then "" else "/"
  | rest => String.ofList rest.reverse

/-- The last part that names something; none when the path ends by going up. -/
def fileName? (path : String) : Option (List Char) :=
  match ((parts path).filter fun part => part ≠ [] ∧ part ≠ ['.']).getLast? with
  | some name => if name = ['.', '.'] then none else some name
  | none => none

/-- The text before the last dot and the text after it, unless the dot comes first. -/
def splitAtDot (name : List Char) : List Char × Option (List Char) :=
  match name.reverse.dropWhile (· ≠ '.') with
  | _ :: before =>
    if before = [] then (name, none)
    else (before.reverse, some (name.reverse.takeWhile (· ≠ '.')).reverse)
  | [] => (name, none)

def extension? (path : String) : Option (List Char) :=
  (fileName? path).bind fun name => (splitAtDot name).2

end Path

end TimeSeries
