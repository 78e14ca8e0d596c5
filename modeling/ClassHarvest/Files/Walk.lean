import ClassHarvest.Files.Ignore
import ClassHarvest.Files.Tree

/-!
# The walk through a project

The files of a project are those below its root, except for some names that never hold class names
and for what the ignore rules leave out.  Nothing is looked for in a directory that is left out.
-/

namespace ClassHarvest.Walk

/-- The directory in which the program keeps its caches. -/
def stateDirectory : Text := ".cssjit"

/-- Directories that are left out: build output, and the state of tools. -/
def skippedDirectories : List Text := [
  stateDirectory, ".git", ".hg", ".idea", ".svn", ".vs", ".vscode", "__pycache__", "bin",
  "node_modules", "obj"]

/-- Files that are left out: the state of file managers. -/
def skippedFiles : List Text := [".DS_Store", "Thumbs.db"]

/-- A file below the root. -/
structure Found where
  /-- The names that lead to it, with separators between. -/
  path : Text
  /-- What it holds. -/
  content : FileContent
deriving DecidableEq, Repr

/-- Whether a directory is walked through. -/
def entersDirectory (rules : IgnoreRules) (above name : Text) : Bool :=
  !skippedDirectories.contains name && !rules.ignored (above ++ name) true

/-- Whether a file is listed. -/
def listsFile (rules : IgnoreRules) (above name : Text) : Bool :=
  !skippedFiles.contains name && !rules.ignored (above ++ name) false

mutual

/-- What is found in something of a given name; `above` leads to the directory around it. -/
def inTree (rules : IgnoreRules) (above name : Text) : Tree → List Found
  | .file content => if listsFile rules above name then [⟨above ++ name, content⟩] else []
  | .directory entries =>
    if entersDirectory rules above name then
      inEntries rules (above ++ name ++ [separator]) entries
    else []

/-- What is found in the entries of a directory. -/
def inEntries (rules : IgnoreRules) (above : Text) : List (Text × Tree) → List Found
  | [] => []
  | (name, tree) :: rest => inTree rules above name tree ++ inEntries rules above rest

end

/-- The files below a root in the order of their paths. -/
def files (rules : IgnoreRules) (root : Tree) : List Found :=
  (inEntries rules [] root.entries).mergeSort fun a b => Text.le a.path b.path

end ClassHarvest.Walk
