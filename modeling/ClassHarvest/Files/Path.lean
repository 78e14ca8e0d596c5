import ClassHarvest.Files.Ignore

/-!
# Paths

A path is the sequence of names that leads to a file or directory, from the top of all files if it is
absolute and from some other directory otherwise.  The name `..` leads back to the directory around;
it is kept until a path is resolved.
-/

namespace ClassHarvest

/-- A path. -/
structure Path where
  /-- What stands in front of the names: nothing, one separator or exactly two. -/
  anchor : Text
  /-- The names, from the top. -/
  names : List Text
deriving DecidableEq, Repr

namespace Path

/-- The name of a directory itself. -/
def here : Text := "."

/-- The name of the directory around. -/
def parentName : Text := ".."

/-- The separators that a path begins with; three or more count as one. -/
def anchorOf (t : Text) : Text :=
  let leading := t.takeWhile (· = separator)
  if leading.length = 2 then leading else leading.take 1

/-- The path that a text names.  Empty names and names of the directory itself are left out. -/
def ofText (t : Text) : Path :=
  ⟨anchorOf t, (t.splitOn separator).filter fun name => !name.isEmpty && name ≠ here⟩

/-- The names of a path with separators between them. -/
def joinNames (names : List Text) : Text :=
  Text.join [separator] names

/-- The text that names a path. -/
def text (path : Path) : Text :=
  if path.anchor.isEmpty && path.names.isEmpty then here else path.anchor ++ joinNames path.names

/-- Whether a path leads from the top of all files. -/
def isAbsolute (path : Path) : Bool :=
  !path.anchor.isEmpty

/-- A path as seen from a directory. -/
def join (directory path : Path) : Path :=
  if path.isAbsolute then path else ⟨directory.anchor, directory.names ++ path.names⟩

/-- A path with one more name. -/
def child (directory : Path) (name : Text) : Path :=
  ⟨directory.anchor, directory.names ++ [name]⟩

/-- The last name of a path. -/
def name (path : Path) : Text :=
  path.names.getLastD []

/-- A path without its last name. -/
def parent (path : Path) : Path :=
  ⟨path.anchor, path.names.dropLast⟩

/-- The names that remain when names of the directory around are followed from the top. -/
def followParents (names : List Text) : List Text :=
  names.foldl (fun above name => if name = parentName then above.dropLast else above ++ [name]) []

/-- An absolute path without names of the directory around. -/
def normal (path : Path) : Path :=
  ⟨[separator], followParents path.names⟩

/-- The absolute path without names of the directory around that a path stands for in a working
directory. -/
def resolve (working path : Path) : Path :=
  (working.join path).normal

/-- A path as seen from a directory that it leads through, and otherwise as it is. -/
def relativeTo (directory path : Path) : Path :=
  if path.anchor = directory.anchor && directory.names.isPrefixOf path.names then
    ⟨[], path.names.drop directory.names.length⟩
  else path

end Path
end ClassHarvest
