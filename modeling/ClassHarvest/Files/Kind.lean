import ClassHarvest.Text.Case

/-!
# Kinds of files
-/

namespace ClassHarvest

/-- What a file holds, by its name. -/
inductive FileKind where
  /-- C# that somebody wrote. -/
  | source
  /-- C# that was generated. -/
  | generated
  /-- Anything else. -/
  | text
deriving DecidableEq, Repr

namespace FileKind

/-- The name of a kind. -/
def name : FileKind → Text
  | .source => "source"
  | .generated => "generated"
  | .text => "text"

/-- The kind of the file at a path, whatever the letter case of its suffix. -/
def ofPath (path : Text) : FileKind :=
  if (".g.cs" : Text).isSuffixOf path.lower then .generated
  else if (".cs" : Text).isSuffixOf path.lower then .source
  else .text

end FileKind
end ClassHarvest
