import ClassHarvest.Dictionary
import ClassHarvest.Text.Case

/-!
# Artifacts

An artifact is a generated source file.  Its name, and the name of the method in it, come from the
category of the class names that it holds.
-/

namespace ClassHarvest.Emission

/-- A generated source file. -/
structure Artifact where
  /-- The name of the file. -/
  name : Text
  /-- Its content. -/
  text : Text
deriving DecidableEq, Repr

/-- The method that gives all class names. -/
def combinedAccessor : Text := "CssClassValues"

/-- The file with that method. -/
def combinedArtifact : Text := "monorail-css-jit.g.cs"

/-- The beginning of the names of all generated files. -/
def artifactStart : Text := "monorail-css-"

/-- The end of the names of all generated files. -/
def artifactEnd : Text := "-jit.g.cs"

/-- Whether a file has the name of a generated one. -/
def isArtifactName (name : Text) : Bool :=
  name = combinedArtifact || (artifactStart.isPrefixOf name && artifactEnd.isSuffixOf name)

/-! ## Names from categories -/

/-- The longest stretches of characters that satisfy a test. -/
def stretches (p : CodePoint → Bool) (t : Text) : List Text :=
  go [] t
where
  /-- Go on with a stretch, which is held in reverse. -/
  go (current : Text) : Text → List Text
    | [] => if current.isEmpty then [] else [current.reverse]
    | c :: rest =>
      if p c then go (c :: current) rest
      else if current.isEmpty then go [] rest
      else current.reverse :: go [] rest

/-- A text with its first letter as a capital. -/
def capitalized : Text → Text
  | [] => []
  | c :: rest => c.asciiUpper :: rest

/-- The method for a category: its words in capitals, without what separates them. -/
def accessorName (category : Text) : Text :=
  ((stretches CodePoint.isAsciiAlnum category).map capitalized).flatten ++ ("ClassValues" : Text)

/-- Characters that stay as they are in the name of a file. -/
def isSlugChar (c : CodePoint) : Bool :=
  c.isAsciiLower || c.isAsciiDigit

/-- The file for a category: its words in small letters, with hyphens between. -/
def artifactName (category : Text) : Text :=
  artifactStart ++ Text.join ("-" : Text) (stretches isSlugChar category.lower) ++ artifactEnd

/-- The methods for the categories of the scanners that come with the program. -/
def defaultAccessors : Dictionary Text := [
  ("attributes", "AttributeClassValues"),
  ("markup", "MarkupClassValues"),
  ("helpers", "CssClassCallValues"),
  ("files", "FileClassValues")]

end ClassHarvest.Emission
