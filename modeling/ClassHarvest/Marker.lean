import ClassHarvest.CSharp.SourceUnit
import ClassHarvest.Log
import ClassHarvest.Text.Case

/-!
# Markers

The marker is the partial class that receives the generated accessors.  Of several candidates the
first is taken.
-/

namespace ClassHarvest

open CSharp

/-- A class that may receive the accessors. -/
structure Marker where
  /-- The namespace around it; the empty text is the global namespace. -/
  «namespace» : Text
  /-- Its name. -/
  name : Text
  /-- Its modifiers as they stand in the source. -/
  modifiers : Text
  /-- Whether it is static. -/
  isStatic : Bool
  /-- The file in which it is declared. -/
  path : Text
  /-- The line on which its declaration begins. -/
  line : Int
deriving DecidableEq, Repr

namespace Marker

/-- The name of a marker, up to letter case. -/
def className : Text := "MonorailCSS"

/-- Whether a class may be the marker: it is partial and has the name of a marker. -/
def isCandidate (declaration : Declaration) : Bool :=
  declaration.modifiers.contains ("partial" : Text) &&
    declaration.name.caseFold = className.caseFold

/-- A class as a marker. -/
def ofDeclaration (declaration : Declaration) : Marker where
  «namespace» := declaration.namespace
  name := declaration.name
  modifiers := declaration.modifierText
  isStatic := declaration.modifiers.contains ("static" : Text)
  path := declaration.path
  line := declaration.line

/-- The candidates of a source unit in order. -/
def candidates (unit : SourceUnit) : List Marker :=
  (unit.declarations.filter isCandidate).map ofDeclaration

/-- The candidates of some source units in order. -/
def discover (units : List SourceUnit) : List Marker :=
  units.flatMap candidates

/-- The candidate that is taken. -/
def select (found : List Marker) : Option Marker :=
  found.head?

/-- A marker for a reader: its name with its namespace, and its place if that is known. -/
def describe (marker : Marker) : Text :=
  let qualified :=
    if marker.namespace.isEmpty then marker.name
    else marker.namespace ++ ('.' : CodePoint) :: marker.name
  if marker.path.isEmpty then qualified
  else qualified ++ " (" ++ marker.path ++ ":" ++ Text.ofInt marker.line ++ ")"

/-- What is reported when a candidate is taken: a warning if others are passed over. -/
def selectionLog : List Marker → Log
  | [] | [_] => []
  | chosen :: others => [⟨.warning,
      "Found " ++ Text.ofNat (others.length + 1) ++ " " ++ className ++ " declarations; using " ++
        chosen.describe ++ " and ignoring " ++ Text.join ", " (others.map describe)⟩]

end Marker
end ClassHarvest
