import ClassHarvest.ClassSet
import ClassHarvest.Json.Value
import ClassHarvest.Json.Writer

/-!
# Stored findings and markers

Findings and markers are stored as JSON objects.  What is read back is checked only in part: the line
of a finding may be a truth value, which counts as a number, and some members of a marker may be any
value.
-/

namespace ClassHarvest

open Json (Value)

/-! ## Findings -/

/-- A finding as it is read back. -/
structure StoredFinding where
  /-- The category of the scanner. -/
  category : Text
  /-- The file. -/
  path : Text
  /-- The line: a whole number or a truth value. -/
  line : Value
  /-- The class names. -/
  classes : List Text
deriving Repr

/-- The object that stands for a finding. -/
def Finding.toJson (finding : Finding) : Value :=
  .object [("category", .string finding.category), ("path", .string finding.path),
    ("line", .int finding.line), ("classes", .array (finding.classes.map .string))]

namespace StoredFinding

/-- The finding that an object stands for.  Members that findings lack are passed over. -/
def ofJson? (value : Value) : Option StoredFinding := do
  let members ← value.object?
  let category ← (← members.get? "category").string?
  let path ← (← members.get? "path").string?
  let line := (members.get? "line").getD (.int 0)
  let _ ← line.whole?
  let classes ← (← (← members.get? "classes").array?).mapM Value.string?
  return { category, path, line, classes }

/-- The finding itself. -/
def finding (stored : StoredFinding) : Finding where
  category := stored.category
  path := stored.path
  line := stored.line.whole?.getD 0
  classes := stored.classes

end StoredFinding

/-! ## Markers -/

/-- A marker as it is read back. -/
structure StoredMarker where
  /-- The namespace. -/
  «namespace» : Value
  /-- The name. -/
  name : Value
  /-- The modifiers. -/
  modifiers : Text
  /-- Whether the class is static. -/
  isStatic : Bool
  /-- The file. -/
  path : Value
  /-- The line. -/
  line : Value
deriving Repr

/-- The object that stands for a marker. -/
def Marker.toJson (marker : Marker) : Value :=
  .object [("namespace", .string marker.namespace), ("name", .string marker.name),
    ("modifiers", .string marker.modifiers), ("is_static", .bool marker.isStatic),
    ("path", .string marker.path), ("line", .int marker.line)]

namespace StoredMarker

/-- The members that an object for a marker may have. -/
def memberNames : List Text := ["namespace", "name", "modifiers", "is_static", "path", "line"]

/-- The marker that an object stands for.  It may have no members that markers lack. -/
def ofJson? (value : Value) : Option StoredMarker := do
  let members ← value.object?
  guard (members.keys.all memberNames.contains)
  let namespace_ ← members.get? "namespace"
  let name ← members.get? "name"
  let modifiers ← (← members.get? "modifiers").string?
  let isStatic ← match ← members.get? "is_static" with
    | .bool b => some b
    | _ => none
  let path := (members.get? "path").getD (.string [])
  let line := (members.get? "line").getD (.int 0)
  return { «namespace» := namespace_, name, modifiers, isStatic, path, line }

/-- What is shown for a value in the place of a text. -/
def shown : Value → Text
  | .string text => text
  | .null => []
  | value => Json.write value

/-- The marker itself. -/
def marker (stored : StoredMarker) : Marker where
  «namespace» := shown stored.namespace
  name := shown stored.name
  modifiers := stored.modifiers
  isStatic := stored.isStatic
  path := shown stored.path
  line := stored.line.whole?.getD 0

end StoredMarker
end ClassHarvest
