import ClassHarvest.Dictionary
import ClassHarvest.Marker

/-!
# Class sets

A scan gives findings, each with the class names found at one site.  The class set of a marker is
their union, by category and as a whole.  Names are compared exactly and keep the order in which they
first occurred.
-/

namespace ClassHarvest

/-- The class names that a scanner found at one site. -/
structure Finding where
  /-- The category of the scanner. -/
  category : Text
  /-- The file in which the site is. -/
  path : Text
  /-- The line of the site; zero for a file as a whole. -/
  line : Int
  /-- The names in order. -/
  classes : List Text
deriving DecidableEq, Repr

/-- The class names of all findings, bound to a marker. -/
structure ClassSet where
  /-- The class that receives the accessors. -/
  marker : Marker
  /-- The namespace to emit into. -/
  «namespace» : Text
  /-- All class names. -/
  classes : List Text
  /-- The class names of each category. -/
  categories : Dictionary (List Text)
deriving DecidableEq, Repr

namespace ClassSet

/-- The namespace that stands for the global one. -/
def rootNamespace : Text := "Root"

/-- How the global namespace may be spelled. -/
def globalNamespace : Text := "<global namespace>"

/-- The namespace to emit into: the global one is replaced. -/
def resolveNamespace (name : Option Text) : Text :=
  match name with
  | none => rootNamespace
  | some name => if name.isBlank || name = globalNamespace then rootNamespace else name.strip

/-- The names of some groups, each once, in order of first occurrence. -/
def union (groups : List (List Text)) : List Text :=
  firstOccurrences groups.flatten

/-- The groups of class names of each category: first the categories that are given, then the others
in order of first occurrence. -/
def grouped (categories : List Text) (findings : List Finding) : Dictionary (List (List Text)) :=
  let initial : Dictionary (List (List Text)) := Dictionary.ofPairs (categories.map (·, []))
  findings.foldl (fun groups finding =>
    groups.put finding.category
      (((groups.get? finding.category).getD []) ++ [finding.classes])) initial

/-- The class set of a marker. -/
def aggregate (marker : Marker) (findings : List Finding) (categories : List Text) : ClassSet :=
  let perCategory : Dictionary (List Text) :=
    (grouped categories findings).map fun (name, groups) => (name, union groups)
  { marker
    «namespace» := resolveNamespace (some marker.namespace)
    classes := union (perCategory.map (·.2))
    categories := perCategory }

/-- What is reported of an aggregation. -/
def aggregationLog (result : Option ClassSet) : Log :=
  match result with
  | none => [⟨.debug, "No marker declaration; skipping aggregation"⟩]
  | some set =>
    let counts := set.categories.map fun (name, classes) =>
      name ++ ('=' : CodePoint) :: Text.ofNat classes.length
    let listed : Text := if counts.isEmpty then "none" else Text.join ", " counts
    [⟨.debug, "Aggregated " ++ Text.ofNat set.classes.length ++ " unique classes (" ++ listed ++
      ")"⟩]

end ClassSet
end ClassHarvest
