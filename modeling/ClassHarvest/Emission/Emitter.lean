import ClassHarvest.ClassSet
import ClassHarvest.Emission.Artifact
import ClassHarvest.Emission.Source
import ClassHarvest.Settings.ConfigError

/-!
# Emission of a class set

In combined mode one file holds a method with all class names.  In categories mode each category has
a file with a method of its own, and one more file holds a method with their union.
-/

namespace ClassHarvest.Emission

/-- How class sets are emitted. -/
structure Emitter where
  /-- One method or one for each category. -/
  mode : Mode
  /-- The methods of categories, where they are not named after the category. -/
  accessors : Dictionary Text
deriving Repr

/-- The number of class names of each category, in words. -/
def categoryCounts (set : ClassSet) : List Text :=
  set.categories.map fun (category, classes) =>
    category ++ ": " ++ Text.ofNat classes.length ++ " " ++
      (if classes.length = 1 then Text.ofString "class" else Text.ofString "classes")

/-- The class that receives the methods. -/
def targetOf (set : ClassSet) : Target :=
  ⟨set.namespace, set.marker.name, set.marker.modifiers⟩

namespace Emitter

/-- An emitter with some methods named in addition to the usual ones. -/
def withAccessors (mode : Mode) (accessors : Dictionary Text) : Emitter :=
  ⟨mode, defaultAccessors.update accessors⟩

/-- An emitter whose mode is given by name. -/
def ofModeName (name : Text) (accessors : Dictionary Text) : Except ConfigError Emitter :=
  match Mode.ofName? name with
  | some mode => .ok (withAccessors mode accessors)
  | none => .error (.unknownMode name)

/-- The method of a category. -/
def accessorFor (emitter : Emitter) (category : Text) : Text :=
  match emitter.accessors.get? category with
  | some name => if name.isEmpty then accessorName category else name
  | none => accessorName category

/-- The file with all class names. -/
def combined (set : ClassSet) : Artifact where
  name := combinedArtifact
  text := Accessor.render {
    target := targetOf set
    name := combinedAccessor
    visibility := "public"
    literals := set.classes
    summary := combinedSummary
    remarks := categoryCounts set }

/-- The file with the class names of one category. -/
def ofCategory (emitter : Emitter) (set : ClassSet) (category : Text) (classes : List Text) :
    Artifact where
  name := artifactName category
  text := Accessor.render {
    target := targetOf set
    name := emitter.accessorFor category
    visibility := "private"
    literals := classes }

/-- The file with the union of all categories. -/
def unionOf (emitter : Emitter) (set : ClassSet) : Artifact where
  name := combinedArtifact
  text := Combiner.render {
    target := targetOf set
    name := combinedAccessor
    sources := set.categories.map fun (category, _) => emitter.accessorFor category }

/-- The files for a class set. -/
def emit (emitter : Emitter) (set : ClassSet) : List Artifact :=
  match emitter.mode with
  | .combined => [combined set]
  | .categories =>
    set.categories.map (fun (category, classes) => emitter.ofCategory set category classes) ++
      [emitter.unionOf set]

end Emitter
end ClassHarvest.Emission
