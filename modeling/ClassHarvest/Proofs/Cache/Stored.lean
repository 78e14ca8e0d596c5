import ClassHarvest.Cache.Stored
import ClassHarvest.Proofs.Json.Objects
import Mathlib.Data.Option.Basic

/-!
# Findings and markers that are stored

What is stored of a finding or a marker is read back as the same finding or marker, in whatever order
the members of its object stand.  Written to a file and read again, its texts have their pairs of
surrogates joined, and nothing else is different.
-/

namespace ClassHarvest

open Json Gathering

/-! ## What the file changes -/

/-- A finding in whose texts pairs of surrogates are joined. -/
def Finding.joined (finding : Finding) : Finding where
  category := joinSurrogates finding.category
  path := joinSurrogates finding.path
  line := finding.line
  classes := finding.classes.map joinSurrogates

/-- A marker in whose texts pairs of surrogates are joined. -/
def Marker.joined (marker : Marker) : Marker where
  «namespace» := joinSurrogates marker.namespace
  name := joinSurrogates marker.name
  modifiers := joinSurrogates marker.modifiers
  isStatic := marker.isStatic
  path := joinSurrogates marker.path
  line := marker.line

@[simp]
theorem Finding.joined_joined (finding : Finding) : finding.joined.joined = finding.joined := by
  simp [Finding.joined]

@[simp]
theorem Marker.joined_joined (marker : Marker) : marker.joined.joined = marker.joined := by
  simp [Marker.joined]

theorem reread_strings (texts : List Text) :
    (Value.array (texts.map .string)).reread =
      .ok (.array ((texts.map joinSurrogates).map .string)) := by
  have all : (texts.map Value.string).mapM Value.reread =
      .ok ((texts.map joinSurrogates).map .string) := by
    induction texts with
    | nil => rfl
    | cons t texts ih =>
        rw [List.map_cons, mapM_eq_cons_iff]
        exact ⟨_, _, rfl, ih, rfl⟩
  rw [reread_array, all]
  rfl

theorem mapM_string? (texts : List Text) :
    (texts.map Value.string).mapM Value.string? = some texts := by
  induction texts with
  | nil => rfl
  | cons t texts ih =>
      rw [List.map_cons, List.mapM_cons, ih]
      rfl

/-! ## Findings -/

namespace Finding

/-- The members of the object that stands for a finding. -/
def members (finding : Finding) : Object := [
  ("category", .string finding.category), ("path", .string finding.path),
  ("line", .int finding.line), ("classes", .array (finding.classes.map .string))]

theorem toJson_eq (finding : Finding) : finding.toJson = .object finding.members :=
  rfl

theorem tidyNames_members (finding : Finding) : TidyNames finding.members.keys where
  nodup := by
    change (["category", "path", "line", "classes"] : List Text).Nodup
    decide
  joined := by
    change ∀ name ∈ (["category", "path", "line", "classes"] : List Text), joinSurrogates name = name
    decide

theorem floatFree_members (finding : Finding) : ∀ member ∈ finding.members, member.2.FloatFree := by
  intro member mem
  simp only [members, List.mem_cons, List.not_mem_nil, or_false] at mem
  rcases mem with rfl | rfl | rfl | rfl
  · exact Value.FloatFree.string _
  · exact Value.FloatFree.string _
  · exact Value.FloatFree.int _
  · refine Value.FloatFree.array fun item mem => ?_
    obtain ⟨t, _, rfl⟩ := List.mem_map.mp mem
    exact Value.FloatFree.string t

/-- A finding that is written to a file and read again. -/
theorem members_joined {finding : Finding} {members' : Object}
    (read : finding.members.mapM rereadOf = .ok members') : members' = finding.joined.members := by
  obtain ⟨_, _, category, behind1, rfl⟩ := mapM_eq_cons_iff.mp read
  obtain ⟨_, _, path, behind2, rfl⟩ := mapM_eq_cons_iff.mp behind1
  obtain ⟨_, _, line, behind3, rfl⟩ := mapM_eq_cons_iff.mp behind2
  obtain ⟨_, _, classes, behind4, rfl⟩ := mapM_eq_cons_iff.mp behind3
  rw [mapM_eq_nil_iff] at behind4
  obtain ⟨_, categoryRead, rfl⟩ := (rereadOf_eq_ok_iff (by decide)).mp category
  obtain ⟨_, pathRead, rfl⟩ := (rereadOf_eq_ok_iff (by decide)).mp path
  obtain ⟨_, lineRead, rfl⟩ := (rereadOf_eq_ok_iff (by decide)).mp line
  obtain ⟨_, classesRead, rfl⟩ := (rereadOf_eq_ok_iff (by decide)).mp classes
  rw [reread_strings] at classesRead
  cases categoryRead
  cases pathRead
  cases classesRead
  rw [reread_int_eq_ok lineRead, behind4]
  rfl

/-- A finding is read back from the object that stands for it. -/
theorem ofJson?_of_hasMembers {value : Value} {finding : Finding}
    (held : value.HasMembers finding.members) :
    (StoredFinding.ofJson? value).map StoredFinding.finding = some finding := by
  obtain ⟨given, isObject, same, _⟩ := held.object? finding.tidyNames_members.nodup
  have category : Dictionary.get? "category" finding.members = some (.string finding.category) := rfl
  have path : Dictionary.get? "path" finding.members = some (.string finding.path) := rfl
  have line : Dictionary.get? "line" finding.members = some (.int finding.line) := rfl
  have classes : Dictionary.get? "classes" finding.members =
      some (.array (finding.classes.map .string)) := rfl
  rw [StoredFinding.ofJson?, isObject]
  simp only [Option.bind_eq_bind, Option.bind_some, same, category, path, line, classes,
    Value.string?, Value.array?, Value.whole?, Option.getD_some, mapM_string?]
  rfl

end Finding

/-! ## Markers -/

namespace Marker

/-- The members of the object that stands for a marker. -/
def members (marker : Marker) : Object := [
  ("namespace", .string marker.namespace), ("name", .string marker.name),
  ("modifiers", .string marker.modifiers), ("is_static", .bool marker.isStatic),
  ("path", .string marker.path), ("line", .int marker.line)]

theorem toJson_eq (marker : Marker) : marker.toJson = .object marker.members :=
  rfl

theorem tidyNames_members (marker : Marker) : TidyNames marker.members.keys where
  nodup := by
    change StoredMarker.memberNames.Nodup
    decide
  joined := by
    change ∀ name ∈ StoredMarker.memberNames, joinSurrogates name = name
    decide

theorem floatFree_members (marker : Marker) : ∀ member ∈ marker.members, member.2.FloatFree := by
  intro member mem
  simp only [members, List.mem_cons, List.not_mem_nil, or_false] at mem
  rcases mem with rfl | rfl | rfl | rfl | rfl | rfl
  · exact Value.FloatFree.string _
  · exact Value.FloatFree.string _
  · exact Value.FloatFree.string _
  · exact Value.FloatFree.bool _
  · exact Value.FloatFree.string _
  · exact Value.FloatFree.int _

/-- A marker that is written to a file and read again. -/
theorem members_joined {marker : Marker} {members' : Object}
    (read : marker.members.mapM rereadOf = .ok members') : members' = marker.joined.members := by
  obtain ⟨_, _, namespace_, behind1, rfl⟩ := mapM_eq_cons_iff.mp read
  obtain ⟨_, _, name, behind2, rfl⟩ := mapM_eq_cons_iff.mp behind1
  obtain ⟨_, _, modifiers, behind3, rfl⟩ := mapM_eq_cons_iff.mp behind2
  obtain ⟨_, _, isStatic, behind4, rfl⟩ := mapM_eq_cons_iff.mp behind3
  obtain ⟨_, _, path, behind5, rfl⟩ := mapM_eq_cons_iff.mp behind4
  obtain ⟨_, _, line, behind6, rfl⟩ := mapM_eq_cons_iff.mp behind5
  rw [mapM_eq_nil_iff] at behind6
  obtain ⟨_, namespaceRead, rfl⟩ := (rereadOf_eq_ok_iff (by decide)).mp namespace_
  obtain ⟨_, nameRead, rfl⟩ := (rereadOf_eq_ok_iff (by decide)).mp name
  obtain ⟨_, modifiersRead, rfl⟩ := (rereadOf_eq_ok_iff (by decide)).mp modifiers
  obtain ⟨_, isStaticRead, rfl⟩ := (rereadOf_eq_ok_iff (by decide)).mp isStatic
  obtain ⟨_, pathRead, rfl⟩ := (rereadOf_eq_ok_iff (by decide)).mp path
  obtain ⟨_, lineRead, rfl⟩ := (rereadOf_eq_ok_iff (by decide)).mp line
  cases namespaceRead
  cases nameRead
  cases modifiersRead
  cases isStaticRead
  cases pathRead
  rw [reread_int_eq_ok lineRead, behind6]
  rfl

/-- A marker is read back from the object that stands for it. -/
theorem ofJson?_of_hasMembers {value : Value} {marker : Marker}
    (held : value.HasMembers marker.members) :
    (StoredMarker.ofJson? value).map StoredMarker.marker = some marker := by
  obtain ⟨given, isObject, same, perm⟩ := held.object? marker.tidyNames_members.nodup
  have known : given.keys.all StoredMarker.memberNames.contains = true := by
    rw [List.all_eq_true]
    intro name mem
    have inside : name ∈ marker.members.keys :=
      (perm.map fun member : Text × Value => member.1).mem_iff.mp mem
    exact List.contains_iff_mem.mpr inside
  have namespace_ : Dictionary.get? "namespace" marker.members =
      some (.string marker.namespace) := rfl
  have name : Dictionary.get? "name" marker.members = some (.string marker.name) := rfl
  have modifiers : Dictionary.get? "modifiers" marker.members =
      some (.string marker.modifiers) := rfl
  have isStatic : Dictionary.get? "is_static" marker.members =
      some (.bool marker.isStatic) := rfl
  have path : Dictionary.get? "path" marker.members = some (.string marker.path) := rfl
  have line : Dictionary.get? "line" marker.members = some (.int marker.line) := rfl
  rw [StoredMarker.ofJson?, isObject]
  simp only [Option.bind_eq_bind, Option.bind_some, known, guard, if_true, same, namespace_, name,
    modifiers, isStatic, path, line, Value.string?, Option.getD_some]
  rfl

end Marker
end ClassHarvest
