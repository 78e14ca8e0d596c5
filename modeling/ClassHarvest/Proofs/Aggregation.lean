import ClassHarvest.Proofs.ClassSet

/-!
# The class set as a union

An aggregation is the union of its findings: each category has the class names of its findings, the
class set has those of all categories, and neither has one twice.  How the findings of different
categories stand between each other has no influence, as long as the categories are given.
-/

namespace ClassHarvest.ClassSet

open Dictionary

variable {findings : List Finding} {categories : List Text} {category name : Text}

/-! ## Categories -/

theorem categories_aggregate_eq_map (marker : Marker) (findings : List Finding)
    (categories : List Text) : (aggregate marker findings categories).categories =
      (firstOccurrences (categories ++ findings.map (·.category))).map fun category =>
        (category, union (groupOf findings category)) := by
  rw [aggregate, grouped_eq_map]
  exact List.map_map

/-- The categories of a class set: those that are given, then the others that findings have. -/
theorem keys_aggregate_eq_append (marker : Marker) (findings : List Finding)
    (categories : List Text) : (aggregate marker findings categories).categories.keys =
      categories.eraseDups ++ ((findings.map (·.category)).removeAll categories).eraseDups := by
  rw [categories_aggregate_eq_map, keys_map_pair, firstOccurrences_eq_eraseDups,
    List.eraseDups_append]

theorem mem_categories_aggregate {marker : Marker} {names : List Text} :
    (category, names) ∈ (aggregate marker findings categories).categories ↔
      (category ∈ categories ∨ ∃ finding ∈ findings, finding.category = category) ∧
        union (groupOf findings category) = names := by
  rw [categories_aggregate_eq_map, List.mem_map]
  simp only [mem_firstOccurrences, List.mem_append, List.mem_map, Prod.mk.injEq]
  constructor
  · rintro ⟨_, isKey, rfl, same⟩
    exact ⟨isKey, same⟩
  · rintro ⟨isKey, same⟩
    exact ⟨category, isKey, rfl, same⟩

/-- The union of the groups of a category are the class names of its findings. -/
theorem union_groupOf (findings : List Finding) (category : Text) :
    union (groupOf findings category) =
      ((findings.filter (·.category = category)).flatMap (·.classes)).eraseDups := by
  rw [union, firstOccurrences_eq_eraseDups, groupOf, ← List.flatMap_def]

/-! ## Class names -/

theorem classes_aggregate_eq (marker : Marker) (findings : List Finding) (categories : List Text) :
    (aggregate marker findings categories).classes =
      ((aggregate marker findings categories).categories.flatMap (·.2)).eraseDups := by
  rw [← firstOccurrences_eq_eraseDups, List.flatMap_def]
  rfl

/-- A class set has exactly the class names of its findings: no finding is without a category. -/
theorem mem_classes_aggregate {marker : Marker} :
    name ∈ (aggregate marker findings categories).classes ↔
      ∃ finding ∈ findings, name ∈ finding.classes := by
  rw [classes_aggregate_eq, List.mem_eraseDups, List.mem_flatMap]
  constructor
  · rintro ⟨⟨category, names⟩, isCategory, isName⟩
    obtain ⟨-, rfl⟩ := mem_categories_aggregate.mp isCategory
    obtain ⟨_, isGroup, isName⟩ := mem_union.mp isName
    obtain ⟨finding, isOwn, rfl⟩ := List.mem_map.mp isGroup
    exact ⟨finding, List.mem_of_mem_filter isOwn, isName⟩
  · rintro ⟨finding, isFinding, isName⟩
    have isOwn : finding ∈ findings.filter fun other => other.category = finding.category :=
      List.mem_filter.mpr ⟨isFinding, decide_eq_true rfl⟩
    exact ⟨(finding.category, union (groupOf findings finding.category)),
      mem_categories_aggregate.mpr ⟨Or.inr ⟨finding, isFinding, rfl⟩, rfl⟩,
      mem_union.mpr ⟨finding.classes, List.mem_map_of_mem isOwn, isName⟩⟩

/-! ## Interleaving -/

/-- Findings of given categories that agree category by category make the same class set. -/
theorem aggregate_eq_of_filter_eq (marker : Marker) {others : List Finding}
    (known : ∀ finding ∈ findings, finding.category ∈ categories)
    (known' : ∀ finding ∈ others, finding.category ∈ categories)
    (same : ∀ category, findings.filter (·.category = category) =
      others.filter (·.category = category)) :
    aggregate marker findings categories = aggregate marker others categories := by
  have groups : grouped categories findings = grouped categories others := by
    rw [grouped_eq_map, grouped_eq_map,
      firstOccurrences_append_of_subset (List.forall_mem_map.mpr known),
      firstOccurrences_append_of_subset (List.forall_mem_map.mpr known')]
    apply List.map_congr_left
    intro category _
    rw [groupOf, groupOf, same]
  rw [aggregate, aggregate, groups]

/-! ## The class set -/

/-- An aggregation unites its findings.  The categories are the given ones and then the others of
findings; each has the class names of its findings, without repetitions; the class set has exactly the
class names of all findings, without repetitions, in the order of the categories; and the order of
findings counts only within a category, if all categories are given. -/
theorem aggregate_unites (marker : Marker) (findings : List Finding) (categories : List Text) :
    (aggregate marker findings categories).categories.keys =
      categories.eraseDups ++ ((findings.map (·.category)).removeAll categories).eraseDups ∧
    (∀ category names, (category, names) ∈ (aggregate marker findings categories).categories →
      names = ((findings.filter (·.category = category)).flatMap (·.classes)).eraseDups) ∧
    (aggregate marker findings categories).classes.Nodup ∧
    (∀ name, name ∈ (aggregate marker findings categories).classes ↔
      ∃ finding ∈ findings, name ∈ finding.classes) ∧
    (aggregate marker findings categories).classes =
      ((aggregate marker findings categories).categories.flatMap (·.2)).eraseDups ∧
    ∀ others : List Finding, (∀ finding ∈ findings, finding.category ∈ categories) →
      (∀ finding ∈ others, finding.category ∈ categories) →
      (∀ category, findings.filter (·.category = category) =
        others.filter (·.category = category)) →
      aggregate marker findings categories = aggregate marker others categories := by
  refine ⟨keys_aggregate_eq_append marker findings categories, ?_, nodup_union _,
    fun name => mem_classes_aggregate, classes_aggregate_eq marker findings categories,
    fun others known known' same => aggregate_eq_of_filter_eq marker known known' same⟩
  intro category names isCategory
  obtain ⟨-, rfl⟩ := mem_categories_aggregate.mp isCategory
  exact union_groupOf findings category

/-- Findings of two categories that share a class name, in two orders. -/
theorem aggregate_unites_shared :
    aggregate ⟨"", "MonorailCSS", "partial", false, "A.cs", 1⟩
        [⟨"files", "a.razor", 0, ["p-4", "card"]⟩, ⟨"helpers", "A.cs", 3, ["card", "flex"]⟩,
          ⟨"files", "b.razor", 0, ["flex", "p-4"]⟩] ["helpers", "files", "helpers"] =
      aggregate ⟨"", "MonorailCSS", "partial", false, "A.cs", 1⟩
        [⟨"helpers", "A.cs", 3, ["card", "flex"]⟩, ⟨"files", "a.razor", 0, ["p-4", "card"]⟩,
          ⟨"files", "b.razor", 0, ["flex", "p-4"]⟩] ["helpers", "files", "helpers"] := by
  refine (aggregate_unites _ _ _).2.2.2.2.2 _ (by decide) (by decide) fun category => ?_
  by_cases isFiles : ("files" : Text) = category
  · have notHelpers : ("helpers" : Text) ≠ category := isFiles ▸ by decide
    simp [isFiles, notHelpers]
  · simp [isFiles, List.filter_cons]

end ClassHarvest.ClassSet
