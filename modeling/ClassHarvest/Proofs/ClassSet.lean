import ClassHarvest.ClassSet
import ClassHarvest.Proofs.Dictionary
import Mathlib.Data.List.Forall2
import Mathlib.Data.List.Induction
import Mathlib.Data.List.Nodup

/-!
# Groups of findings

The groups of an aggregation are the categories that are given and then those of the findings, in order
of first occurrence, each with the findings that belong to it.  When the findings come in the order of
the categories, the names of all groups are those of the findings, in the same order.
-/

namespace ClassHarvest

/-! ## First occurrences -/

/-- The first occurrences are what remains when repetitions are erased. -/
theorem firstOccurrences_eq_eraseDups {α : Type} [DecidableEq α] [BEq α] [LawfulBEq α]
    (xs : List α) :
    firstOccurrences xs = xs.eraseDups := by
  have loop (seen : List α) :
      (xs.foldl (fun seen x => if x ∈ seen then seen else x :: seen) seen).reverse =
        List.eraseDupsBy.loop (· == ·) xs seen := by
    induction xs generalizing seen with
    | nil => rfl
    | cons x xs ih =>
        rw [List.foldl_cons, ih, List.eraseDupsBy.loop]
        by_cases member : x ∈ seen
        · have found : (seen.any fun y => x == y) = true := by simpa using member
          rw [if_pos member, found]
        · have absent : (seen.any fun y => x == y) = false := by
            rw [List.any_beq]
            simpa using member
          rw [if_neg member, absent]
  have whole := loop []
  unfold firstOccurrences
  convert whole
  rfl

section

variable {α : Type} [DecidableEq α]

/-- A member in front of others, unless it is one of them. -/
def prependNew (seen : List α) (x : α) : List α :=
  if x ∈ seen then seen else x :: seen

theorem mem_prependNew {seen : List α} {x y : α} : y ∈ prependNew seen x ↔ y ∈ seen ∨ y = x := by
  unfold prependNew
  split
  · next member =>
      refine ⟨Or.inl, ?_⟩
      rintro (earlier | rfl)
      · exact earlier
      · exact member
  · rw [List.mem_cons, or_comm]

theorem nodup_prependNew {seen : List α} (nodup : seen.Nodup) (x : α) : (prependNew seen x).Nodup := by
  unfold prependNew
  split
  · exact nodup
  · next absent => exact List.nodup_cons.mpr ⟨absent, nodup⟩

theorem mem_foldl_prependNew {seen xs : List α} {y : α} :
    y ∈ xs.foldl prependNew seen ↔ y ∈ seen ∨ y ∈ xs := by
  induction xs generalizing seen with
  | nil => simp
  | cons x xs ih => rw [List.foldl_cons, ih, mem_prependNew, List.mem_cons, or_assoc]

theorem firstOccurrences_eq (xs : List α) : firstOccurrences xs = (xs.foldl prependNew []).reverse :=
  rfl

theorem firstOccurrences_concat (xs : List α) (x : α) : firstOccurrences (xs ++ [x]) =
    if x ∈ xs then firstOccurrences xs else firstOccurrences xs ++ [x] := by
  have member : x ∈ xs.foldl prependNew [] ↔ x ∈ xs := by simp [mem_foldl_prependNew]
  rw [firstOccurrences_eq, firstOccurrences_eq, List.foldl_append, List.foldl_cons, List.foldl_nil,
    prependNew]
  split
  · next isMember => rw [if_pos (member.mp isMember)]
  · next absent => rw [if_neg (fun inside => absent (member.mpr inside)), List.reverse_cons]

theorem nodup_firstOccurrences (xs : List α) : (firstOccurrences xs).Nodup := by
  rw [firstOccurrences_eq, List.nodup_reverse]
  induction xs using List.reverseRecOn with
  | nil => exact List.nodup_nil
  | append_singleton xs x ih =>
      rw [List.foldl_append]
      exact nodup_prependNew ih x

theorem mem_firstOccurrences {xs : List α} {x : α} : x ∈ firstOccurrences xs ↔ x ∈ xs := by
  simp [firstOccurrences_eq, mem_foldl_prependNew]

theorem firstOccurrences_eq_self {xs : List α} (nodup : xs.Nodup) : firstOccurrences xs = xs := by
  induction xs using List.reverseRecOn with
  | nil => rfl
  | append_singleton xs x ih =>
      rw [List.nodup_append] at nodup
      have absent : x ∉ xs := fun mem => nodup.2.2 x mem x (List.mem_singleton_self x) rfl
      rw [firstOccurrences_concat, if_neg absent, ih nodup.1]

/-- Members that occur already change nothing. -/
theorem firstOccurrences_append_of_subset {xs ys : List α} (known : ys ⊆ xs) :
    firstOccurrences (xs ++ ys) = firstOccurrences xs := by
  induction ys using List.reverseRecOn with
  | nil => rw [List.append_nil]
  | append_singleton ys y ih =>
      have isKnown : y ∈ xs ++ ys := List.mem_append_left ys (known (by simp))
      rw [← List.append_assoc, firstOccurrences_concat, if_pos isKnown,
        ih fun z mem => known (List.mem_append_left _ mem)]

/-- To whatever members there are, a list adds the same as its first occurrences. -/
theorem foldl_firstOccurrences (seen xs : List α) :
    (firstOccurrences xs).foldl prependNew seen = xs.foldl prependNew seen := by
  induction xs using List.reverseRecOn with
  | nil => rfl
  | append_singleton xs x ih =>
      rw [firstOccurrences_concat, List.foldl_append]
      split
      · next member =>
          have isSeen : x ∈ xs.foldl prependNew seen := mem_foldl_prependNew.mpr (Or.inr member)
          rw [ih, List.foldl_cons, List.foldl_nil, prependNew, if_pos isSeen]
      · rw [List.foldl_append, ih]

end

/-! ## Dictionaries with given keys -/

namespace Dictionary

variable {α : Type}

/-- A dictionary with given keys, whose values depend on them, has the value of each key. -/
theorem get?_map_of_mem {keys : List Text} {key : Text} (value : Text → α)
    (member : key ∈ keys) :
    get? key (keys.map fun key => (key, value key)) = some (value key) := by
  induction keys with
  | nil => cases member
  | cons first rest ih =>
      rw [List.map_cons, get?_cons]
      by_cases same : first = key
      · rw [if_pos same, same]
      · rw [if_neg same]
        rcases List.mem_cons.mp member with rfl | member
        · exact absurd rfl same
        · exact ih member

/-- A new value for one of the keys changes nothing else. -/
theorem put_map_of_mem {keys : List Text} (nodup : keys.Nodup) {key : Text} (value : Text → α)
    (new : α) (member : key ∈ keys) :
    put key new (keys.map fun key => (key, value key)) =
      keys.map fun other => (other, if other = key then new else value other) := by
  induction keys with
  | nil => cases member
  | cons first rest ih =>
      rw [List.nodup_cons] at nodup
      rw [List.map_cons, List.map_cons, put]
      by_cases same : first = key
      · subst same
        rw [if_pos rfl, if_pos rfl]
        have others : ∀ other ∈ rest, other ≠ first := by
          rintro other inRest rfl
          exact nodup.1 inRest
        congr 1
        apply List.map_congr_left
        intro other inRest
        rw [if_neg (others other inRest)]
      · rw [if_neg same, if_neg same]
        rcases List.mem_cons.mp member with rfl | member
        · exact absurd rfl same
        · rw [ih nodup.2 member]

theorem keys_map_pair {keys : List Text} (value : Text → α) :
    Dictionary.keys (keys.map fun key => (key, value key)) = keys := by
  simp [Dictionary.keys, Function.comp_def]

theorem ofPairs_concat (pairs : List (Text × α)) (pair : Text × α) :
    ofPairs (pairs ++ [pair]) = put pair.1 pair.2 (ofPairs pairs) := by
  simp [ofPairs, List.foldl_append]

/-- A dictionary of pairs with one value has each of the keys once, with this value. -/
theorem ofPairs_map_const (keys : List Text) (value : α) :
    ofPairs (keys.map fun key => (key, value)) =
      (firstOccurrences keys).map fun key => (key, value) := by
  induction keys using List.reverseRecOn with
  | nil => rfl
  | append_singleton keys key ih =>
      rw [List.map_append, List.map_singleton, ofPairs_concat, ih, firstOccurrences_concat]
      split
      · next known =>
          have same := put_map_of_mem (nodup_firstOccurrences keys) (fun _ => value) value
            (mem_firstOccurrences.mpr known)
          simpa only [ite_self] using same
      · next new =>
          have absent : key ∉ Dictionary.keys ((firstOccurrences keys).map fun key => (key, value)) := by
            rwa [keys_map_pair fun _ => value, mem_firstOccurrences]
          rw [put_of_not_mem absent, List.map_append, List.map_singleton]

end Dictionary

namespace ClassSet

open Dictionary

theorem mem_union {groups : List (List Text)} {name : Text} :
    name ∈ union groups ↔ ∃ group ∈ groups, name ∈ group := by
  rw [union, firstOccurrences_eq_eraseDups, List.mem_eraseDups, List.mem_flatten]

/-! ## Unions -/

theorem nodup_union (groups : List (List Text)) : (union groups).Nodup :=
  nodup_firstOccurrences _

/-- The union of some unions is the union of all their groups. -/
theorem union_map_union (groups : List (List (List Text))) :
    union (groups.map union) = union groups.flatten := by
  have folded (seen : List Text) : (groups.map union).flatten.foldl prependNew seen =
      groups.flatten.flatten.foldl prependNew seen := by
    induction groups generalizing seen with
    | nil => rfl
    | cons group groups ih =>
        rw [List.map_cons, List.flatten_cons, List.flatten_cons, List.flatten_append,
          List.foldl_append, List.foldl_append, ih]
        congr 1
        exact foldl_firstOccurrences seen group.flatten
  rw [union, union, firstOccurrences_eq, firstOccurrences_eq, folded]

/-! ## Groups -/

/-- The groups of class names that the findings of a category have. -/
def groupOf (findings : List Finding) (category : Text) : List (List Text) :=
  (findings.filter fun finding => finding.category = category).map (·.classes)

theorem groupOf_append (findings others : List Finding) (category : Text) :
    groupOf (findings ++ others) category =
      groupOf findings category ++ groupOf others category := by
  simp [groupOf]

/-- The findings of one category are a group for it, and none for any other. -/
theorem groupOf_eq {findings : List Finding} {own : Text}
    (same : ∀ finding ∈ findings, finding.category = own) (category : Text) :
    groupOf findings category = if own = category then findings.map (·.classes) else [] := by
  unfold groupOf
  by_cases equal : own = category
  · rw [if_pos equal, List.filter_eq_self.mpr]
    intro finding member
    simp [same finding member, equal]
  · rw [if_neg equal, List.filter_eq_nil_iff.mpr]
    · rfl
    · intro finding member
      simp [same finding member, equal]

/-- One more finding puts its class names behind those of its category. -/
theorem grouped_concat (categories : List Text) (findings : List Finding) (finding : Finding) :
    grouped categories (findings ++ [finding]) = put finding.category
      (((grouped categories findings).get? finding.category).getD [] ++ [finding.classes])
      (grouped categories findings) := by
  rw [grouped, List.foldl_append]
  rfl

/-- The groups are those of the given categories and then of the other categories of findings, in order
of first occurrence. -/
theorem grouped_eq_map (categories : List Text) (findings : List Finding) :
    grouped categories findings =
      (firstOccurrences (categories ++ findings.map (·.category))).map fun category =>
        (category, groupOf findings category) := by
  induction findings using List.reverseRecOn with
  | nil =>
      rw [List.map_nil, List.append_nil]
      exact ofPairs_map_const categories []
  | append_singleton findings finding ih =>
      rw [grouped_concat, ih, List.map_append, List.map_singleton, ← List.append_assoc,
        firstOccurrences_concat]
      generalize names : categories ++ findings.map (·.category) = known
      have own : groupOf [finding] finding.category = [finding.classes] := by simp [groupOf]
      have other {category : Text} (differs : category ≠ finding.category) :
          groupOf [finding] category = [] := by simp [groupOf, Ne.symm differs]
      split
      · next isKnown =>
          rw [get?_map_of_mem _ (mem_firstOccurrences.mpr isKnown),
            put_map_of_mem (nodup_firstOccurrences known) _ _ (mem_firstOccurrences.mpr isKnown)]
          apply List.map_congr_left
          intro category _
          rw [groupOf_append]
          split
          · next same => rw [same, own, Option.getD_some]
          · next differs => rw [other differs, List.append_nil]
      · next isNew =>
          have absent : finding.category ∉ Dictionary.keys ((firstOccurrences known).map fun category =>
              (category, groupOf findings category)) := by
            rwa [keys_map_pair, mem_firstOccurrences]
          have first : groupOf findings finding.category = [] := by
            rw [groupOf, List.filter_eq_nil_iff.mpr, List.map_nil]
            intro earlier mem same
            apply isNew
            rw [← names, ← of_decide_eq_true same]
            exact List.mem_append_right _ (List.mem_map_of_mem mem)
          rw [get?_eq_none_iff.mpr absent, put_of_not_mem absent, List.map_append, List.map_singleton,
            groupOf_append, first, own, Option.getD_none]
          congr 1
          apply List.map_congr_left
          intro category mem
          have differs : category ≠ finding.category :=
            fun same => isNew (same ▸ mem_firstOccurrences.mp mem)
          rw [groupOf_append, other differs, List.append_nil]

/-- The groups of findings that belong to given categories. -/
theorem grouped_eq {categories : List Text} (nodup : categories.Nodup) {findings : List Finding}
    (known : ∀ finding ∈ findings, finding.category ∈ categories) :
    grouped categories findings =
      categories.map fun category => (category, groupOf findings category) := by
  rw [grouped_eq_map, firstOccurrences_append_of_subset (List.forall_mem_map.mpr known),
    firstOccurrences_eq_self nodup]

/-- The class names of given categories. -/
theorem categories_aggregate {categories : List Text} (nodup : categories.Nodup)
    {findings : List Finding} (known : ∀ finding ∈ findings, finding.category ∈ categories)
    (marker : Marker) : (aggregate marker findings categories).categories =
      categories.map fun category => (category, union (groupOf findings category)) := by
  unfold aggregate
  rw [grouped_eq nodup known, List.map_map]
  rfl

/-- Every category of a class set is given or is that of a finding. -/
theorem of_mem_keys_aggregate {marker : Marker} {categories : List Text} {findings : List Finding}
    {category : Text} (mem : category ∈ (aggregate marker findings categories).categories.keys) :
    category ∈ categories ∨ ∃ finding ∈ findings, finding.category = category := by
  rw [aggregate, Dictionary.keys_map, grouped_eq_map, keys_map_pair, mem_firstOccurrences,
    List.mem_append, List.mem_map] at mem
  exact mem

/-! ## Findings in the order of their categories -/

theorem known_of_forall₂ {categories : List Text} {found : List (List Finding)}
    (each : List.Forall₂ (fun category findings =>
      ∀ finding ∈ findings, finding.category = category) categories found) :
    ∀ finding ∈ found.flatten, finding.category ∈ categories := by
  intro finding mem
  obtain ⟨inCategory, isGroup, isFinding⟩ := List.mem_flatten.mp mem
  rw [← List.map_snd_zip (Nat.le_of_eq each.length_eq.symm)] at isGroup
  obtain ⟨⟨category, inCategory⟩, isPair, rfl⟩ := List.mem_map.mp isGroup
  rw [(List.forall₂_iff_zip.mp each).2 isPair finding isFinding]
  exact (List.of_mem_zip isPair).1

/-- When findings come category by category, so do their groups. -/
theorem flatMap_groupOf {categories : List Text} (nodup : categories.Nodup)
    {found : List (List Finding)} (each : List.Forall₂ (fun category findings =>
      ∀ finding ∈ findings, finding.category = category) categories found) :
    categories.flatMap (groupOf found.flatten) = found.flatten.map (·.classes) := by
  induction each with
  | nil => rfl
  | @cons category findings categories found own others ih =>
      rw [List.nodup_cons] at nodup
      have later := known_of_forall₂ others
      have first : groupOf (findings ++ found.flatten) category = findings.map (·.classes) := by
        have none : groupOf found.flatten category = [] := by
          rw [groupOf, List.filter_eq_nil_iff.mpr, List.map_nil]
          intro finding mem
          have other : finding.category ≠ category := fun same => nodup.1 (same ▸ later finding mem)
          simpa using other
        rw [groupOf_append, none, groupOf_eq own, if_pos rfl, List.append_nil]
      have rest : ∀ other ∈ categories,
          groupOf (findings ++ found.flatten) other = groupOf found.flatten other := by
        intro other mem
        have differs : category ≠ other := fun same => nodup.1 (same ▸ mem)
        rw [groupOf_append, groupOf_eq own, if_neg differs, List.nil_append]
      rw [List.flatten_cons, List.flatMap_cons, first, List.flatMap_congr rest, ih nodup.2,
        List.map_append]

/-- When findings come category by category, the class names of all categories are those of the
findings, in the same order. -/
theorem classes_aggregate {categories : List Text} (nodup : categories.Nodup)
    {found : List (List Finding)} (each : List.Forall₂ (fun category findings =>
      ∀ finding ∈ findings, finding.category = category) categories found)
    (marker : Marker) :
    (aggregate marker found.flatten categories).classes = union (found.flatten.map (·.classes)) := by
  change union ((aggregate marker found.flatten categories).categories.map (·.2)) = _
  have groups : categories.map (fun category => union (groupOf found.flatten category)) =
      (categories.map (groupOf found.flatten)).map union := by
    rw [List.map_map]
    rfl
  rw [categories_aggregate nodup (known_of_forall₂ each), List.map_map]
  change union (categories.map fun category => union (groupOf found.flatten category)) = _
  rw [groups, union_map_union, ← List.flatMap_def, flatMap_groupOf nodup each]

end ClassSet
end ClassHarvest
