import ClassHarvest.Proofs.Cache.Opening

/-!
# What is recalled from the file of a cache

Findings are recalled just if all members of their objects are of their kinds.  Of the members of the
object for a marker only two are compared with their kinds, so a marker is recalled whatever its
namespace, its name, its path and its line are.
-/

namespace ClassHarvest

open Json (Object Value)
open Gathering

/-! ## Findings in objects -/

/-- A finding with the members of an object, each of its kind.  The line may be missing. -/
structure StoredFinding.HasMembersOf (finding : StoredFinding) (members : Object) : Prop where
  category : members.get? "category" = some (.string finding.category)
  path : members.get? "path" = some (.string finding.path)
  line : (members.get? "line").getD (.int 0) = finding.line
  whole : finding.line.whole?.isSome = true
  classes : members.get? "classes" = some (.array (finding.classes.map .string))

theorem mapM_string?_eq_some_iff {items : List Value} {texts : List Text} :
    items.mapM Value.string? = some texts ↔ items = texts.map .string := by
  rw [mapM_eq_some_iff_forall₂]
  simp only [Value.string?_eq_some_iff]
  rw [← List.forall₂_map_right_iff (R := Eq), List.forall₂_eq_eq_eq]

theorem StoredFinding.ofJson?_eq_some_iff {value : Value} {finding : StoredFinding} :
    ofJson? value = some finding ↔
      ∃ members, value = .object members ∧ finding.HasMembersOf members := by
  simp only [ofJson?, Option.bind_eq_bind, Option.bind_eq_some_iff, Value.object?_eq_some_iff,
    Value.string?_eq_some_iff, Value.array?_eq_some_iff, mapM_string?_eq_some_iff, Option.pure_def,
    Option.some.injEq]
  constructor
  · rintro ⟨members, rfl, _, isCategory, category, rfl, _, isPath, path, rfl, n, whole, _, areClasses,
      _, rfl, classes, rfl, rfl⟩
    exact ⟨members, rfl, isCategory, isPath, rfl, Option.isSome_of_eq_some whole, areClasses⟩
  · rintro ⟨members, rfl, has⟩
    obtain ⟨n, whole⟩ := Option.isSome_iff_exists.mp has.whole
    refine ⟨members, rfl, _, has.category, _, rfl, _, has.path, _, rfl, n, ?_, _, has.classes, _, rfl, _,
      rfl, ?_⟩
    · rw [has.line, whole]
    · rw [has.line]

/-! ## Markers in objects -/

/-- A marker with the members of an object.  The modifiers are a text and the class is static or not; the
other members are what they are.  The path and the line may be missing. -/
structure StoredMarker.HasMembersOf (marker : StoredMarker) (members : Object) : Prop where
  names : ∀ name ∈ members.keys, name ∈ memberNames
  «namespace» : members.get? "namespace" = some marker.namespace
  name : members.get? "name" = some marker.name
  modifiers : members.get? "modifiers" = some (.string marker.modifiers)
  isStatic : members.get? "is_static" = some (.bool marker.isStatic)
  path : (members.get? "path").getD (.string []) = marker.path
  line : (members.get? "line").getD (.int 0) = marker.line

theorem StoredMarker.ofJson?_eq_some_iff {value : Value} {marker : StoredMarker} :
    ofJson? value = some marker ↔
      ∃ members, value = .object members ∧ marker.HasMembersOf members := by
  simp only [ofJson?, Option.bind_eq_bind, Option.bind_eq_some_iff, Option.guard_eq_some',
    Value.object?_eq_some_iff, Value.string?_eq_some_iff, Option.pure_def, List.all_eq_true,
    List.contains_iff_mem]
  constructor
  · rintro ⟨members, rfl, -, names, _, isNamespace, _, isName, _, isModifiers, _, rfl, static, isStatic,
      made⟩
    cases static with
    | bool b =>
        cases made
        exact ⟨members, rfl, names, isNamespace, isName, isModifiers, isStatic, rfl, rfl⟩
    | _ => cases made
  · rintro ⟨members, rfl, has⟩
    refine ⟨members, rfl, (), has.names, _, has.namespace, _, has.name, _, has.modifiers, _, rfl, _,
      has.isStatic, ?_⟩
    rw [has.path, has.line]
    rfl

/-- A marker whose namespace, name and path are texts and whose line is a whole number. -/
structure StoredMarker.IsTyped (marker : StoredMarker) : Prop where
  «namespace» : ∃ text, marker.namespace = .string text
  name : ∃ text, marker.name = .string text
  path : ∃ text, marker.path = .string text
  line : marker.line.whole?.isSome = true

theorem StoredMarker.isTyped_iff {marker : StoredMarker} :
    marker.IsTyped ↔ marker.namespace.string?.isSome ∧ marker.name.string?.isSome ∧
      marker.path.string?.isSome ∧ marker.line.whole?.isSome := by
  simp only [Value.isSome_string?_iff]
  exact ⟨fun typed => ⟨typed.namespace, typed.name, typed.path, typed.line⟩,
    fun ⟨isNamespace, isName, isPath, isLine⟩ => ⟨isNamespace, isName, isPath, isLine⟩⟩

instance (marker : StoredMarker) : Decidable marker.IsTyped :=
  decidable_of_iff _ StoredMarker.isTyped_iff.symm

/-- The members of an object for a marker, each of its kind.  The path and the line may be missing. -/
structure AreMarkerMembers (members : Object) : Prop where
  names : ∀ name ∈ members.keys, name ∈ StoredMarker.memberNames
  «namespace» : ∃ text, members.get? "namespace" = some (.string text)
  name : ∃ text, members.get? "name" = some (.string text)
  modifiers : ∃ text, members.get? "modifiers" = some (.string text)
  isStatic : ∃ b, members.get? "is_static" = some (.bool b)
  path : ∀ value, members.get? "path" = some value → ∃ text, value = .string text
  line : ∀ value, members.get? "line" = some value → value.whole?.isSome = true

theorem areMarkerMembers_iff {members : Object} :
    AreMarkerMembers members ↔
      ∃ marker : StoredMarker, marker.HasMembersOf members ∧ marker.IsTyped := by
  constructor
  · intro are
    obtain ⟨space, isNamespace⟩ := are.namespace
    obtain ⟨name, isName⟩ := are.name
    obtain ⟨modifiers, areModifiers⟩ := are.modifiers
    obtain ⟨static, isStatic⟩ := are.isStatic
    refine ⟨⟨.string space, .string name, modifiers, static, _, _⟩,
      ⟨are.names, isNamespace, isName, areModifiers, isStatic, rfl, rfl⟩, ⟨⟨_, rfl⟩, ⟨_, rfl⟩, ?_, ?_⟩⟩
    · cases found : members.get? "path" with
      | none => exact ⟨[], rfl⟩
      | some value => exact are.path value found
    · cases found : members.get? "line" with
      | none => rfl
      | some value => exact are.line value found
  · rintro ⟨marker, has, typed⟩
    refine ⟨has.names, ?_, ?_, ⟨_, has.modifiers⟩, ⟨_, has.isStatic⟩, ?_, ?_⟩
    · obtain ⟨text, isText⟩ := typed.namespace
      exact ⟨text, isText ▸ has.namespace⟩
    · obtain ⟨text, isText⟩ := typed.name
      exact ⟨text, isText ▸ has.name⟩
    · intro value found
      have isPath := has.path
      rw [found, Option.getD_some] at isPath
      exact isPath ▸ typed.path
    · intro value found
      have isLine := has.line
      rw [found, Option.getD_some] at isLine
      exact isLine ▸ typed.line

theorem exists_isTyped_iff {value : Value} :
    (∃ marker, StoredMarker.ofJson? value = some marker ∧ marker.IsTyped) ↔
      ∃ members, value = .object members ∧ AreMarkerMembers members := by
  simp only [StoredMarker.ofJson?_eq_some_iff, areMarkerMembers_iff]
  constructor
  · rintro ⟨marker, ⟨members, rfl, has⟩, typed⟩
    exact ⟨members, rfl, marker, has, typed⟩
  · rintro ⟨members, rfl, marker, has, typed⟩
    exact ⟨marker, ⟨members, rfl, has⟩, typed⟩

/-! ## What is recalled -/

namespace ScanCache

/-- The content of a file with results under a key, a signature and a fingerprint. -/
def ContentHasResults (bytes : List UInt8) (key signature fingerprint : Text) (items : List Value) :
    Prop :=
  ∃ entries members : Object, ContentHasEntries bytes entries ∧
    entries.get? key = some (.object members) ∧
    members.get? "signature" = some (.string signature) ∧
    members.get? "fingerprint" = some (.string fingerprint) ∧
    members.get? "results" = some (.array items)

variable {disk : Disk} {path : Path} {bytes : List UInt8} {cache : ScanCache} {log : Log}

theorem kept?_eq_some_iff {α : Type} {ofJson? : Value → Option α} {key signature fingerprint : Text}
    {found : List α} :
    cache.kept? ofJson? key signature fingerprint = some found ↔
      ∃ entry items, cache.entries.get? key = some entry ∧ entry.signature = .string signature ∧
        entry.fingerprint = .string fingerprint ∧ entry.results = .array items ∧
        List.Forall₂ (fun item x => ofJson? item = some x) items found := by
  simp only [kept?, Option.bind_eq_bind, Option.bind_eq_some_iff, Option.guard_eq_some',
    Value.array?_eq_some_iff, mapM_eq_some_iff_forall₂]
  simp only [CacheEntry.isFor, Bool.and_eq_true, decide_eq_true_eq, Value.string?_eq_some_iff]
  constructor
  · rintro ⟨entry, isEntry, -, ⟨isSignature, isFingerprint⟩, items, areResults, all⟩
    exact ⟨entry, items, isEntry, isSignature, isFingerprint, areResults, all⟩
  · rintro ⟨entry, items, isEntry, isSignature, isFingerprint, areResults, all⟩
    exact ⟨entry, isEntry, (), ⟨isSignature, isFingerprint⟩, items, areResults, all⟩

/-- What is recalled from a file is what each of the results in it stands for. -/
theorem kept?_of_openAt {α : Type} {ofJson? : Value → Option α} (content : disk.read path = .ok bytes)
    (opened : openAt (some path) disk = .ok (cache, log)) {key signature fingerprint : Text}
    {found : List α} :
    cache.kept? ofJson? key signature fingerprint = some found ↔
      ∃ items, ContentHasResults bytes key signature fingerprint items ∧
        List.Forall₂ (fun item x => ofJson? item = some x) items found := by
  rw [kept?_eq_some_iff]
  constructor
  · rintro ⟨entry, items, isEntry, isSignature, isFingerprint, areResults, all⟩
    have some : ∃ entries, ContentHasEntries bytes entries := by
      by_contra none
      rw [entries_eq_nil_of_openAt content opened (not_exists.mp none)] at isEntry
      cases isEntry
    obtain ⟨entries, has⟩ := some
    obtain ⟨members, found, hasMembers⟩ :=
      ((get?_entries_of_openAt content opened has).2 key entry).mp isEntry
    exact ⟨items, ⟨entries, members, has, found, isSignature ▸ hasMembers.signature,
      isFingerprint ▸ hasMembers.fingerprint, areResults ▸ hasMembers.results⟩, all⟩
  · rintro ⟨items, ⟨entries, members, has, found, isSignature, isFingerprint, areResults⟩, all⟩
    exact ⟨⟨_, _, _, _⟩, items, ((get?_entries_of_openAt content opened has).2 key _).mpr
      ⟨members, found, isSignature, isFingerprint, areResults, rfl⟩, rfl, rfl, rfl, all⟩

theorem exists_markers_iff_of_openAt (content : disk.read path = .ok bytes)
    (opened : openAt (some path) disk = .ok (cache, log)) {key signature fingerprint : Text} :
    (∃ found, cache.markers key signature fingerprint = some found ∧
        ∀ marker ∈ found, marker.IsTyped) ↔
      ∃ items, ContentHasResults bytes key signature fingerprint items ∧
        ∀ item ∈ items, ∃ members, item = .object members ∧ AreMarkerMembers members := by
  simp only [← exists_isTyped_iff, ← exists_forall₂_iff]
  constructor
  · rintro ⟨found, isFound, typed⟩
    obtain ⟨items, has, all⟩ := (kept?_of_openAt content opened).mp isFound
    exact ⟨items, has, found, all, typed⟩
  · rintro ⟨items, has, found, all, typed⟩
    exact ⟨found, (kept?_of_openAt content opened).mpr ⟨items, has, all⟩, typed⟩

/-- Findings are recalled just if the results are objects with all members of a finding, each of its
kind.  Markers are recalled just if the results are objects with the members of a marker, of which the
modifiers are a text and the class is static or not; namespaces, names, paths and lines are recalled as
they are.  Markers of which these are of their kinds are recalled just if they are so in the objects. -/
theorem recalled_of_openAt (content : disk.read path = .ok bytes)
    (opened : openAt (some path) disk = .ok (cache, log)) (key signature fingerprint : Text) :
    (∀ found, cache.findings key signature fingerprint = some found ↔
      ∃ items, ContentHasResults bytes key signature fingerprint items ∧
        List.Forall₂ (fun item finding =>
          ∃ members, item = .object members ∧ StoredFinding.HasMembersOf finding members) items found) ∧
    (∀ found, cache.markers key signature fingerprint = some found ↔
      ∃ items, ContentHasResults bytes key signature fingerprint items ∧
        List.Forall₂ (fun item marker =>
          ∃ members, item = .object members ∧ StoredMarker.HasMembersOf marker members) items found) ∧
    ((∃ found, cache.markers key signature fingerprint = some found ∧
        ∀ marker ∈ found, marker.IsTyped) ↔
      ∃ items, ContentHasResults bytes key signature fingerprint items ∧
        ∀ item ∈ items, ∃ members, item = .object members ∧ AreMarkerMembers members) := by
  refine ⟨fun found => ?_, fun found => ?_, exists_markers_iff_of_openAt content opened⟩
  · simp only [findings, kept?_of_openAt content opened, StoredFinding.ofJson?_eq_some_iff]
  · simp only [markers, kept?_of_openAt content opened, StoredMarker.ofJson?_eq_some_iff]

theorem recalled_of_openAt_sample :
    sampleDisk.read samplePath = .ok sampleContent ∧
      (∃ cache log, openAt (some samplePath) sampleDisk = .ok (cache, log)) ∧
      ∃ items, ContentHasResults sampleContent "m" "s" "f" items ∧
        ∀ item ∈ items, ∃ members, item = .object members ∧ AreMarkerMembers members := by
  have content : sampleDisk.read samplePath = .ok sampleContent := rfl
  have outcome : (openAt (some samplePath) sampleDisk).toOption.any (fun opened =>
      (opened.1.markers "m" "s" "f").any fun found => decide (∀ marker ∈ found, marker.IsTyped)) =
        true := by
    decide +kernel
  cases opened : openAt (some samplePath) sampleDisk with
  | error error =>
      rw [opened] at outcome
      cases outcome
  | ok pair =>
      obtain ⟨cache, log⟩ := pair
      rw [opened, Except.toOption, Option.any_some] at outcome
      obtain ⟨found, isFound, typed⟩ := (Option.any_eq_true _ _).mp outcome
      exact ⟨content, ⟨cache, log, rfl⟩, (recalled_of_openAt content opened "m" "s" "f").2.2.mp
        ⟨found, isFound, of_decide_eq_true typed⟩⟩

-- A number in the place of the namespace is recalled.
example : (StoredMarker.ofJson? (.object [("namespace", .int 5), ("name", .string "Site"),
    ("modifiers", .string "partial"), ("is_static", .bool false)])).isSome = true := by
  decide

end ScanCache
end ClassHarvest
