import ClassHarvest.Proofs.Emission.Reading

/-!
# Emission keeps the class set

Both modes of emission say the same: the files read back to the class names of the set, as a whole and
by category.
-/

namespace ClassHarvest.Emission

/-- The methods of the categories of a class set are identifiers, all different, and none of them is the
method with all class names. -/
structure NamesApart (emitter : Emitter) (set : ClassSet) : Prop where
  /-- Each is an identifier. -/
  identifiers : ∀ category ∈ set.categories.keys, isIdentifierText (emitter.accessorFor category) = true
  /-- They differ from each other. -/
  nodup : (set.categories.keys.map emitter.accessorFor).Nodup
  /-- They differ from the method with all class names. -/
  apart : combinedAccessor ∉ set.categories.keys.map emitter.accessorFor

/-- Of members with different keys exactly one has a key. -/
theorem filter_key_eq_singleton {α : Type} {key : α → Text} {xs : List α} (nodup : (xs.map key).Nodup)
    {x : α} (mem : x ∈ xs) : xs.filter (fun y => key y == key x) = [x] := by
  induction xs with
  | nil => cases mem
  | cons y ys ih =>
      rw [List.map_cons, List.nodup_cons] at nodup
      rcases List.mem_cons.mp mem with rfl | mem
      · have noneElse : ys.filter (fun y => key y == key x) = [] := by
          rw [List.filter_eq_nil_iff]
          intro y isOther same
          exact nodup.1 (List.mem_map.mpr ⟨y, isOther, beq_iff_eq.mp same⟩)
        rw [List.filter_cons_of_pos (by simp), noneElse]
      · have differs : (key y == key x) = false := by
          rw [beq_eq_false_iff_ne]
          intro same
          exact nodup.1 (same ▸ List.mem_map_of_mem mem)
        rw [List.filter_cons_of_neg (by simp [differs]), ih nodup.2 mem]

/-- The union of the methods for the categories of a class set. -/
def Emitter.combinerOf (emitter : Emitter) (set : ClassSet) : Combiner where
  target := targetOf set
  name := combinedAccessor
  sources := set.categories.map fun (category, _) => emitter.accessorFor category

theorem Emitter.unionOf_eq (emitter : Emitter) (set : ClassSet) :
    emitter.unionOf set = ⟨combinedArtifact, (emitter.combinerOf set).render⟩ :=
  rfl

theorem isIdentifierText_combinedAccessor : isIdentifierText combinedAccessor = true := by
  decide +kernel

section

variable {emitter : Emitter} {set : ClassSet}

/-- The file of a category declares the method of the category and gives its class names. -/
theorem method_ofCategory {category : Text} (classes : List Text)
    (named : isIdentifierText (emitter.accessorFor category) = true) :
    (∃ method, (emitter.ofCategory set category classes).method? = some method ∧
      method.name = emitter.accessorFor category) ∧
    (emitter.ofCategory set category classes).array? = some classes := by
  let accessor : Accessor := {
    target := targetOf set
    name := emitter.accessorFor category
    visibility := "private"
    literals := classes }
  have visible : accessor.visibility = Text.ofString "public" ∨
      accessor.visibility = Text.ofString "private" := .inr rfl
  exact read_accessor visible named (artifactName category)

/-- The file with the union declares the method with all class names and takes those of the
categories. -/
theorem method_unionOf
    (named : ∀ category ∈ set.categories.keys, isIdentifierText (emitter.accessorFor category) = true) :
    (∃ method, (emitter.unionOf set).method? = some method ∧ method.name = combinedAccessor) ∧
      (emitter.unionOf set).sources = set.categories.keys.map emitter.accessorFor := by
  have sameSources :
      (emitter.combinerOf set).sources = set.categories.keys.map emitter.accessorFor := by
    rw [Dictionary.keys, List.map_map]
    rfl
  have areNamed : ∀ source ∈ (emitter.combinerOf set).sources, isIdentifierText source = true := by
    rw [sameSources]
    intro source mem
    obtain ⟨category, isCategory, rfl⟩ := List.mem_map.mp mem
    exact named category isCategory
  have accessor : isIdentifierText (emitter.combinerOf set).name = true :=
    isIdentifierText_combinedAccessor
  obtain ⟨isMethod, sources⟩ := read_combiner combinedArtifact accessor areNamed
  exact ⟨isMethod, sources.trans sameSources⟩

end

section

variable {emitter : Emitter} {set : ClassSet} (names : NamesApart emitter set)
include names

theorem NamesApart.identifier {category : Text} {classes : List Text}
    (mem : (category, classes) ∈ set.categories) :
    isIdentifierText (emitter.accessorFor category) = true :=
  names.identifiers category (List.mem_map.mpr ⟨_, mem, rfl⟩)

theorem read_ofCategory {category : Text} {classes : List Text}
    (mem : (category, classes) ∈ set.categories) :
    (∀ name, (emitter.ofCategory set category classes).declares name =
      (emitter.accessorFor category == name)) ∧
    (emitter.ofCategory set category classes).array? = some classes := by
  obtain ⟨⟨method, isMethod, isName⟩, gives⟩ := method_ofCategory classes (names.identifier mem)
  refine ⟨fun name => ?_, gives⟩
  rw [Artifact.declares, isMethod, Option.any_some, isName]

theorem read_unionOf :
    (∀ name, (emitter.unionOf set).declares name = (combinedAccessor == name)) ∧
      (emitter.unionOf set).sources = set.categories.keys.map emitter.accessorFor := by
  obtain ⟨⟨method, isMethod, isName⟩, sources⟩ := method_unionOf names.identifiers
  refine ⟨fun name => ?_, sources⟩
  rw [Artifact.declares, isMethod, Option.any_some, isName]

/-- Exactly one file declares the method of a category. -/
theorem filter_declares_category (mode : emitter.mode = .categories) {category : Text}
    {classes : List Text} (mem : (category, classes) ∈ set.categories) :
    (emitter.emit set).filter (·.declares (emitter.accessorFor category)) =
      [emitter.ofCategory set category classes] := by
  let name := emitter.accessorFor category
  let ofPair (pair : Text × List Text) : Artifact := emitter.ofCategory set pair.1 pair.2
  have notUnion : (emitter.unionOf set).declares name = false := by
    rw [(read_unionOf names).1, beq_eq_false_iff_ne]
    intro same
    exact names.apart (List.mem_map.mpr ⟨category, List.mem_map.mpr ⟨_, mem, rfl⟩, same.symm⟩)
  have nodup : (set.categories.map fun pair => emitter.accessorFor pair.1).Nodup := by
    have nodup := names.nodup
    rw [Dictionary.keys, List.map_map] at nodup
    exact nodup
  have declares : set.categories.filter ((·.declares name) ∘ ofPair) =
      set.categories.filter fun pair => emitter.accessorFor pair.1 == name := by
    apply List.filter_congr
    rintro ⟨category, classes⟩ isPair
    rw [Function.comp_apply]
    exact (read_ofCategory names isPair).1 name
  have isOwn : (set.categories.map ofPair).filter (·.declares name) =
      [emitter.ofCategory set category classes] := by
    rw [List.filter_map, declares, filter_key_eq_singleton nodup mem]
    rfl
  rw [Emitter.emit, mode]
  simp only
  rw [List.filter_append, List.filter_cons_of_neg (Bool.eq_false_iff.mp notUnion)]
  exact (List.append_nil _).trans isOwn

/-- Exactly one file declares the method with all class names. -/
theorem filter_declares_combined (mode : emitter.mode = .categories) :
    (emitter.emit set).filter (·.declares combinedAccessor) = [emitter.unionOf set] := by
  have isOwn : (emitter.unionOf set).declares combinedAccessor = true := by
    rw [(read_unionOf names).1]
    exact beq_self_eq_true _
  rw [Emitter.emit, mode]
  simp only
  rw [List.filter_append, List.filter_cons_of_pos isOwn, List.filter_nil, List.append_left_eq_self,
    List.filter_eq_nil_iff]
  intro artifact mem declares
  obtain ⟨⟨category, classes⟩, isPair, rfl⟩ := List.mem_map.mp mem
  rw [(read_ofCategory names isPair).1, beq_iff_eq] at declares
  exact names.apart (List.mem_map.mpr ⟨category, List.mem_map.mpr ⟨_, isPair, rfl⟩, declares⟩)

theorem arrayNamed?_emit (mode : emitter.mode = .categories) {category : Text}
    {classes : List Text} (mem : (category, classes) ∈ set.categories) :
    arrayNamed? (emitter.emit set) (emitter.accessorFor category) = some classes := by
  rw [arrayNamed?, filter_declares_category names mode mem]
  exact (read_ofCategory names mem).2

/-- The methods that the union takes give the class names of the categories in order. -/
theorem mapM_sources (mode : emitter.mode = .categories) :
    (emitter.unionOf set).sources.mapM (arrayNamed? (emitter.emit set)) =
      some (set.categories.map (·.2)) := by
  rw [(read_unionOf names).2, Dictionary.keys, List.map_map]
  exact mapM_map_eq_some fun pair mem => arrayNamed?_emit names mode mem

end

/-- The file with all class names. -/
theorem read_combined (set : ClassSet) :
    (Emitter.combined set).declares combinedAccessor = true ∧
      (Emitter.combined set).array? = some set.classes := by
  let accessor : Accessor := {
    target := targetOf set
    name := combinedAccessor
    visibility := "public"
    literals := set.classes
    summary := combinedSummary
    remarks := categoryCounts set }
  have visible : accessor.visibility = Text.ofString "public" ∨
      accessor.visibility = Text.ofString "private" := .inl rfl
  obtain ⟨⟨method, isMethod, isName⟩, gives⟩ :=
    read_accessor visible isIdentifierText_combinedAccessor combinedArtifact
  refine ⟨?_, gives⟩
  rw [Artifact.declares, Emitter.combined, isMethod, Option.any_some, isName]
  exact beq_self_eq_true _

/-- Emission keeps the class set.  In combined mode the one file gives all class names.  In categories
mode exactly one file declares the method of each category, and it gives the class names of the
category; exactly one declares the method with all class names, and the methods that it takes into its
union give, in the order in which they are taken, all class names. -/
theorem read_emit_aggregate (marker : Marker) (findings : List Finding) (categories : List Text)
    (accessors : Dictionary Text)
    (names : NamesApart ⟨.categories, accessors⟩ (ClassSet.aggregate marker findings categories)) :
    let set := ClassSet.aggregate marker findings categories
    let artifacts := Emitter.emit ⟨.categories, accessors⟩ set
    (∃ artifact, Emitter.emit ⟨.combined, accessors⟩ set = [artifact] ∧
      artifact.declares combinedAccessor = true ∧ artifact.array? = some set.classes) ∧
    (∀ category classes, (category, classes) ∈ set.categories → ∃ artifact,
      artifacts.filter (·.declares (Emitter.accessorFor ⟨.categories, accessors⟩ category)) =
        [artifact] ∧ artifact.array? = some classes) ∧
    ∃ combiner, artifacts.filter (·.declares combinedAccessor) = [combiner] ∧
      (combiner.sources.mapM (arrayNamed? artifacts)).map ClassSet.union = some set.classes := by
  intro set artifacts
  refine ⟨⟨Emitter.combined set, rfl, read_combined set⟩, ?_, ?_⟩
  · intro category classes mem
    exact ⟨_, filter_declares_category names rfl mem, (read_ofCategory names mem).2⟩
  · refine ⟨_, filter_declares_combined names rfl, ?_⟩
    rw [mapM_sources names rfl]
    rfl

/-- Two findings that share a class name; one has a name with a quote, a line feed and a backslash. -/
def sharedFindings : List Finding := [
  ⟨"files", "index.html", 0, ["m-2", "p-4"]⟩,
  ⟨"attributes", "Page.cs", 3, ["a \"b\"\n\\c", "m-2"]⟩]

theorem read_emit_aggregate_shared :
    let set := ClassSet.aggregate ⟨"App", "MonorailCSS", "public partial", false, "Page.cs", 1⟩
      sharedFindings ["attributes", "files"]
    NamesApart ⟨.categories, defaultAccessors⟩ set ∧
      ∃ combiner, (Emitter.emit ⟨.categories, defaultAccessors⟩ set).filter
          (·.declares combinedAccessor) = [combiner] ∧
        (combiner.sources.mapM (arrayNamed? (Emitter.emit ⟨.categories, defaultAccessors⟩ set))).map
          ClassSet.union = some (["a \"b\"\n\\c", "m-2", "p-4"] : List Text) := by
  intro set
  have names : NamesApart ⟨.categories, defaultAccessors⟩ set :=
    ⟨by decide +kernel, by decide +kernel, by decide +kernel⟩
  have classes : set.classes = (["a \"b\"\n\\c", "m-2", "p-4"] : List Text) := by decide +kernel
  exact ⟨names, classes ▸ (read_emit_aggregate _ _ _ _ names).2.2⟩

end ClassHarvest.Emission
