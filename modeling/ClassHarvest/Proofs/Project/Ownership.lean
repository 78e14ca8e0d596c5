import ClassHarvest.Proofs.Emission.Naming
import ClassHarvest.Proofs.Project.Failures
import ClassHarvest.Proofs.Project.Repetition

/-!
# Files of categories

The name of the file of a category is built in one place, recognised in the output directory in another,
and its kind is told by its suffix in a third.  Whatever the category is, the three agree: the file stays
in the output directory, no search reads it as source, and a run that has no use for it removes it.
-/

namespace ClassHarvest

open Emission Scan

/-! ## Names -/

namespace Emission

/-- The name of the file of a category consists of small letters, digits, hyphens and dots. -/
theorem forall_mem_artifactName (category : Text) : ∀ c ∈ artifactName category,
    c.isAsciiLower = true ∨ c.isAsciiDigit = true ∨ c = '-' ∨ c = '.' := by
  rw [artifactName, List.forall_mem_append, List.forall_mem_append]
  refine ⟨⟨by decide, Text.forall_mem_join (by decide) fun word isWord c mem => ?_⟩, by decide⟩
  have slug : isSlugChar c = true := of_mem_stretches isWord mem
  rcases Bool.or_eq_true_iff.mp slug with lower | digit
  · exact Or.inl lower
  · exact Or.inr (Or.inl digit)

theorem isName_artifactName (category : Text) : Path.IsName (artifactName category) := by
  have other {name : Text} (isOther : isArtifactName name = false) : artifactName category ≠ name :=
    Project.Output.ne_of_isArtifactName (Project.Output.isArtifactName_artifactName category) isOther
  refine ⟨other (by decide), fun mem => ?_, other (by decide), other (by decide), fun c mem => ?_⟩
  · exact absurd (forall_mem_artifactName category _ mem) (by decide)
  · rw [CodePoint.isHighSurrogate, Bool.and_eq_false_iff, decide_eq_false_iff_not]
    left
    rcases forall_mem_artifactName category c mem with lower | digit | rfl | rfl
    · simp only [CodePoint.isAsciiLower, Bool.and_eq_true, decide_eq_true_eq] at lower
      omega
    · simp only [CodePoint.isAsciiDigit, Bool.and_eq_true, decide_eq_true_eq] at digit
      omega
    · decide
    · decide

/-- As a path the name leads to a file in the directory, and nowhere else. -/
theorem join_artifactName (directory : Path) (category : Text) :
    directory.join (Path.ofText (artifactName category)) = directory.child (artifactName category) := by
  have read : Path.ofText (artifactName category) = ⟨[], [artifactName category]⟩ :=
    Path.ofText_joinNames fun name mem => List.mem_singleton.mp mem ▸ isName_artifactName category
  rw [read]
  rfl

end Emission

/-- The class set has a category whose file is that of a category: the category itself, or another with
the same words in small letters. -/
def Generation.HasFileOf (generation : Generation) (category : Text) : Prop :=
  ∃ set, generation.classSet = some set ∧
    ∃ other ∈ set.categories.keys, artifactName other = artifactName category

/-- The file of a category is generated only if a category of the class set has it. -/
theorem Generation.hasFileOf_of_mem {marker : Option Marker} {findings : List Finding}
    {scanners : List Scanner} {emitter : Emitter} {category : Text}
    (mem : artifactName category ∈
      (Generation.finish marker findings scanners emitter).artifacts.map (·.name)) :
    (Generation.finish marker findings scanners emitter).HasFileOf category := by
  cases marker with
  | none => cases mem
  | some marker =>
      refine ⟨_, rfl, ?_⟩
      rw [Generation.finish] at mem
      generalize ClassSet.aggregate marker findings (scanners.map (·.category)) = set at mem ⊢
      have notCombined := artifactName_ne_combinedArtifact category
      cases isMode : emitter.mode with
      | combined =>
          rw [Emitter.emit, isMode] at mem
          exact absurd (List.mem_singleton.mp mem) notCombined
      | categories =>
          rw [names_emit_categories isMode] at mem
          rcases List.mem_append.mp mem with ofCategory | isCombined
          · exact List.mem_map.mp ofCategory
          · exact absurd (List.mem_singleton.mp isCombined) notCombined

namespace Project

variable {host : Host} {request : Request} {world : World} {root : Path}

/-! ## What is read as source -/

/-- Some run of a search that begins with an empty desk takes a path for that of a source file. -/
def Search.ReadsAsSource (search : Search) (path : Text) : Prop :=
  ∃ desk : Desk, desk.units = [] ∧ path ∈ (search.search.run.run desk).2.units.keys

/-- What a search reads as source are source files. -/
theorem Search.ReadsAsSource.mem_sources {search : Search} {path : Text}
    (reads : search.ReadsAsSource path) : ∃ file ∈ search.sources, file.path = path := by
  obtain ⟨desk, fresh, mem⟩ := reads
  apply List.mem_map.mp
  refine (search.respects_units.preserves desk ?_).after path mem
  rw [fresh]
  exact List.forall_mem_nil _

/-- A source file is read as source, a generated one is not. -/
example : ∀ settings ∈ (resolve {} unmarkedRequest.options none).toOption,
    let files : List FileRecord := [⟨"A.cs", 10, .source, ""⟩, ⟨"B.g.cs", 10, .generated, ""⟩]
    let search : Search :=
      ⟨unmarkedDisk false, ⟨⟨"/", ["p"]⟩, files⟩, settings, [], Pattern.Signal.never, exampleHost⟩
    (search.search.run.run ⟨⟨none, [], false⟩, [], [], {}⟩).2.units.keys = ["A.cs"] := by
  decide +kernel

/-- The kinds in the manifest of a run are those that the paths tell. -/
theorem kind_of_prepared {prepared : Preparation} {middle : World}
    (gives : (prepare host request).run.run world = (.ok prepared, middle)) :
    ∀ file ∈ prepared.manifest.files, file.kind = .ofPath file.path := by
  obtain ⟨plan, _, rfl, _⟩ := (ensures_prepare host request rfl rfl).of_eq_ok gives
  intro file mem
  obtain ⟨found, _, rfl⟩ := List.mem_map.mp mem
  rfl

theorem ofPath_of_readsAsSource {prepared : Preparation} {middle : World} {search : Search}
    {path : Text} (gives : (prepare host request).run.run world = (.ok prepared, middle))
    (isManifest : search.manifest = prepared.manifest) (reads : search.ReadsAsSource path) :
    FileKind.ofPath path = .source := by
  obtain ⟨file, isSource, rfl⟩ := reads.mem_sources
  obtain ⟨mem, isKind⟩ := List.mem_filter.mp isSource
  rw [isManifest] at mem
  rw [← kind_of_prepared gives file mem]
  exact of_decide_eq_true isKind

/-! ## What a run removes -/

/-- The files that have names of generated ones without being generated were removed. -/
structure Swept (outcome : Outcome) (disk disk' : Disk) : Prop where
  /-- What is left was generated. -/
  owned : ∀ name content, isArtifactName name = true →
    disk'.look (outcome.outputDirectory.child name) = .ok (.file content) →
      name ∈ outcome.generation.artifacts.map (·.name)
  /-- What was there and is not left is told. -/
  removed : ∀ name content, isArtifactName name = true →
    disk.look (outcome.outputDirectory.child name) = .ok (.file content) →
      name ∉ outcome.generation.artifacts.map (·.name) →
        outcome.outputDirectory.child name ∈ outcome.removed

/-- A file that has the name of a generated one without being generated is still there when the files to
be removed are listed. -/
theorem mem_stale_of_wrote {disk kept wrote : Disk} {places : List (List Text)} {directory : Path}
    {artifacts : List Artifact} {name : Text} {content : FileContent}
    (plain : Path.parentName ∉ root.names) (unique : disk.Unique)
    (confined : Confined root places disk kept) (caches : places ⊆ cachePlaces root)
    (written : Output.Wrote directory artifacts artifacts kept wrote)
    (names : ∀ artifact ∈ artifacts, isArtifactName artifact.name = true)
    (isName : isArtifactName name = true)
    (seen : disk.look (directory.child name) = .ok (.file content))
    (new : name ∉ artifacts.map (·.name)) : name ∈ Output.stale wrote directory artifacts := by
  have notCache : (directory.child name).place ∉ places := fun mem =>
    not_isArtifactPlace_cachePlaces plain (caches mem) (Output.isArtifactPlace_child directory isName)
  have notArtifact : (directory.child name).place ∉ artifacts.map (Output.targetPlace directory) :=
    mt (Output.place_child_mem_iff names isName).mp new
  have later := written.touches.look_eq_file notArtifact (confined.touches.look_eq_file notCache seen)
  exact Output.mem_stale_of_look (written.unique (confined.unique unique)) isName later new

/-- Whatever the caches hold, a run sweeps the output directory. -/
theorem ensures_swept (host : Host) (request : Request)
    (isRoot : Path.resolve host.working request.path = root) (unique : world.disk.Unique)
    (lasting : request.dry = false) :
    Ensures (run host request) world
      (fun outcome after => (∃ plan found, Plan.of host request world.disk = .ok plan ∧
        outcome.outputDirectory = plan.target request root ∧
        outcome.generation = plan.generates found) ∧ Swept outcome world.disk after.disk)
      fun _ => True := by
  have plain : Path.parentName ∉ root.names := isRoot ▸ Path.plain_resolve _ _
  have names {marker : Option Marker} {findings : List Finding} {scanners : List Scanner}
      {emitter : Emitter} : ∀ artifact ∈ (Generation.finish marker findings scanners emitter).artifacts,
        isArtifactName artifact.name = true :=
    fun _ => Output.isArtifactName_of_mem_finish
  refine ensures_running host request isRoot (fun _ _ _ => trivial) fun plan middle planned isMiddle _ => ?_
  have hashes := confined_diskWithHashes plain world.disk plan.files (!request.dry)
  rw [← isMiddle] at hashes
  apply (confined_searchProject host _ _ _ _ _ middle plain).mono
  · intro found after scans searched same
    have confined := hashes.trans (same ▸ scans)
    have unique' := confined.unique unique
    refine ⟨fun isDry => absurd (lasting.symm.trans isDry) (by decide), fun _ => ?_⟩
    refine ensures_produce unique' names (fun _ _ _ => trivial) fun written wrote after holds _ _ gone => ?_
    apply Ensures.pure
    refine ⟨⟨plan, found, planned, rfl, rfl⟩, ?_, ?_⟩
    · exact fun name content isName => gone.mem_of_look (holds.unique unique') isName
    · intro name content isName seen new
      apply List.mem_map_of_mem
      exact mem_stale_of_wrote plain unique confined (fun _ mem => mem) holds names isName seen new
  · exact fun _ _ => trivial

/-! ## Ownership -/

/-- Beside a project without a marker there is the file of a category that an earlier run has found. -/
def strayDisk : Disk where
  top := .directory [("p", .directory [("A.cs", .file unmarkedContent)]),
    ("out", .directory [(artifactName "View Tags", .file earlierContent)])]
  clock := 5

theorem map_plan_stray : (Plan.of exampleHost unmarkedRequest strayDisk).map
      (fun plan => (plan.files, plan.scanners, some plan.settings)) =
    .ok ([⟨"A.cs", unmarkedContent⟩], Scanner.builtIn,
      (resolve {} unmarkedRequest.options none).toOption) := by
  decide +kernel

theorem orderly_strayDisk : strayDisk.Orderly := by
  refine Tree.Orderly.ofDirectory (by decide) (by decide) (List.forall_mem_cons.mpr ⟨?_, ?_⟩)
  · exact .ofEntry (by decide) (.ofFile _)
  · exact List.forall_mem_singleton.mpr (.ofEntry (isName_artifactName _) (.ofFile _))

/-- Without a marker there is no class set. -/
theorem classSet_of_unmarked {after : World} {plan : Plan} {outcome : Outcome}
    (proper : Moment.Proper root ⟨host, .run request, world⟩) (lasting : request.dry = false)
    (planned : Plan.of host request world.disk = .ok plan)
    (absent : world.disk.view (root.names ++ [Walk.stateDirectory]) = none)
    (distinct : (evidenceOf [⟨host, .run request, world⟩]).Distinct)
    (unmarked : ∀ file ∈ plan.sources, freshMarkers file.path file.content.bytes = .ok [])
    (gives : (run host request).run.run world = (.ok outcome, after)) :
    outcome.generation.classSet = none ∧ outcome.outputDirectory = plan.target request root := by
  have covers := covers_evidenceOf (List.mem_singleton_self _) proper planned
  obtain ⟨markers, answers, middle, wrote, founded, _⟩ := exists_founded proper.isRoot proper.orderly
    distinct planned covers (kept_of_absent proper.plain absent) lasting gives
  exact ⟨congrArg Generation.classSet (founded.generation_of_unmarked unmarked), founded.ran.target⟩

end Project
end ClassHarvest
