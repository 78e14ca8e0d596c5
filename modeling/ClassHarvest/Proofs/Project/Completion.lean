import ClassHarvest.Proofs.Project.History
import ClassHarvest.Proofs.Project.Sameness

/-!
# Runs that come to their end

What a run works on does not depend on its caches.  So a run that has come to its end, and has generated
nothing, can be taken once more and comes to its end again.
-/

namespace ClassHarvest

open Scan

namespace Disk

variable {disk disk' : Disk} {path : Path}

theorem exists_iff_of_plain (plain : Path.parentName ∉ path.names) :
    disk.exists path = true ↔ ∃ sight, disk.view path.names = some sight := by
  rw [exists_eq, Option.isSome_iff_exists]
  apply exists_congr
  intro sight
  rw [toOption_look_eq_some_iff]
  exact ⟨view_of_look plain, look_of_view plain⟩

theorem exists_status_of_view (plain : Path.parentName ∉ path.names)
    (isDirectory : disk.view path.names = some .directory) :
    ∃ entries, disk.status path = .ok (.directory entries) := by
  have seen := look_of_view plain isDirectory
  rw [← map_status] at seen
  cases found : disk.status path with
  | error fault =>
      rw [found] at seen
      cases seen
  | ok tree =>
      rw [found] at seen
      cases tree with
      | file content => cases seen
      | directory entries => exact ⟨entries, rfl⟩

end Disk

namespace Project

variable {evidence : Evidence} {root : Path} {saved : Records} {disk disk' : Disk} {host : Host}
  {request : Request} {plan : Plan}

/-! ## Settings -/

theorem names_configPath (plain : Path.parentName ∉ root.names) :
    (configPath root).names = root.names ++ [configFile] := by
  change (root.child configFile).place = _
  rw [Path.place_child (by decide), Path.place_of_plain plain]

theorem plain_child (plain : Path.parentName ∉ root.names) {name : Text}
    (other : name ≠ Path.parentName) : Path.parentName ∉ root.names ++ [name] := by
  rw [List.mem_append, not_or, List.mem_singleton]
  exact ⟨plain, Ne.symm other⟩

/-- What is seen in the place of the configuration file decides which settings are read. -/
theorem load_eq_of_view (plain : Path.parentName ∉ root.names)
    (isDirectory : disk.view root.names = some .directory)
    (isDirectory' : disk'.view root.names = some .directory)
    (same : disk'.view (root.names ++ [configFile]) = disk.view (root.names ++ [configFile]))
    {settings : Path × ProjectSettings} (loaded : ProjectSettings.load disk root = .ok settings) :
    ProjectSettings.load disk' root = .ok settings := by
  rw [ProjectSettings.load_of_directory
    (Disk.isDirectory_iff.mpr (Disk.look_of_view plain isDirectory))] at loaded
  rw [ProjectSettings.load_of_directory
    (Disk.isDirectory_iff.mpr (Disk.look_of_view plain isDirectory'))]
  have plainConfig : Path.parentName ∉ (configPath root).names := by
    rw [names_configPath plain]
    exact plain_child plain (by decide)
  have present : disk'.exists (configPath root) = disk.exists (configPath root) := by
    rw [Bool.eq_iff_iff, Disk.exists_iff_of_plain plainConfig, Disk.exists_iff_of_plain plainConfig,
      names_configPath plain, same]
  have sameFile : Disk.SameFile (configPath root) disk disk' := by
    apply Disk.sameFile_of_view plainConfig
    intro content
    rw [names_configPath plain, same]
  rw [present]
  rcases sameFile.readText_cases with equal | ⟨⟨error, unread⟩, _⟩
  · rw [← equal]
    exact loaded
  · rw [unread] at loaded
    split at loaded
    · cases loaded
    · next absent =>
        rw [if_neg absent]
        exact loaded

/-! ## Plans -/

/-- Two disks show the same, the directory with the caches of a project apart. -/
def SameOutside (root : Path) (disk disk' : Disk) : Prop :=
  ∀ names, (∀ rest, names ≠ root.names ++ Walk.stateDirectory :: rest) →
    disk'.view names = disk.view names

theorem Confined.sameOutside {places : List (List Text)} (confined : Confined root places disk disk')
    (caches : places ⊆ cachePlaces root) (plain : Path.parentName ∉ root.names)
    (inside : disk.view root.names = some .directory) : SameOutside root disk disk' := by
  intro names outside
  apply (confined.makesOnly inside).view_eq confined.touches (outside [])
  intro mem
  obtain ⟨name, same, _⟩ := exists_of_mem_cachePlaces plain (caches mem)
  exact outside [name] same

theorem Leaves.sameOutside (leaves : Leaves evidence root saved (cachePlaces root) disk disk')
    (plain : Path.parentName ∉ root.names) (inside : disk.view root.names = some .directory) :
    SameOutside root disk disk' :=
  leaves.confined.sameOutside (fun _ mem => mem) plain inside

namespace SameOutside

theorem view_root (same : SameOutside root disk disk') :
    disk'.view root.names = disk.view root.names := by
  apply same
  intro rest absurd
  have lengths := congrArg List.length absurd
  simp at lengths

theorem view_child (same : SameOutside root disk disk') {name : Text}
    (other : name ≠ Walk.stateDirectory) :
    disk'.view (root.names ++ [name]) = disk.view (root.names ++ [name]) := by
  apply same
  intro rest absurd
  exact other (List.cons.inj (List.append_cancel_left absurd)).1

theorem alike (same : SameOutside root disk disk') (plain : Path.parentName ∉ root.names) :
    Alike root disk disk' := by
  constructor
  · apply Disk.sameFile_of_view
    · rw [names_configPath plain]
      exact plain_child plain (by decide)
    · intro content
      rw [names_configPath plain, same.view_child (by decide)]
  · apply Disk.sameFile_of_view (plain_child plain (by decide))
    intro content
    change disk.view (root.names ++ [Manifest.ignoreFile]) = _ ↔
      disk'.view (root.names ++ [Manifest.ignoreFile]) = _
    rw [same.view_child (by decide)]

/-- The same settings are read. -/
theorem load_eq (same : SameOutside root disk disk') (plain : Path.parentName ∉ root.names)
    (isDirectory : disk.view root.names = some .directory) {directory : Path}
    {project : ProjectSettings} (loaded : ProjectSettings.load disk root = .ok (directory, project)) :
    ProjectSettings.load disk' root = .ok (directory, project) :=
  load_eq_of_view plain isDirectory (same.view_root.trans isDirectory)
    (same.view_child (by decide)) loaded

/-- The same files are found. -/
theorem projectFiles_eq (same : SameOutside root disk disk') (plain : Path.parentName ∉ root.names)
    (free : ∀ content, disk.view (root.names ++ [Walk.stateDirectory]) ≠ some (.file content))
    (free' : ∀ content, disk'.view (root.names ++ [Walk.stateDirectory]) ≠ some (.file content))
    (orderly : disk.Orderly) (orderly' : disk'.Orderly) {given : Text} {excluded : List Text}
    {files : List Walk.Found} (listed : projectFiles disk given root excluded = .ok files) :
    projectFiles disk' given root excluded = .ok files := by
  obtain ⟨rules, entries, status, isRules, rfl⟩ := projectFiles_eq_ok listed
  have isDirectory := Disk.view_append_of_status plain status []
  rw [List.append_nil] at isDirectory
  obtain ⟨entries', status'⟩ :=
    Disk.exists_status_of_view plain (same.view_root.trans isDirectory)
  have sameFiles : Walk.files rules (.directory entries') = Walk.files rules (.directory entries) := by
    have filtered := @Walk.filter_files_eq (.directory entries') (.directory entries) rules
      (orderly'.of_status status') (orderly.of_status status) (fun _ => true)
    rw [List.filter_true, List.filter_true] at filtered
    apply filtered
    intro names content reached _
    rw [← Disk.view_append_of_status plain status, ← Disk.view_append_of_status plain status']
    by_cases isState : names = [Walk.stateDirectory]
    · subst isState
      exact iff_of_false (free' content) (free content)
    · rw [same]
      intro rest inState
      cases List.append_cancel_left inState
      cases rest with
      | nil => exact isState rfl
      | cons name rest =>
          rw [Walk.not_reaches_state] at reached
          cases reached
  unfold projectFiles
  rw [status']
  dsimp only
  rw [← Manifest.rules_eq_of_sameFile (same.alike plain).ignored, isRules, ← sameFiles]

/-- A run works on the same. -/
theorem plan_eq (same : SameOutside root disk disk')
    (free : ∀ content, disk.view (root.names ++ [Walk.stateDirectory]) ≠ some (.file content))
    (free' : ∀ content, disk'.view (root.names ++ [Walk.stateDirectory]) ≠ some (.file content))
    (isRoot : Path.resolve host.working request.path = root) (orderly : disk.Orderly)
    (orderly' : disk'.Orderly) (planned : Plan.of host request disk = .ok plan) :
    Plan.of host request disk' = .ok plan := by
  have plain : Path.parentName ∉ root.names := isRoot ▸ Path.plain_resolve _ _
  have isDirectory := Plan.view_root planned
  obtain ⟨directory, project, loaded, resolved, selected, listed, configured⟩ := Plan.of_eq_ok planned
  rw [isRoot] at loaded listed isDirectory
  unfold Plan.of
  rw [isRoot]
  simp only [same.load_eq plain isDirectory loaded, resolved, selected,
    same.projectFiles_eq plain free free' orderly orderly' listed, Except.mapError, bind, Except.bind,
    pure, Except.pure, ← configured]

end SameOutside

theorem isName_of_mem_cachePlaces (plain : Path.parentName ∉ root.names) {place : List Text}
    (mem : place ∈ cachePlaces root) :
    ∃ name, place = root.names ++ [Walk.stateDirectory, name] ∧ Path.IsName name := by
  unfold cachePlaces at mem
  rw [place_hashes plain, place_staging plain, place_scans plain] at mem
  simp only [List.mem_cons, List.not_mem_nil, or_false] at mem
  rcases mem with rfl | rfl | rfl
  · exact ⟨_, rfl, by decide, by decide, by decide, by decide, by decide⟩
  · exact ⟨_, rfl, by decide, by decide, by decide, by decide, by decide⟩
  · exact ⟨_, rfl, by decide, by decide, by decide, by decide, by decide⟩

/-- The caches have names that can be names. -/
theorem Confined.orderly {places : List (List Text)} (confined : Confined root places disk disk')
    (caches : places ⊆ cachePlaces root) (plain : Path.parentName ∉ root.names)
    (orderly : disk.Orderly) (inside : disk.view root.names = some .directory) : disk'.Orderly := by
  have isState : Path.IsName Walk.stateDirectory :=
    ⟨by decide, by decide, by decide, by decide, by decide⟩
  have around := Tree.Orderly.isName_of_view orderly inside
  apply Tree.Orderly.of_view (confined.unique orderly.unique)
  intro names sight seen
  by_cases isPlace : names ∈ places
  · obtain ⟨name, rfl, isName⟩ := isName_of_mem_cachePlaces plain (caches isPlace)
    simp only [List.mem_append, List.mem_cons, List.not_mem_nil, or_false]
    rintro inner (mem | rfl | rfl)
    · exact around inner mem
    · exact isState
    · exact isName
  · by_cases isDirectory : names = root.names ++ [Walk.stateDirectory]
    · subst isDirectory
      simp only [List.mem_append, List.mem_singleton]
      rintro inner (mem | rfl)
      · exact around inner mem
      · exact isState
    · have before := (confined.makesOnly inside).view_eq confined.touches isDirectory isPlace
      exact Tree.Orderly.isName_of_view orderly (before.symm.trans seen)

theorem Leaves.orderly (leaves : Leaves evidence root saved (cachePlaces root) disk disk')
    (plain : Path.parentName ∉ root.names) (orderly : disk.Orderly)
    (inside : disk.view root.names = some .directory) : disk'.Orderly :=
  leaves.confined.orderly (fun _ mem => mem) plain orderly inside

/-! ## Searches -/

/-- The settings of a plan have a digest, its source files can be parsed, and its scanners find something
or nothing in all files. -/
structure Plan.Searchable (plan : Plan) : Prop where
  digest : ∃ fingerprint, plan.settings.fingerprint = .ok fingerprint
  units : ∀ file ∈ plan.sources, ∃ unit, freshUnit file.path file.content.bytes = .ok unit
  findings : ∀ pair ∈ plan.pairs, ∃ found,
    freshFindings pair.1 plan.settings pair.2.path pair.2.content.bytes = .ok found

/-- No directory is in the way of the cache of scans. -/
structure CacheFree (root : Path) (disk : Disk) : Prop where
  file : disk.view (scanCachePath root).place ≠ some .directory
  staging : disk.view (ScanCache.stagingPath (scanCachePath root)).place ≠ some .directory

section

variable (isRoot : Path.resolve host.working request.path = root)
  (planned : Plan.of host request disk = .ok plan)

include isRoot planned

/-- The cache of scans can be written when the hashes have been. -/
theorem CacheFree.admits (free : CacheFree root disk) (kept : Kept evidence root saved disk)
    (persist : Bool) :
    ScanCache.Admits (diskWithHashes disk root plan.files persist) (scanCachePath root) := by
  have plain : Path.parentName ∉ root.names := isRoot ▸ Path.plain_resolve _ _
  have inside : disk.view root.names = some .directory := isRoot_view isRoot planned
  have confined := confined_diskWithHashes plain disk plan.files persist
  have inside' := confined.touches.directories _ inside
  have names : (scanCachePath root).parent.names = root.names ++ [Walk.stateDirectory] := by
    rw [parent_scans]
    rfl
  have plainFile : Path.parentName ∉ (scanCachePath root).names := by
    rw [scanCachePath, Path.child, List.mem_append, not_or]
    exact ⟨plain_state plain, by decide⟩
  have plainStaging : Path.parentName ∉ (ScanCache.stagingPath (scanCachePath root)).names := by
    have name : (scanCachePath root).name = "cache.json" := by
      simp [scanCachePath, Path.name, Path.child]
    rw [ScanCache.stagingPath, Path.child, name, names, List.mem_append, not_or]
    exact ⟨plain_state plain, by decide⟩
  have noDirectory {place : List Text} (other : place ≠ root.names ++ [Walk.stateDirectory])
      (before : disk.view place ≠ some .directory) :
      (diskWithHashes disk root plan.files persist).view place ≠ some .directory :=
    fun seen => before (confined.makesOnly inside place other seen)
  refine ⟨by simp [scanCachePath, Path.child], plainFile, ⟨?_, ?_, ?_⟩, ?_, ?_⟩
  · exact Disk.view_of_prefix inside' List.nil_prefix
  · rw [names]
    exact plain_state plain
  · intro front isFront content seen
    rw [names] at isFront
    rcases List.prefix_concat_iff.mp isFront with rfl | isFront
    · apply kept.free content ((confined.touches.view_eq_file_iff _).mp seen)
      rw [place_hashes plain]
      simp
    · rw [Disk.view_of_prefix inside' isFront] at seen
      cases seen
  · rw [← Path.place_of_plain plainFile]
    apply noDirectory _ free.file
    rw [place_scans plain]
    simp
  · rw [← Path.place_of_plain plainStaging]
    apply noDirectory _ free.staging
    rw [place_staging plain]
    simp

variable (orderly : disk.Orderly)

include orderly

/-- The search for a plan comes to its end, unless it is called off. -/
theorem Plan.Searchable.searchOn (searchable : plan.Searchable)
    (uncancelled : ∀ asked, request.signal asked = false) :
    (plan.searchOn host request root disk).Searchable where
  uncancelled := uncancelled
  digest := searchable.digest
  units := by
    intro record mem
    unfold Plan.searchOn at mem
    rw [Plan.sources_search] at mem
    obtain ⟨file, isFile, rfl⟩ := List.mem_map.mp mem
    rw [bytesOf_searchOn isRoot planned orderly (plan.sources_subset isFile)]
    exact searchable.units file isFile
  findings := by
    intro visit mem
    unfold Plan.searchOn at mem
    rw [Plan.visits_search] at mem
    obtain ⟨⟨scanner, file⟩, isPair, rfl⟩ := List.mem_map.mp mem
    have isFile := plan.inputsOf_subset scanner (Plan.mem_pairs.mp isPair).2
    dsimp only
    rw [bytesOf_searchOn isRoot planned orderly isFile]
    exact searchable.findings _ isPair

/-! ## Runs that generate nothing -/

/-- In source files without markers no marker is found. -/
theorem flatten_markers_eq_nil {markers : List (List Marker)} {answers : List Answer}
    (unmarked : ∀ file ∈ plan.sources, freshMarkers file.path file.content.bytes = .ok [])
    (gives : (plan.searchOn host request root disk).Gives saved markers answers) :
    markers.flatten = [] := by
  have found := forall₂_freshMarkers isRoot planned orderly gives
  rw [List.flatten_eq_nil_iff]
  intro inFile isFile
  rw [← List.map_snd_zip found.length_eq.ge] at isFile
  obtain ⟨⟨file, inFile⟩, isPair, rfl⟩ := List.mem_map.mp isFile
  have fresh := (List.forall₂_iff_zip.mp found).2 isPair
  rw [unmarked file (List.of_mem_zip isPair).1] at fresh
  exact (Except.ok.inj fresh).symm

/-- A run for a project without a marker comes to its end. -/
theorem Plan.Searchable.unhindered (searchable : plan.Searchable)
    (uncancelled : ∀ asked, request.signal asked = false) (writable : evidence.Writable)
    (free : CacheFree root disk) (kept : Kept evidence root saved disk)
    (unmarked : ∀ file ∈ plan.sources, freshMarkers file.path file.content.bytes = .ok []) :
    Unhindered evidence host request root saved disk plan where
  planned := planned
  search := ⟨searchable.searchOn isRoot planned orderly uncancelled, writable,
    free.admits isRoot planned kept _⟩
  generated := by
    intro markers answers gives artifact mem
    unfold Plan.generation at mem
    rw [flatten_markers_eq_nil isRoot planned orderly unmarked gives] at mem
    cases mem

end

/-- A run for a project without a marker, without caches or with those that earlier calls have left,
comes to its end. -/
theorem Plan.Searchable.exists_run {moments : List Moment} {world : World}
    (searchable : plan.Searchable) (proper : Moment.Proper root ⟨host, .run request, world⟩)
    (mem : ⟨host, .run request, world⟩ ∈ moments)
    (planned : Plan.of host request world.disk = .ok plan)
    (distinct : (evidenceOf moments).Distinct) (writable : (evidenceOf moments).Writable)
    (kept : Kept (evidenceOf moments) root saved world.disk)
    (uncancelled : ∀ asked, request.signal asked = false) (free : CacheFree root world.disk)
    (unmarked : ∀ file ∈ plan.sources, freshMarkers file.path file.content.bytes = .ok []) :
    ∃ outcome after, (run host request).run.run world = (.ok outcome, after) := by
  have covers := covers_evidenceOf mem proper planned
  exact Project.exists_run host request proper.isRoot proper.orderly distinct covers kept
    (searchable.unhindered proper.isRoot planned proper.orderly uncancelled writable free kept
      unmarked)

/-- A run that generates nothing, and finds no earlier generated files, changes nothing but its
caches. -/
theorem Produced.view_eq {records : Records} {outcome : Outcome} {middle wrote : Disk}
    (produced : Produced evidence root records outcome disk middle wrote disk')
    (plain : Path.parentName ∉ root.names) (orderly : disk.Orderly)
    (nothing : outcome.generation.artifacts = [])
    (clear : ∀ name content, Emission.isArtifactName name = true →
      disk.view (outcome.outputDirectory.place ++ [name]) ≠ some (.file content))
    (names : List Text) : disk'.view names = middle.view names := by
  obtain ⟨_, rfl⟩ := produced.upToDate (by simp [nothing])
  have none : Output.stale wrote outcome.outputDirectory outcome.generation.artifacts = [] := by
    apply List.eq_nil_iff_forall_not_mem.mpr
    intro name mem
    have unique := produced.leaves.unique orderly.unique
    obtain ⟨isName, _, _⟩ := (Output.mem_stale_iff unique).mp mem
    obtain ⟨content, seen⟩ := Output.exists_file_of_mem_stale unique mem
    apply clear name content isName
    apply (produced.leaves.touches.view_eq_file_iff _).mp seen
    exact fun isPlace => not_isArtifactPlace_cachePlaces plain isPlace ⟨_, name, rfl, isName⟩
  rw [produced.removed.view, none, if_neg (by simp)]

/-- What is seen on a disk decides whether it is as disks are, and whether its caches can be written. -/
theorem orderly_of_view_eq (orderly : disk.Orderly) (unique : disk'.Unique)
    (same : ∀ names, disk'.view names = disk.view names) : disk'.Orderly := by
  apply Tree.Orderly.of_view unique
  intro names sight seen
  exact Tree.Orderly.isName_of_view orderly ((same names).symm.trans seen)

theorem CacheFree.of_makesOnly (free : CacheFree root disk) (plain : Path.parentName ∉ root.names)
    (makes : disk.MakesOnly (root.names ++ [Walk.stateDirectory]) disk') : CacheFree root disk' where
  file := by
    intro seen
    apply free.file
    apply makes _ _ seen
    rw [place_scans plain]
    simp
  staging := by
    intro seen
    apply free.staging
    apply makes _ _ seen
    rw [place_staging plain]
    simp

/-! ### A project without a marker -/

/-- A source file that declares no marker. -/
def unmarkedContent : FileContent where
  bytes := (Utf8.encode "class C \x7b\x7d").toOption.getD []
  stamp := 1

/-- A file that was generated by an earlier run. -/
def earlierContent : FileContent where
  bytes := (Utf8.encode "// earlier").toOption.getD []
  stamp := 2

/-- A disk with a project that has one source file; the output directory beside it is missing or holds an
earlier generated file. -/
def unmarkedDisk (earlier : Bool) : Disk where
  top := .directory (("p", .directory [("A.cs", .file unmarkedContent)]) ::
    if earlier then
      [("out", .directory [("monorail-css-jit.g.cs", .file earlierContent)])]
    else [])
  clock := 5

/-- A run. -/
def unmarkedRequest : Request where
  path := ⟨"/", ["p"]⟩
  outputDirectory := some ⟨"/", ["out"]⟩
  options := [("pattern_override", "<(?<value>[a-z]*)>")]

/-- What a run for the project works on. -/
structure IsUnmarked (plan : Plan) : Prop where
  files : plan.files = [⟨"A.cs", unmarkedContent⟩]
  scanners : plan.scanners = Scanner.builtIn
  settings : some plan.settings = (resolve {} unmarkedRequest.options none).toOption

theorem map_plan_unmarked : ∀ earlier,
    (Plan.of exampleHost unmarkedRequest (unmarkedDisk earlier)).map
        (fun plan => (plan.files, plan.scanners, some plan.settings)) =
      .ok ([⟨"A.cs", unmarkedContent⟩], Scanner.builtIn,
        (resolve {} unmarkedRequest.options none).toOption) := by
  decide +kernel

theorem exists_isUnmarked {disk : Disk}
    (same : (Plan.of exampleHost unmarkedRequest disk).map
        (fun plan => (plan.files, plan.scanners, some plan.settings)) =
      .ok ([⟨"A.cs", unmarkedContent⟩], Scanner.builtIn,
        (resolve {} unmarkedRequest.options none).toOption)) :
    ∃ plan, Plan.of exampleHost unmarkedRequest disk = .ok plan ∧ IsUnmarked plan := by
  cases planned : Plan.of exampleHost unmarkedRequest disk with
  | error error =>
      rw [planned] at same
      cases same
  | ok plan =>
      rw [planned] at same
      simp only [Except.map, Except.ok.injEq, Prod.mk.injEq] at same
      exact ⟨plan, rfl, same.1, same.2.1, same.2.2⟩

theorem exists_plan_unmarked (earlier : Bool) :
    ∃ plan, Plan.of exampleHost unmarkedRequest (unmarkedDisk earlier) = .ok plan ∧
      IsUnmarked plan :=
  exists_isUnmarked (map_plan_unmarked earlier)

theorem orderly_unmarkedDisk (earlier : Bool) : (unmarkedDisk earlier).Orderly := by
  have project : Tree.Orderly (.directory [("A.cs", .file unmarkedContent)]) :=
    .ofEntry (by decide) (.ofFile _)
  cases earlier with
  | false => exact Tree.Orderly.ofEntry (by decide) project
  | true =>
      refine Tree.Orderly.ofDirectory (by decide) (by decide) (List.forall_mem_cons.mpr ⟨project, ?_⟩)
      exact List.forall_mem_singleton.mpr (.ofEntry (by decide) (.ofFile _))

theorem exists_ok_of_isSome {ε α : Type} {result : Except ε α}
    (isSome : result.toOption.isSome = true) : ∃ value, result = .ok value := by
  cases result with
  | error error => cases isSome
  | ok value => exact ⟨value, rfl⟩

/-- Neither a marker nor class names are found in the source file. -/
theorem fresh_unmarked : ∀ settings ∈ (resolve {} unmarkedRequest.options none).toOption,
    settings.fingerprint.toOption.isSome = true ∧
      (freshUnit "A.cs" unmarkedContent.bytes).toOption.isSome = true ∧
      freshMarkers "A.cs" unmarkedContent.bytes = .ok [] ∧
      ∀ scanner ∈ Scanner.builtIn,
        freshFindings scanner settings "A.cs" unmarkedContent.bytes = .ok [] := by
  decide +kernel

namespace IsUnmarked

variable {plan : Plan} {moments : List Moment}

theorem fresh (unmarked : IsUnmarked plan) :
    plan.settings.fingerprint.toOption.isSome = true ∧
      (freshUnit "A.cs" unmarkedContent.bytes).toOption.isSome = true ∧
      freshMarkers "A.cs" unmarkedContent.bytes = .ok [] ∧
      ∀ scanner ∈ Scanner.builtIn,
        freshFindings scanner plan.settings "A.cs" unmarkedContent.bytes = .ok [] :=
  fresh_unmarked plan.settings unmarked.settings.symm

theorem searchable (unmarked : IsUnmarked plan) : plan.Searchable := by
  obtain ⟨digest, unit, _, findings⟩ := unmarked.fresh
  have isSource {file : Walk.Found} (mem : file ∈ plan.files) :
      file = ⟨"A.cs", unmarkedContent⟩ := by
    rwa [unmarked.files, List.mem_singleton] at mem
  refine ⟨exists_ok_of_isSome digest, ?_, ?_⟩
  · intro file mem
    rw [isSource (plan.sources_subset mem)]
    exact exists_ok_of_isSome unit
  · intro pair mem
    obtain ⟨isScanner, isInput⟩ := Plan.mem_pairs.mp mem
    rw [isSource (plan.inputsOf_subset pair.1 isInput)]
    exact ⟨[], findings pair.1 (unmarked.scanners ▸ isScanner)⟩

theorem freshMarkers (unmarked : IsUnmarked plan) :
    ∀ file ∈ plan.sources, freshMarkers file.path file.content.bytes = .ok [] := by
  intro file mem
  have isFile := plan.sources_subset mem
  rw [unmarked.files, List.mem_singleton] at isFile
  rw [isFile]
  exact unmarked.fresh.2.2.1

theorem seen (unmarked : IsUnmarked plan) (calls : ∀ moment ∈ moments, moment.plan = .ok plan)
    {path : Text} {content : FileContent} (seen : (evidenceOf moments).seen path content) :
    path = "A.cs" ∧ content = unmarkedContent := by
  obtain ⟨moment, mem, plan', planned, file, isFile, rfl, rfl⟩ := seen
  cases (calls moment mem).symm.trans planned
  rw [unmarked.files, List.mem_singleton] at isFile
  rw [isFile]
  exact ⟨rfl, rfl⟩

theorem distinct (unmarked : IsUnmarked plan) (calls : ∀ moment ∈ moments, moment.plan = .ok plan) :
    (evidenceOf moments).Distinct := by
  constructor
  · intro path content content' isSeen isSeen' _ _
    rw [(unmarked.seen calls isSeen).2, (unmarked.seen calls isSeen').2]
  · rintro path path' _ _ ⟨content, isSeen, rfl⟩ ⟨content', isSeen', rfl⟩ _
    rw [(unmarked.seen calls isSeen).2, (unmarked.seen calls isSeen').2]

theorem writable (unmarked : IsUnmarked plan) (calls : ∀ moment ∈ moments, moment.plan = .ok plan) :
    (evidenceOf moments).Writable := by
  obtain ⟨_, _, noMarkers, noFindings⟩ := unmarked.fresh
  intro key record explains
  cases explains with
  | markers version isSeen whole fresh =>
      obtain ⟨content, isSeen, rfl⟩ := isSeen
      obtain ⟨rfl, rfl⟩ := unmarked.seen calls isSeen
      cases noMarkers.symm.trans fresh
      exact nofun
  | findings version own isSeen used digest fresh same =>
      obtain ⟨content, isSeen, rfl⟩ := isSeen
      obtain ⟨rfl, rfl⟩ := unmarked.seen calls isSeen
      obtain ⟨moment, mem, plan', planned, rfl⟩ := used
      cases (calls moment mem).symm.trans planned
      cases (noFindings _ own).symm.trans fresh
      rcases same with rfl | rfl
      · exact nofun
      · exact nofun

/-- A call for the project is one of those that histories are about. -/
theorem proper (unmarked : IsUnmarked plan) {world : World} (orderly : world.disk.Orderly)
    (planned : Plan.of exampleHost unmarkedRequest world.disk = .ok plan) :
    Moment.Proper ⟨"/", ["p"]⟩ ⟨exampleHost, .run unmarkedRequest, world⟩ where
  isRoot := by
    change Path.resolve exampleHost.working unmarkedRequest.path = _
    decide
  orderly := orderly
  version := by
    change ∀ c ∈ currentVersion, c.isHighSurrogate = false
    decide
  own := by
    intro plan' planned'
    cases planned.symm.trans planned'
    rw [unmarked.scanners]
    exact fun _ used => used
  scannersNodup := by
    intro plan' planned'
    cases planned.symm.trans planned'
    rw [unmarked.scanners]
    decide

end IsUnmarked

theorem absent_unmarkedDisk (earlier : Bool) :
    (unmarkedDisk earlier).view ((⟨"/", ["p"]⟩ : Path).names ++ [Walk.stateDirectory]) = none := by
  cases earlier <;> rfl

theorem cacheFree_unmarkedDisk (earlier : Bool) : CacheFree ⟨"/", ["p"]⟩ (unmarkedDisk earlier) := by
  constructor
  · cases earlier <;> decide
  · cases earlier <;> decide

/-- A run for the project comes to its end, whatever is beside the project. -/
theorem IsUnmarked.exists_run {plan : Plan} {disk : Disk} (unmarked : IsUnmarked plan)
    (planned : Plan.of exampleHost unmarkedRequest disk = .ok plan) (orderly : disk.Orderly)
    (absent : disk.view ((⟨"/", ["p"]⟩ : Path).names ++ [Walk.stateDirectory]) = none)
    (free : CacheFree ⟨"/", ["p"]⟩ disk) :
    ∃ outcome after, (run exampleHost unmarkedRequest).run.run ⟨disk, {}⟩ = (.ok outcome, after) := by
  have proper := @IsUnmarked.proper plan unmarked ⟨disk, {}⟩ orderly planned
  have calls : ∀ moment ∈ [(⟨exampleHost, .run unmarkedRequest, ⟨disk, {}⟩⟩ : Moment)],
      moment.plan = .ok plan := by
    intro moment mem
    rw [List.mem_singleton.mp mem]
    exact planned
  have kept : Kept (evidenceOf [⟨exampleHost, .run unmarkedRequest, ⟨disk, {}⟩⟩]) ⟨"/", ["p"]⟩
      Records.empty disk := kept_of_absent (by decide) absent
  exact unmarked.searchable.exists_run proper (List.mem_singleton_self _) planned
    (unmarked.distinct calls) (unmarked.writable calls) kept (fun _ => rfl) free unmarked.freshMarkers

theorem exists_run_unmarked (earlier : Bool) : ∃ outcome after,
    (run exampleHost unmarkedRequest).run.run ⟨unmarkedDisk earlier, {}⟩ = (.ok outcome, after) := by
  obtain ⟨plan, planned, unmarked⟩ := exists_plan_unmarked earlier
  exact unmarked.exists_run planned (orderly_unmarkedDisk earlier) (absent_unmarkedDisk earlier)
    (cacheFree_unmarkedDisk earlier)

end Project
end ClassHarvest
