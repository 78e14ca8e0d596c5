import ClassHarvest.Proofs.Project.Observation
import ClassHarvest.Proofs.Project.Repetition

/-!
# What is generated does not feed back

A search reads the source files of a project, and the files with the suffixes that are configured.  A
generated file is no source file.  So the generated files of a project do not matter to what is found in
it, unless a suffix is configured that one of them has.
-/

namespace ClassHarvest

open Scan

/-! ## Disks that differ in some files -/

/-- Below a root, two disks have the same files at the places that count. -/
def Disk.SameBelow (root : Path) (counts : List Text → Prop) (disk disk' : Disk) : Prop :=
  ∀ names content, counts names → (disk.view (root.names ++ names) = some (.file content) ↔
    disk'.view (root.names ++ names) = some (.file content))

namespace Disk.SameBelow

variable {root : Path} {counts : List Text → Prop} {disk disk' : Disk}

theorem sameFile (same : SameBelow root counts disk disk') (plain : Path.parentName ∉ root.names)
    {path : Path} {names : List Text} (isPath : path.names = root.names ++ names)
    (plain' : Path.parentName ∉ names) (counted : counts names) : SameFile path disk disk' := by
  apply Disk.sameFile_of_view
  · rw [isPath, List.mem_append, not_or]
    exact ⟨plain, plain'⟩
  · intro content
    rw [isPath]
    exact same names content counted

/-- The projects are configured alike. -/
theorem alike (same : SameBelow root counts disk disk') (plain : Path.parentName ∉ root.names)
    (config : counts [configFile]) (ignored : counts [Manifest.ignoreFile]) :
    Project.Alike root disk disk' where
  config := same.sameFile plain (Project.names_configPath plain) (by decide) config
  ignored := same.sameFile plain rfl (by decide) ignored

/-- The same hashes are kept. -/
theorem hashes_eq (same : SameBelow root counts disk disk') (plain : Path.parentName ∉ root.names)
    (counted : counts [Walk.stateDirectory, Manifest.cacheName]) :
    HashCache.load disk (Manifest.cachePath root) = HashCache.load disk' (Manifest.cachePath root) := by
  apply HashCache.load_eq_of_sameFile
  exact same.sameFile plain (List.append_assoc _ _ _) (by decide) counted

/-- The same scans are kept. -/
theorem scans (same : SameBelow root counts disk disk') (plain : Path.parentName ∉ root.names)
    (counted : counts [Walk.stateDirectory, "cache.json"]) :
    SameFile (Project.scanCachePath root) disk disk' :=
  same.sameFile plain (List.append_assoc _ _ _) (by decide) counted

end Disk.SameBelow

namespace Project

variable {host : Host} {request : Request} {root : Path} {disk disk' : Disk} {plan plan' : Plan}
  {counts : List Text → Prop} {p : Text → Bool} {asked : Nat} {found found' : Found}

/-! ## What decides a dry run -/

/-- A dry run comes to its end if its search does. -/
theorem exists_run_of_finds (world : World) (isRoot : Path.resolve host.working request.path = root)
    (isDry : request.dry = true) (planned : Plan.of host request world.disk = .ok plan)
    (finds : (plan.searchOn host request root world.disk).Finds world.progress.asked found) :
    ∃ outcome after, (run host request).run.run world = (.ok outcome, after) ∧
      Tells request root plan found outcome := by
  have ensures := finds_run host request world isRoot
  rcases returned : (run host request).run.run world with ⟨result, after⟩
  cases result with
  | error failure => exact absurd finds (ensures.of_eq_error returned isDry plan found planned)
  | ok outcome =>
      obtain ⟨_, found', planned', finds', tells⟩ := ensures.of_eq_ok returned
      cases planned.symm.trans planned'
      cases finds.eq finds'
      exact ⟨outcome, after, rfl, tells⟩

/-- Class names are collected if a search for them comes to its end. -/
theorem exists_collect_of_finds (world : World) (isRoot : Path.resolve host.working request.path = root)
    (planned : Plan.of host { request with dry := true } world.disk = .ok plan)
    (finds : (plan.searchOn host { request with dry := true } root world.disk).Finds
      world.progress.asked found) :
    ∃ after, (collect host request).run.run world =
      (.ok (ClassSet.union (found.findings.map (·.classes))), after) := by
  have ensures := finds_collect host request world isRoot
  rcases returned : (collect host request).run.run world with ⟨result, after⟩
  cases result with
  | error failure => exact absurd finds (ensures.of_eq_error returned plan found planned)
  | ok classes =>
      obtain ⟨_, found', planned', finds', rfl⟩ := ensures.of_eq_ok returned
      cases planned.symm.trans planned'
      cases finds.eq finds'
      exact ⟨after, rfl⟩

/-! ## Plans for some of the files -/

/-- The plan for those files whose paths pass a test. -/
def Plan.among (plan : Plan) (p : Text → Bool) : Plan :=
  { plan with files := plan.files.filter fun file => p file.path }

/-- Where two disks have the same files, the plans for them are the same. -/
theorem Plan.among_eq (planned : Plan.of host request disk = .ok plan)
    (planned' : Plan.of host request disk' = .ok plan') (orderly : disk.Orderly)
    (orderly' : disk'.Orderly) (isRoot : Path.resolve host.working request.path = root)
    (same : disk.SameBelow root counts disk') (config : counts [configFile])
    (ignored : counts [Manifest.ignoreFile])
    (counted : ∀ names, p (Path.joinNames names) = true → counts names) :
    plan.among p = plan'.among p := by
  have plain : Path.parentName ∉ root.names := isRoot ▸ Path.plain_resolve _ _
  have alike := same.alike plain config ignored
  have files := alike.filter_files_eq isRoot isRoot planned planned' orderly orderly' (p := p)
    fun names content _ _ fits => same names content (counted names fits)
  obtain ⟨directory, project, _, _, _, loaded, loaded', _⟩ :=
    alike.exists_project isRoot isRoot planned planned'
  obtain ⟨_, _, first, resolved, selected, _, configured⟩ := Plan.of_eq_ok planned
  obtain ⟨_, _, second, resolved', selected', _, configured'⟩ := Plan.of_eq_ok planned'
  rw [isRoot] at first second
  cases loaded.symm.trans first
  cases loaded'.symm.trans second
  have settings := Except.ok.inj (resolved.symm.trans resolved')
  have scanners := Except.ok.inj (selected.symm.trans selected')
  have directories := configured.trans configured'.symm
  unfold Plan.among
  rw [files, settings, scanners, directories]

/-- The same search, with other files in the manifest. -/
def Search.withFiles (search : Search) (files : List FileRecord) : Search :=
  { search with manifest := { search.manifest with files } }

/-- Files that a search does not read do not matter to it. -/
theorem Search.search_withFiles {search : Search} {files : List FileRecord}
    (sources : (search.withFiles files).sources = search.sources)
    (wholes : (search.withFiles files).wholes = search.wholes) :
    (search.withFiles files).search = search.search := by
  have inputs (scanner : Scanner) :
      (search.withFiles files).inputsOf scanner = search.inputsOf scanner := by
    unfold Search.inputsOf
    rw [sources, wholes]
  have answers : (search.withFiles files).answersOf = search.answersOf := by
    funext scanner
    unfold Search.answersOf
    rw [inputs]
    rfl
  have keys : (search.withFiles files).keys = search.keys := by
    unfold Search.keys
    simp only [sources, inputs]
    rfl
  unfold Search.search
  rw [sources, answers, keys]
  rfl

theorem Plan.searchOn_of_dry (plan : Plan) (isDry : request.dry = true) :
    plan.searchOn host request root disk = plan.search host request.signal root
      (HashCache.load disk (Manifest.cachePath root)) disk := by
  unfold Plan.searchOn diskWithHashes
  rw [isDry]
  rfl

/-- What a dry run finds is what it finds among the files that it reads. -/
theorem Plan.finds_among_iff (isDry : request.dry = true)
    (sources : (plan.among p).sources = plan.sources) (wholes : (plan.among p).wholes = plan.wholes) :
    ((plan.among p).searchOn host request root disk).Finds asked found ↔
      (plan.searchOn host request root disk).Finds asked found := by
  rw [Plan.searchOn_of_dry _ isDry, Plan.searchOn_of_dry _ isDry]
  let hashes := HashCache.load disk (Manifest.cachePath root)
  let search := plan.search host request.signal root hashes disk
  let files := (plan.among p).files.map (Manifest.record hashes)
  have same : (search.withFiles files).search = search.search := by
    apply Search.search_withFiles
    · change ((plan.among p).search host request.signal root hashes disk).sources = search.sources
      rw [Plan.sources_search, Plan.sources_search, sources]
    · change ((plan.among p).search host request.signal root hashes disk).wholes = search.wholes
      rw [Plan.wholes_search, Plan.wholes_search, wholes]
  change (search.withFiles files).Finds asked found ↔ search.Finds asked found
  unfold Search.Finds
  rw [same]
  rfl

/-- Where two disks have the same files and caches, a dry run finds the same. -/
theorem Search.Finds.onSame
    (finds : ((plan.among p).searchOn host request root disk).Finds asked found)
    (isDry : request.dry = true) (planned : Plan.of host request disk = .ok plan)
    (planned' : Plan.of host request disk' = .ok plan') (orderly : disk.Orderly)
    (orderly' : disk'.Orderly) (isRoot : Path.resolve host.working request.path = root)
    (samePlan : plan.among p = plan'.among p)
    (hashes : HashCache.load disk (Manifest.cachePath root) =
      HashCache.load disk' (Manifest.cachePath root))
    (scans : Disk.SameFile (scanCachePath root) disk disk') :
    ((plan'.among p).searchOn host request root disk').Finds asked found := by
  subst isRoot
  rw [Plan.searchOn_of_dry _ isDry] at finds ⊢
  rw [← samePlan, ← hashes]
  have fits : ((plan.among p).search host request.signal (Path.resolve host.working request.path)
      (HashCache.load disk (Manifest.cachePath (Path.resolve host.working request.path))) disk).Matches
      AnyLog (fun _ => False) disk' request.signal := by
    refine ⟨fun _ _ _ _ => trivial, fun _ => Or.inl rfl, ?_⟩
    intro record isRecord
    obtain ⟨file, mem, rfl⟩ := List.mem_map.mp isRecord
    have mem' : file ∈ (plan'.among p).files := samePlan ▸ mem
    have read := Plan.read_file planned orderly (Disk.Touches.refl _ disk)
      (List.mem_of_mem_filter mem)
    have read' := Plan.read_file planned' orderly' (Disk.Touches.refl _ disk')
      (List.mem_of_mem_filter mem')
    exact Or.inl (Disk.readText_of_read (read.trans read'.symm))
  exact finds.onDisk fits scans

/-! ## Generated files -/

/-- Whether the file at a path is not generated. -/
def isAuthored (path : Text) : Bool :=
  FileKind.ofPath path != .generated

/-- No generated file of the project has a suffix that is configured. -/
def Plan.SparesGenerated (plan : Plan) : Prop :=
  ∀ file ∈ plan.files, FileKind.ofPath file.path = .generated → plan.settings.accepts file.path = false

theorem Plan.sources_among_isAuthored (plan : Plan) :
    (plan.among isAuthored).sources = plan.sources := by
  unfold Plan.sources Plan.among
  rw [List.filter_filter]
  apply List.filter_congr
  intro file _
  cases isKind : FileKind.ofPath file.path <;> simp [isAuthored, isKind]

theorem Plan.SparesGenerated.wholes_among (spares : plan.SparesGenerated) :
    (plan.among isAuthored).wholes = plan.wholes := by
  unfold Plan.wholes Plan.among
  rw [List.filter_filter]
  apply List.filter_congr
  intro file mem
  dsimp only
  by_cases isGenerated : FileKind.ofPath file.path = .generated
  · rw [spares file mem isGenerated, Bool.false_and]
  · simp [isAuthored, isGenerated]

/-- The place of a file that is not generated. -/
abbrev IsAuthoredAt (names : List Text) : Prop :=
  isAuthored (Path.joinNames names) = true

theorem Plan.SparesGenerated.finds_among_iff (spares : plan.SparesGenerated)
    (isDry : request.dry = true) :
    ((plan.among isAuthored).searchOn host request root disk).Finds asked found ↔
      (plan.searchOn host request root disk).Finds asked found :=
  Plan.finds_among_iff isDry plan.sources_among_isAuthored spares.wholes_among

/-- A path with a suffix in small letters that ends otherwise is not that of a generated file. -/
theorem ofPath_ne_generated_of_suffix {path suffix : Text} {last : CodePoint}
    (ends : suffix <:+ path) (small : ∀ before, Text.lowerAfter before suffix = suffix)
    (isLast : suffix.getLast? = some last) (apart : last ≠ 's') :
    FileKind.ofPath path ≠ .generated := by
  obtain ⟨front, rfl⟩ := ends
  obtain ⟨front', lower⟩ := Text.exists_lowerAfter_append [] front suffix
  have notGenerated : (".g.cs" : Text).isSuffixOf (Text.lower (front ++ suffix)) ≠ true := by
    rw [Text.lower, lower, small, Ne, List.isSuffixOf_iff_suffix]
    rintro ⟨front'', same⟩
    have lasts := congrArg List.getLast? same
    rw [List.getLast?_append, List.getLast?_append, isLast] at lasts
    exact apart (Option.some.inj lasts).symm
  unfold FileKind.ofPath
  rw [if_neg notGenerated]
  split <;> decide

/-- The default suffixes are not those of generated files. -/
theorem Plan.sparesGenerated_of_default (isDefault : plan.settings.extensions = defaultExtensions) :
    plan.SparesGenerated := by
  intro file _ isGenerated
  rw [RunSettings.accepts, isDefault, defaultExtensions, List.any_eq_false]
  intro suffix isSuffix ends
  rw [List.isSuffixOf_iff_suffix] at ends
  simp only [List.mem_cons, List.not_mem_nil, or_false] at isSuffix
  rcases isSuffix with rfl | rfl
  · exact ofPath_ne_generated_of_suffix ends (fun _ => rfl) (by rfl) (by decide) isGenerated
  · exact ofPath_ne_generated_of_suffix ends (fun _ => rfl) (by rfl) (by decide) isGenerated

section

variable {progress : Progress} (orderly : disk.Orderly) (orderly' : disk'.Orderly)
  (isRoot : Path.resolve host.working request.path = root)
  (same : disk.SameBelow root IsAuthoredAt disk')
  (planned : Plan.of host request disk = .ok plan) (planned' : Plan.of host request disk' = .ok plan')
  (spares : plan.SparesGenerated) (spares' : plan'.SparesGenerated)

include orderly orderly' isRoot same planned planned' spares spares'

/-- Generated files apart, the same project is on two disks.  So dry runs work with the same settings and
find the same, as long as no generated file has a suffix that is configured. -/
theorem Search.Finds.ofSameAuthored (isDry : request.dry = true)
    (finds : (plan.searchOn host request root disk).Finds asked found) :
    plan'.settings = plan.settings ∧ plan'.scanners = plan.scanners ∧
      (plan'.searchOn host request root disk').Finds asked found := by
  have plain : Path.parentName ∉ root.names := isRoot ▸ Path.plain_resolve _ _
  have samePlan : plan.among isAuthored = plan'.among isAuthored :=
    Plan.among_eq planned planned' orderly orderly' isRoot same (by decide) (by decide)
      fun _ fits => fits
  have settings : (plan'.among isAuthored).settings = (plan.among isAuthored).settings := by
    rw [samePlan]
  have scanners : (plan'.among isAuthored).scanners = (plan.among isAuthored).scanners := by
    rw [samePlan]
  refine ⟨settings, scanners, (spares'.finds_among_iff isDry).mp ?_⟩
  exact ((spares.finds_among_iff isDry).mpr finds).onSame isDry planned planned' orderly orderly' isRoot
    samePlan (same.hashes_eq plain (by decide)) (same.scans plain (by decide))

/-- What a dry run gives, it gives with other generated files, too. -/
theorem exists_run_of_sameAuthored (isDry : request.dry = true) {outcome : Outcome} {after : World}
    (gives : (run host request).run.run ⟨disk, progress⟩ = (.ok outcome, after)) :
    ∃ outcome' after', (run host request).run.run ⟨disk', progress⟩ = (.ok outcome', after') ∧
      outcome'.generation = outcome.generation ∧ outcome'.reused = outcome.reused ∧
      outcome'.computed = outcome.computed := by
  obtain ⟨_, found, first, finds, tells⟩ := (finds_run host request _ isRoot).of_eq_ok gives
  cases planned.symm.trans first
  obtain ⟨settings, scanners, finds'⟩ :=
    finds.ofSameAuthored orderly orderly' isRoot same planned planned' spares spares' isDry
  obtain ⟨outcome', after', gives', tells'⟩ :=
    exists_run_of_finds ⟨disk', progress⟩ isRoot isDry planned' finds'
  refine ⟨outcome', after', gives', ?_, ?_, ?_⟩
  · rw [tells'.generation, tells.generation, settings, scanners]
  · exact tells'.reused.trans tells.reused.symm
  · exact tells'.computed.trans tells.computed.symm

/-- The class names that are collected are collected with other generated files, too. -/
theorem exists_collect_of_sameAuthored {classes : List Text} {after : World}
    (gives : (collect host request).run.run ⟨disk, progress⟩ = (.ok classes, after)) :
    ∃ after', (collect host request).run.run ⟨disk', progress⟩ = (.ok classes, after') := by
  let observed : Request := { request with dry := true }
  have isRoot' : Path.resolve host.working observed.path = root := isRoot
  obtain ⟨_, found, first, finds, rfl⟩ := (finds_collect host request _ isRoot).of_eq_ok gives
  cases planned.symm.trans first
  have finds' := finds.ofSameAuthored orderly orderly' isRoot' same first planned' spares spares' rfl
  exact exists_collect_of_finds ⟨disk', progress⟩ isRoot planned' finds'.2.2

end

/-- The project with one more file. -/
def exampleDiskWith (name : Text) (more : FileContent) : Disk where
  top := .directory
    [("p", .directory [(name, .file more), ("A.cs", .file (exampleContent "a" 1))])]
  clock := 5

theorem orderly_exampleDiskWith {name : Text} (isName : Path.IsName name) (other : name ≠ "A.cs")
    (more : FileContent) : (exampleDiskWith name more).Orderly := by
  refine Tree.Orderly.ofEntry (by decide) (Tree.Orderly.ofDirectory ?_ ?_ ?_)
  · exact List.nodup_cons.mpr ⟨fun mem => other (List.mem_singleton.mp mem), List.nodup_singleton _⟩
  · exact List.forall_mem_cons.mpr ⟨isName, by decide⟩
  · exact List.forall_mem_cons.mpr ⟨.ofFile _, List.forall_mem_singleton.mpr (.ofFile _)⟩

/-- All else is the same. -/
theorem view_exampleDiskWith {name : Text} {place : List Text} (other : place ≠ [("p" : Text), name])
    (more : FileContent) :
    (exampleDiskWith name more).view place = (exampleDisk (exampleContent "a" 1)).view place := by
  unfold Disk.view exampleDiskWith exampleDisk
  cases place with
  | nil => rfl
  | cons first names =>
      rw [Tree.view_directory_cons, Tree.view_directory_cons]
      simp only [Dictionary.get?_cons, Dictionary.get?_nil]
      by_cases isProject : ("p" : Text) = first
      · subst isProject
        rw [if_pos rfl, if_pos rfl, Option.bind_some, Option.bind_some]
        cases names with
        | nil => rfl
        | cons second names =>
            rw [Tree.view_directory_cons, Tree.view_directory_cons]
            simp only [Dictionary.get?_cons, Dictionary.get?_nil]
            by_cases isName : name = second
            · subst isName
              cases names with
              | nil => exact absurd rfl other
              | cons third names =>
                  -- Nothing is below a file.
                  rw [if_pos rfl]
                  split <;> rfl
            · rw [if_neg isName]
      · rw [if_neg isProject, if_neg isProject]

theorem sameBelow_exampleDiskWith {name : Text} {counts : List Text → Prop} (apart : ¬ counts [name])
    (more : FileContent) : (exampleDisk (exampleContent "a" 1)).SameBelow ⟨"/", ["p"]⟩ counts
      (exampleDiskWith name more) := by
  intro names content counted
  rw [view_exampleDiskWith]
  intro same
  exact apart (List.append_cancel_left same ▸ counted)

/-- A dry run for the project comes to its end, and so does it to collect its class name. -/
theorem exists_run_example : ∃ outcome after observed,
    (run exampleHost exampleRequest).run.run ⟨exampleDisk (exampleContent "a" 1), {}⟩ =
      (.ok outcome, after) ∧
    (collect exampleHost exampleRequest).run.run ⟨exampleDisk (exampleContent "a" 1), {}⟩ =
      (.ok ["a"], observed) := by
  have runs : ((run exampleHost exampleRequest).run.run
      ⟨exampleDisk (exampleContent "a" 1), {}⟩).1.toOption.isSome = true := by
    decide +kernel
  have collects : ((collect exampleHost exampleRequest).run.run
      ⟨exampleDisk (exampleContent "a" 1), {}⟩).1.toOption = some [("a" : Text)] := by
    decide +kernel
  rcases gives : (run exampleHost exampleRequest).run.run
    ⟨exampleDisk (exampleContent "a" 1), {}⟩ with ⟨result, after⟩
  rcases gives' : (collect exampleHost exampleRequest).run.run
    ⟨exampleDisk (exampleContent "a" 1), {}⟩ with ⟨result', observed⟩
  rw [gives] at runs
  rw [gives'] at collects
  obtain ⟨outcome, rfl⟩ := exists_ok_of_isSome runs
  cases result' with
  | error failure => cases collects
  | ok classes =>
      cases collects
      exact ⟨outcome, after, observed, rfl, rfl⟩

/-- The project before and after a file is generated that uses another class name. -/
def exampleDisks : List Disk :=
  [exampleDisk (exampleContent "a" 1), exampleDiskWith "A.g.cs" (exampleContent "bc" 2)]

theorem exists_plan_exampleDisks : ∀ disk ∈ exampleDisks, ∃ plan,
    Plan.of exampleHost exampleRequest disk = .ok plan ∧ plan.SparesGenerated := by
  have extensions : ∀ disk ∈ exampleDisks,
      (Plan.of exampleHost exampleRequest disk).map (·.settings.extensions) =
        .ok defaultExtensions := by
    decide +kernel
  intro disk mem
  have same := extensions disk mem
  cases planned : Plan.of exampleHost exampleRequest disk with
  | error failure =>
      rw [planned] at same
      cases same
  | ok plan =>
      rw [planned] at same
      exact ⟨plan, rfl, Plan.sparesGenerated_of_default (Except.ok.inj same)⟩

end Project
end ClassHarvest
