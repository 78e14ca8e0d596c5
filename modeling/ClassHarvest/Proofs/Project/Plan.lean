import ClassHarvest.Project.Run
import ClassHarvest.Proofs.Files.Walk
import ClassHarvest.Proofs.Project.Search

/-!
# What a run works on

The settings, the scanners and the files of a run depend on the disk at its beginning, but not on what
is kept in caches.  A search for them knows all that it needs to recall what it may recall.
-/

namespace ClassHarvest

open Gathering Json Scan

/-! ## Places of a project -/

theorem Disk.view_append_of_status {disk : Disk} {root : Path} {tree : Tree}
    (plain : Path.parentName ∉ root.names) (found : disk.status root = .ok tree)
    (names : List Text) : disk.view (root.names ++ names) = tree.view names := by
  rw [status] at found
  cases located : disk.locate root with
  | error fault =>
      rw [located] at found
      cases found
  | ok place =>
      have same := locate_eq_ok located
      rw [Path.followParents_of_plain plain] at same
      subst same
      rw [located] at found
      simp only [bind, Except.bind] at found
      split at found
      · next inner held =>
          cases found
          rw [view, Tree.view, Tree.get?_append, held]
          rfl
      · cases found

namespace Project

/-- Where a project keeps its scans. -/
def scanCachePath (root : Path) : Path :=
  (root.child Walk.stateDirectory).child "cache.json"

theorem place_state {root : Path} (plain : Path.parentName ∉ root.names) {name : Text}
    (notParent : name ≠ Path.parentName) :
    ((root.child Walk.stateDirectory).child name).place =
      root.names ++ [Walk.stateDirectory, name] := by
  rw [Path.place_child notParent, Path.place_child (by decide), Path.place_of_plain plain]
  simp

theorem place_hashes {root : Path} (plain : Path.parentName ∉ root.names) :
    (Manifest.cachePath root).place =
      root.names ++ [Walk.stateDirectory, Manifest.cacheName] :=
  place_state plain (by decide)

theorem place_scans {root : Path} (plain : Path.parentName ∉ root.names) :
    (scanCachePath root).place = root.names ++ [Walk.stateDirectory, "cache.json"] :=
  place_state plain (by decide)

/-! ## Plans -/

/-- The files of the project in a directory, without what is excluded. -/
def projectFiles (disk : Disk) (given : Text) (root : Path) (excluded : List Text) :
    Except Manifest.ScanError (List Walk.Found) :=
  match disk.status root with
  | .error _ => .error (.notFound given)
  | .ok (.file _) => .error (.notDirectory given)
  | .ok (.directory entries) =>
    match Manifest.rules disk root excluded with
    | .error error => .error (.ignoreFile error)
    | .ok rules => .ok (Walk.files rules (.directory entries))

/-- What a run works on. -/
structure Plan where
  /-- The settings. -/
  settings : RunSettings
  /-- The scanners. -/
  scanners : List Scanner
  /-- The output directory that is configured. -/
  configured : Path
  /-- The files of the project in the order of their paths. -/
  files : List Walk.Found
deriving DecidableEq

/-- What a run works on, as the disk is. -/
def Plan.of (host : Host) (request : Request) (disk : Disk) : Except Failure Plan := do
  let root := Path.resolve host.working request.path
  let (directory, project) ← (ProjectSettings.load disk root).mapError .settings
  let settings ← (resolve project request.options request.mode).mapError .resolution
  let scanners ← (selectScanners host request.scanners project).mapError .discovery
  let files ← (projectFiles disk root.text root project.excluded).mapError .manifest
  return ⟨settings, scanners, directory.join (Path.ofText project.outputName), files⟩

/-- A manifest lists the files of a project, and keeping hashes is all that changes the disk. -/
theorem scan_eq (disk : Disk) (given : Text) (root : Path) (excluded : List Text) (persist : Bool) :
    (Manifest.scan disk given root excluded persist).map (fun (manifest, disk, _) =>
        (manifest, disk)) =
      (projectFiles disk given root excluded).map fun found =>
        let cache := HashCache.load disk (Manifest.cachePath root)
        (⟨root, found.map (Manifest.record cache)⟩,
          if persist then
            ((Manifest.hashes cache found).save disk (Manifest.cachePath root)).1
          else disk) := by
  unfold Manifest.scan projectFiles
  cases disk.status root with
  | error fault => rfl
  | ok tree =>
      cases tree with
      | file content => rfl
      | directory entries =>
          dsimp only
          cases Manifest.rules disk root excluded with
          | error error => rfl
          | ok rules => cases persist <;> rfl

theorem projectFiles_eq_ok {disk : Disk} {given : Text} {root : Path} {excluded : List Text}
    {files : List Walk.Found} (listed : projectFiles disk given root excluded = .ok files) :
    ∃ rules entries, disk.status root = .ok (.directory entries) ∧
      Manifest.rules disk root excluded = .ok rules ∧
      files = Walk.files rules (.directory entries) := by
  unfold projectFiles at listed
  split at listed
  · cases listed
  · cases listed
  · next entries status =>
      split at listed
      · cases listed
      · next rules isRules =>
          cases listed
          exact ⟨rules, entries, status, isRules, rfl⟩

/-! ## The files of a project -/

section

variable {disk : Disk} {given : Text} {root : Path} {excluded : List Text} {files : List Walk.Found}

/-- A project is a directory. -/
theorem view_root_of_listed (listed : projectFiles disk given root excluded = .ok files)
    (plain : Path.parentName ∉ root.names) : disk.view root.names = some .directory := by
  obtain ⟨rules, entries, status, _, _⟩ := projectFiles_eq_ok listed
  have seen := Disk.view_append_of_status plain status []
  rw [List.append_nil] at seen
  exact seen

/-- A file of a project is seen on the disk, and not where caches are. -/
theorem exists_view_of_listed (listed : projectFiles disk given root excluded = .ok files)
    (plain : Path.parentName ∉ root.names) (orderly : disk.Orderly) {file : Walk.Found}
    (mem : file ∈ files) :
    ∃ names, file.path = Path.joinNames names ∧ (∀ name ∈ names, Path.IsName name) ∧
      disk.view (root.names ++ names) = some (.file file.content) ∧
      ∀ name rest, names ≠ Walk.stateDirectory :: name :: rest := by
  obtain ⟨rules, entries, status, _, isFiles⟩ := projectFiles_eq_ok listed
  rw [isFiles, Walk.mem_files_iff (orderly.of_status status)] at mem
  obtain ⟨names, path, seen, reached⟩ := mem
  refine ⟨names, path, (orderly.of_status status).isName_of_view seen, ?_, ?_⟩
  · rw [Disk.view_append_of_status plain status]
    exact seen
  · rintro name rest rfl
    rw [Walk.not_reaches_state] at reached
    cases reached

theorem nodup_paths_of_listed (listed : projectFiles disk given root excluded = .ok files)
    (orderly : disk.Orderly) : (files.map Walk.Found.path).Nodup := by
  obtain ⟨rules, entries, status, _, isFiles⟩ := projectFiles_eq_ok listed
  rw [isFiles]
  exact Walk.nodup_paths_files rules (orderly.of_status status)

theorem plain_path_of_listed (listed : projectFiles disk given root excluded = .ok files)
    (plain : Path.parentName ∉ root.names) (orderly : disk.Orderly) {file : Walk.Found}
    (mem : file ∈ files) : ∀ c ∈ file.path, c.isHighSurrogate = false := by
  obtain ⟨names, path, all, _, _⟩ := exists_view_of_listed listed plain orderly mem
  rw [path]
  exact Path.plain_joinNames all

/-- What is kept in caches does not matter to the files of a project. -/
theorem read_of_listed (listed : projectFiles disk given root excluded = .ok files)
    (plainRoot : Path.parentName ∉ root.names) (orderly : disk.Orderly) {disk' : Disk}
    (touches : disk.Touches [(Manifest.cachePath root).place] disk') {file : Walk.Found}
    (mem : file ∈ files) :
    disk'.read (root.join (Path.ofText file.path)) = .ok file.content.bytes := by
  obtain ⟨names, path, all, seen, notState⟩ := exists_view_of_listed listed plainRoot orderly mem
  have joined : root.join (Path.ofText file.path) = ⟨root.anchor, root.names ++ names⟩ := by
    rw [path, Path.ofText_joinNames all]
    rfl
  have plain : Path.parentName ∉ root.names ++ names := by
    rw [List.mem_append, not_or]
    exact ⟨plainRoot, fun mem => (all _ mem).notParent rfl⟩
  have outside : root.names ++ names ∉ [(Manifest.cachePath root).place] := by
    rw [place_hashes plainRoot, List.mem_singleton]
    intro same
    exact notState _ _ (List.append_cancel_left same)
  have look := @Disk.look_of_view disk' ⟨root.anchor, root.names ++ names⟩ (.file file.content) plain
    ((touches.view_eq_file_iff outside).mpr seen)
  rw [joined, Disk.read_eq, look]

variable {seen : Text → FileContent → Prop} {hashes : HashCache}

theorem tidy_hashes_of_listed (listed : projectFiles disk given root excluded = .ok files)
    (plain : Path.parentName ∉ root.names) (orderly : disk.Orderly)
    (isSeen : ∀ file ∈ files, seen file.path file.content)
    (justified : HashCache.Justified seen hashes) : (Manifest.hashes hashes files).Tidy where
  paths := by
    have keys : Dictionary.keys (Manifest.hashes hashes files) = files.map Walk.Found.path := by
      simp [Manifest.hashes, Dictionary.keys, Function.comp_def]
    rw [keys]
    refine ⟨nodup_paths_of_listed listed orderly, fun path mem => ?_⟩
    obtain ⟨file, isFile, rfl⟩ := List.mem_map.mp mem
    exact joinSurrogates_eq_self (plain_path_of_listed listed plain orderly isFile)
  hashes := by
    intro entry mem
    obtain ⟨file, isFile, rfl⟩ := List.mem_map.mp mem
    exact HashCache.joinSurrogates_hashOf justified (isSeen file isFile)

theorem justified_hashes (isSeen : ∀ file ∈ files, seen file.path file.content)
    (justified : HashCache.Justified seen hashes) :
    HashCache.Justified seen (Manifest.hashes hashes files) := by
  intro path entry found
  obtain ⟨file, isFile, same⟩ := List.mem_map.mp (Dictionary.mem_of_get?_eq_some found)
  cases same
  exact HashCache.exists_ofFile_hashOf justified (isSeen file isFile)

end

/-! ## What a plan is made of -/

variable {host : Host} {request : Request} {disk : Disk} {plan : Plan}

/-- What a plan was made of. -/
theorem Plan.of_eq_ok (planned : Plan.of host request disk = .ok plan) :
    let root := Path.resolve host.working request.path
    ∃ directory project, ProjectSettings.load disk root = .ok (directory, project) ∧
      resolve project request.options request.mode = .ok plan.settings ∧
      selectScanners host request.scanners project = .ok plan.scanners ∧
      projectFiles disk root.text root project.excluded = .ok plan.files ∧
      plan.configured = directory.join (Path.ofText project.outputName) := by
  intro root
  obtain ⟨⟨directory, project⟩, loaded, planned⟩ := bind_eq_ok_iff.mp planned
  obtain ⟨settings, resolved, planned⟩ := bind_eq_ok_iff.mp planned
  obtain ⟨scanners, selected, planned⟩ := bind_eq_ok_iff.mp planned
  obtain ⟨files, listed, planned⟩ := bind_eq_ok_iff.mp planned
  cases planned
  exact ⟨directory, project, mapError_eq_ok_iff.mp loaded, mapError_eq_ok_iff.mp resolved,
    mapError_eq_ok_iff.mp selected, mapError_eq_ok_iff.mp listed, rfl⟩

/-- A project is a directory. -/
theorem Plan.view_root (planned : Plan.of host request disk = .ok plan) :
    disk.view (Path.resolve host.working request.path).names = some .directory := by
  obtain ⟨_, _, _, _, _, listed, _⟩ := Plan.of_eq_ok planned
  exact view_root_of_listed listed (Path.plain_resolve _ _)

/-! ## The files of a plan -/

theorem Plan.nodup_paths (planned : Plan.of host request disk = .ok plan)
    (orderly : disk.Orderly) :
    (plan.files.map Walk.Found.path).Nodup := by
  obtain ⟨_, _, _, _, _, listed, _⟩ := Plan.of_eq_ok planned
  exact nodup_paths_of_listed listed orderly

theorem Plan.plain_path (planned : Plan.of host request disk = .ok plan)
    (orderly : disk.Orderly) {file : Walk.Found}
    (mem : file ∈ plan.files) : ∀ c ∈ file.path, c.isHighSurrogate = false := by
  obtain ⟨_, _, _, _, _, listed, _⟩ := Plan.of_eq_ok planned
  exact plain_path_of_listed listed (Path.plain_resolve _ _) orderly mem

/-- What is kept in caches does not matter to the files of a plan. -/
theorem Plan.read_file (planned : Plan.of host request disk = .ok plan)
    (orderly : disk.Orderly) {disk' : Disk}
    (touches : disk.Touches
      [(Manifest.cachePath (Path.resolve host.working request.path)).place] disk')
    {file : Walk.Found} (mem : file ∈ plan.files) :
    disk'.read ((Path.resolve host.working request.path).join (Path.ofText file.path)) =
      .ok file.content.bytes := by
  obtain ⟨_, _, _, _, _, listed, _⟩ := Plan.of_eq_ok planned
  exact read_of_listed listed (Path.plain_resolve _ _) orderly touches mem

/-! ## Searching for a plan -/

/-- The search for a plan, with some hashes and some files on the disk. -/
def Plan.search (plan : Plan) (host : Host) (signal : Pattern.Signal) (root : Path)
    (hashes : HashCache) (disk : Disk) : Search where
  disk := disk
  manifest := ⟨root, plan.files.map (Manifest.record hashes)⟩
  settings := plan.settings
  scanners := plan.scanners
  signal := signal
  host := host

/-- The source files of a plan. -/
def Plan.sources (plan : Plan) : List Walk.Found :=
  plan.files.filter fun file => FileKind.ofPath file.path = .source

/-- The files of a plan that are searched as a whole. -/
def Plan.wholes (plan : Plan) : List Walk.Found :=
  plan.files.filter fun file => plan.settings.accepts file.path

/-- The files of a plan that a scanner reads. -/
def Plan.inputsOf (plan : Plan) (scanner : Scanner) : List Walk.Found :=
  match scanner.input with
  | .file => plan.wholes
  | .source => plan.sources

/-- The scanners of a plan with each file that they read. -/
def Plan.pairs (plan : Plan) : List (Scanner × Walk.Found) :=
  plan.scanners.flatMap fun scanner => (plan.inputsOf scanner).map (scanner, ·)

section

variable (plan : Plan) (host : Host) (signal : Pattern.Signal) (root : Path) (hashes : HashCache)
  (disk : Disk)

theorem Plan.sources_search : (plan.search host signal root hashes disk).sources =
    plan.sources.map (Manifest.record hashes) := by
  unfold Search.sources Manifest.ofKind Plan.sources
  change (plan.files.map (Manifest.record hashes)).filter _ = _
  rw [List.filter_map]
  rfl

theorem Plan.wholes_search : (plan.search host signal root hashes disk).wholes =
    plan.wholes.map (Manifest.record hashes) := by
  unfold Search.wholes Plan.wholes
  change (plan.files.map (Manifest.record hashes)).filter _ = _
  rw [List.filter_map]
  rfl

theorem Plan.inputsOf_search (scanner : Scanner) :
    (plan.search host signal root hashes disk).inputsOf scanner =
      (plan.inputsOf scanner).map (Manifest.record hashes) := by
  unfold Search.inputsOf Plan.inputsOf
  cases scanner.input with
  | source => exact plan.sources_search host signal root hashes disk
  | file => exact plan.wholes_search host signal root hashes disk

theorem Plan.visits_search : (plan.search host signal root hashes disk).visits =
    plan.pairs.map fun pair => (pair.1, Manifest.record hashes pair.2) := by
  unfold Search.visits Plan.pairs
  rw [List.map_flatMap]
  apply List.flatMap_congr
  intro scanner _
  unfold Search.visitsOf
  rw [Plan.inputsOf_search, List.map_map, List.map_map]
  rfl

end

theorem Plan.sources_subset (plan : Plan) : plan.sources ⊆ plan.files :=
  List.filter_subset_self _

theorem Plan.inputsOf_subset (plan : Plan) (scanner : Scanner) :
    plan.inputsOf scanner ⊆ plan.files := by
  unfold Plan.inputsOf
  cases scanner.input with
  | source => exact plan.sources_subset
  | file => exact List.filter_subset_self _

theorem Plan.mem_pairs {pair : Scanner × Walk.Found} :
    pair ∈ plan.pairs ↔ pair.1 ∈ plan.scanners ∧ pair.2 ∈ plan.inputsOf pair.1 := by
  obtain ⟨scanner, file⟩ := pair
  simp [Plan.pairs]

/-- A plan is one of those that the evidence is about. -/
structure Evidence.Covers (evidence : Evidence) (host : Host) (plan : Plan) : Prop where
  own : ∀ scanner ∈ plan.scanners, scanner ∈ Scanner.builtIn
  scannersNodup : plan.scanners.Nodup
  used : evidence.settings plan.settings
  seen : ∀ file ∈ plan.files, evidence.seen file.path file.content
  version : ∀ c ∈ host.version, c.isHighSurrogate = false

variable {evidence : Evidence} {hashes : HashCache} {disk' : Disk} {signal : Pattern.Signal}

theorem Plan.bytesOf_record (planned : Plan.of host request disk = .ok plan)
    (orderly : disk.Orderly)
    (touches : disk.Touches
      [(Manifest.cachePath (Path.resolve host.working request.path)).place] disk')
    {file : Walk.Found} (mem : file ∈ plan.files) :
    (plan.search host signal (Path.resolve host.working request.path) hashes disk').bytesOf
      (Manifest.record hashes file) = file.content.bytes := by
  have read := Plan.read_file planned orderly touches mem
  unfold Search.bytesOf
  change ((disk'.read ((Path.resolve host.working request.path).join
    (Path.ofText file.path))).toOption).getD [] = file.content.bytes
  rw [read]
  rfl

/-- The search for a plan finds what the evidence is about. -/
theorem Plan.backed (planned : Plan.of host request disk = .ok plan)
    (orderly : disk.Orderly)
    (touches : disk.Touches
      [(Manifest.cachePath (Path.resolve host.working request.path)).place] disk')
    (covers : evidence.Covers host plan) (distinct : evidence.Distinct)
    (justified : HashCache.Justified evidence.seen hashes) :
    (plan.search host signal (Path.resolve host.working request.path) hashes disk').Backed
      evidence := by
  have bytes {file : Walk.Found} (mem : file ∈ plan.files) :
      (plan.search host signal (Path.resolve host.working request.path) hashes disk').bytesOf
        (Manifest.record hashes file) = file.content.bytes :=
    Plan.bytesOf_record planned orderly touches mem
  refine ⟨covers.own, covers.scannersNodup, covers.used, ?_, ?_, ?_, ?_, ?_, covers.version⟩
  · intro record isRecord
    obtain ⟨file, mem, rfl⟩ := List.mem_map.mp isRecord
    rw [bytes mem]
    exact Plan.read_file planned orderly touches mem
  · intro record isRecord
    obtain ⟨file, mem, rfl⟩ := List.mem_map.mp isRecord
    rw [bytes mem]
    exact HashCache.hashOf_eq justified distinct.settled (covers.seen file mem)
  · intro record isRecord
    obtain ⟨file, mem, rfl⟩ := List.mem_map.mp isRecord
    rw [bytes mem]
    exact ⟨file.content, covers.seen file mem, rfl⟩
  · change ((plan.files.map (Manifest.record hashes)).map (·.path)).Nodup
    rw [List.map_map]
    exact Plan.nodup_paths planned orderly
  · intro record isRecord
    obtain ⟨file, mem, rfl⟩ := List.mem_map.mp isRecord
    exact Plan.plain_path planned orderly mem

end Project
end ClassHarvest
