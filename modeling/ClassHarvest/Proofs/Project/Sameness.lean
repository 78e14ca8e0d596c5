import ClassHarvest.Proofs.Project.Plan

/-!
# Disks that are the same to a project

What a run works on and what its caches hold depends on few files: those it reads, its configuration,
its ignore file and its caches.
-/

namespace ClassHarvest

/-! ## Files that are the same -/

namespace Disk

variable {disk disk' : Disk} {path : Path}

/-- There is the same file at a path, or there is none on either disk. -/
def SameFile (path : Path) (disk disk' : Disk) : Prop :=
  ∀ content, disk.look path = .ok (.file content) ↔ disk'.look path = .ok (.file content)

theorem sameFile_of_view (plain : Path.parentName ∉ path.names)
    (same : ∀ content, disk.view path.names = some (.file content) ↔
      disk'.view path.names = some (.file content)) : SameFile path disk disk' := by
  intro content
  constructor
  · exact fun seen => look_of_view plain ((same content).mp (view_of_look plain seen))
  · exact fun seen => look_of_view plain ((same content).mpr (view_of_look plain seen))

/-- Without a file there is nothing to be read. -/
theorem readText_of_noFile (noFile : ∀ content, disk.look path ≠ .ok (.file content)) :
    ∃ error, disk.readText path = .error (.access error) := by
  rw [readText, read_eq]
  cases found : disk.look path with
  | error fault => exact ⟨_, rfl⟩
  | ok sight =>
      cases sight with
      | directory => exact ⟨_, rfl⟩
      | file content => exact absurd found (noFile content)

/-- Either the same text is read, or none for want of a file. -/
theorem SameFile.readText_cases (same : SameFile path disk disk') :
    disk.readText path = disk'.readText path ∨
      (∃ error, disk.readText path = .error (.access error)) ∧
        ∃ error, disk'.readText path = .error (.access error) := by
  by_cases file : ∃ content, disk.look path = .ok (.file content)
  · obtain ⟨content, seen⟩ := file
    left
    rw [readText_of_file seen, readText_of_file ((same content).mp seen)]
  · right
    have noFile (content : FileContent) : disk.look path ≠ .ok (.file content) :=
      fun seen => file ⟨content, seen⟩
    exact ⟨readText_of_noFile noFile,
      readText_of_noFile fun content seen => noFile content ((same content).mpr seen)⟩

theorem SameFile.isFile_eq (same : SameFile path disk disk') : disk.isFile path = disk'.isFile path := by
  rw [Bool.eq_iff_iff, isFile_iff, isFile_iff]
  exact exists_congr same

end Disk

variable {disk disk' : Disk} {root : Path}

/-! ## What is kept -/

theorem HashCache.load_eq_of_sameFile {path : Path} (same : Disk.SameFile path disk disk') :
    HashCache.load disk path = HashCache.load disk' path := by
  unfold HashCache.load
  rcases same.readText_cases with equal | ⟨⟨error, unread⟩, error', unread'⟩
  · rw [equal]
  · rw [unread, unread']

/-- Without a file, a cache is opened empty. -/
theorem ScanCache.openAt_of_unread {path : Path} {error : FileError}
    (unread : disk.readText path = .error (.access error)) {cache : ScanCache} {log : Log}
    (opened : ScanCache.openAt (some path) disk = .ok (cache, log)) :
    cache = ⟨some path, [], false⟩ := by
  unfold openAt load at opened
  dsimp only at opened
  rw [unread] at opened
  dsimp only at opened
  split at opened
  · cases opened
    rfl
  · cases opened
    rfl

/-! ## What a run works on -/

/-- The configuration file of a project. -/
def configPath (root : Path) : Path :=
  (root.child configFile).normal

/-- A directory is configured by the file in it. -/
theorem ProjectSettings.load_of_directory (isDirectory : disk.isDirectory root = true) :
    ProjectSettings.load disk root =
      if disk.exists (configPath root) then do
        let text ← (disk.readText (configPath root)).mapError .file
        return ((configPath root).parent, ← ofText text)
      else return ((configPath root).parent, {}) := by
  unfold load fileFor
  rw [if_pos isDirectory]
  rfl

/-- The same settings are read, if any are. -/
theorem ProjectSettings.load_eq_of_sameFile (isDirectory : disk.isDirectory root = true)
    (isDirectory' : disk'.isDirectory root = true)
    (same : Disk.SameFile (configPath root) disk disk') {settings settings' : Path × ProjectSettings}
    (loaded : ProjectSettings.load disk root = .ok settings)
    (loaded' : ProjectSettings.load disk' root = .ok settings') : settings = settings' := by
  rw [load_of_directory isDirectory] at loaded
  rw [load_of_directory isDirectory'] at loaded'
  by_cases isFile : ∃ content, disk.look (configPath root) = .ok (.file content)
  · obtain ⟨content, seen⟩ := isFile
    have seen' := (same content).mp seen
    rw [Disk.exists_eq, Disk.readText_of_file seen, seen] at loaded
    rw [Disk.exists_eq, Disk.readText_of_file seen', seen', loaded] at loaded'
    exact Except.ok.inj loaded'
  · -- If there is anything, then a directory, which cannot be read.
    have unset {disk : Disk} (noFile : ∀ content, disk.look (configPath root) ≠ .ok (.file content))
        {settings : Path × ProjectSettings}
        (loaded : (if disk.exists (configPath root) then do
            let text ← (disk.readText (configPath root)).mapError SettingsError.file
            return ((configPath root).parent, ← ofText text)
          else return ((configPath root).parent, {})) = .ok settings) :
        settings = ((configPath root).parent, {}) := by
      obtain ⟨error, unread⟩ := Disk.readText_of_noFile noFile
      rw [unread] at loaded
      split at loaded
      · cases loaded
      · cases loaded
        rfl
    have noFile := not_exists.mp isFile
    rw [unset noFile loaded, unset (fun content seen => noFile content ((same content).mpr seen)) loaded']

/-- The same files are left out. -/
theorem Manifest.rules_eq_of_sameFile
    (same : Disk.SameFile (root.child Manifest.ignoreFile) disk disk') (excluded : List Text) :
    Manifest.rules disk root excluded = Manifest.rules disk' root excluded := by
  unfold Manifest.rules
  dsimp only
  rw [same.isFile_eq]
  split
  · next isFile =>
      obtain ⟨content, seen⟩ := Disk.isFile_iff.mp isFile
      rw [Disk.readText_of_file seen, Disk.readText_of_file ((same content).mpr seen)]
  · rfl

namespace Project

/-- Two disks have a project in the same directory, configured alike. -/
structure Alike (root : Path) (disk disk' : Disk) : Prop where
  config : Disk.SameFile (configPath root) disk disk'
  ignored : Disk.SameFile (root.child Manifest.ignoreFile) disk disk'

variable {host host' : Host} {request request' : Request} {plan plan' : Plan}

/-- Plans for disks that are configured alike come from the same settings. -/
theorem Alike.exists_project (alike : Alike root disk disk')
    (isRoot : Path.resolve host.working request.path = root)
    (isRoot' : Path.resolve host'.working request'.path = root)
    (planned : Plan.of host request disk = .ok plan)
    (planned' : Plan.of host' request' disk' = .ok plan') :
    ∃ directory project rules entries entries',
      ProjectSettings.load disk root = .ok (directory, project) ∧
      ProjectSettings.load disk' root = .ok (directory, project) ∧
      disk.status root = .ok (.directory entries) ∧ disk'.status root = .ok (.directory entries') ∧
      plan.files = Walk.files rules (.directory entries) ∧
      plan'.files = Walk.files rules (.directory entries') := by
  obtain ⟨directory, project, loaded, _, _, listed, _⟩ := Plan.of_eq_ok planned
  obtain ⟨directory', project', loaded', _, _, listed', _⟩ := Plan.of_eq_ok planned'
  rw [isRoot] at loaded listed
  rw [isRoot'] at loaded' listed'
  obtain ⟨rules, entries, status, isRules, isFiles⟩ := projectFiles_eq_ok listed
  obtain ⟨rules', entries', status', isRules', isFiles'⟩ := projectFiles_eq_ok listed'
  have isDirectory {disk : Disk} {entries : List (Text × Tree)}
      (status : disk.status root = .ok (.directory entries)) : disk.isDirectory root = true := by
    rw [Disk.isDirectory, status]
    rfl
  have same := ProjectSettings.load_eq_of_sameFile (isDirectory status) (isDirectory status')
    alike.config loaded loaded'
  cases same
  rw [← Manifest.rules_eq_of_sameFile alike.ignored, isRules] at isRules'
  cases isRules'
  exact ⟨directory, project, rules, entries, entries', loaded, loaded', status, status', isFiles,
    isFiles'⟩

/-- What is found among some paths is the same, if the same is seen there; what is in the directory with
the caches does not count. -/
theorem Alike.filter_files_eq (alike : Alike root disk disk')
    (isRoot : Path.resolve host.working request.path = root)
    (isRoot' : Path.resolve host'.working request'.path = root)
    (planned : Plan.of host request disk = .ok plan)
    (planned' : Plan.of host' request' disk' = .ok plan')
    (orderly : disk.Orderly) (orderly' : disk'.Orderly) {p : Text → Bool}
    (same : ∀ names content, names ≠ [] → (∀ name rest, names ≠ Walk.stateDirectory :: name :: rest) →
      p (Path.joinNames names) = true →
        (disk.view (root.names ++ names) = some (.file content) ↔
          disk'.view (root.names ++ names) = some (.file content))) :
    (plan.files.filter fun file => p file.path) = plan'.files.filter fun file => p file.path := by
  have plain : Path.parentName ∉ root.names := isRoot ▸ Path.plain_resolve _ _
  obtain ⟨_, _, rules, entries, entries', _, _, status, status', isFiles, isFiles'⟩ :=
    alike.exists_project isRoot isRoot' planned planned'
  rw [isFiles, isFiles']
  apply Walk.filter_files_eq rules (orderly.of_status status) (orderly'.of_status status')
  intro names content reached fits
  rw [← Disk.view_append_of_status plain status, ← Disk.view_append_of_status plain status']
  apply same names content _ _ fits
  · rintro rfl
    cases reached
  · rintro name rest rfl
    rw [Walk.not_reaches_state] at reached
    cases reached

end Project
end ClassHarvest
