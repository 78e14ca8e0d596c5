import ClassHarvest.Proofs.Project.Completion

/-!
# Hashes in manifests

A project is scanned any number of times, with or without keeping hashes and whatever is excluded.
Between scans files come, change and go, except that nobody else writes the file of hashes.  As long
as no file changes without a new size or stamp, every manifest has the digests of the files as they
are.
-/

namespace ClassHarvest.Project

variable {root : Path} {start disk disk' : Disk}

/-! ## Scans of a project -/

/-- A scan of the project in a directory, with what it finds. -/
structure Inspection where
  /-- The directory as it was given. -/
  given : Text
  /-- What is excluded in addition to the ignore file. -/
  excluded : List Text
  /-- Whether hashes are kept for the next time. -/
  persist : Bool
  /-- The disk. -/
  disk : Disk

namespace Inspection

/-- What the scan gives. -/
def result (root : Path) (inspection : Inspection) :
    Except Manifest.ScanError (Manifest × Disk × Log) :=
  Manifest.scan inspection.disk inspection.given root inspection.excluded inspection.persist

/-- The disk after the scan; a scan that is refused changes nothing. -/
def after (root : Path) (inspection : Inspection) : Disk :=
  match inspection.result root with
  | .ok (_, disk, _) => disk
  | .error _ => inspection.disk

/-- The files that the scan lists. -/
def files (root : Path) (inspection : Inspection) : Except Manifest.ScanError (List Walk.Found) :=
  projectFiles inspection.disk inspection.given root inspection.excluded

end Inspection

/-- Anything is changed, but the file of hashes is at most removed. -/
def LeavesHashes (root : Path) (disk disk' : Disk) : Prop :=
  ∀ content, disk'.view (Manifest.cachePath root).place = some (.file content) →
    disk.view (Manifest.cachePath root).place = some (.file content)

/-- Edits and scans of the project in a directory, the scans in their order, lead from one disk to
another. -/
inductive Inspected (root : Path) (start : Disk) : List Inspection → Disk → Prop
  /-- Nothing has happened yet. -/
  | start : Inspected root start [] start
  /-- Files are edited. -/
  | edit {inspections : List Inspection} {disk disk' : Disk}
      (before : Inspected root start inspections disk) (edited : LeavesHashes root disk disk') :
      Inspected root start inspections disk'
  /-- The project is scanned. -/
  | scan {inspections : List Inspection} {inspection : Inspection}
      (before : Inspected root start inspections inspection.disk)
      (orderly : inspection.disk.Orderly) :
      Inspected root start (inspections ++ [inspection]) (inspection.after root)

/-- A file below the root held something when one of the scans began. -/
def Held (root : Path) (inspections : List Inspection) (names : List Text) (content : FileContent) :
    Prop :=
  ∃ inspection ∈ inspections, inspection.disk.view (root.names ++ names) = some (.file content)

/-- What was listed by one of the scans. -/
def Listed (root : Path) (inspections : List Inspection) (path : Text) (content : FileContent) :
    Prop :=
  ∃ inspection ∈ inspections, ∃ files, inspection.files root = .ok files ∧
    ∃ file ∈ files, file.path = path ∧ file.content = content

variable {inspections : List Inspection} {inspection : Inspection}
  {seen : Text → FileContent → Prop}

/-! ## What a scan does -/

/-- The manifest has a record of every file that is listed, and hashes are kept or not. -/
theorem Inspection.result_eq_ok {manifest : Manifest} {after : Disk} {log : Log}
    (gives : inspection.result root = .ok (manifest, after, log)) :
    ∃ files, inspection.files root = .ok files ∧
      manifest = ⟨root, files.map (Manifest.record
        (HashCache.load inspection.disk (Manifest.cachePath root)))⟩ ∧
      after = diskWithHashes inspection.disk root files inspection.persist := by
  have scan := scan_eq inspection.disk inspection.given root inspection.excluded inspection.persist
  rw [result] at gives
  rw [gives] at scan
  cases listed : inspection.files root with
  | error error =>
      rw [files] at listed
      rw [listed] at scan
      cases scan
  | ok found =>
      rw [files] at listed
      rw [listed] at scan
      simp only [Except.map, Except.ok.injEq, Prod.mk.injEq] at scan
      exact ⟨found, rfl, scan.1, scan.2⟩

/-- A scan keeps hashes of the files that it lists, or changes nothing. -/
theorem Inspection.after_cases (root : Path) (inspection : Inspection) :
    inspection.after root = inspection.disk ∨
    ∃ files, inspection.files root = .ok files ∧
      inspection.after root = diskWithHashes inspection.disk root files inspection.persist := by
  unfold after
  cases gives : inspection.result root with
  | error error => exact .inl rfl
  | ok value =>
      obtain ⟨manifest, after, log⟩ := value
      obtain ⟨files, listed, _, same⟩ := result_eq_ok gives
      exact .inr ⟨files, listed, same⟩

/-- A scan that lists files gives their manifest. -/
theorem Inspection.exists_result {files : List Walk.Found}
    (listed : inspection.files root = .ok files) :
    ∃ manifest after log, inspection.result root = .ok (manifest, after, log) ∧
      manifest.files.length = files.length := by
  have scan := scan_eq inspection.disk inspection.given root inspection.excluded inspection.persist
  rw [Inspection.files] at listed
  rw [listed] at scan
  cases gives : inspection.result root with
  | error error =>
      rw [result] at gives
      rw [gives] at scan
      cases scan
  | ok value =>
      obtain ⟨manifest, after, log⟩ := value
      obtain ⟨found, isFound, rfl, _⟩ := result_eq_ok gives
      cases listed.symm.trans isFound
      exact ⟨_, after, log, rfl, List.length_map _⟩

/-- A scan changes nothing but the file of hashes and the directory around it. -/
theorem Inspection.confined_after (plain : Path.parentName ∉ root.names) (inspection : Inspection) :
    Confined root [(Manifest.cachePath root).place] inspection.disk (inspection.after root) := by
  rcases inspection.after_cases root with same | ⟨files, _, same⟩
  · rw [same]
    exact Confined.refl _ _ _
  · rw [same]
    exact confined_diskWithHashes plain inspection.disk files inspection.persist

/-- A scan leaves a disk as disks are. -/
theorem Inspection.orderly_after (plain : Path.parentName ∉ root.names)
    (orderly : inspection.disk.Orderly) : (inspection.after root).Orderly := by
  rcases inspection.after_cases root with same | ⟨files, listed, _⟩
  · rw [same]
    exact orderly
  · exact (inspection.confined_after plain).orderly (by simp [cachePlaces]) plain orderly
      (view_root_of_listed listed plain)

/-- The next scan lists what it would have listed before. -/
theorem Inspection.listed_after (plain : Path.parentName ∉ root.names)
    (orderly : inspection.disk.Orderly)
    (free : ∀ content, inspection.disk.view (root.names ++ [Walk.stateDirectory]) ≠
      some (.file content))
    {given : Text} {excluded : List Text} {files : List Walk.Found}
    (listed : projectFiles inspection.disk given root excluded = .ok files) :
    projectFiles (inspection.after root) given root excluded = .ok files := by
  have confined := inspection.confined_after plain
  have same := confined.sameOutside (by simp [cachePlaces]) plain (view_root_of_listed listed plain)
  apply same.projectFiles_eq plain free _ orderly (inspection.orderly_after plain orderly) listed
  intro content present
  apply free content ((confined.touches.view_eq_file_iff _).mp present)
  rw [place_hashes plain]
  simp

/-- A scan leaves only hashes of files that were seen. -/
theorem Inspection.trusted_after (plain : Path.parentName ∉ root.names)
    (orderly : inspection.disk.Orderly)
    (isSeen : ∀ files, inspection.files root = .ok files →
      ∀ file ∈ files, seen file.path file.content)
    (trusted : HashCache.Trusted seen inspection.disk (Manifest.cachePath root)) :
    HashCache.Trusted seen (inspection.after root) (Manifest.cachePath root) := by
  rcases inspection.after_cases root with same | ⟨files, listed, same⟩
  · rw [same]
    exact trusted
  · rw [same]
    exact trusted_diskWithHashes_of_listed trusted listed plain orderly (isSeen files listed)
      inspection.persist

/-! ## What scans leave -/

/-- Before and after every scan, the file of hashes has only hashes of files that were seen. -/
theorem Inspected.trusted (inspected : Inspected root start inspections disk)
    (plain : Path.parentName ∉ root.names)
    (absent : ∀ content, start.view (Manifest.cachePath root).place ≠ some (.file content))
    (isSeen : ∀ inspection ∈ inspections, ∀ files, inspection.files root = .ok files →
      ∀ file ∈ files, seen file.path file.content) :
    HashCache.Trusted seen disk (Manifest.cachePath root) ∧
      ∀ inspection ∈ inspections, inspection.disk.Orderly ∧
        HashCache.Trusted seen inspection.disk (Manifest.cachePath root) := by
  induction inspected with
  | start => exact ⟨fun content present => absurd present (absent content), by simp⟩
  | edit _ edited ih =>
      obtain ⟨trusted, earlier⟩ := ih isSeen
      exact ⟨trusted.of_view edited, earlier⟩
  | @scan inspections inspection _ orderly ih =>
      obtain ⟨trusted, earlier⟩ := ih fun inspection mem => isSeen inspection (by simp [mem])
      refine ⟨inspection.trusted_after plain orderly (isSeen inspection (by simp)) trusted, ?_⟩
      intro other mem
      rcases List.mem_append.mp mem with mem | mem
      · exact earlier other mem
      · rw [List.mem_singleton.mp mem]
        exact ⟨orderly, trusted⟩

/-- What scans list was held where they list it. -/
theorem exists_held_of_listed (plain : Path.parentName ∉ root.names)
    (orderly : ∀ inspection ∈ inspections, inspection.disk.Orderly) {path : Text}
    {content : FileContent} (listed : Listed root inspections path content) :
    ∃ names, path = Path.joinNames names ∧ (∀ name ∈ names, Path.IsName name) ∧
      root.names ++ names ≠ (Manifest.cachePath root).place ∧ Held root inspections names content := by
  obtain ⟨inspection, mem, files, listed, file, isFile, rfl, rfl⟩ := listed
  obtain ⟨names, path, all, view, notState⟩ :=
    exists_view_of_listed listed plain (orderly inspection mem) isFile
  refine ⟨names, path, all, ?_, inspection, mem, view⟩
  rw [place_hashes plain]
  exact fun same => notState _ _ (List.append_cancel_left same)

/-- However scans and edits follow each other, a manifest has the size and the digest of every file as it
is when the scan begins and ends, provided that no file but the one of hashes was found with two contents
of one size and stamp. -/
theorem hash_eq_hexDigest_of_inspected (plain : Path.parentName ∉ root.names)
    (absent : ∀ content, start.view (Manifest.cachePath root).place ≠ some (.file content))
    (inspected : Inspected root start inspections disk)
    (settled : ∀ names content content', root.names ++ names ≠ (Manifest.cachePath root).place →
      Held root inspections names content → Held root inspections names content' →
        content.bytes.length = content'.bytes.length → content.stamp = content'.stamp →
          content.bytes = content'.bytes)
    (mem : inspection ∈ inspections) {manifest : Manifest} {after : Disk} {log : Log}
    (gives : inspection.result root = .ok (manifest, after, log)) :
    ∀ record ∈ manifest.files, ∃ bytes,
      inspection.disk.read (root.join (Path.ofText record.path)) = .ok bytes ∧
      after.read (root.join (Path.ofText record.path)) = .ok bytes ∧
      record.size = bytes.length ∧ record.hash = Sha256.hexDigest bytes := by
  have isListed : ∀ inspection ∈ inspections, ∀ files, inspection.files root = .ok files →
      ∀ file ∈ files, Listed root inspections file.path file.content :=
    fun inspection mem files listed file isFile =>
      ⟨inspection, mem, files, listed, file, isFile, rfl, rfl⟩
  have trusted := inspected.trusted plain absent isListed
  have orderly (inspection : Inspection) (mem : inspection ∈ inspections) :
      inspection.disk.Orderly := (trusted.2 inspection mem).1
  have unchanged : HashCache.Settled (Listed root inspections) := by
    intro path content content' listed listed' size stamp
    obtain ⟨names, isPath, all, other, held⟩ := exists_held_of_listed plain orderly listed
    obtain ⟨names', isPath', all', _, held'⟩ := exists_held_of_listed plain orderly listed'
    have same := Path.joinNames_inj all all' (isPath.symm.trans isPath')
    exact settled names content content' other held (same ▸ held') size stamp
  obtain ⟨files, listed, rfl, isAfter⟩ := Inspection.result_eq_ok gives
  intro record isRecord
  obtain ⟨file, isFile, rfl⟩ := List.mem_map.mp isRecord
  have touches := (confined_diskWithHashes plain inspection.disk files inspection.persist).touches
  refine ⟨file.content.bytes, ?_, ?_, rfl, ?_⟩
  · exact read_of_listed listed plain (orderly inspection mem) (Disk.Touches.refl _ _) isFile
  · rw [isAfter]
    exact read_of_listed listed plain (orderly inspection mem) touches isFile
  · exact HashCache.hashOf_eq (trusted.2 inspection mem).2.justified unchanged
      (isListed inspection mem files listed file isFile)

/-! ### A file that is not read again -/

/-- A scan that keeps hashes. -/
def exampleInspection : Inspection where
  given := "/p"
  excluded := []
  persist := true
  disk := exampleDisk (exampleContent "a" 1)

/-- A scan after another one that has kept hashes. -/
def nextInspection : Inspection where
  given := "."
  excluded := ["*.tmp"]
  persist := false
  disk := exampleInspection.after ⟨"/", ["p"]⟩

/-- The second scan takes the hash from the first. -/
theorem hash_eq_hexDigest_of_inspected_twice : ∃ manifest after log,
    nextInspection.result ⟨"/", ["p"]⟩ = .ok (manifest, after, log) ∧ manifest.files.length = 1 ∧
      ∀ record ∈ manifest.files, ∃ bytes,
        nextInspection.disk.read ((⟨"/", ["p"]⟩ : Path).join (Path.ofText record.path)) = .ok bytes ∧
        after.read ((⟨"/", ["p"]⟩ : Path).join (Path.ofText record.path)) = .ok bytes ∧
        record.size = bytes.length ∧ record.hash = Sha256.hexDigest bytes := by
  let root : Path := ⟨"/", ["p"]⟩
  have plain : Path.parentName ∉ root.names := by decide
  have orderly : exampleInspection.disk.Orderly := orderly_exampleDisk _
  have nothing : exampleInspection.disk.view (root.names ++ [Walk.stateDirectory]) = none := by
    decide +kernel
  have free : ∀ content, exampleInspection.disk.view (root.names ++ [Walk.stateDirectory]) ≠
      some (.file content) := by
    intro content present
    rw [nothing] at present
    cases present
  have absent : ∀ content, exampleInspection.disk.view (Manifest.cachePath root).place ≠
      some (.file content) := by
    intro content present
    rw [place_hashes plain, List.append_cons] at present
    rw [Disk.view_eq_directory_of_append (by simp) present] at nothing
    cases nothing
  have first : Inspected root exampleInspection.disk [exampleInspection] nextInspection.disk :=
    Inspected.scan Inspected.start orderly
  have second : Inspected root exampleInspection.disk [exampleInspection, nextInspection]
      (nextInspection.after root) :=
    Inspected.scan first (Inspection.orderly_after plain orderly)
  have settled : ∀ names content content', root.names ++ names ≠ (Manifest.cachePath root).place →
      Held root [exampleInspection, nextInspection] names content →
      Held root [exampleInspection, nextInspection] names content' →
        content.bytes.length = content'.bytes.length → content.stamp = content'.stamp →
          content.bytes = content'.bytes := by
    intro names content content' other held held' _ _
    have same (content : FileContent) (held : Held root [exampleInspection, nextInspection] names content) :
        exampleInspection.disk.view (root.names ++ names) = some (.file content) := by
      obtain ⟨inspection, mem, seen⟩ := held
      simp only [List.mem_cons, List.not_mem_nil, or_false] at mem
      rcases mem with rfl | rfl
      · exact seen
      · have touches := (exampleInspection.confined_after plain).touches
        exact (touches.view_eq_file_iff (by simpa using other)).mp seen
    cases (same content held).symm.trans (same content' held')
    rfl
  have one : (projectFiles exampleInspection.disk "." root ["*.tmp"]).toOption.map List.length =
      some 1 := by
    decide +kernel
  cases listed : projectFiles exampleInspection.disk "." root ["*.tmp"] with
  | error error =>
      rw [listed] at one
      cases one
  | ok files =>
      rw [listed] at one
      have listed : nextInspection.files root = .ok files :=
        Inspection.listed_after plain orderly free listed
      obtain ⟨manifest, after, log, gives, length⟩ := Inspection.exists_result listed
      exact ⟨manifest, after, log, gives, length.trans (Option.some.inj one),
        hash_eq_hexDigest_of_inspected plain absent second settled (by simp) gives⟩

end ClassHarvest.Project
