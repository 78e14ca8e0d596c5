import ClassHarvest.Proofs.Project.Output
import ClassHarvest.Proofs.Project.Plan

/-!
# What a run does

Between its runs a project keeps hashes of its files and what scans found in them.  However a run
ends, what is kept then comes from files that were seen.  If it ends well, its outcome is what the
search of the project gives, and the generated files are in the output directory.
-/

namespace ClassHarvest.Project

open Gathering Json Scan Running

variable {evidence : Evidence} {root : Path} {saved : Records} {disk disk' : Disk} {world : World}

/-! ## What a project keeps -/

theorem parent_hashes (root : Path) :
    (Manifest.cachePath root).parent = root.child Walk.stateDirectory := by
  simp [Manifest.cachePath, Path.parent, Path.child]

theorem parent_scans (root : Path) :
    (scanCachePath root).parent = root.child Walk.stateDirectory := by
  simp [scanCachePath, Path.parent, Path.child]

theorem place_staging {root : Path} (plain : Path.parentName ∉ root.names) :
    (ScanCache.stagingPath (scanCachePath root)).place =
      root.names ++ [Walk.stateDirectory, "cache.json.tmp"] := by
  have name : (scanCachePath root).name = "cache.json" := by
    simp [scanCachePath, Path.name, Path.child]
  rw [ScanCache.place_stagingPath, name, parent_scans, Path.place_child (by decide),
    Path.place_of_plain plain, List.append_assoc]
  rfl

theorem plain_state {root : Path} (plain : Path.parentName ∉ root.names) :
    Path.parentName ∉ (root.child Walk.stateDirectory).names := by
  rw [Path.child, List.mem_append, not_or]
  exact ⟨plain, by decide⟩

theorem dropLast_state {root : Path} :
    (root.child Walk.stateDirectory).names.dropLast = root.names :=
  List.dropLast_concat

/-- The places of the caches of a project. -/
def cachePlaces (root : Path) : List (List Text) := [
  (Manifest.cachePath root).place, (ScanCache.stagingPath (scanCachePath root)).place,
  (scanCachePath root).place]

theorem exists_of_mem_cachePlaces (plain : Path.parentName ∉ root.names) {place : List Text}
    (mem : place ∈ cachePlaces root) :
    ∃ name, place = root.names ++ [Walk.stateDirectory, name] ∧
      Emission.isArtifactName name = false := by
  unfold cachePlaces at mem
  rw [place_hashes plain, place_staging plain, place_scans plain] at mem
  simp only [List.mem_cons, List.not_mem_nil, or_false] at mem
  rcases mem with rfl | rfl | rfl
  · exact ⟨_, rfl, by decide⟩
  · exact ⟨_, rfl, by decide⟩
  · exact ⟨_, rfl, by decide⟩

theorem place_scans_ne_hashes (plain : Path.parentName ∉ root.names) :
    (scanCachePath root).place ≠ (Manifest.cachePath root).place := by
  rw [place_hashes plain, place_scans plain]
  intro same
  have names := List.append_cancel_left same
  exact absurd names (by decide)

theorem place_staging_ne_hashes (plain : Path.parentName ∉ root.names) :
    (ScanCache.stagingPath (scanCachePath root)).place ≠ (Manifest.cachePath root).place := by
  rw [place_hashes plain, place_staging plain]
  intro same
  have names := List.append_cancel_left same
  exact absurd names (by decide)

theorem not_isArtifactPlace_cachePlaces (plain : Path.parentName ∉ root.names) {place : List Text}
    (mem : place ∈ cachePlaces root) : ¬ Output.IsArtifactPlace place := by
  obtain ⟨name, rfl, other⟩ := exists_of_mem_cachePlaces plain mem
  rw [List.append_cons]
  exact Output.not_isArtifactPlace other

/-- The caches of a project hold some records and some hashes that the evidence explains. -/
structure Kept (evidence : Evidence) (root : Path) (saved : Records) (disk : Disk) : Prop where
  free : ∀ content, disk.view (root.names ++ [Walk.stateDirectory]) ≠ some (.file content)
  scans : ScanCache.FileHolds disk (scanCachePath root) saved
  sorted : saved.Sorted IsFindingKey
  explains : evidence.ExplainsAll saved
  hashes : HashCache.Trusted evidence.seen disk (Manifest.cachePath root)

theorem Kept.of_touches {places : List (List Text)} (kept : Kept evidence root saved disk)
    (touches : disk.Touches places disk')
    (freeOutside : root.names ++ [Walk.stateDirectory] ∉ places)
    (scansOutside : (scanCachePath root).place ∉ places)
    (hashesOutside : (Manifest.cachePath root).place ∉ places) : Kept evidence root saved disk' where
  free := fun content seen =>
    kept.free content ((touches.view_eq_file_iff freeOutside).mp seen)
  scans := kept.scans.of_touches touches scansOutside
  sorted := kept.sorted
  explains := kept.explains
  hashes := kept.hashes.of_view fun _ => (touches.view_eq_file_iff hashesOutside).mp

/-- What is done in the output directory leaves the caches alone. -/
theorem Kept.of_touches_artifacts {places : List (List Text)} (kept : Kept evidence root saved disk)
    (plain : Path.parentName ∉ root.names) (touches : disk.Touches places disk')
    (artifacts : ∀ place ∈ places, Output.IsArtifactPlace place) :
    Kept evidence root saved disk' := by
  have outside {above : List Text} {name : Text} (other : Emission.isArtifactName name = false) :
      above ++ [name] ∉ places :=
    fun mem => Output.not_isArtifactPlace other (artifacts _ mem)
  apply kept.of_touches touches
  · exact outside (by decide)
  · rw [place_scans plain, List.append_cons]
    exact outside (by decide)
  · rw [place_hashes plain, List.append_cons]
    exact outside (by decide)

/-! ## Preparing -/

theorem ensures_orFail {ε α : Type} {failure : ε → Failure} {result : Except ε α} :
    Ensures (orFail failure result) world (fun value after => result = .ok value ∧ after = world)
      fun after => after = world ∧ ∀ value, result ≠ .ok value := by
  cases result with
  | error error => exact Ensures.throw ⟨rfl, nofun⟩
  | ok value => exact Ensures.pure ⟨rfl, rfl⟩

/-- The disk after the hashes of some files have been kept, unless nothing is to be kept. -/
def diskWithHashes (disk : Disk) (root : Path) (files : List Walk.Found) (persist : Bool) : Disk :=
  let hashes := HashCache.load disk (Manifest.cachePath root)
  if persist then ((Manifest.hashes hashes files).save disk (Manifest.cachePath root)).1 else disk

theorem ensures_survey (given : Text) (excluded : List Text) (persist : Bool) :
    Ensures (survey given root excluded persist) world
      (fun manifest after => ∃ files, projectFiles world.disk given root excluded = .ok files ∧
        manifest = ⟨root, files.map
          (Manifest.record (HashCache.load world.disk (Manifest.cachePath root)))⟩ ∧
        after.disk = diskWithHashes world.disk root files persist ∧
        after.progress.asked = world.progress.asked)
      fun after => after.disk = world.disk ∧
        ∀ files, projectFiles world.disk given root excluded ≠ .ok files := by
  have scan := scan_eq world.disk given root excluded persist
  unfold survey
  apply Ensures.get_bind
  apply Ensures.bind
  · apply ensures_orFail.mapFailed
    rintro after ⟨rfl, refused⟩
    refine ⟨rfl, fun files listed => ?_⟩
    rw [listed] at scan
    cases scanned : Manifest.scan after.disk given root excluded persist with
    | error error =>
        rw [scanned] at scan
        cases scan
    | ok value => exact refused value scanned
  rintro ⟨manifest, disk, log⟩ after ⟨scanned, rfl⟩
  rw [scanned] at scan
  cases listed : projectFiles after.disk given root excluded with
  | error error =>
      rw [listed] at scan
      cases scan
  | ok files =>
      rw [listed] at scan
      simp only [Except.map, Except.ok.injEq, Prod.mk.injEq] at scan
      apply Ensures.modify_bind
      apply Ensures.modify_bind
      apply Ensures.pure
      exact ⟨files, rfl, scan.1, scan.2, rfl⟩

/-- What a run has prepared for a plan. -/
def Plan.preparation (plan : Plan) (root : Path) (hashes : HashCache) : Preparation where
  root := root
  configured := plan.configured
  settings := plan.settings
  scanners := plan.scanners
  manifest := ⟨root, plan.files.map (Manifest.record hashes)⟩

/-- A run begins to work on a plan, and has not asked the signal yet. -/
theorem ensures_prepare (host : Host) (request : Request)
    (isRoot : Path.resolve host.working request.path = root) (isDisk : world.disk = disk) :
    Ensures (prepare host request) world
      (fun prepared after => ∃ plan, Plan.of host request disk = .ok plan ∧
        prepared = plan.preparation root (HashCache.load disk (Manifest.cachePath root)) ∧
        after.disk = diskWithHashes disk root plan.files (!request.dry) ∧
        after.progress.asked = world.progress.asked)
      fun after => after.disk = disk ∧ ∀ plan, Plan.of host request disk ≠ .ok plan := by
  subst isDisk isRoot
  unfold prepare
  apply Ensures.get_bind
  apply Ensures.bind
  · apply ensures_orFail.mapFailed
    rintro after ⟨rfl, refused⟩
    refine ⟨rfl, fun plan planned => ?_⟩
    obtain ⟨_, _, loaded, _⟩ := Plan.of_eq_ok planned
    exact refused _ loaded
  rintro ⟨directory, project⟩ world ⟨loaded, rfl⟩
  -- The settings of the project are those from which every plan is made.
  have ofProject (plan : Plan) (planned : Plan.of host request world.disk = .ok plan) :
      resolve project request.options request.mode = .ok plan.settings ∧
        selectScanners host request.scanners project = .ok plan.scanners ∧
        projectFiles world.disk (Path.resolve host.working request.path).text
          (Path.resolve host.working request.path) project.excluded = .ok plan.files := by
    obtain ⟨_, _, loaded', resolved, selected, listed, _⟩ := Plan.of_eq_ok planned
    cases loaded.symm.trans loaded'
    exact ⟨resolved, selected, listed⟩
  apply Ensures.bind
  · apply ensures_orFail.mapFailed
    rintro after ⟨rfl, refused⟩
    exact ⟨rfl, fun plan planned => refused _ (ofProject plan planned).1⟩
  rintro settings _ ⟨resolved, rfl⟩
  apply Ensures.bind
  · apply ensures_orFail.mapFailed
    rintro after ⟨rfl, refused⟩
    exact ⟨rfl, fun plan planned => refused _ (ofProject plan planned).2.1⟩
  rintro scanners world ⟨selected, rfl⟩
  apply Ensures.bind
  · apply (ensures_survey _ project.excluded (!request.dry)).mapFailed
    rintro after ⟨same, refused⟩
    exact ⟨same, fun plan planned => refused _ (ofProject plan planned).2.2⟩
  rintro manifest after ⟨files, listed, rfl, kept⟩
  apply Ensures.pure
  refine ⟨⟨settings, scanners, directory.join (Path.ofText project.outputName), files⟩, ?_, rfl, kept⟩
  unfold Plan.of
  simp only [loaded, resolved, selected, listed, Except.mapError, bind, Except.bind, pure,
    Except.pure]

/-! ## Searching -/

/-- The records that a search leaves in the cache. -/
def Search.records (search : Search) (markers : List (List Marker)) (answers : List Answer) :
    Records :=
  (Records.empty.putAll (search.entries markers answers)).joined

/-- Some places apart nothing is different, and in a project at most the directory of its caches is
made. -/
structure Confined (root : Path) (places : List (List Text)) (disk disk' : Disk) : Prop where
  touches : disk.Touches places disk'
  unique : disk.Unique → disk'.Unique
  makesOnly : disk.view root.names = some .directory →
    disk.MakesOnly (root.names ++ [Walk.stateDirectory]) disk'

namespace Confined

variable {places more : List (List Text)} {disk'' : Disk}

theorem refl (root : Path) (places : List (List Text)) (disk : Disk) :
    Confined root places disk disk :=
  ⟨Disk.Touches.refl _ _, id, fun _ => Disk.MakesOnly.refl _ _⟩

theorem trans (first : Confined root places disk disk')
    (second : Confined root more disk' disk'') : Confined root (places ++ more) disk disk'' where
  touches := (first.touches.mono (List.subset_append_left _ _)).trans
    (second.touches.mono (List.subset_append_right _ _))
  unique := fun start => second.unique (first.unique start)
  makesOnly := fun inside => (first.makesOnly inside).trans
    (second.makesOnly (first.touches.directories _ inside))

end Confined

/-- The hashes of files are kept in their place. -/
theorem confined_diskWithHashes (plain : Path.parentName ∉ root.names) (disk : Disk)
    (files : List Walk.Found) (persist : Bool) :
    Confined root [(Manifest.cachePath root).place] disk (diskWithHashes disk root files persist) := by
  unfold diskWithHashes
  cases persist with
  | false => exact Confined.refl _ _ _
  | true =>
      refine ⟨HashCache.touches_save _ _ _, fun unique => HashCache.unique_save unique _ _,
        fun inside => ?_⟩
      have makes := HashCache.makesOnly_save
        (Manifest.hashes (HashCache.load disk (Manifest.cachePath root)) files)
        (parent_hashes root ▸ plain_state plain) (by rw [parent_hashes, dropLast_state]; exact inside)
      rw [parent_hashes] at makes
      exact makes

/-- The caches of a project hold some records, and some places apart nothing is different. -/
structure Leaves (evidence : Evidence) (root : Path) (saved : Records) (places : List (List Text))
    (disk disk' : Disk) : Prop where
  kept : Kept evidence root saved disk'
  touches : disk.Touches places disk'
  unique : disk.Unique → disk'.Unique
  makesOnly : disk.view root.names = some .directory →
    disk.MakesOnly (root.names ++ [Walk.stateDirectory]) disk'

namespace Leaves

variable {saved' : Records} {places more : List (List Text)} {disk'' : Disk}

theorem refl (kept : Kept evidence root saved disk) (places : List (List Text)) :
    Leaves evidence root saved places disk disk :=
  ⟨kept, Disk.Touches.refl _ _, id, fun _ => Disk.MakesOnly.refl _ _⟩

theorem of_confined (kept : Kept evidence root saved disk')
    (confined : Confined root places disk disk') : Leaves evidence root saved places disk disk' :=
  ⟨kept, confined.touches, confined.unique, confined.makesOnly⟩

theorem confined (leaves : Leaves evidence root saved places disk disk') :
    Confined root places disk disk' :=
  ⟨leaves.touches, leaves.unique, leaves.makesOnly⟩

theorem trans (first : Leaves evidence root saved places disk disk')
    (second : Leaves evidence root saved' more disk' disk'') :
    Leaves evidence root saved' (places ++ more) disk disk'' :=
  of_confined second.kept (first.confined.trans second.confined)

/-- If the directory of the caches is there, then there is no new one. -/
theorem makesNoDirectory (leaves : Leaves evidence root saved places disk disk')
    (present : disk.view (root.names ++ [Walk.stateDirectory]) = some .directory) :
    disk.MakesNoDirectory disk' :=
  (leaves.makesOnly (Disk.view_eq_directory_of_append (by simp) present)).makesNoDirectory present

end Leaves

/-- The places that are touched when a cache of scans is written. -/
def scanPlaces (root : Path) : List (List Text) := [
  (ScanCache.stagingPath (scanCachePath root)).place, (scanCachePath root).place]

theorem state_not_mem_scanPlaces (plain : Path.parentName ∉ root.names) :
    root.names ++ [Walk.stateDirectory] ∉ scanPlaces root := by
  rw [scanPlaces, place_staging plain, place_scans plain]
  simp

theorem hashes_not_mem_scanPlaces (plain : Path.parentName ∉ root.names) :
    (Manifest.cachePath root).place ∉ scanPlaces root := by
  simp only [scanPlaces, List.mem_cons, List.not_mem_nil, or_false, not_or]
  exact ⟨(place_staging_ne_hashes plain).symm, (place_scans_ne_hashes plain).symm⟩

/-- The cache of a project is written to its places. -/
theorem confined_persist {cache : ScanCache} (location : cache.location = some (scanCachePath root))
    (plain : Path.parentName ∉ root.names) (disk : Disk) :
    Confined root (scanPlaces root) disk (cache.persist disk).1 where
  touches := ScanCache.touches_persist location disk
  unique := ScanCache.unique_persist location
  makesOnly := by
    intro inside
    have makes := @ScanCache.makesOnly_persist _ _ disk location
    rw [parent_scans] at makes
    exact makes (plain_state plain) (by rw [dropLast_state]; exact inside)

/-- When a cache is written, the records in it are kept; if it cannot be written, those from before.  It
can be written if nothing is in the way and no line has too many digits. -/
theorem ensures_persist {cache : ScanCache} {records : Records} (isDisk : world.disk = disk)
    (plain : Path.parentName ∉ root.names) (kept : Kept evidence root saved disk)
    (explains : evidence.ExplainsAll records)
    (describes : Ledger.Describes ⟨records, saved⟩ IsFindingKey (scanCachePath root) cache disk) :
    Ensures (onDisk .writing fun disk => cache.persist disk) world
      (fun _ after => Leaves evidence root records.joined (scanPlaces root) disk after.disk)
      fun after => Leaves evidence root saved (scanPlaces root) disk after.disk ∧
        ¬ (records.Fits ∧ ScanCache.Admits disk (scanCachePath root)) := by
  subst isDisk
  have confined := confined_persist describes.location plain world.disk
  have hashes {disk : Disk} (touches : world.disk.Touches (scanPlaces root) disk) :
      HashCache.Trusted evidence.seen disk (Manifest.cachePath root) :=
    kept.hashes.of_view fun _ =>
      (touches.view_eq_file_iff (hashes_not_mem_scanPlaces plain)).mp
  have free {disk : Disk} (touches : world.disk.Touches (scanPlaces root) disk)
      (content : FileContent) :
      disk.view (root.names ++ [Walk.stateDirectory]) ≠ some (.file content) := fun seen =>
    kept.free content ((touches.view_eq_file_iff (state_not_mem_scanPlaces plain)).mp seen)
  rcases describes.persist with
    ⟨disk, cache', persisted, describes'⟩ | ⟨disk, error, refused, describes'⟩
  · rw [persisted] at confined
    apply Output.ensures_onDisk
    · intro disk' value result
      cases persisted.symm.trans result
      exact Leaves.of_confined ⟨free confined.touches, describes'.file, describes'.savedSorted,
        explains.joined, hashes confined.touches⟩ confined
    · intro disk' error result
      cases persisted.symm.trans result
  · rw [refused] at confined
    apply Output.ensures_onDisk
    · intro disk' value result
      cases refused.symm.trans result
    · intro disk' error result
      cases refused.symm.trans result
      refine ⟨Leaves.of_confined ⟨free confined.touches, describes'.file, kept.sorted, kept.explains,
        hashes confined.touches⟩ confined, ?_⟩
      rintro ⟨fits, admits⟩
      obtain ⟨disk'', cache', persisted, _⟩ := describes.exists_persist fits admits
      cases refused.symm.trans persisted

/-- What a search found: the markers of the source files and the answers of the scanners. -/
structure Search.Gives (search : Search) (saved : Records) (markers : List (List Marker))
    (answers : List Answer) : Prop where
  markers : search.MarkersOf search.sources markers
  answers : search.AnswersFor saved search.visits answers

/-- No line that was found has too many digits to be written. -/
def Evidence.Writable (evidence : Evidence) : Prop :=
  ∀ key record, evidence.Explains key record → record.payload.Fits

theorem Evidence.ExplainsAll.fits {records : Records} (explains : evidence.ExplainsAll records)
    (writable : evidence.Writable) : records.Fits :=
  fun key record found => writable key record (explains key record found)

/-- Nothing keeps a search from its end, and what it finds from being kept. -/
structure Search.Unhindered (search : Search) (evidence : Evidence) : Prop where
  searchable : search.Searchable
  writable : evidence.Writable
  admits : ScanCache.Admits search.disk (scanCachePath search.manifest.root)

/-- A search of a project opens the cache, begins with nothing read, and writes the cache if it is to be
kept. -/
theorem ensures_searching {host : Host} {manifest : Manifest} {settings : RunSettings}
    {scanners : List Scanner} {signal : Pattern.Signal} {persist : Bool} {given : Found → World → Prop}
    {failed : World → Prop}
    (refused : (∀ opened,
      ScanCache.openAt (some (scanCachePath manifest.root)) world.disk ≠ .ok opened) → failed world)
    (searched : ∀ cache log before,
      ScanCache.openAt (some (scanCachePath manifest.root)) world.disk = .ok (cache, log) →
      Ensures (Search.search ⟨world.disk, manifest, settings, scanners, signal, host⟩)
        { cache, progress := ⟨world.progress.asked, before⟩ }
        (fun found desk => ∀ after : World, after.disk = world.disk →
          (persist = false → given found after) ∧
          (persist = true → Ensures (onDisk .writing fun disk => desk.cache.persist disk) after
            (fun _ => given found) failed))
        fun _ => ∀ after : World, after.disk = world.disk → failed after) :
    Ensures (searchProject host manifest settings scanners signal persist) world given failed := by
  unfold searchProject
  apply Ensures.get_bind
  apply Ensures.bind
  · apply ensures_orFail.mapFailed
    rintro _ ⟨rfl, none⟩
    exact refused none
  rintro ⟨cache, log⟩ world ⟨opened, rfl⟩
  apply Ensures.modify_bind
  apply Ensures.get_bind
  have searched := searched cache log (world.progress.log ++ log) opened
  dsimp only
  rcases ran : (Search.search _).run.run _ with ⟨result, desk⟩
  apply Ensures.modify_bind
  cases result with
  | error error =>
      apply Ensures.throw
      exact searched.of_eq_error ran _ rfl
  | ok found =>
      apply Ensures.bind
      · apply ensures_orFail.mapFailed
        rintro _ ⟨_, none⟩
        exact absurd rfl (none found)
      rintro _ _ ⟨isFound, rfl⟩
      cases isFound
      have atEnd := searched.of_eq_ok ran
      cases persist with
      | false =>
          apply Ensures.pure
          exact (atEnd _ (by rfl)).1 rfl
      | true =>
          apply Ensures.bind ((atEnd _ (by rfl)).2 rfl)
          intro _ after holds
          exact Ensures.pure holds

/-- A project is searched with what it keeps. -/
theorem ensures_searchProject {host : Host} {manifest : Manifest} {settings : RunSettings}
    {scanners : List Scanner} {signal : Pattern.Signal} (persist : Bool)
    (plain : Path.parentName ∉ manifest.root.names) (distinct : evidence.Distinct)
    (backed : Search.Backed ⟨world.disk, manifest, settings, scanners, signal, host⟩ evidence)
    (kept : Kept evidence manifest.root saved world.disk) :
    let search : Search := ⟨world.disk, manifest, settings, scanners, signal, host⟩
    Ensures (searchProject host manifest settings scanners signal persist) world
      (fun found after => ∃ markers, found.markers = markers.flatten ∧
        search.Gives saved markers found.answers ∧
        Leaves evidence manifest.root
          (if persist then search.records markers found.answers else saved)
          (scanPlaces manifest.root) world.disk after.disk)
      fun after =>
        Leaves evidence manifest.root saved (scanPlaces manifest.root) world.disk after.disk ∧
          ¬ search.Unhindered evidence := by
  intro search
  obtain ⟨cache, log, opened, describes⟩ :=
    Ledger.Describes.openAt_of_file kept.scans kept.sorted
  have stays := Leaves.refl kept (scanPlaces manifest.root)
  refine ensures_searching (fun none => absurd opened (none _)) fun cache' log' before opened' => ?_
  cases opened.symm.trans opened'
  have sound : Desk.Sound search evidence (scanCachePath manifest.root) saved saved
      { cache, progress := ⟨world.progress.asked, before⟩ } :=
    ⟨describes, kept.explains, nofun, nofun⟩
  apply (Search.ensures_search backed distinct sound).mono
  · rintro found desk ⟨markers, isMarkers, fresh, answers, sound'⟩ after same
    have gives : search.Gives saved markers found.answers := ⟨fresh, answers⟩
    constructor
    · rintro rfl
      exact ⟨markers, isMarkers, gives, same ▸ stays⟩
    · rintro rfl
      apply (ensures_persist same plain kept sound'.explains sound'.describes).mono
      · exact fun _ after leaves => ⟨markers, isMarkers, gives, leaves⟩
      · rintro after ⟨leaves, hindered⟩
        exact ⟨leaves, fun unhindered =>
          hindered ⟨sound'.explains.fits unhindered.writable, unhindered.admits⟩⟩
  · intro _ hindered after same
    exact ⟨same ▸ stays, fun unhindered => hindered unhindered.searchable⟩

/-! ## Runs -/

section

variable {host : Host} {request : Request} {plan : Plan} {places : List (List Text)}

/-- Where a run puts what it generates. -/
def Plan.target (plan : Plan) (request : Request) (root : Path) : Path :=
  match request.outputDirectory with
  | none => plan.configured
  | some directory => root.join directory

/-- The search of a run on a disk. -/
def Plan.searchOn (plan : Plan) (host : Host) (request : Request) (root : Path) (disk : Disk) :
    Search :=
  plan.search host request.signal root (HashCache.load disk (Manifest.cachePath root))
    (diskWithHashes disk root plan.files (!request.dry))

theorem isRoot_view (isRoot : Path.resolve host.working request.path = root)
    (planned : Plan.of host request disk = .ok plan) :
    disk.view root.names = some .directory := by
  rw [← isRoot]
  exact Plan.view_root planned

/-- The directory of the caches is there when hashes have been kept. -/
theorem view_state_diskWithHashes (kept : Kept evidence root saved disk)
    (plain : Path.parentName ∉ root.names) (isDirectory : disk.view root.names = some .directory)
    (files : List Walk.Found) :
    (diskWithHashes disk root files true).view (root.names ++ [Walk.stateDirectory]) =
      some .directory := by
  have names : (Manifest.cachePath root).parent.names = root.names ++ [Walk.stateDirectory] := by
    rw [parent_hashes]
    rfl
  rw [← names]
  apply HashCache.directory_save
  rw [names]
  refine ⟨Disk.view_of_prefix isDirectory (List.nil_prefix), ?_, ?_⟩
  · rw [List.mem_append, not_or]
    exact ⟨plain, by decide⟩
  · intro front isFront content seen
    rcases List.prefix_concat_iff.mp isFront with rfl | inside
    · exact kept.free content seen
    · rw [Disk.view_of_prefix isDirectory inside] at seen
      cases seen

/-- The hashes of the files of a project are those of files that were seen. -/
theorem trusted_diskWithHashes_of_listed {seen : Text → FileContent → Prop} {given : Text}
    {directory : Path} {excluded : List Text} {files : List Walk.Found}
    (trusted : HashCache.Trusted seen disk (Manifest.cachePath root))
    (listed : projectFiles disk given directory excluded = .ok files)
    (plain : Path.parentName ∉ directory.names) (orderly : disk.Orderly)
    (isSeen : ∀ file ∈ files, seen file.path file.content) (persist : Bool) :
    HashCache.Trusted seen (diskWithHashes disk root files persist) (Manifest.cachePath root) := by
  unfold diskWithHashes
  cases persist with
  | false => exact trusted
  | true =>
      exact HashCache.trusted_save trusted
        (tidy_hashes_of_listed listed plain orderly isSeen trusted.justified)
        (justified_hashes isSeen trusted.justified)

theorem trusted_diskWithHashes {seen : Text → FileContent → Prop}
    (trusted : HashCache.Trusted seen disk (Manifest.cachePath root))
    (planned : Plan.of host request disk = .ok plan) (orderly : disk.Orderly)
    (isSeen : ∀ file ∈ plan.files, seen file.path file.content) (persist : Bool) :
    HashCache.Trusted seen (diskWithHashes disk root plan.files persist) (Manifest.cachePath root) := by
  obtain ⟨_, _, _, _, _, listed, _⟩ := Plan.of_eq_ok planned
  exact trusted_diskWithHashes_of_listed trusted listed (Path.plain_resolve _ _) orderly isSeen persist

theorem leaves_diskWithHashes (kept : Kept evidence root saved disk)
    (isRoot : Path.resolve host.working request.path = root)
    (planned : Plan.of host request disk = .ok plan) (orderly : disk.Orderly)
    (covers : evidence.Covers host plan) (persist : Bool) :
    Leaves evidence root saved [(Manifest.cachePath root).place] disk
      (diskWithHashes disk root plan.files persist) := by
  have plain : Path.parentName ∉ root.names := isRoot ▸ Path.plain_resolve _ _
  have confined := confined_diskWithHashes plain disk plan.files persist
  refine Leaves.of_confined ⟨fun content seen => ?_, ?_, kept.sorted, kept.explains, ?_⟩ confined
  · apply kept.free content ((confined.touches.view_eq_file_iff _).mp seen)
    rw [place_hashes plain]
    simp
  · apply kept.scans.of_touches confined.touches
    rw [List.mem_singleton]
    exact place_scans_ne_hashes plain
  · exact trusted_diskWithHashes kept.hashes planned orderly covers.seen persist

/-- An outcome is what the search of a run gives. -/
structure Ran (host : Host) (request : Request) (root : Path) (saved : Records) (disk : Disk)
    (plan : Plan) (markers : List (List Marker)) (answers : List Answer) (outcome : Outcome) :
    Prop where
  planned : Plan.of host request disk = .ok plan
  gives : (plan.searchOn host request root disk).Gives saved markers answers
  generation : outcome.generation =
    Generation.finish (Marker.select markers.flatten) (answers.flatMap Answer.findings) plan.scanners
      (Generation.emitterFor plan.scanners plan.settings.mode)
  target : outcome.outputDirectory = plan.target request root
  reused : outcome.reused = answers.countP Answer.recalled
  computed : outcome.computed = answers.countP fun answer => !answer.recalled

/-- What a run does to the disk: first the caches are kept, then what is generated is written, and
last what is no longer generated is removed. -/
structure Produced (evidence : Evidence) (root : Path) (records : Records) (outcome : Outcome)
    (disk kept wrote disk' : Disk) : Prop where
  leaves : Leaves evidence root records (cachePlaces root) disk kept
  present : kept.view (root.names ++ [Walk.stateDirectory]) = some .directory
  names : ∀ artifact ∈ outcome.generation.artifacts,
    Emission.isArtifactName artifact.name = true
  written : Output.Wrote outcome.outputDirectory outcome.generation.artifacts
    outcome.generation.artifacts kept wrote
  upToDate : (∀ artifact ∈ outcome.generation.artifacts,
    kept.readText (outcome.outputDirectory.child artifact.name) = .ok artifact.text) →
      outcome.written = [] ∧ wrote = kept
  removed : Output.Removed outcome.outputDirectory.place
    (Output.stale wrote outcome.outputDirectory outcome.generation.artifacts) wrote disk'
  stale : outcome.removed =
    (Output.stale wrote outcome.outputDirectory outcome.generation.artifacts).map
      outcome.outputDirectory.child

theorem backed_searchOn (isRoot : Path.resolve host.working request.path = root)
    (planned : Plan.of host request disk = .ok plan) (orderly : disk.Orderly)
    (covers : evidence.Covers host plan) (distinct : evidence.Distinct)
    (kept : Kept evidence root saved disk) :
    (plan.searchOn host request root disk).Backed evidence := by
  subst isRoot
  have confined := confined_diskWithHashes (Path.plain_resolve host.working request.path) disk
    plan.files (!request.dry)
  exact Plan.backed planned orderly confined.touches covers distinct kept.hashes.justified

theorem bytesOf_searchOn (isRoot : Path.resolve host.working request.path = root)
    (planned : Plan.of host request disk = .ok plan) (orderly : disk.Orderly) {file : Walk.Found}
    (mem : file ∈ plan.files) :
    (plan.searchOn host request root disk).bytesOf
      (Manifest.record (HashCache.load disk (Manifest.cachePath root)) file) =
        file.content.bytes := by
  subst isRoot
  have confined := confined_diskWithHashes (Path.plain_resolve host.working request.path) disk
    plan.files (!request.dry)
  exact Plan.bytesOf_record planned orderly confined.touches mem

/-- The markers that a search gives are those in the source files. -/
theorem forall₂_freshMarkers {markers : List (List Marker)} {answers : List Answer}
    (isRoot : Path.resolve host.working request.path = root)
    (planned : Plan.of host request disk = .ok plan) (orderly : disk.Orderly)
    (gives : (plan.searchOn host request root disk).Gives saved markers answers) :
    List.Forall₂ (fun file found => freshMarkers file.path file.content.bytes = .ok found)
      plan.sources markers := by
  have found := gives.markers
  unfold Plan.searchOn Search.MarkersOf at found
  rw [Plan.sources_search, List.forall₂_map_left_iff] at found
  apply ((List.forall₂_and_left _ _).mpr ⟨plan.sources_subset, found⟩).imp
  rintro file markers ⟨mem, fresh⟩
  have bytes := bytesOf_searchOn isRoot planned orderly mem
  exact bytes ▸ fresh

/-- What is generated for a plan from some markers and findings. -/
def Plan.generation (plan : Plan) (markers : List (List Marker)) (answers : List Answer) :
    Generation :=
  Generation.finish (Marker.select markers.flatten) (answers.flatMap Answer.findings) plan.scanners
    (Generation.emitterFor plan.scanners plan.settings.mode)

/-- Nothing keeps a run from its end: there is a plan, the search for it finds something and can keep it,
and what is generated is in the output directory already. -/
structure Unhindered (evidence : Evidence) (host : Host) (request : Request) (root : Path)
    (saved : Records) (disk : Disk) (plan : Plan) : Prop where
  planned : Plan.of host request disk = .ok plan
  search : (plan.searchOn host request root disk).Unhindered evidence
  generated : ∀ markers answers, (plan.searchOn host request root disk).Gives saved markers answers →
    ∀ artifact ∈ (plan.generation markers answers).artifacts,
      disk.readText ((plan.target request root).child artifact.name) = .ok artifact.text

/-- The search for a plan that is made on a disk. -/
def Plan.searching (plan : Plan) (host : Host) (request : Request) (root : Path) (disk : Disk) :
    Running Found :=
  let prepared := plan.preparation root (HashCache.load disk (Manifest.cachePath root))
  searchProject host prepared.manifest prepared.settings prepared.scanners request.signal (!request.dry)

/-- The search for a plan finds what the project has, and keeps it unless the run is dry. -/
theorem ensures_searchPlan (isRoot : Path.resolve host.working request.path = root)
    (planned : Plan.of host request disk = .ok plan) (orderly : disk.Orderly)
    (covers : evidence.Covers host plan) (distinct : evidence.Distinct)
    (kept : Kept evidence root saved disk)
    (isDisk : world.disk = diskWithHashes disk root plan.files (!request.dry)) :
    let search := plan.searchOn host request root disk
    Ensures (plan.searching host request root disk) world
      (fun found after => ∃ markers, found.markers = markers.flatten ∧
        search.Gives saved markers found.answers ∧
        Leaves evidence root (if request.dry then saved else search.records markers found.answers)
          (cachePlaces root) disk after.disk ∧
        (request.dry = false →
          after.disk.view (root.names ++ [Walk.stateDirectory]) = some .directory))
      fun after => (∃ saved', Kept evidence root saved' after.disk) ∧ ¬ search.Unhindered evidence := by
  intro search
  let prepared := plan.preparation root (HashCache.load disk (Manifest.cachePath root))
  have plain : Path.parentName ∉ root.names := isRoot ▸ Path.plain_resolve _ _
  have leaves := leaves_diskWithHashes kept isRoot planned orderly covers (!request.dry)
  have backed : search.Backed evidence :=
    backed_searchOn isRoot planned orderly covers distinct kept
  rw [← isDisk] at leaves
  have same : (⟨world.disk, prepared.manifest, prepared.settings, prepared.scanners, request.signal,
      host⟩ : Search) = search := by
    rw [isDisk]
    rfl
  have searched := @ensures_searchProject evidence saved world host prepared.manifest
    prepared.settings prepared.scanners request.signal (!request.dry) plain distinct
    (same.symm ▸ backed) leaves.kept
  rw [same] at searched
  apply searched.mono
  · rintro found after ⟨markers, isMarkers, gives, leaves'⟩
    refine ⟨markers, isMarkers, gives, ?_, ?_⟩
    · have both := leaves.trans leaves'
      cases isDry : request.dry with
      | false =>
          rw [isDry] at both
          exact both
      | true =>
          rw [isDry] at both
          exact both
    · intro isDry
      apply leaves'.touches.directories
      rw [isDisk, isDry]
      exact view_state_diskWithHashes kept plain (isRoot_view isRoot planned) plan.files
  · rintro after ⟨leaves', hindered⟩
    exact ⟨⟨saved, leaves'.kept⟩, hindered⟩

/-- What was generated is written, and what is no longer generated is removed. -/
theorem ensures_produce {β : Type} {directory : Path} {artifacts : List Emission.Artifact}
    (unique : world.disk.Unique)
    (names : ∀ artifact ∈ artifacts, Emission.isArtifactName artifact.name = true)
    {next : List Path → List Path → Running β} {given : β → World → Prop} {failed : World → Prop}
    (refused : ∀ after : World,
      world.disk.Touches (artifacts.map (Output.targetPlace directory)) after.disk →
      (∃ artifact ∈ artifacts,
        world.disk.readText (directory.child artifact.name) ≠ .ok artifact.text) → failed after)
    (rest : ∀ written wrote after,
      Output.Wrote directory artifacts artifacts world.disk wrote →
      ((∀ artifact ∈ artifacts,
        world.disk.readText (directory.child artifact.name) = .ok artifact.text) →
          written = [] ∧ wrote = world.disk) →
      ((artifacts.map (Output.targetPlace directory)).Nodup → Output.Direct world.disk directory →
        Output.Supplied directory artifacts written world.disk wrote) →
      Output.Removed directory.place (Output.stale wrote directory artifacts) wrote after.disk →
      Ensures (next written ((Output.stale wrote directory artifacts).map directory.child)) after
        given failed) :
    Ensures (do
      let written ← Output.writeAll directory artifacts
      let removed ← Output.removeStale directory artifacts
      next written removed) world given failed := by
  apply Ensures.bind (((Output.ensures_writeAll directory artifacts world).and
    (Output.supplies_writeAll world names)).mapFailed
      fun after holds => refused after holds.1.1 holds.1.2)
  rintro written wrote ⟨⟨holds, upToDate⟩, supplied⟩
  apply Ensures.bind
  · apply (Output.ensures_removeStale (holds.unique unique) artifacts).mapFailed
    intro after absurd
    cases absurd
  rintro removed after ⟨rfl, gone⟩
  exact rest written wrote.disk after holds upToDate supplied gone

theorem Produced.kept {records : Records} {outcome : Outcome} {kept wrote : Disk}
    (produced : Produced evidence root records outcome disk kept wrote disk')
    (plain : Path.parentName ∉ root.names) (orderly : disk.Orderly) :
    Kept evidence root records disk' := by
  have unique := produced.written.unique (produced.leaves.unique orderly.unique)
  have afterWriting : Kept evidence root records wrote :=
    produced.leaves.kept.of_touches_artifacts plain produced.written.touches
      (Output.isArtifactPlace_of_mem produced.names _)
  exact afterWriting.of_touches_artifacts plain (produced.removed.touches unique)
    (Output.isArtifactPlace_of_mem_stale unique _)

/-- What a run generates that nothing hinders is still in the output directory when the caches are kept. -/
theorem Unhindered.readText {records : Records} {markers : List (List Marker)} {answers : List Answer}
    {artifact : Emission.Artifact} (unhindered : Unhindered evidence host request root saved disk plan)
    (plain : Path.parentName ∉ root.names)
    (gives : (plan.searchOn host request root disk).Gives saved markers answers)
    (leaves : Leaves evidence root records (cachePlaces root) disk disk')
    (mem : artifact ∈ (plan.generation markers answers).artifacts) :
    disk'.readText ((plan.target request root).child artifact.name) = .ok artifact.text := by
  apply Output.readText_of_touches leaves.touches _ (unhindered.generated markers answers gives _ mem)
  exact fun isPlace => not_isArtifactPlace_cachePlaces plain isPlace
    (Output.isArtifactPlace_child _ (Output.isArtifactName_of_mem_finish mem))

/-- What is generated for a plan from what was found. -/
def Plan.generates (plan : Plan) (found : Found) : Generation :=
  Generation.finish (Marker.select found.markers) found.findings plan.scanners
    (Generation.emitterFor plan.scanners plan.settings.mode)

/-- What a run gives for a plan. -/
def Plan.outcome (plan : Plan) (request : Request) (root : Path) (found : Found)
    (written removed : List Path) : Outcome where
  generation := plan.generates found
  outputDirectory := plan.target request root
  written := written
  removed := removed
  dry := request.dry
  reused := found.reused
  computed := found.computed

/-- A run makes its plan, searches for it, and unless it is dry writes what is generated and removes what
is no longer generated. -/
theorem ensures_running (host : Host) (request : Request)
    (isRoot : Path.resolve host.working request.path = root) {given : Outcome → World → Prop}
    {failed : World → Prop}
    (refused : (∀ plan, Plan.of host request world.disk ≠ .ok plan) →
      ∀ after : World, after.disk = world.disk → failed after)
    (works : ∀ (plan : Plan) (middle : World), Plan.of host request world.disk = .ok plan →
      middle.disk = diskWithHashes world.disk root plan.files (!request.dry) →
      middle.progress.asked = world.progress.asked →
      Ensures (plan.searching host request root world.disk) middle
        (fun found after => ∀ searched : World, searched.disk = after.disk →
          (request.dry = true → given (plan.outcome request root found [] []) searched) ∧
          (request.dry = false → Ensures (do
            let written ← Output.writeAll (plan.target request root) (plan.generates found).artifacts
            let removed ← Output.removeStale (plan.target request root) (plan.generates found).artifacts
            pure (plan.outcome request root found written removed)) searched given failed))
        failed) :
    Ensures (run host request) world given failed := by
  unfold run
  apply Ensures.modify_bind
  apply Ensures.bind
  · apply (ensures_prepare host request isRoot (by rfl)).mapFailed
    rintro after ⟨same, none⟩
    exact refused none after same
  rintro prepared middle ⟨plan, planned, rfl, isMiddle, asked⟩
  apply Ensures.modify_bind
  apply Ensures.bind (works plan _ planned (by exact isMiddle) (by exact asked))
  intro found searched rest
  apply Ensures.modify_bind
  apply Ensures.modify_bind
  apply Ensures.modify_bind
  cases isDry : request.dry with
  | true =>
      apply Ensures.pure
      have atEnd (after : World) (same : after.disk = searched.disk) := (rest after same).1 isDry
      unfold Plan.outcome at atEnd
      rw [isDry] at atEnd
      exact atEnd _ (by rfl)
  | false =>
      have further (after : World) (same : after.disk = searched.disk) := (rest after same).2 isDry
      unfold Plan.outcome at further
      rw [isDry] at further
      exact further _ (by rfl)

/-- A run works on its plan.  However it ends, the caches hold what the evidence explains. -/
theorem ensures_run (host : Host) (request : Request)
    (isRoot : Path.resolve host.working request.path = root) (isDisk : world.disk = disk)
    (orderly : disk.Orderly) (distinct : evidence.Distinct)
    (covers : ∀ plan, Plan.of host request disk = .ok plan → evidence.Covers host plan)
    (kept : Kept evidence root saved disk) :
    Ensures (run host request) world
      (fun outcome after => ∃ plan markers answers,
        Ran host request root saved disk plan markers answers outcome ∧
        (request.dry = false → ∃ kept wrote, Produced evidence root
          ((plan.searchOn host request root disk).records markers answers) outcome
            disk kept wrote after.disk))
      fun after => (∃ saved', Kept evidence root saved' after.disk) ∧
        ∀ plan, ¬ Unhindered evidence host request root saved disk plan := by
  subst isDisk
  have plain : Path.parentName ∉ root.names := isRoot ▸ Path.plain_resolve _ _
  refine ensures_running host request isRoot ?_ fun plan middle planned isMiddle _ => ?_
  · intro refused after same
    exact ⟨⟨saved, same ▸ kept⟩, fun plan unhindered => refused plan unhindered.planned⟩
  apply (ensures_searchPlan isRoot planned orderly (covers plan planned) distinct kept isMiddle).mono
  · rintro found after ⟨markers, isMarkers, gives, leaves, present⟩ searched same
    have isGeneration : plan.generates found = plan.generation markers found.answers := by
      rw [Plan.generates, isMarkers]
      rfl
    have ran (written removed : List Path) : Ran host request root saved world.disk plan markers
        found.answers (plan.outcome request root found written removed) :=
      ⟨planned, gives, isGeneration, rfl, rfl, rfl⟩
    rw [← same] at leaves present
    refine ⟨fun isDry => ?_, fun isDry => ?_⟩
    · refine ⟨plan, markers, found.answers, ran [] [], fun notDry => ?_⟩
      cases isDry.symm.trans notDry
    · rw [isDry] at leaves
      refine ensures_produce (leaves.unique orderly.unique)
        (fun _ => Output.isArtifactName_of_mem_finish) ?_ ?_
      · rintro after touches ⟨artifact, isArtifact, missing⟩
        constructor
        · exact ⟨_, leaves.kept.of_touches_artifacts plain touches
            (Output.isArtifactPlace_of_mem (fun _ => Output.isArtifactName_of_mem_finish) _)⟩
        · intro plan' unhindered
          cases planned.symm.trans unhindered.planned
          exact missing (unhindered.readText plain gives leaves (isGeneration ▸ isArtifact))
      · intro written wrote after holds upToDate _ gone
        apply Ensures.pure
        refine ⟨plan, markers, found.answers, ran _ _, fun _ => ?_⟩
        exact ⟨searched.disk, wrote, leaves, present isDry,
          fun _ => Output.isArtifactName_of_mem_finish, holds, upToDate, gone, rfl⟩
  · rintro after ⟨kept', hindered⟩
    refine ⟨kept', fun plan' unhindered => ?_⟩
    cases planned.symm.trans unhindered.planned
    exact hindered unhindered.search

/-! ## Runs that change nothing -/

theorem unchanged_prepare (host : Host) (isDry : request.dry = true) (isDisk : world.disk = disk) :
    Ensures (prepare host request) world (fun _ after => after.disk = disk)
      fun after => after.disk = disk := by
  apply (ensures_prepare host request rfl isDisk).mono
  · rintro prepared after ⟨plan, _, _, same, _⟩
    rw [isDry] at same
    exact same
  · rintro after ⟨same, _⟩
    exact same

theorem unchanged_searchProject (host : Host) (manifest : Manifest) (settings : RunSettings)
    (scanners : List Scanner) (signal : Pattern.Signal) (isDisk : world.disk = disk) :
    Ensures (searchProject host manifest settings scanners signal false) world
      (fun _ after => after.disk = disk) fun after => after.disk = disk := by
  refine ensures_searching (fun _ => isDisk) fun cache log before _ => ?_
  apply (Ensures.always _ _).mono
  · exact fun _ _ _ after same => ⟨fun _ => same.trans isDisk, nofun⟩
  · exact fun _ _ after same => same.trans isDisk

/-- A dry run changes nothing, however it ends. -/
theorem unchanged_run (host : Host) (isDry : request.dry = true) :
    Ensures (run host request) world (fun _ after => after.disk = world.disk)
      fun after => after.disk = world.disk := by
  refine ensures_running host request rfl (fun _ _ same => same) fun plan middle _ isMiddle _ => ?_
  unfold Plan.searching
  rw [isDry] at isMiddle ⊢
  apply (unchanged_searchProject host _ _ _ _ isMiddle).mono
  · exact fun _ _ same _ same' => ⟨fun _ => same'.trans same, nofun⟩
  · exact fun _ same => same

/-- A project is not changed when its class names are collected. -/
theorem unchanged_collect (host : Host) (request : Request) :
    Ensures (collect host request) world (fun _ after => after.disk = world.disk)
      fun after => after.disk = world.disk := by
  unfold collect
  apply Ensures.bind
  · exact @unchanged_prepare world.disk world { request with dry := true } host rfl rfl
  intro prepared middle same
  apply Ensures.bind (unchanged_searchProject host _ _ _ _ same)
  intro found after same'
  exact Ensures.pure same'

/-- Whatever a run gives, the caches hold what the evidence explains. -/
theorem kept_run (host : Host) (request : Request)
    (isRoot : Path.resolve host.working request.path = root) (orderly : world.disk.Orderly)
    (distinct : evidence.Distinct)
    (covers : ∀ plan, Plan.of host request world.disk = .ok plan → evidence.Covers host plan)
    (kept : Kept evidence root saved world.disk) :
    Ensures (run host request) world (fun _ after => ∃ saved', Kept evidence root saved' after.disk)
      fun after => ∃ saved', Kept evidence root saved' after.disk := by
  have plain : Path.parentName ∉ root.names := isRoot ▸ Path.plain_resolve _ _
  have ensures := ensures_run host request isRoot rfl orderly distinct covers kept
  cases isDry : request.dry with
  | true =>
      apply (unchanged_run host isDry).mono
      · intro outcome after same
        exact ⟨saved, same ▸ kept⟩
      · intro after same
        exact ⟨saved, same ▸ kept⟩
  | false =>
      apply ensures.mono
      · rintro outcome after ⟨plan, markers, answers, _, produces⟩
        obtain ⟨middle, wrote, produced⟩ := produces isDry
        exact ⟨_, produced.kept plain orderly⟩
      · exact fun _ holds => holds.1

/-- A run comes to its end if nothing keeps it from that. -/
theorem exists_run (host : Host) (request : Request)
    (isRoot : Path.resolve host.working request.path = root) (orderly : world.disk.Orderly)
    (distinct : evidence.Distinct) (covers : evidence.Covers host plan)
    (kept : Kept evidence root saved world.disk)
    (unhindered : Unhindered evidence host request root saved world.disk plan) :
    ∃ outcome after, (run host request).run.run world = (.ok outcome, after) := by
  have covers' (plan' : Plan) (planned : Plan.of host request world.disk = .ok plan') :
      evidence.Covers host plan' := by
    cases unhindered.planned.symm.trans planned
    exact covers
  have ensures := ensures_run host request isRoot rfl orderly distinct covers' kept
  rcases returned : (run host request).run.run world with ⟨result, after⟩
  cases result with
  | error error => exact absurd unhindered ((ensures.of_eq_error returned).2 plan)
  | ok outcome => exact ⟨outcome, after, rfl⟩

end

end ClassHarvest.Project
