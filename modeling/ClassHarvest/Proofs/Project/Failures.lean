import ClassHarvest.Proofs.Project.Desk
import ClassHarvest.Proofs.Project.History

/-!
# What a run leaves behind that fails

Whatever its caches hold, a run writes nothing but them before it has found everything.  Only then does
it compare and write what is generated, so no other failure leaves a trace in the output directory.
-/

namespace ClassHarvest.Project

open Scan

/-! ## The cache of a search stays where it is -/

/-- A step of a search does not move the cache. -/
def Stays {α : Type} (step : Searching α) : Prop :=
  ∀ desk, Ensures step desk (fun _ after => after.cache.location = desk.cache.location) fun _ => True

/-- A search does not move the cache. -/
theorem Search.stays_search (search : Search) : Stays search.search :=
  fun desk => ((search.respects_location desk.cache.location).preserves desk rfl).mapFailed
    fun _ _ => trivial

theorem location_openAt {path : Path} {disk : Disk} {cache : ScanCache} {log : Log}
    (opened : ScanCache.openAt (some path) disk = .ok (cache, log)) : cache.location = some path := by
  unfold ScanCache.openAt at opened
  dsimp only at opened
  cases loaded : ScanCache.load disk path with
  | error error =>
      rw [loaded] at opened
      cases opened
  | ok entries =>
      rw [loaded] at opened
      cases opened
      rfl

/-! ## What is written before anything is generated -/

variable {host : Host} {request : Request} {world after : World} {root : Path} {failure : Failure}

/-- A preparation writes at most the cache of hashes. -/
theorem touches_prepare (isRoot : Path.resolve host.working request.path = root) :
    Ensures (prepare host request) world
      (fun prepared after => prepared.root = root ∧ prepared.manifest.root = root ∧
        world.disk.Touches [(Manifest.cachePath root).place] after.disk)
      fun after => after.disk = world.disk := by
  apply (ensures_prepare host request isRoot rfl).mono
  · rintro prepared after ⟨plan, _, rfl, isDisk, _⟩
    refine ⟨rfl, rfl, ?_⟩
    rw [isDisk]
    exact (confined_diskWithHashes (isRoot ▸ Path.plain_resolve _ _) _ _ _).touches
  · exact fun _ same => same.1

theorem confined_onDisk_persist {cache : ScanCache}
    (location : cache.location = some (scanCachePath root)) (plain : Path.parentName ∉ root.names)
    (world : World) :
    Ensures (Running.onDisk .writing fun disk => cache.persist disk) world
      (fun _ after => Confined root (scanPlaces root) world.disk after.disk)
      fun after => Confined root (scanPlaces root) world.disk after.disk := by
  have confined := confined_persist location plain world.disk
  apply Output.ensures_onDisk
  · intro disk value written
    rw [written] at confined
    exact confined
  · intro disk error refused
    rw [refused] at confined
    exact confined

/-- A search writes at most the cache of scans, whatever it finds in it. -/
theorem confined_searchProject (host : Host) (manifest : Manifest) (settings : RunSettings)
    (scanners : List Scanner) (signal : Pattern.Signal) (persist : Bool) (world : World)
    (plain : Path.parentName ∉ manifest.root.names) :
    Ensures (searchProject host manifest settings scanners signal persist) world
      (fun _ after => Confined manifest.root (scanPlaces manifest.root) world.disk after.disk)
      fun after => Confined manifest.root (scanPlaces manifest.root) world.disk after.disk := by
  have stays := Confined.refl manifest.root (scanPlaces manifest.root) world.disk
  refine ensures_searching (fun _ => stays) fun cache log before opened => ?_
  apply (Search.stays_search _ _).mono
  · intro found desk atEnd after same
    have confined := confined_onDisk_persist (atEnd.trans (location_openAt opened)) plain after
    rw [same] at confined
    exact ⟨fun _ => same ▸ stays, fun _ => confined⟩
  · exact fun _ _ after same => same ▸ stays

/-! ## Failures -/

/-- A file cannot be read or written. -/
def Failure.isOfFile : Failure → Bool
  | .reading _ | .writing _ => true
  | _ => false

theorem fails_onDisk {ε α : Type} {failure : ε → Failure} {step : Disk → Disk × Except ε α}
    (ofFile : ∀ error, (failure error).isOfFile = true) :
    Fails (Running.onDisk failure step) world fun failure _ => failure.isOfFile = true := by
  unfold Running.onDisk
  apply Fails.get_bind
  rcases step world.disk with ⟨disk, outcome⟩
  cases outcome with
  | ok value => exact Fails.modify_bind Fails.pure
  | error error => exact Fails.modify_bind (Fails.throw (ofFile error))

theorem fails_write (directory : Path) (artifact : Emission.Artifact) (world : World) :
    Fails (Output.write directory artifact) world fun failure _ => failure.isOfFile = true := by
  unfold Output.write
  apply Fails.get_bind
  cases fresh : Output.isUpToDate world.disk (directory.child artifact.name) artifact with
  | error error =>
      apply Fails.throw
      unfold Output.isUpToDate at fresh
      split at fresh
      · split at fresh
        · cases fresh
        · cases fresh
          rfl
      · cases fresh
  | ok upToDate =>
      cases upToDate with
      | true => exact Fails.modify_bind Fails.pure
      | false =>
          apply Fails.bind (Ensures.always _ _) (fails_onDisk fun _ => rfl)
          intro _ _ _
          apply Fails.bind (Ensures.always _ _) (fails_onDisk fun _ => rfl)
          intro _ _ _
          exact Fails.modify_bind Fails.pure

/-- If artifacts cannot be written, then because of a file. -/
theorem fails_writeAll (directory : Path) (artifacts : List Emission.Artifact) (world : World) :
    Fails (Output.writeAll directory artifacts) world fun failure after =>
      failure.isOfFile = true ∧
        world.disk.Touches (artifacts.map (Output.targetPlace directory)) after.disk := by
  have ofFile : Fails (Output.writeAll directory artifacts) world
      fun failure _ => failure.isOfFile = true := by
    unfold Output.writeAll
    apply Fails.bind (Ensures.always _ _) (Fails.mapM fun artifact => fails_write directory artifact)
    intro _ _ _
    exact Fails.pure
  exact ofFile.and
    (Fails.of_ensures (Output.wrote_writeAll directory artifacts world) fun _ _ touches => touches)

theorem fails_removeStale (directory : Path) (artifacts : List Emission.Artifact) (world : World) :
    Fails (Output.removeStale directory artifacts) world fun _ _ => False := by
  unfold Output.removeStale
  apply Fails.get_bind
  apply Fails.mapM
  intro name world
  exact Fails.modify_bind (Fails.modify_bind Fails.pure)

/-- A run that fails has touched its caches only, or it failed because of a file when it wrote what was
generated. -/
theorem fails_run (host : Host) (request : Request)
    (isRoot : Path.resolve host.working request.path = root) :
    Fails (run host request) world fun failure after =>
      world.disk.Touches (cachePlaces root) after.disk ∨
        failure.isOfFile = true ∧ ∃ places, (∀ place ∈ places, Output.IsArtifactPlace place) ∧
          world.disk.Touches (cachePlaces root ++ places) after.disk := by
  have hashes {disk disk' : Disk} (touches : disk.Touches [(Manifest.cachePath root).place] disk') :
      disk.Touches (cachePlaces root) disk' :=
    touches.mono (by simp [cachePlaces])
  have scans {disk disk' : Disk} (touches : disk.Touches (scanPlaces root) disk') :
      disk.Touches (cachePlaces root) disk' :=
    touches.mono (by simp [cachePlaces, scanPlaces])
  unfold run
  apply Fails.modify_bind
  apply Fails.bind (touches_prepare isRoot)
  · apply Fails.of_ensures (touches_prepare isRoot)
    intro _ after same
    left
    rw [same]
    exact Disk.Touches.refl _ _
  rintro prepared middle ⟨isRoot', isManifestRoot, touches⟩
  replace touches := hashes touches
  apply Fails.modify_bind
  have searches (world' : World) (same : world'.disk = middle.disk) :
      Ensures (searchProject host prepared.manifest prepared.settings prepared.scanners
        request.signal (!request.dry)) world'
        (fun _ after => world.disk.Touches (cachePlaces root) after.disk)
        fun after => world.disk.Touches (cachePlaces root) after.disk := by
    have plain : Path.parentName ∉ prepared.manifest.root.names :=
      isManifestRoot ▸ isRoot ▸ Path.plain_resolve _ _
    have searches := confined_searchProject host prepared.manifest prepared.settings
      prepared.scanners request.signal (!request.dry) world' plain
    rw [isManifestRoot, same] at searches
    exact searches.mono (fun _ _ further => touches.trans (scans further.touches))
      fun _ further => touches.trans (scans further.touches)
  apply Fails.bind (searches _ (by exact rfl))
  · exact Fails.of_ensures (searches _ (by exact rfl)) fun _ _ touches => Or.inl touches
  intro found searched touches
  apply Fails.modify_bind
  apply Fails.modify_bind
  apply Fails.modify_bind
  cases request.dry with
  | true => exact Fails.pure
  | false =>
      dsimp only
      rw [if_neg (by decide)]
      apply Fails.bind (Ensures.always _ _)
      · apply Fails.mono (fails_writeAll _ _ _)
        rintro failure after ⟨ofFile, further⟩
        right
        refine ⟨ofFile, _, ?_, (touches.mono (List.subset_append_left _ _)).trans
          (further.mono (List.subset_append_right _ _))⟩
        intro place mem
        obtain ⟨artifact, isArtifact, rfl⟩ := List.mem_map.mp mem
        exact Output.isArtifactPlace_child _ (Output.isArtifactName_of_mem_finish isArtifact)
      intro written wrote _
      apply Fails.bind (Ensures.always _ _)
      · apply Fails.mono (fails_removeStale _ _ _)
        intro failure after absurd
        cases absurd
      intro _ _ _
      exact Fails.pure

/-- A project with an earlier generated file, on a disk. -/
def disk_withOutput (content : FileContent) : Disk where
  top := .directory [("p", .directory [("out", .directory [
    (Emission.combinedArtifact, .file content)])])]
  clock := 5

/-- A generated file with another text is emptied before it turns out that the new text has no bytes. -/
theorem empty_of_write {directory : Path} {artifact : Emission.Artifact} {earlier : FileContent}
    {error : Utf8.EncodeError}
    (present : world.disk.look (directory.child artifact.name) = .ok (.file earlier))
    (differs : Output.isUpToDate world.disk (directory.child artifact.name) artifact = .ok false)
    (refused : Utf8.encode artifact.text = .error error) :
    Ensures (Output.write directory artifact) world (fun _ _ => False) fun after =>
      ∃ stamp, after.disk.look (directory.child artifact.name) = .ok (.file ⟨[], stamp⟩) := by
  have parent : (directory.child artifact.name).parent = directory := by
    simp [Path.parent, Path.child]
  obtain ⟨names, located, seen⟩ := Disk.look_eq_ok_iff.mp present
  have writable := Disk.writable_of_locate located (by rw [seen]; simp)
  have emptied : world.disk.writeText (directory.child artifact.name) artifact.text =
      (world.disk.putFile names [], .error (.encoding error)) := by
    rw [Disk.writeText, writable]
    simp only [refused]
  have made : world.disk.ensureDirectory directory = (world.disk, .ok ()) := by
    apply Disk.ensureDirectory_of_directory
    rw [Disk.locate, Path.child, Disk.follow_append] at located
    cases around : world.disk.follow [] directory.names with
    | error fault =>
        rw [around] at located
        cases located
    | ok above =>
        rw [around] at located
        exact Disk.look_eq_ok_iff.mpr ⟨above, around, Disk.view_eq_directory_of_follow located⟩
  have empty : (world.disk.putFile names []).look (directory.child artifact.name) =
      .ok (.file ⟨[], world.disk.clock⟩) := by
    apply Disk.look_eq_ok_iff.mpr
    refine ⟨names, (Disk.Touches.of_putFile writable []).locate_eq_ok located, ?_⟩
    rw [Disk.view_putFile writable, if_pos rfl]
  unfold Output.write
  apply Ensures.get_bind
  rw [differs]
  dsimp only
  rw [parent]
  apply @Ensures.bind _ _ _ _ _ _ _ _ fun _ after => after = world
  · apply Output.ensures_onDisk
    · intro disk value result
      cases made.symm.trans result
      rfl
    · intro disk error result
      cases made.symm.trans result
  rintro _ _ rfl
  apply @Ensures.bind _ _ _ _ _ _ _ _ fun _ _ => False
  · apply Output.ensures_onDisk
    · intro disk value result
      cases emptied.symm.trans result
    · intro disk error result
      cases emptied.symm.trans result
      exact ⟨_, empty⟩
  · intro _ _ absurd
    cases absurd

end ClassHarvest.Project
