import ClassHarvest.Proofs.Project.Provenance

/-!
# Caches that only the program writes

As long as nothing but the program writes where the caches of a project are, they hold what scans gave,
whatever is edited elsewhere, whatever digests collide and however calls end.
-/

namespace ClassHarvest.Project

open Json Scan Running

variable {host : Host} {request : Request} {root : Path} {saved : Records} {disk disk' : Disk}
  {world : World} {plan : Plan}

/-! ## Authentic caches -/

/-- The caches of a project hold native records, and hashes of contents. -/
structure Authentic (root : Path) (disk : Disk) : Prop where
  scans : ∃ saved, ScanCache.FileHolds disk (scanCachePath root) saved ∧
    saved.Sorted IsFindingKey ∧ AllNative saved
  hashes : HashCache.Trusted (fun _ _ => True) disk (Manifest.cachePath root)

namespace Authentic

theorem of_touches {places : List (List Text)} (authentic : Authentic root disk)
    (touches : disk.Touches places disk') (scansOutside : (scanCachePath root).place ∉ places)
    (hashesOutside : (Manifest.cachePath root).place ∉ places) : Authentic root disk' where
  scans := by
    obtain ⟨saved, holds, sorted, native⟩ := authentic.scans
    exact ⟨saved, holds.of_touches touches scansOutside, sorted, native⟩
  hashes := authentic.hashes.of_view fun _ => (touches.view_eq_file_iff hashesOutside).mp

/-- What is done in the output directory leaves the caches alone. -/
theorem of_touches_artifacts {places : List (List Text)} (authentic : Authentic root disk)
    (plain : Path.parentName ∉ root.names) (touches : disk.Touches places disk')
    (artifacts : ∀ place ∈ places, Output.IsArtifactPlace place) : Authentic root disk' := by
  have outside {place : List Text} (isCache : place ∈ cachePlaces root) : place ∉ places :=
    fun mem => not_isArtifactPlace_cachePlaces plain isCache (artifacts place mem)
  exact authentic.of_touches touches (outside (by simp [cachePlaces])) (outside (by simp [cachePlaces]))

theorem of_edited (authentic : Authentic root disk) (plain : Path.parentName ∉ root.names)
    (edited : Edited root disk disk') : Authentic root disk' where
  scans := by
    obtain ⟨saved, holds, sorted, native⟩ := authentic.scans
    exact ⟨saved, edited.fileHolds plain holds, sorted, native⟩
  hashes := edited.trusted plain authentic.hashes

/-- A project without caches has none that are not authentic. -/
theorem of_absent (plain : Path.parentName ∉ root.names)
    (absent : disk.view (root.names ++ [Walk.stateDirectory]) = none) : Authentic root disk := by
  have kept : Kept ⟨fun _ _ => True, fun _ => True⟩ root Records.empty disk :=
    kept_of_absent plain absent
  exact ⟨⟨_, kept.scans, kept.sorted, allNative_empty⟩, kept.hashes⟩

/-- The hashes of the files of a plan are kept. -/
theorem diskWithHashes (authentic : Authentic root disk) (plain : Path.parentName ∉ root.names)
    (planned : Plan.of host request disk = .ok plan) (orderly : disk.Orderly) (persist : Bool) :
    Authentic root (diskWithHashes disk root plan.files persist) where
  scans := by
    obtain ⟨saved, holds, sorted, native⟩ := authentic.scans
    refine ⟨saved, ?_, sorted, native⟩
    apply holds.of_touches (confined_diskWithHashes plain disk plan.files persist).touches
    rw [List.mem_singleton]
    exact place_scans_ne_hashes plain
  hashes := trusted_diskWithHashes authentic.hashes planned orderly (fun _ _ => trivial) persist

/-- The cache of scans is written, or stays as it is. -/
theorem ensures_persist {cache : ScanCache} {records : Records} (authentic : Authentic root disk)
    (plain : Path.parentName ∉ root.names) (isDisk : world.disk = disk)
    (native : AllNative records) (savedNative : AllNative saved)
    (describes : Ledger.Describes ⟨records, saved⟩ IsFindingKey (scanCachePath root) cache disk) :
    Ensures (onDisk .writing fun disk => cache.persist disk) world
      (fun _ after => Authentic root after.disk ∧ Confined root (scanPlaces root) disk after.disk)
      fun after => Authentic root after.disk := by
  subst isDisk
  have confined := confined_persist describes.location plain world.disk
  have hashes {disk : Disk} (touches : world.disk.Touches (scanPlaces root) disk) :
      HashCache.Trusted (fun _ _ => True) disk (Manifest.cachePath root) :=
    authentic.hashes.of_view fun _ =>
      (touches.view_eq_file_iff (hashes_not_mem_scanPlaces plain)).mp
  rcases describes.persist with
    ⟨disk, cache', persisted, describes'⟩ | ⟨disk, error, refused, describes'⟩
  · rw [persisted] at confined
    apply Output.ensures_onDisk
    · intro disk' value result
      cases persisted.symm.trans result
      exact ⟨⟨⟨_, describes'.file, describes'.savedSorted, native.joined⟩, hashes confined.touches⟩,
        confined⟩
    · intro disk' error result
      cases persisted.symm.trans result
  · rw [refused] at confined
    apply Output.ensures_onDisk
    · intro disk' value result
      cases refused.symm.trans result
    · intro disk' error result
      cases refused.symm.trans result
      exact ⟨⟨_, describes'.file, describes'.savedSorted, savedNative⟩, hashes confined.touches⟩

end Authentic

/-! ## Searching -/

/-- The desk of a search when its cache has just been opened. -/
theorem Desk.native_start {search : Search} {cache : ScanCache} {progress : Progress}
    (describes : Ledger.Describes ⟨saved, saved⟩ IsFindingKey (scanCachePath root) cache search.disk)
    (native : AllNative saved) :
    Desk.Native search (scanCachePath root) saved { cache, progress } :=
  ⟨⟨saved, describes, native⟩, nofun⟩

/-- What a search with authentic caches finds is as scans give it. -/
theorem Search.Finds.yields {search : Search} {asked : Nat} {found : Found}
    (finds : search.Finds asked found) (plain : search.Plain)
    (authentic : Authentic search.manifest.root search.disk) : search.Yields found := by
  obtain ⟨cache, log, before, desk, opened, ran⟩ := finds
  obtain ⟨saved, holds, sorted, native⟩ := authentic.scans
  obtain ⟨cache', log', opened', describes⟩ := Ledger.Describes.openAt_of_file holds sorted
  cases opened.symm.trans opened'
  exact ((Search.native_search plain (Desk.native_start describes native)).of_eq_ok ran).1

/-- A search keeps its caches authentic. -/
theorem native_searchProject {host : Host} {manifest : Manifest} {settings : RunSettings}
    {scanners : List Scanner} {signal : Pattern.Signal} (persist : Bool)
    (plainRoot : Path.parentName ∉ manifest.root.names)
    (plain : Search.Plain ⟨world.disk, manifest, settings, scanners, signal, host⟩)
    (authentic : Authentic manifest.root world.disk) :
    Ensures (searchProject host manifest settings scanners signal persist) world
      (fun _ after => Authentic manifest.root after.disk ∧
        Confined manifest.root (scanPlaces manifest.root) world.disk after.disk)
      fun after => Authentic manifest.root after.disk := by
  have stays := Confined.refl manifest.root (scanPlaces manifest.root) world.disk
  obtain ⟨saved, holds, sorted, native⟩ := authentic.scans
  obtain ⟨cache, log, opened, describes⟩ := Ledger.Describes.openAt_of_file holds sorted
  refine ensures_searching (fun none => absurd opened (none _)) fun cache' log' before opened' => ?_
  cases opened.symm.trans opened'
  apply (Search.native_search plain (Desk.native_start describes native)).mono
  · rintro found desk ⟨_, ⟨records, describes', native'⟩, _⟩ after same
    refine ⟨fun _ => ?_, fun _ => ?_⟩
    · rw [same]
      exact ⟨authentic, stays⟩
    · exact authentic.ensures_persist plainRoot same native' native describes'
  · intro _ _ after same
    rw [same]
    exact authentic

/-! ## Calls -/

/-- The search for a plan can keep what it finds. -/
theorem plain_searchOn (planned : Plan.of host request disk = .ok plan) (orderly : disk.Orderly)
    (own : ∀ scanner ∈ plan.scanners, scanner ∈ Scanner.builtIn)
    (version : ∀ c ∈ host.version, c.isHighSurrogate = false) (authentic : Authentic root disk) :
    (plan.searchOn host request root disk).Plain where
  own := own
  paths := by
    intro record isRecord
    obtain ⟨file, mem, rfl⟩ := List.mem_map.mp isRecord
    exact Plan.plain_path planned orderly mem
  hashes := by
    intro record isRecord
    obtain ⟨file, mem, rfl⟩ := List.mem_map.mp isRecord
    exact HashCache.joinSurrogates_hashOf authentic.hashes.justified trivial
  version := version

/-- With authentic caches, a run tells what a search found that is as scans give it. -/
theorem Authentic.exists_found {after : World} {outcome : Outcome}
    (authentic : Authentic root world.disk)
    (proper : Moment.Proper root ⟨host, .run request, world⟩)
    (gives : (run host request).run.run world = (.ok outcome, after)) :
    ∃ plan found, Plan.of host request world.disk = .ok plan ∧
      (plan.searchOn host request root world.disk).Finds world.progress.asked found ∧
      (plan.searchOn host request root world.disk).Yields found ∧
      Tells request root plan found outcome := by
  obtain ⟨plan, found, planned, finds, tells⟩ :=
    (finds_run host request world proper.isRoot).of_eq_ok gives
  have searchable := plain_searchOn planned proper.orderly (proper.own plan planned) proper.version
    authentic
  have yields := finds.yields searchable
    (authentic.diskWithHashes proper.plain planned proper.orderly (!request.dry))
  exact ⟨plan, found, planned, finds, yields, tells⟩

/-- The search for a plan keeps the caches authentic. -/
theorem native_searchPlan {start : World} (proper : Moment.Proper root ⟨host, .run request, start⟩)
    (planned : Plan.of host request start.disk = .ok plan) (authentic : Authentic root start.disk)
    (isDisk : world.disk = diskWithHashes start.disk root plan.files (!request.dry)) :
    Ensures (plan.searching host request root start.disk) world
      (fun _ after => Authentic root after.disk ∧
        Confined root (cachePlaces root) start.disk after.disk)
      fun after => Authentic root after.disk := by
  have plain := proper.plain
  have authentic' := authentic.diskWithHashes plain planned proper.orderly (!request.dry)
  have confined := confined_diskWithHashes plain start.disk plan.files (!request.dry)
  have searchable : (plan.searchOn host request root start.disk).Plain :=
    plain_searchOn planned proper.orderly (proper.own plan planned) proper.version authentic
  unfold Plan.searchOn at searchable
  rw [← isDisk] at authentic' confined searchable
  apply (native_searchProject (!request.dry) plain searchable authentic').mono
  · rintro _ after ⟨authentic'', confined'⟩
    exact ⟨authentic'', confined.trans confined'⟩
  · exact fun _ holds => holds

/-- What a run that was not dry does to the disk: first the caches are kept, then what is missing of what
is generated is written, and last what is no longer generated is removed. -/
structure Settles (root : Path) (outcome : Outcome) (disk kept wrote disk' : Disk) : Prop where
  confined : Confined root (cachePlaces root) disk kept
  names : ∀ artifact ∈ outcome.generation.artifacts,
    Emission.isArtifactName artifact.name = true
  written : Output.Wrote outcome.outputDirectory outcome.generation.artifacts
    outcome.generation.artifacts kept wrote
  supplied : (outcome.generation.artifacts.map
      (Output.targetPlace outcome.outputDirectory)).Nodup →
    Output.Direct kept outcome.outputDirectory → Output.Supplied outcome.outputDirectory
      outcome.generation.artifacts outcome.written kept wrote
  removed : Output.Removed outcome.outputDirectory.place
    (Output.stale wrote outcome.outputDirectory outcome.generation.artifacts) wrote disk'
  stale : outcome.removed =
    (Output.stale wrote outcome.outputDirectory outcome.generation.artifacts).map
      outcome.outputDirectory.child

/-- What is generated leaves the caches alone. -/
theorem Settles.authentic {outcome : Outcome} {kept wrote : Disk}
    (settles : Settles root outcome disk kept wrote disk') (plain : Path.parentName ∉ root.names)
    (unique : disk.Unique) (authentic : Authentic root kept) : Authentic root disk' := by
  have unique' := settles.written.unique (settles.confined.unique unique)
  have afterWriting : Authentic root wrote :=
    authentic.of_touches_artifacts plain settles.written.touches
      (Output.isArtifactPlace_of_mem settles.names _)
  exact afterWriting.of_touches_artifacts plain (settles.removed.touches unique')
    (Output.isArtifactPlace_of_mem_stale unique' _)

/-- However a run ends, its caches are authentic. -/
theorem authentic_run (host : Host) (request : Request)
    (proper : Moment.Proper root ⟨host, .run request, world⟩) (authentic : Authentic root world.disk) :
    Ensures (run host request) world
      (fun outcome after => Authentic root after.disk ∧
        (request.dry = false → ∃ kept wrote, Settles root outcome world.disk kept wrote after.disk))
      fun after => Authentic root after.disk := by
  have plain := proper.plain
  refine ensures_running host request proper.isRoot ?_ fun plan middle planned isMiddle _ => ?_
  · exact fun _ after same => same ▸ authentic
  apply (native_searchPlan proper planned authentic isMiddle).mono _ fun _ holds => holds
  rintro found after ⟨authentic', confined⟩ searched same
  rw [← same] at authentic' confined
  refine ⟨fun isDry => ⟨authentic', fun notDry => ?_⟩, fun _ => ?_⟩
  · cases isDry.symm.trans notDry
  have names : ∀ artifact ∈ (plan.generates found).artifacts,
      Emission.isArtifactName artifact.name = true :=
    fun artifact mem => Output.isArtifactName_of_mem_finish mem
  refine ensures_produce (confined.unique proper.orderly.unique) names ?_ ?_
  · intro after touches _
    exact authentic'.of_touches_artifacts plain touches (Output.isArtifactPlace_of_mem names _)
  · intro written wrote after holds _ supplied gone
    apply Ensures.pure
    have settles : Settles root (plan.outcome request root found written
        ((Output.stale wrote (plan.target request root) (plan.generates found).artifacts).map
          (plan.target request root).child)) world.disk searched.disk wrote after.disk :=
      ⟨confined, names, holds, supplied, gone, rfl⟩
    exact ⟨settles.authentic plain proper.orderly.unique authentic', fun _ => ⟨_, _, settles⟩⟩

theorem Authentic.of_call {moment : Moment} (authentic : Authentic root moment.world.disk)
    (proper : moment.Proper root) : Authentic root moment.after := by
  obtain ⟨host, call, world⟩ := moment
  cases call with
  | run request =>
      exact ((authentic_run host request proper authentic).mono (fun _ _ holds => holds.1)
        fun _ holds => holds).after
  | collect request =>
      rw [Moment.after_of_not_persists rfl]
      exact authentic

/-- Whatever happens, the caches stay authentic. -/
theorem authentic_of_history {start : Disk} {moments : List Moment}
    (plain : Path.parentName ∉ root.names)
    (absent : start.view (root.names ++ [Walk.stateDirectory]) = none)
    (history : History (Edited root) (Moment.Proper root) start moments disk) :
    Authentic root disk := by
  induction history with
  | start => exact Authentic.of_absent plain absent
  | edit before edited ih => exact ih.of_edited plain edited
  | call before proper ih => exact ih.of_call proper

end ClassHarvest.Project
