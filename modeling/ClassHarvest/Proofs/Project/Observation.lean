import ClassHarvest.Proofs.Project.Completion
import ClassHarvest.Proofs.Project.Failures
import ClassHarvest.Proofs.Project.Together

/-!
# Calls that only observe

What a run finds is what its search gives, and that does not depend on whether anything is kept.  So a
dry run, which changes nothing, finds what the run would find.
-/

namespace ClassHarvest

open Scan

/-- What is reported apart, the same cache is opened, and if it can be opened on one disk, then on the
other. -/
theorem ScanCache.exists_openAt_of_sameFile {disk disk' : Disk} {path : Path}
    (same : Disk.SameFile path disk disk') {cache : ScanCache} {log : Log}
    (opened : ScanCache.openAt (some path) disk = .ok (cache, log)) :
    ∃ log', ScanCache.openAt (some path) disk' = .ok (cache, log') := by
  rcases same.readText_cases with equal | ⟨⟨error, unread⟩, error', unread'⟩
  · refine ⟨log, ?_⟩
    unfold openAt load at opened ⊢
    dsimp only at opened ⊢
    rw [← equal]
    exact opened
  · have isEmpty := openAt_of_unread unread opened
    subst isEmpty
    unfold openAt load
    dsimp only
    rw [unread']
    dsimp only
    split <;> exact ⟨_, rfl⟩

/-- Where the same bytes are read, the same text is read. -/
theorem Disk.readText_of_read {disk disk' : Disk} {path : Path}
    (same : disk.read path = disk'.read path) : disk.readText path = disk'.readText path := by
  unfold readText
  rw [same]

namespace Project

variable {host : Host} {request : Request} {world : World} {root : Path} {disk : Disk} {plan : Plan}

/-! ## What a search gives -/

/-- What was reported does not count. -/
abbrev AnyLog : Log → Log → Prop :=
  fun _ _ => True

/-- With what the cache of its project keeps, and a signal that was asked some times before, a search
finds something. -/
def Search.Finds (search : Search) (asked : Nat) (found : Found) : Prop :=
  ∃ cache log before desk,
    ScanCache.openAt (some (scanCachePath search.manifest.root)) search.disk = .ok (cache, log) ∧
      search.search.run.run { cache, progress := ⟨asked, before⟩ } = (.ok found, desk)

namespace Search.Finds

variable {search : Search} {asked : Nat} {found found' : Found} {signal : Pattern.Signal}

theorem matches_self (search : Search) :
    search.Matches AnyLog (fun _ => False) search.disk search.signal where
  grows := fun _ _ _ _ => trivial
  follows := fun _ => Or.inl rfl
  reads := fun _ _ => Or.inl rfl

theorem alike_anyLog (cache : ScanCache) (asked : Nat) (log log' : Log) :
    Desk.Alike AnyLog { cache, progress := ⟨asked, log⟩ } { cache, progress := ⟨asked, log'⟩ } :=
  ⟨rfl, rfl, rfl, rfl, trivial⟩

/-- What was reported before does not matter. -/
theorem run_eq (finds : search.Finds asked found) {cache : ScanCache} {log : Log}
    (opened : ScanCache.openAt (some (scanCachePath search.manifest.root)) search.disk =
      .ok (cache, log)) (before : Log) :
    ∃ desk, search.search.run.run { cache, progress := ⟨asked, before⟩ } = (.ok found, desk) := by
  obtain ⟨cache', log', before', desk, opened', ran⟩ := finds
  cases opened.symm.trans opened'
  obtain ⟨desk', ran', _⟩ := (Search.lockstep_search (matches_self search)).of_eq_ok
    (alike_anyLog cache asked before' before) ran
  exact ⟨desk', ran'⟩

/-- A search finds one thing. -/
theorem eq (finds : search.Finds asked found) (finds' : search.Finds asked found') :
    found = found' := by
  obtain ⟨cache, log, before, desk, opened, ran⟩ := finds
  obtain ⟨desk', ran'⟩ := finds'.run_eq opened before
  rw [ran] at ran'
  cases ran'
  rfl

/-- A search finds the same on a disk with the same files, and under a signal with the same answers. -/
theorem onDisk {stops : Failure → Prop} (finds : search.Finds asked found)
    (fits : search.Matches AnyLog stops disk signal)
    (same : Disk.SameFile (scanCachePath search.manifest.root) search.disk disk) :
    (search.onDisk disk signal).Finds asked found := by
  obtain ⟨cache, log, before, desk, opened, ran⟩ := finds
  obtain ⟨log', opened'⟩ := ScanCache.exists_openAt_of_sameFile same opened
  obtain ⟨desk', ran', _⟩ := (Search.lockstep_search fits).of_eq_ok
    (alike_anyLog cache asked before before) ran
  exact ⟨cache, log', before, desk', opened', ran'⟩

end Search.Finds

/-- The search of a project gives what the search finds, and nothing else keeps it from its end if
nothing is to be kept. -/
theorem finds_searchProject (host : Host) (manifest : Manifest) (settings : RunSettings)
    (scanners : List Scanner) (signal : Pattern.Signal) (persist : Bool) (world : World) :
    let search : Search := ⟨world.disk, manifest, settings, scanners, signal, host⟩
    Ensures (searchProject host manifest settings scanners signal persist) world
      (fun found _ => search.Finds world.progress.asked found)
      fun _ => persist = false → ∀ found, ¬ search.Finds world.progress.asked found := by
  intro search
  refine ensures_searching ?_ fun cache log before opened => ?_
  · rintro refused _ found ⟨cache, log, _, _, opened, _⟩
    exact refused _ opened
  · apply (Ensures.runs _ _).mono
    · intro found desk ran after _
      have finds : search.Finds _ found := ⟨cache, log, before, desk, opened, ran⟩
      refine ⟨fun _ => finds, fun isKept => (Ensures.always _ _).mono (fun _ _ _ => finds) ?_⟩
      intro after _ notKept
      cases isKept.symm.trans notKept
    · rintro desk ⟨error, ran⟩ after _ _ found finds
      obtain ⟨desk', ran'⟩ := finds.run_eq opened before
      cases ran.symm.trans ran'

/-! ## What a run gives -/

/-- The search for a plan gives what it finds. -/
theorem finds_searchPlan (plan : Plan) (host : Host) (request : Request) {world : World} {asked : Nat}
    (isDisk : world.disk = diskWithHashes disk root plan.files (!request.dry))
    (isAsked : world.progress.asked = asked) :
    let search := plan.searchOn host request root disk
    Ensures (plan.searching host request root disk) world
      (fun found _ => search.Finds asked found)
      fun _ => request.dry = true → ∀ found, ¬ search.Finds asked found := by
  intro search
  let prepared := plan.preparation root (HashCache.load disk (Manifest.cachePath root))
  have same : (⟨world.disk, prepared.manifest, prepared.settings, prepared.scanners, request.signal,
      host⟩ : Search) = search := by
    rw [isDisk]
    rfl
  have searches := finds_searchProject host prepared.manifest prepared.settings prepared.scanners
    request.signal (!request.dry) world
  rw [same, isAsked] at searches
  apply searches.mono fun _ _ finds => finds
  intro _ never isDry
  exact never (by rw [isDry]; rfl)

/-- An outcome says what was found for a plan. -/
structure Tells (request : Request) (root : Path) (plan : Plan) (found : Found) (outcome : Outcome) :
    Prop where
  generation : outcome.generation =
    Generation.finish (Marker.select found.markers) found.findings plan.scanners
      (Generation.emitterFor plan.scanners plan.settings.mode)
  target : outcome.outputDirectory = plan.target request root
  reused : outcome.reused = found.reused
  computed : outcome.computed = found.computed

/-- A run gives what its search finds, and nothing else keeps a dry run from its end. -/
theorem finds_run (host : Host) (request : Request) (world : World)
    (isRoot : Path.resolve host.working request.path = root) :
    Ensures (run host request) world
      (fun outcome _ => ∃ plan found, Plan.of host request world.disk = .ok plan ∧
        (plan.searchOn host request root world.disk).Finds world.progress.asked found ∧
        Tells request root plan found outcome)
      fun _ => request.dry = true → ∀ plan found, Plan.of host request world.disk = .ok plan →
        ¬ (plan.searchOn host request root world.disk).Finds world.progress.asked found := by
  refine ensures_running host request isRoot ?_ fun plan middle planned isMiddle asked => ?_
  · exact fun refused _ _ _ plan _ planned => absurd planned (refused plan)
  apply (finds_searchPlan plan host request isMiddle asked).mono
  · intro found after finds searched _
    have tells (written removed : List Path) :
        Tells request root plan found (plan.outcome request root found written removed) :=
      ⟨rfl, rfl, rfl, rfl⟩
    refine ⟨fun _ => ⟨plan, found, planned, finds, tells [] []⟩, fun isReal => ?_⟩
    have notDry (isDry : request.dry = true) : False := by
      cases isReal.symm.trans isDry
    apply Ensures.bind ((Ensures.always _ _).mapFailed fun _ _ isDry => (notDry isDry).elim)
    intro written wrote _
    apply Ensures.bind ((Ensures.always _ _).mapFailed fun _ _ isDry => (notDry isDry).elim)
    intro removed after _
    apply Ensures.pure
    exact ⟨plan, found, planned, finds, tells written removed⟩
  · intro _ never isDry plan' found planned'
    cases planned.symm.trans planned'
    exact never isDry found

/-- The class names that are collected are those that a search finds. -/
theorem finds_collect (host : Host) (request : Request) (world : World)
    (isRoot : Path.resolve host.working request.path = root) :
    let observed := { request with dry := true }
    Ensures (collect host request) world
      (fun classes _ => ∃ plan found, Plan.of host observed world.disk = .ok plan ∧
        (plan.searchOn host observed root world.disk).Finds world.progress.asked found ∧
        classes = ClassSet.union (found.findings.map (·.classes)))
      fun _ => ∀ plan found, Plan.of host observed world.disk = .ok plan →
        ¬ (plan.searchOn host observed root world.disk).Finds world.progress.asked found := by
  intro observed
  unfold collect
  apply Ensures.bind
  · apply (ensures_prepare host observed isRoot (by rfl)).mapFailed
    rintro _ ⟨_, refused⟩ plan _ planned
    exact absurd planned (refused plan)
  rintro prepared middle ⟨plan, planned, rfl, isMiddle, asked⟩
  apply Ensures.bind
  · apply (finds_searchPlan plan host observed isMiddle asked).mapFailed
    intro _ never plan' found planned'
    cases planned.symm.trans planned'
    exact never rfl found
  intro found searched finds
  apply Ensures.pure
  exact ⟨plan, found, planned, finds, rfl⟩

/-! ## What does not matter to a search -/

theorem plain_scanCachePath (plain : Path.parentName ∉ root.names) :
    Path.parentName ∉ (scanCachePath root).names := by
  rw [scanCachePath, Path.child, List.mem_append, not_or]
  exact ⟨plain_state plain, by decide⟩

/-- The hashes of files are kept apart from the cache of scans. -/
theorem sameFile_diskWithHashes (plain : Path.parentName ∉ root.names) (files files' : List Walk.Found)
    (persist persist' : Bool) :
    Disk.SameFile (scanCachePath root) (diskWithHashes disk root files persist)
      (diskWithHashes disk root files' persist') := by
  have apart : (scanCachePath root).place ∉ [(Manifest.cachePath root).place] := by
    rw [List.mem_singleton]
    exact place_scans_ne_hashes plain
  have isPlace := Path.place_of_plain (plain_scanCachePath plain)
  apply Disk.sameFile_of_view (plain_scanCachePath plain)
  intro content
  rw [← isPlace,
    (confined_diskWithHashes plain disk files persist).touches.view_eq_file_iff apart,
    (confined_diskWithHashes plain disk files' persist').touches.view_eq_file_iff apart]

/-- Whether hashes are kept does not matter to what a search finds, nor does a signal that cancels less. -/
theorem Search.Finds.forRequest {asked : Nat} {found : Found} {request' : Request}
    (finds : (plan.searchOn host request root disk).Finds asked found)
    (planned : Plan.of host request disk = .ok plan) (orderly : disk.Orderly)
    (isRoot : Path.resolve host.working request.path = root)
    (follows : request.signal.Follows (fun _ => True) request'.signal) :
    (plan.searchOn host request' root disk).Finds asked found := by
  subst isRoot
  have plain := Path.plain_resolve host.working request.path
  have reads (persist : Bool) {file : Walk.Found} (mem : file ∈ plan.files) :=
    Plan.read_file planned orderly (confined_diskWithHashes plain disk plan.files persist).touches mem
  have fits : (plan.searchOn host request (Path.resolve host.working request.path) disk).Matches
      AnyLog (fun _ => True) (diskWithHashes disk (Path.resolve host.working request.path) plan.files
        (!request'.dry)) request'.signal := by
    refine ⟨fun _ _ _ _ => trivial, follows, ?_⟩
    intro record isRecord
    obtain ⟨file, mem, rfl⟩ := List.mem_map.mp isRecord
    left
    apply Disk.readText_of_read
    exact (reads (!request.dry) mem).trans (reads (!request'.dry) mem).symm
  exact finds.onDisk fits (sameFile_diskWithHashes plain _ _ _ _)

/-! ## Observing -/

end Project
end ClassHarvest
