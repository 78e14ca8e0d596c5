import ClassHarvest.Proofs.Project.Failures
import ClassHarvest.Proofs.Project.Together

/-!
# Runs that are called off

A signal to cancel is asked before each match of the class pattern, and has no other influence: either
the run is called off, or it does what it does without the signal.  A run that is called off has not yet
written anything but the cache of hashes.
-/

namespace ClassHarvest

open Pattern Scan

/-! ## Signals -/

/-- Whatever a signal answers, it does so as the signal that never cancels, or it cancels. -/
theorem Pattern.Signal.follows_never {stops : ExtractError → Prop} (expected : stops .cancelled)
    (signal : Signal) : signal.Follows stops Signal.never := by
  intro asked
  cases answer : signal asked with
  | true => exact Or.inr ⟨rfl, expected⟩
  | false => exact Or.inl rfl

theorem Log.grows_eq : Log.Grows Eq := by
  rintro log _ records rfl
  rfl

namespace Project

variable {host : Host} {request : Request} {world after : World} {root : Path} {failure : Failure}

/-- A search under a signal goes together with the search without one, unless it is called off. -/
theorem Search.matches_never (search : Search) :
    search.Matches Eq (· = .extraction .cancelled) search.disk Signal.never where
  grows := Log.grows_eq
  follows := @Signal.follows_never (fun error => Failure.extraction error = _) rfl search.signal
  reads := fun _ _ => Or.inl rfl

theorem Desk.alike_refl (desk : Desk) : desk.Alike Eq desk :=
  ⟨rfl, rfl, rfl, rfl, rfl⟩

theorem Desk.Alike.eq {desk desk' : Desk} (same : desk.Alike Eq desk') : desk = desk' := by
  obtain ⟨cache, units, files, ⟨asked, log⟩⟩ := desk
  obtain ⟨cache', units', files', ⟨asked', log'⟩⟩ := desk'
  obtain ⟨rfl, rfl, rfl, rfl, rfl⟩ := same
  rfl

/-! ## Calling off -/

/-- The search of a project does what it does without a signal, unless it is called off. -/
theorem lockstep_searchProject (host : Host) (manifest : Manifest) (settings : RunSettings)
    (scanners : List Scanner) (signal : Signal) (persist : Bool) :
    Lockstep Eq (· = .extraction .cancelled)
      (searchProject host manifest settings scanners signal persist)
      (searchProject host manifest settings scanners Signal.never persist) := by
  unfold searchProject
  apply Lockstep.get_bind
  rintro world _ rfl
  apply Lockstep.bind (Lockstep.refl _ _)
  rintro ⟨cache, log⟩
  apply Lockstep.bind (Lockstep.refl _ _)
  intro _
  apply Lockstep.get_bind
  rintro reported _ rfl
  dsimp only
  generalize isSearch : (Search.mk world.disk manifest settings scanners signal host) = search
  generalize (Desk.mk cache [] [] _ : Desk) = desk
  have together := Search.lockstep_search search.matches_never desk desk desk.alike_refl
  have unsignalled : Search.mk world.disk manifest settings scanners Signal.never host =
      search.onDisk search.disk Signal.never := by
    rw [← isSearch]
    rfl
  rw [unsignalled]
  rcases ran : search.search.run.run desk with ⟨result, desk₁⟩
  rcases ran' : (search.onDisk search.disk Signal.never).search.run.run desk with ⟨result', desk₂⟩
  rw [ran, ran'] at together
  dsimp only
  rcases together with ⟨error, isError, rfl⟩ | ⟨isResult, same⟩
  · change result = _ at isError
    subst isError
    intro state state' _
    exact Or.inl ⟨_, rfl, rfl⟩
  · change result = result' at isResult
    obtain rfl := same.eq
    rw [isResult]
    exact Lockstep.refl _ _

/-- A run does what it does without a signal, unless it is called off. -/
theorem lockstep_run (host : Host) (request : Request) (signal : Signal) :
    Lockstep Eq (· = .extraction .cancelled) (run host { request with signal })
      (run host { request with signal := Signal.never }) := by
  unfold run
  apply Lockstep.bind (Lockstep.refl _ _)
  intro _
  apply Lockstep.bind (Lockstep.refl _ (prepare host request))
  intro prepared
  apply Lockstep.bind (Lockstep.refl _ _)
  intro _
  apply Lockstep.bind (lockstep_searchProject host _ _ _ signal _)
  intro found
  exact Lockstep.refl _ _

/-! ## What is written before -/

/-- A search of a project that fails, but not because of a file, has written nothing. -/
theorem fails_searchProject (host : Host) (manifest : Manifest) (settings : RunSettings)
    (scanners : List Scanner) (signal : Signal) (persist : Bool) (world : World) :
    Fails (searchProject host manifest settings scanners signal persist) world fun failure after =>
      failure.isOfFile = true ∨ after.disk = world.disk := by
  unfold searchProject
  apply Fails.get_bind
  apply Fails.bind (ensures_orFail.mapFailed fun _ same => same.1)
  · exact Fails.of_ensures ensures_orFail fun _ after same => Or.inr (by rw [same.1])
  rintro ⟨cache, log⟩ _ ⟨_, rfl⟩
  apply Fails.modify_bind
  apply Fails.get_bind
  dsimp only
  split
  next result desk _ =>
    apply Fails.modify_bind
    apply Fails.bind (ensures_orFail.mapFailed fun _ same => same.1)
    · exact Fails.of_ensures ensures_orFail fun _ after same => Or.inr (by rw [same.1])
    rintro found _ ⟨_, rfl⟩
    cases persist with
    | false => exact Fails.pure
    | true =>
        rw [if_pos rfl]
        apply Fails.bind (Ensures.always _ _)
        · exact (fails_onDisk fun _ => rfl).mono fun _ _ ofFile => Or.inl ofFile
        intro _ _ _
        exact Fails.pure

/-- A run that fails, but not because of a file, has written nothing but the cache of hashes. -/
theorem fails_run_before_output (host : Host) (request : Request)
    (isRoot : Path.resolve host.working request.path = root) :
    Fails (run host request) world fun failure after =>
      failure.isOfFile = true ∨
        world.disk.Touches [(Manifest.cachePath root).place] after.disk := by
  unfold run
  apply Fails.modify_bind
  apply Fails.bind (touches_prepare isRoot)
  · apply Fails.of_ensures (touches_prepare isRoot)
    intro _ after same
    right
    rw [same]
    exact Disk.Touches.refl _ _
  rintro prepared middle ⟨_, _, touches⟩
  apply Fails.modify_bind
  apply Fails.bind (Ensures.always _ _)
  · apply (fails_searchProject host _ _ _ _ _ _).mono
    rintro failure after (ofFile | same)
    · exact Or.inl ofFile
    · right
      rw [same]
      exact touches
  intro found searched _
  apply Fails.modify_bind
  apply Fails.modify_bind
  apply Fails.modify_bind
  cases request.dry with
  | true => exact Fails.pure
  | false =>
      dsimp only
      rw [if_neg (by decide)]
      apply Fails.bind (Ensures.always _ _)
      · exact (fails_writeAll _ _ _).mono fun _ _ holds => Or.inl holds.1
      intro written wrote _
      apply Fails.bind (Ensures.always _ _)
      · exact (fails_removeStale _ _ _).mono fun _ _ absurd => absurd.elim
      intro _ _ _
      exact Fails.pure

/-- A run that is called off leaves its cache of scans as it was, and all files that are not in the
directory of the caches. -/
theorem view_of_cancelled_run
    (cancelled : ((run host request).run.run world).1 = .error (.extraction .cancelled))
    {place : List Text} (isPlace : place = (scanCachePath root).place ∨
      ∀ rest, place ≠ root.names ++ Walk.stateDirectory :: rest)
    (isRoot : Path.resolve host.working request.path = root) (content : FileContent) :
    ((run host request).run.run world).2.disk.view place = some (.file content) ↔
      world.disk.view place = some (.file content) := by
  have plain : Path.parentName ∉ root.names := isRoot ▸ Path.plain_resolve _ _
  rcases ran : (run host request).run.run world with ⟨result, after⟩
  rw [ran] at cancelled
  change result = _ at cancelled
  subst cancelled
  rcases (fails_run_before_output host request isRoot).of_eq_error ran with ofFile | touches
  · cases ofFile
  · apply touches.view_eq_file_iff
    rw [List.mem_singleton]
    rcases isPlace with rfl | outside
    · exact place_scans_ne_hashes plain
    · rw [place_hashes plain]
      exact outside _

end Project
end ClassHarvest
