import ClassHarvest.Proofs.Project.History

/-!
# What a run searches anew

A run recalls what scanners found in a file if the run before it had the scanner read the same bytes
at the same path, and searches all the rest.  What it keeps is what it looked for, and nothing else.
-/

namespace ClassHarvest.Project

open Json Scan

/-! ## What was read -/

/-- A scanner read a file with the same path and the same bytes. -/
def Plan.hasRead (plan : Plan) (pair : Scanner × Walk.Found) : Bool :=
  plan.pairs.any fun earlier => earlier.1 = pair.1 ∧ earlier.2.path = pair.2.path ∧
    earlier.2.content.bytes = pair.2.content.bytes

theorem Plan.hasRead_iff {plan : Plan} {pair : Scanner × Walk.Found} :
    plan.hasRead pair = true ↔ ∃ file, (pair.1, file) ∈ plan.pairs ∧ file.path = pair.2.path ∧
      file.content.bytes = pair.2.content.bytes := by
  unfold Plan.hasRead
  simp only [List.any_eq_true, decide_eq_true_eq]
  constructor
  · rintro ⟨⟨scanner, file⟩, mem, rfl, same⟩
    exact ⟨file, mem, same⟩
  · rintro ⟨file, mem, same⟩
    exact ⟨_, mem, rfl, same⟩

/-- The keys under which a run on a plan keeps what it finds: one for each source file, and one for
each scanner with each file that it reads. -/
def Plan.keys (plan : Plan) : List Text :=
  (plan.sources.map fun file => markerKeyOf file.path) ++
    plan.pairs.map fun pair => findingKeyOf pair.1 pair.2.path

theorem Plan.keys_search (plan : Plan) (host : Host) (signal : Pattern.Signal) (root : Path)
    (hashes : HashCache) (disk : Disk) :
    (plan.search host signal root hashes disk).keys = plan.keys := by
  rw [Search.keys_eq, Plan.sources_search, Plan.visits_search, List.map_map, List.map_map]
  rfl

/-! ## What a search keeps -/

namespace Search

variable {search : Search} {evidence : Evidence} {saved : Records} {markers : List (List Marker)}
  {answers : List Answer}

theorem keys_of_entries (gives : search.Gives saved markers answers) :
    (search.entries markers answers).map (·.1) = search.keys := by
  unfold entries
  rw [List.map_append, keys_of_markers gives.markers.length_eq,
    keys_of_answers gives.answers.length_eq, keys_eq]

/-- There is a record under each key that was looked under, and under no other. -/
theorem isSome_records_iff (backed : search.Backed evidence)
    (gives : search.Gives saved markers answers) (key : Text) :
    (search.records markers answers key).isSome = true ↔ key ∈ search.keys := by
  have keys := keys_of_entries gives
  unfold records Records.joined
  rw [Option.isSome_map]
  constructor
  · intro found
    by_contra absent
    rw [← keys] at absent
    rw [Records.putAll_of_not_mem _ absent] at found
    cases found
  · intro mem
    rw [← keys] at mem
    obtain ⟨⟨key, record⟩, isEntry, rfl⟩ := List.mem_map.mp mem
    rw [Records.putAll_of_mem _ (keys.symm ▸ nodup_keys backed) isEntry]
    rfl

/-- Every answer is recorded under the key of its visit. -/
theorem forall₂_records (backed : search.Backed evidence)
    (gives : search.Gives saved markers answers) :
    List.Forall₂ (fun visit answer => search.records markers answers (visitKey visit) =
      some (search.findingRecord visit.1 visit.2 answer.findings).joined) search.visits answers := by
  apply List.forall₂_iff_zip.mpr
  refine ⟨gives.answers.length_eq, fun {visit answer} mem => ?_⟩
  have isEntry : search.findingEntry visit answer ∈ search.entries markers answers := by
    unfold entries
    rw [List.mem_append, ← List.map_uncurry_zip_eq_zipWith (f := search.findingEntry)]
    exact Or.inr (List.mem_map_of_mem mem)
  have held := Records.putAll_of_mem Records.empty
    ((keys_of_entries gives).symm ▸ nodup_keys backed) isEntry
  unfold records Records.joined
  rw [held]
  rfl

end Search

/-! ## What the next run recalls -/

theorem SameSearch.fingerprint_eq {settings settings' : RunSettings}
    (same : SameSearch settings settings') : settings.fingerprint = settings'.fingerprint := by
  unfold RunSettings.fingerprint RunSettings.fingerprintParts
  rw [same.pattern, same.extensions, same.helpers]

/-- A run that has given something. -/
structure Execution where
  /-- What was around it. -/
  host : Host
  /-- What it was asked for. -/
  request : Request
  /-- The disk at its beginning. -/
  disk : Disk
  /-- The records that the cache held. -/
  saved : Records
  /-- What it worked on. -/
  plan : Plan
  /-- The markers that it found in the source files. -/
  markers : List (List Marker)
  /-- The answers of the scanners. -/
  answers : List Answer
  /-- What it gave. -/
  outcome : Outcome

namespace Execution

/-- The search of a run. -/
def search (run : Execution) (root : Path) : Search :=
  run.plan.searchOn run.host run.request root run.disk

/-- The records that a run is to leave. -/
def records (run : Execution) (root : Path) : Records :=
  (run.search root).records run.markers run.answers

/-- A file of a run as it is recorded. -/
def record (run : Execution) (root : Path) (file : Walk.Found) : FileRecord :=
  Manifest.record (HashCache.load run.disk (Manifest.cachePath root)) file

/-- What findings of a scanner in a file are recorded with. -/
def findingRecord (run : Execution) (pair : Scanner × Walk.Found) (findings : List Finding) : Record :=
  ⟨findingSignatureOf pair.1 run.host.version ((run.plan.settings.fingerprint.toOption).getD []),
    Sha256.hexDigest pair.2.content.bytes, .findings findings⟩

/-- The run is one that the evidence is about, and gave what it found. -/
structure Founded (run : Execution) (evidence : Evidence) (root : Path) : Prop where
  isRoot : Path.resolve run.host.working run.request.path = root
  orderly : run.disk.Orderly
  covers : evidence.Covers run.host run.plan
  distinct : evidence.Distinct
  kept : Kept evidence root run.saved run.disk
  ran : Ran run.host run.request root run.saved run.disk run.plan run.markers run.answers run.outcome

variable {run next : Execution} {evidence : Evidence} {root : Path} {disk : Disk}

namespace Founded

theorem plain (founded : run.Founded evidence root) : Path.parentName ∉ root.names :=
  founded.isRoot ▸ Path.plain_resolve _ _

theorem backed (founded : run.Founded evidence root) : (run.search root).Backed evidence :=
  backed_searchOn founded.isRoot founded.ran.planned founded.orderly founded.covers founded.distinct
    founded.kept

theorem mem_files {pair : Scanner × Walk.Found} (mem : pair ∈ run.plan.pairs) :
    pair.2 ∈ run.plan.files :=
  run.plan.inputsOf_subset pair.1 (Plan.mem_pairs.mp mem).2

theorem own (founded : run.Founded evidence root) {pair : Scanner × Walk.Found}
    (mem : pair ∈ run.plan.pairs) : pair.1 ∈ Scanner.builtIn :=
  founded.covers.own pair.1 (Plan.mem_pairs.mp mem).1

theorem findingRecord_eq (founded : run.Founded evidence root) {pair : Scanner × Walk.Found}
    (mem : pair ∈ run.plan.pairs) (findings : List Finding) :
    (run.search root).findingRecord pair.1 (run.record root pair.2) findings =
      run.findingRecord pair findings := by
  have hash := founded.backed.hashes _ (List.mem_map_of_mem (mem_files mem))
  unfold search at hash
  rw [bytesOf_searchOn founded.isRoot founded.ran.planned founded.orderly (mem_files mem)] at hash
  unfold Search.findingRecord record
  rw [hash]
  rfl

theorem visits_eq (run : Execution) (root : Path) : (run.search root).visits =
    run.plan.pairs.map fun pair => (pair.1, run.record root pair.2) :=
  run.plan.visits_search _ _ _ _ _

theorem keys_eq (run : Execution) (root : Path) : (run.search root).keys = run.plan.keys :=
  run.plan.keys_search _ _ _ _ _

/-- The answers of a run are for its files. -/
theorem answered (founded : run.Founded evidence root) :
    List.Forall₂ (fun pair answer => pair ∈ run.plan.pairs ∧
      (run.search root).Answers run.saved (pair.1, run.record root pair.2) answer)
      run.plan.pairs run.answers := by
  have answered := founded.ran.gives.answers
  unfold Search.AnswersFor at answered
  have visits := visits_eq run root
  unfold search at visits
  rw [visits, List.forall₂_map_left_iff] at answered
  exact (List.forall₂_and_left _ _).mpr ⟨fun pair mem => mem, answered⟩

/-! ### What is kept -/

/-- A run keeps its answers. -/
theorem recorded (founded : run.Founded evidence root) :
    List.Forall₂ (fun pair answer => run.records root (findingKeyOf pair.1 pair.2.path) =
      some (run.findingRecord pair (answer.findings.map Finding.joined)))
      run.plan.pairs run.answers := by
  have recorded := Search.forall₂_records founded.backed founded.ran.gives
  rw [visits_eq, List.forall₂_map_left_iff] at recorded
  apply ((List.forall₂_and_left _ _).mpr ⟨fun pair mem => mem, recorded⟩).imp
  rintro pair answer ⟨mem, held⟩
  rw [founded.findingRecord_eq mem] at held
  exact held

theorem exists_record (founded : run.Founded evidence root) {pair : Scanner × Walk.Found}
    (mem : pair ∈ run.plan.pairs) : ∃ findings,
      run.records root (findingKeyOf pair.1 pair.2.path) = some (run.findingRecord pair findings) := by
  have recorded := founded.recorded
  rw [← List.map_fst_zip recorded.length_eq.le] at mem
  obtain ⟨⟨pair, answer⟩, isPair, rfl⟩ := List.mem_map.mp mem
  exact ⟨_, (List.forall₂_iff_zip.mp recorded).2 isPair⟩

theorem isSome_records_iff (founded : run.Founded evidence root) (key : Text) :
    (run.records root key).isSome = true ↔ key ∈ run.plan.keys := by
  rw [← keys_eq run root]
  exact Search.isSome_records_iff founded.backed founded.ran.gives key

/-- What a run keeps under the key of a scanner and a path, the scanner has read at that path. -/
theorem exists_pair (founded : run.Founded evidence root) {scanner : Scanner}
    (own : scanner ∈ Scanner.builtIn) {path : Text} {record : Record}
    (held : run.records root (findingKeyOf scanner path) = some record) :
    ∃ file, (scanner, file) ∈ run.plan.pairs ∧ file.path = path := by
  have isKey := (founded.isSome_records_iff _).mp (Option.isSome_of_eq_some held)
  rcases List.mem_append.mp isKey with isMarker | isFinding
  · obtain ⟨file, _, same⟩ := List.mem_map.mp isMarker
    exact absurd same (markerKeyOf_ne_findingKeyOf own _ _)
  · obtain ⟨⟨scanner', file⟩, mem, same⟩ := List.mem_map.mp isFinding
    obtain ⟨rfl, path⟩ := findingKeyOf_inj (founded.own mem) own same
    exact ⟨file, mem, path⟩

/-- Everything that a run looks for has a key of its own. -/
theorem nodup_keys (founded : run.Founded evidence root) : run.plan.keys.Nodup := by
  rw [← keys_eq run root]
  exact Search.nodup_keys founded.backed

/-- The cache file that a run leaves has one entry for each thing that it looked for, and no others. -/
theorem exists_load (founded : run.Founded evidence root)
    (kept : Kept evidence root (run.records root) disk) :
    ∃ entries log, ScanCache.load disk (scanCachePath root) = .ok (entries, log) ∧
      (Dictionary.keys entries).Perm run.plan.keys := by
  obtain ⟨entries, log, loaded, held⟩ := kept.scans.load_eq_ok
  refine ⟨entries, log, loaded, ?_⟩
  rw [List.perm_ext_iff_of_nodup held.nodup founded.nodup_keys]
  intro key
  rw [← held.isSome_iff, founded.isSome_records_iff]

/-! ### What the next run recalls -/

theorem bytes (founded : run.Founded evidence root) {pair : Scanner × Walk.Found}
    (mem : pair ∈ run.plan.pairs) : evidence.bytes pair.2.path pair.2.content.bytes :=
  ⟨_, founded.covers.seen _ (mem_files mem), rfl⟩

/-- An answer of the next run is recalled just if the scanner read the same bytes at the same path. -/
theorem recalled_eq (first : run.Founded evidence root) (second : next.Founded evidence root)
    (follows : next.saved = run.records root) (version : run.host.version = next.host.version)
    (same : SameSearch run.plan.settings next.plan.settings) {pair : Scanner × Walk.Found}
    (mem : pair ∈ next.plan.pairs) {answer : Answer}
    (answered : (next.search root).Answers next.saved (pair.1, next.record root pair.2) answer) :
    answer.recalled = run.plan.hasRead pair := by
  have key : Search.findingKey pair.1 (next.record root pair.2) = findingKeyOf pair.1 pair.2.path :=
    rfl
  cases answered with
  | recalled isRecalled _ held =>
      dsimp only at held
      rw [key, second.findingRecord_eq mem, follows] at held
      obtain ⟨file, isPair, path⟩ := first.exists_pair (second.own mem) held
      obtain ⟨findings, held'⟩ := first.exists_record isPair
      dsimp only at held'
      rw [path, held] at held'
      have digests := (Record.mk.inj (Option.some.inj held')).2.1
      rw [isRecalled, eq_comm, Plan.hasRead_iff]
      exact ⟨file, isPair, path, (first.distinct.digests _ _ _ _ (second.bytes mem)
        (first.bytes isPair) digests).symm⟩
  | computed isComputed missing _ =>
      rw [isComputed, eq_comm, Bool.eq_false_iff, Ne, Plan.hasRead_iff]
      rintro ⟨file, isPair, path, sameBytes⟩
      obtain ⟨findings, held⟩ := first.exists_record isPair
      apply missing findings
      dsimp only at held ⊢
      rw [key, second.findingRecord_eq mem, ← path, follows, held]
      unfold findingRecord
      rw [version, same.fingerprint_eq, sameBytes]

/-- Answers are recalled for just those files that the run before has read. -/
theorem map_recalled_eq (first : run.Founded evidence root) (second : next.Founded evidence root)
    (follows : next.saved = run.records root) (version : run.host.version = next.host.version)
    (same : SameSearch run.plan.settings next.plan.settings) :
    next.answers.map Answer.recalled = next.plan.pairs.map run.plan.hasRead := by
  rw [← List.forall₂_eq_eq_eq, List.forall₂_map_left_iff, List.forall₂_map_right_iff]
  apply second.answered.flip.imp
  rintro answer pair ⟨mem, answered⟩
  exact first.recalled_eq second follows version same mem answered

/-- A run searches anew just what the run before has not read. -/
theorem counts_eq (first : run.Founded evidence root) (second : next.Founded evidence root)
    (follows : next.saved = run.records root) (version : run.host.version = next.host.version)
    (same : SameSearch run.plan.settings next.plan.settings) :
    next.outcome.computed = next.plan.pairs.countP (fun pair => !run.plan.hasRead pair) ∧
      next.outcome.reused = next.plan.pairs.countP run.plan.hasRead := by
  have recalled := first.map_recalled_eq second follows version same
  constructor
  · have counted := congrArg (List.countP fun isRecalled => !isRecalled) recalled
    rw [List.countP_map, List.countP_map] at counted
    exact second.ran.computed.trans counted
  · have counted := congrArg (List.countP id) recalled
    rw [List.countP_map, List.countP_map] at counted
    exact second.ran.reused.trans counted

end Founded
end Execution
end ClassHarvest.Project
