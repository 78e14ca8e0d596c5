import ClassHarvest.Proofs.Project.Feedback
import ClassHarvest.Proofs.Separation

/-!
# Files that cannot be read

A file that is no text is passed over wherever a search comes across it: nothing is found in it, and that
is what is kept of it.  So a project with such a file is searched as the project without it, and only the
ignore file has to be text.
-/

namespace ClassHarvest.Project

open CSharp Pattern Scan

/-! ## Keys of a file -/

/-- Under some keys something is kept of a file. -/
def IsKeyOf (path key : Text) : Prop :=
  ∃ front : Text, (':' : CodePoint) ∉ front ∧ key = front ++ (':' : CodePoint) :: path

theorem isKeyOf_markerKey (file : FileRecord) : IsKeyOf file.path (Search.markerKey file) :=
  ⟨"markers", by decide, rfl⟩

theorem isKeyOf_findingKey {scanner : Scanner} (free : (':' : CodePoint) ∉ scanner.identity)
    (file : FileRecord) : IsKeyOf file.path (Search.findingKey scanner file) :=
  ⟨scanner.identity, free, List.append_assoc _ _ _⟩

/-- A key belongs to one file. -/
theorem IsKeyOf.path_eq {path path' key : Text} (isKey : IsKeyOf path key)
    (isKey' : IsKeyOf path' key) : path = path' := by
  obtain ⟨front, free, rfl⟩ := isKey
  obtain ⟨front', free', same⟩ := isKey'
  exact (cons_inj_of_not_mem free free' same).2

theorem IsKeyOf.not_isKeyOf {path path' key : Text} (isKey : IsKeyOf path key)
    (other : path ≠ path') : ¬ IsKeyOf path' key :=
  fun isKey' => other (isKey.path_eq isKey')

/-! ## Desks -/

/-- Two dictionaries have the same under all keys but some; under these, the first has nothing but blank
values. -/
structure Besides {α : Type} (own : Text → Prop) (blank : α → Prop) (d d' : Dictionary α) : Prop where
  others : ∀ key, ¬ own key → d.get? key = d'.get? key
  blanks : ∀ key value, own key → d.get? key = some value → blank value

namespace Besides

variable {α : Type} {own : Text → Prop} {blank : α → Prop} {d d' : Dictionary α} {key : Text}

theorem nil : Besides own blank [] [] where
  others := fun _ _ => rfl
  blanks := fun _ _ _ found => nomatch found

/-- The same is put in both. -/
theorem put (besides : Besides own blank d d') (other : ¬ own key) (value : α) :
    Besides own blank (d.put key value) (d'.put key value) where
  others := by
    intro key' isOther
    rw [Dictionary.get?_put, Dictionary.get?_put, besides.others key' isOther]
  blanks := by
    intro key' value' isOwn found
    have apart : key ≠ key' := fun same => other (same ▸ isOwn)
    rw [Dictionary.get?_put, if_neg apart] at found
    exact besides.blanks key' value' isOwn found

/-- A blank value is put in the first. -/
theorem putBlank (besides : Besides own blank d d') (isOwn : own key) {value : α}
    (isBlank : blank value) : Besides own blank (d.put key value) d' where
  others := by
    intro key' isOther
    have apart : key ≠ key' := fun same => isOther (same ▸ isOwn)
    rw [Dictionary.get?_put, if_neg apart, besides.others key' isOther]
  blanks := by
    intro key' value' isOwn' found
    rw [Dictionary.get?_put] at found
    split at found
    · cases found
      exact isBlank
    · exact besides.blanks key' value' isOwn' found

end Besides

/-- Both desks hold the same of all files but one, of which the first desk says at most that there is
nothing in it; what was reported does not count. -/
structure Desk.Beside (path : Text) (desk desk' : Desk) : Prop where
  asked : desk.progress.asked = desk'.progress.asked
  entries : Besides (IsKeyOf path) (fun entry => entry.results = .array []) desk.cache.entries
    desk'.cache.entries
  units : Besides (· = path) (· = none) desk.units desk'.units
  files : Besides (· = path) (· = none) desk.files desk'.files

namespace Desk.Beside

variable {α : Type} {path key : Text} {desk desk' : Desk}

/-- Of another file, the same is recalled. -/
theorem kept?_eq (beside : Beside path desk desk') (other : ¬ IsKeyOf path key)
    (ofJson? : Json.Value → Option α) (signature digest : Text) :
    desk'.cache.kept? ofJson? key signature digest = desk.cache.kept? ofJson? key signature digest := by
  unfold ScanCache.kept?
  rw [beside.entries.others key other]

/-- Of the file itself, nothing is recalled but that there is nothing in it. -/
theorem eq_nil_of_kept? (beside : Beside path desk desk') (isKey : IsKeyOf path key)
    {ofJson? : Json.Value → Option α} {signature digest : Text} {stored : List α}
    (kept : desk.cache.kept? ofJson? key signature digest = some stored) : stored = [] := by
  unfold ScanCache.kept? at kept
  obtain ⟨entry, found, kept⟩ := Option.bind_eq_some_iff.mp kept
  obtain ⟨_, _, kept⟩ := Option.bind_eq_some_iff.mp kept
  rw [beside.entries.blanks key entry isKey found] at kept
  exact (Option.some.inj kept).symm

end Desk.Beside

namespace Search

/-! ## Steps of a search -/

/-- The same search on another disk, without one file. -/
def without (search : Search) (path : Text) (disk : Disk) : Search :=
  { search.withFiles (search.manifest.files.filter fun file => file.path != path) with disk }

/-- A file of a search cannot be read, and all others are the same on another disk. -/
structure Misses (search : Search) (path : Text) (disk : Disk) : Prop where
  identities : ∀ scanner ∈ search.scanners, (':' : CodePoint) ∉ scanner.identity
  unread : ∃ error, search.disk.readText (search.manifest.root.join (Path.ofText path)) = .error error
  reads : ∀ file ∈ search.manifest.files, file.path ≠ path →
    let path := search.manifest.root.join (Path.ofText file.path)
    search.disk.readText path = disk.readText path

variable {search : Search} {path : Text} {disk : Disk} {file : FileRecord}

theorem parallel_report (records records' : Log) :
    Parallel (Desk.Beside path) Eq (Desk.Beside path) (report records) (report records') := by
  apply Parallel.modify
  exact fun desk desk' beside => ⟨beside.asked, beside.entries, beside.units, beside.files⟩

/-- Scans that go together, what they report apart, run in parallel. -/
theorem parallel_scanning {α : Type} {scan : Scanning α}
    (together : Lockstep (Progress.Alike AnyLog) (fun _ => False) scan scan) :
    Parallel (Desk.Beside path) Eq (Desk.Beside path) (scanning scan) (scanning scan) := by
  intro desk desk' beside
  have both := together _ _ ⟨beside.asked, trivial⟩
  rw [run_scanning, run_scanning]
  generalize (scan.run.run desk.progress : Except ExtractError α × Progress) = ran at both ⊢
  generalize (scan.run.run desk'.progress : Except ExtractError α × Progress) = ran' at both ⊢
  obtain ⟨result, progress⟩ := ran
  obtain ⟨result', progress'⟩ := ran'
  rcases both with ⟨_, _, unexpected⟩ | ⟨isResult, same⟩
  · exact unexpected.elim
  · change result = result' at isResult
    subst isResult
    cases result with
    | ok value =>
        exact Or.inl ⟨value, value, _, _, rfl, rfl, rfl,
          ⟨same.asked, beside.entries, beside.units, beside.files⟩⟩
    | error error => exact Or.inr ⟨.extraction error, _, _, rfl, rfl⟩

/-! ### Other files -/

section

variable (misses : search.Misses path disk) (mem : file ∈ search.manifest.files)
  (other : file.path ≠ path)

include misses mem other

theorem parallel_textOf : Parallel (Desk.Beside path) Eq (Desk.Beside path) (search.textOf file)
    ((search.without path disk).textOf file) := by
  have reads := misses.reads file mem other
  unfold textOf without withFiles
  dsimp only at reads ⊢
  rw [reads]
  split
  · exact Parallel.pure rfl
  · exact Parallel.bind (parallel_report _ _) fun _ _ _ => Parallel.pure rfl

theorem parallel_unitOf : Parallel (Desk.Beside path) Eq (Desk.Beside path) (search.unitOf file)
    ((search.without path disk).unitOf file) := by
  have keep (unit unit' : Option SourceUnit) (same : unit = unit') :
      Parallel (Desk.Beside path) Eq (Desk.Beside path) (do
        modify fun desk => { desk with units := desk.units.put file.path unit }
        return unit : Searching (Option SourceUnit)) (do
        modify fun desk => { desk with units := desk.units.put file.path unit' }
        return unit') := by
    subst same
    apply Parallel.bind (Parallel.modify _) fun _ _ _ => Parallel.pure rfl
    exact fun desk desk' beside =>
      ⟨beside.asked, beside.entries, beside.units.put other unit, beside.files⟩
  unfold unitOf
  apply Parallel.get_bind
  intro desk desk' beside
  rw [← beside.units.others file.path other]
  split
  · exact Parallel.pure rfl
  · apply Parallel.bind (parallel_textOf misses mem other)
    rintro text _ rfl
    cases text with
    | none => exact Parallel.bind (Parallel.pure rfl) keep
    | some text =>
        dsimp only
        split
        · exact Parallel.bind (Parallel.pure rfl) keep
        · exact Parallel.bind (Parallel.throw _) keep

theorem parallel_fileOf : Parallel (Desk.Beside path) Eq (Desk.Beside path) (search.fileOf file)
    ((search.without path disk).fileOf file) := by
  unfold fileOf
  apply Parallel.get_bind
  intro desk desk' beside
  rw [← beside.files.others file.path other]
  split
  · exact Parallel.pure rfl
  · apply Parallel.bind (parallel_textOf misses mem other)
    rintro text _ rfl
    apply Parallel.bind (Parallel.modify _) fun _ _ _ => Parallel.pure rfl
    exact fun desk desk' beside =>
      ⟨beside.asked, beside.entries, beside.units, beside.files.put other _⟩

theorem parallel_markersIn : Parallel (Desk.Beside path) Eq (Desk.Beside path)
    (search.markersIn file) ((search.without path disk).markersIn file) := by
  have notOwn : ¬ IsKeyOf path (markerKey file) := (isKeyOf_markerKey file).not_isKeyOf other
  have signature : (search.without path disk).markerSignature = search.markerSignature := rfl
  unfold markersIn
  apply Parallel.get_bind
  intro desk desk' beside
  have recalled : desk'.cache.markers (markerKey file) search.markerSignature file.hash =
      desk.cache.markers (markerKey file) search.markerSignature file.hash :=
    beside.kept?_eq notOwn _ _ _
  dsimp only
  rw [signature, recalled]
  split
  · exact Parallel.pure rfl
  · apply Parallel.bind (parallel_unitOf misses mem other)
    rintro unit _ rfl
    apply Parallel.bind (Parallel.modify _) fun _ _ _ => Parallel.pure rfl
    exact fun desk desk' beside =>
      ⟨beside.asked, beside.entries.put notOwn _, beside.units, beside.files⟩

theorem parallel_scan (scanner : Scanner) : Parallel (Desk.Beside path) Eq (Desk.Beside path)
    (search.scan scanner file) ((search.without path disk).scan scanner file) := by
  unfold scan
  split
  · apply Parallel.bind (parallel_fileOf misses mem other)
    rintro whole _ rfl
    cases whole with
    | none => exact Parallel.pure rfl
    | some whole =>
        exact parallel_scanning (lockstep_scanFile (fun _ => Or.inl rfl) scanner _ whole)
  · apply Parallel.bind (parallel_unitOf misses mem other)
    rintro unit _ rfl
    cases unit with
    | none => exact Parallel.pure rfl
    | some unit =>
        exact parallel_scanning
          (lockstep_scanUnit (fun _ _ _ _ => trivial) (fun _ => Or.inl rfl) scanner _ unit)

theorem parallel_answer {scanner : Scanner} (isScanner : scanner ∈ search.scanners)
    (fingerprint : Text) : Parallel (Desk.Beside path) Eq (Desk.Beside path)
      (search.answer scanner fingerprint file)
      ((search.without path disk).answer scanner fingerprint file) := by
  have notOwn : ¬ IsKeyOf path (findingKey scanner file) :=
    (isKeyOf_findingKey (misses.identities scanner isScanner) file).not_isKeyOf other
  have signature : (search.without path disk).findingSignature scanner fingerprint =
      search.findingSignature scanner fingerprint := rfl
  unfold answer
  apply Parallel.get_bind
  intro desk desk' beside
  have recalled : desk'.cache.findings (findingKey scanner file)
      (search.findingSignature scanner fingerprint) file.hash =
      desk.cache.findings (findingKey scanner file) (search.findingSignature scanner fingerprint)
        file.hash :=
    beside.kept?_eq notOwn _ _ _
  rw [signature, recalled]
  split
  · exact Parallel.pure rfl
  · apply Parallel.bind (parallel_scan misses mem other scanner)
    rintro findings _ rfl
    apply Parallel.bind (Parallel.modify _) fun _ _ _ => Parallel.pure rfl
    exact fun desk desk' beside =>
      ⟨beside.asked, beside.entries.put notOwn _, beside.units, beside.files⟩

end

/-! ### The file that cannot be read -/

section

variable {desk desk' : Desk} (misses : search.Misses path disk) (isPath : file.path = path)
  (beside : desk.Beside path desk')

include misses isPath beside

theorem ensures_noText : Ensures (search.textOf file) desk
    (fun text after => text = none ∧ after.Beside path desk') fun _ => False := by
  obtain ⟨error, unread⟩ := misses.unread
  unfold textOf
  rw [isPath, unread]
  exact Ensures.modify_bind
    (Ensures.pure ⟨rfl, beside.asked, beside.entries, beside.units, beside.files⟩)

theorem ensures_noUnit : Ensures (search.unitOf file) desk
    (fun unit after => unit = none ∧ after.Beside path desk') fun _ => False := by
  unfold unitOf
  apply Ensures.get_bind
  cases known : desk.units.get? file.path with
  | some unit => exact Ensures.pure ⟨beside.units.blanks file.path unit isPath known, beside⟩
  | none =>
      apply Ensures.bind (ensures_noText misses isPath beside)
      rintro _ after ⟨rfl, beside'⟩
      dsimp only
      rw [pure_bind]
      exact Ensures.modify_bind (Ensures.pure
        ⟨rfl, beside'.asked, beside'.entries, beside'.units.putBlank isPath rfl, beside'.files⟩)

theorem ensures_noFile : Ensures (search.fileOf file) desk
    (fun whole after => whole = none ∧ after.Beside path desk') fun _ => False := by
  unfold fileOf
  apply Ensures.get_bind
  cases known : desk.files.get? file.path with
  | some whole => exact Ensures.pure ⟨beside.files.blanks file.path whole isPath known, beside⟩
  | none =>
      apply Ensures.bind (ensures_noText misses isPath beside)
      rintro _ after ⟨rfl, beside'⟩
      exact Ensures.modify_bind (Ensures.pure
        ⟨rfl, beside'.asked, beside'.entries, beside'.units, beside'.files.putBlank isPath rfl⟩)

theorem ensures_noMarkers : Ensures (search.markersIn file) desk
    (fun markers after => markers = [] ∧ after.Beside path desk') fun _ => False := by
  have isOwn : IsKeyOf path (markerKey file) := isPath ▸ isKeyOf_markerKey file
  unfold markersIn
  apply Ensures.get_bind
  dsimp only
  split
  · next stored kept =>
      have nothing := beside.eq_nil_of_kept? isOwn kept
      exact Ensures.pure ⟨by rw [nothing]; rfl, beside⟩
  · apply Ensures.bind (ensures_noUnit misses isPath beside)
    rintro _ after ⟨rfl, beside'⟩
    exact Ensures.modify_bind (Ensures.pure
      ⟨rfl, beside'.asked, beside'.entries.putBlank isOwn rfl, beside'.units, beside'.files⟩)

theorem ensures_noScan (scanner : Scanner) : Ensures (search.scan scanner file) desk
    (fun findings after => findings = [] ∧ after.Beside path desk') fun _ => False := by
  unfold scan
  split
  · apply Ensures.bind (ensures_noFile misses isPath beside)
    rintro _ after ⟨rfl, beside'⟩
    exact Ensures.pure ⟨rfl, beside'⟩
  · apply Ensures.bind (ensures_noUnit misses isPath beside)
    rintro _ after ⟨rfl, beside'⟩
    exact Ensures.pure ⟨rfl, beside'⟩

theorem ensures_noFindings {scanner : Scanner} (isScanner : scanner ∈ search.scanners)
    (fingerprint : Text) : Ensures (search.answer scanner fingerprint file) desk
      (fun answer after => answer.findings = [] ∧ after.Beside path desk') fun _ => False := by
  have isOwn : IsKeyOf path (findingKey scanner file) :=
    isPath ▸ isKeyOf_findingKey (misses.identities scanner isScanner) file
  unfold answer
  apply Ensures.get_bind
  split
  · next stored kept =>
      have nothing := beside.eq_nil_of_kept? isOwn kept
      exact Ensures.pure ⟨by rw [nothing]; rfl, beside⟩
  · apply Ensures.bind (ensures_noScan misses isPath beside scanner)
    rintro _ after ⟨rfl, beside'⟩
    exact Ensures.modify_bind (Ensures.pure
      ⟨rfl, beside'.asked, beside'.entries.putBlank isOwn rfl, beside'.units, beside'.files⟩)

end

/-! ### Whole searches -/

theorem sources_without (search : Search) (path : Text) (disk : Disk) :
    (search.without path disk).sources = search.sources.filter fun file => file.path != path := by
  unfold sources Manifest.ofKind
  exact List.filter_comm _ _ _

theorem inputsOf_without (search : Search) (path : Text) (disk : Disk) (scanner : Scanner) :
    (search.without path disk).inputsOf scanner =
      (search.inputsOf scanner).filter fun file => file.path != path := by
  unfold inputsOf
  cases scanner.input with
  | source => exact search.sources_without path disk
  | file =>
      unfold wholes
      exact List.filter_comm _ _ _

theorem parallel_answersOf (misses : search.Misses path disk) {scanner : Scanner}
    (isScanner : scanner ∈ search.scanners) :
    Parallel (Desk.Beside path)
      (fun answers answers' => answers.flatMap Answer.findings = answers'.flatMap Answer.findings)
      (Desk.Beside path) (search.answersOf scanner) ((search.without path disk).answersOf scanner) := by
  have settings : (search.without path disk).settings = search.settings := rfl
  unfold answersOf
  rw [settings, inputsOf_without]
  split
  · exact Parallel.throw _
  · apply Parallel.mapM_filter
    · intro file mem isOther
      have other : file.path ≠ path := bne_iff_ne.mp isOther
      apply (parallel_answer misses (search.inputsOf_subset scanner mem) other isScanner _).mono
      rintro answer _ rfl
      rfl
    · intro file mem isPath desk desk' beside
      exact ensures_noFindings misses (by simpa using isPath) beside isScanner _

/-- A search finds what it finds without a file that cannot be read. -/
theorem parallel_search (misses : search.Misses path disk) :
    Parallel (Desk.Beside path)
      (fun found found' => found.markers = found'.markers ∧ found.findings = found'.findings)
      (fun _ _ => True) search.search (search.without path disk).search := by
  have scanners : (search.without path disk).scanners = search.scanners := rfl
  have prunes (keys keys' : List Text) : Parallel (Desk.Beside path) Eq (fun _ _ => True)
      (modify fun desk => { desk with cache := desk.cache.prune keys } : Searching Unit)
      (modify fun desk => { desk with cache := desk.cache.prune keys' }) :=
    Parallel.modify fun _ _ _ => trivial
  unfold Search.search
  rw [sources_without, scanners]
  have allMarkers : Parallel (Desk.Beside path)
      (fun markers markers' => markers.flatMap id = markers'.flatMap id) (Desk.Beside path)
      (search.sources.mapM search.markersIn)
      ((search.sources.filter fun file => file.path != path).mapM
        (search.without path disk).markersIn) := by
    apply Parallel.mapM_filter
    · intro file mem isOther
      have other : file.path ≠ path := bne_iff_ne.mp isOther
      exact parallel_markersIn misses (search.sources_subset mem) other
    · intro file mem isPath desk desk' beside
      exact ensures_noMarkers misses (by simpa using isPath) beside
  apply Parallel.bind allMarkers
  intro markers markers' sameMarkers
  apply Parallel.bind (Parallel.mapM fun scanner isScanner => parallel_answersOf misses isScanner)
  intro answers answers' sameAnswers
  have sameFindings : answers.flatten.flatMap Answer.findings =
      answers'.flatten.flatMap Answer.findings := by
    rw [List.flatten_eq_flatMap, List.flatten_eq_flatMap, List.flatMap_assoc, List.flatMap_assoc]
    exact sameAnswers
  rw [← List.flatten_eq_flatMap, ← List.flatten_eq_flatMap] at sameMarkers
  apply Parallel.bind (parallel_report _ _)
  intro _ _ _
  apply Parallel.get_bind
  intro desk desk' _
  apply Parallel.bind (parallel_report _ _)
  intro _ _ _
  exact Parallel.bind (prunes _ _) fun _ _ _ => Parallel.pure ⟨sameMarkers, sameFindings⟩

/-- With nothing in the cache, a search finds what it finds without a file that cannot be read. -/
theorem finds_without_iff (misses : search.Misses path disk)
    (noScans : ∀ content, search.disk.look (scanCachePath search.manifest.root) ≠ .ok (.file content))
    (same : Disk.SameFile (scanCachePath search.manifest.root) search.disk disk) {asked : Nat}
    {markers : List Marker} {findings : List Finding} :
    (∃ found, (search.without path disk).Finds asked found ∧ found.markers = markers ∧
        found.findings = findings) ↔
      ∃ found, search.Finds asked found ∧ found.markers = markers ∧ found.findings = findings := by
  obtain ⟨_, unread⟩ := Disk.readText_of_noFile noScans
  obtain ⟨_, unread'⟩ := Disk.readText_of_noFile fun content seen =>
    noScans content ((same content).mpr seen)
  have fresh (cache : ScanCache) (isEmpty : cache.entries = []) (progress : Progress) :
      Desk.Beside path { cache, progress } { cache, progress } := by
    refine ⟨rfl, ?_, Besides.nil, Besides.nil⟩
    dsimp only
    rw [isEmpty]
    exact Besides.nil
  constructor
  · rintro ⟨found', ⟨cache, log, before, desk, opened, ran⟩, isMarkers, isFindings⟩
    have isEmpty := ScanCache.openAt_of_unread unread' opened
    obtain ⟨log', opened'⟩ :=
      ScanCache.exists_openAt_of_sameFile (fun content => (same content).symm) opened
    rcases parallel_search misses _ _ (fresh cache (by rw [isEmpty]) ⟨asked, before⟩) with
      ⟨found, _, next, _, ran', ran'', agrees, _⟩ | ⟨_, _, _, _, ran''⟩
    · cases ran.symm.trans ran''
      exact ⟨found, ⟨cache, log', before, next, opened', ran'⟩, agrees.1.trans isMarkers,
        agrees.2.trans isFindings⟩
    · cases ran.symm.trans ran''
  · rintro ⟨found, ⟨cache, log, before, desk, opened, ran⟩, isMarkers, isFindings⟩
    have isEmpty := ScanCache.openAt_of_unread unread opened
    obtain ⟨log', opened'⟩ := ScanCache.exists_openAt_of_sameFile same opened
    rcases parallel_search misses _ _ (fresh cache (by rw [isEmpty]) ⟨asked, before⟩) with
      ⟨_, found', _, next', ran', ran'', agrees, _⟩ | ⟨_, _, _, ran', _⟩
    · cases ran.symm.trans ran'
      exact ⟨found', ⟨cache, log', before, next', opened', ran''⟩, agrees.1.symm.trans isMarkers,
        agrees.2.symm.trans isFindings⟩
    · cases ran.symm.trans ran'

end Search

/-! ## What dry runs give -/

/-- What a dry run generates. -/
def Generates (host : Host) (request : Request) (world : World) (generation : Generation) : Prop :=
  ∃ outcome after, (run host { request with dry := true }).run.run world = (.ok outcome, after) ∧
    outcome.generation = generation

/-- What is collected. -/
def Collects (host : Host) (request : Request) (world : World) (classes : List Text) : Prop :=
  ∃ after, (collect host request).run.run world = (.ok classes, after)

/-- What the search of a run finds on one disk, it finds on the other. -/
def FindsAlso (host : Host) (request : Request) (root : Path) (disk disk' : Disk) : Prop :=
  ∀ plan found asked, Plan.of host request disk = .ok plan →
    (plan.searchOn host request root disk).Finds asked found →
      ∃ plan' found', Plan.of host request disk' = .ok plan' ∧
        (plan'.searchOn host request root disk').Finds asked found' ∧
        plan'.settings = plan.settings ∧ plan'.scanners = plan.scanners ∧
        found'.markers = found.markers ∧ found'.findings = found.findings

namespace FindsAlso

variable {host : Host} {request : Request} {root : Path} {disk disk' : Disk} {progress : Progress}

theorem generates (also : FindsAlso host { request with dry := true } root disk disk')
    (isRoot : Path.resolve host.working request.path = root) {generation : Generation}
    (given : Generates host request ⟨disk, progress⟩ generation) :
    Generates host request ⟨disk', progress⟩ generation := by
  have isRoot' : Path.resolve host.working ({ request with dry := true } : Request).path = root := isRoot
  obtain ⟨outcome, after, gives, rfl⟩ := given
  obtain ⟨plan, found, planned, finds, tells⟩ := (finds_run host _ _ isRoot').of_eq_ok gives
  obtain ⟨plan', found', planned', finds', settings, scanners, markers, findings⟩ :=
    also plan found _ planned finds
  obtain ⟨outcome', after', gives', tells'⟩ :=
    exists_run_of_finds ⟨disk', progress⟩ isRoot' rfl planned' finds'
  refine ⟨outcome', after', gives', ?_⟩
  rw [tells'.generation, tells.generation, settings, scanners, markers, findings]

theorem collects (also : FindsAlso host { request with dry := true } root disk disk')
    (isRoot : Path.resolve host.working request.path = root) {classes : List Text}
    (given : Collects host request ⟨disk, progress⟩ classes) :
    Collects host request ⟨disk', progress⟩ classes := by
  obtain ⟨after, gives⟩ := given
  obtain ⟨plan, found, planned, finds, rfl⟩ := (finds_collect host request _ isRoot).of_eq_ok gives
  obtain ⟨plan', found', planned', finds', _, _, _, findings⟩ := also plan found _ planned finds
  obtain ⟨after', gives'⟩ := exists_collect_of_finds ⟨disk', progress⟩ isRoot planned' finds'
  rw [findings] at gives'
  exact ⟨after', gives'⟩

end FindsAlso

/-! ## Projects with a file that cannot be read -/

theorem Alike.symm {root : Path} {disk disk' : Disk} (alike : Alike root disk disk') :
    Alike root disk' disk where
  config := fun content => (alike.config content).symm
  ignored := fun content => (alike.ignored content).symm

/-- There is a plan for a project that is configured alike. -/
theorem Plan.exists_of_alike {host : Host} {request : Request} {root : Path} {disk disk' : Disk}
    {plan : Plan} (alike : Alike root disk disk')
    (isRoot : Path.resolve host.working request.path = root)
    (isDirectory' : disk'.view root.names = some .directory)
    (config : disk'.view (root.names ++ [configFile]) = disk.view (root.names ++ [configFile]))
    (planned : Plan.of host request disk = .ok plan) :
    ∃ plan', Plan.of host request disk' = .ok plan' := by
  have plain : Path.parentName ∉ root.names := isRoot ▸ Path.plain_resolve _ _
  have isDirectory := Plan.view_root planned
  obtain ⟨directory, project, loaded, resolved, selected, listed, _⟩ := Plan.of_eq_ok planned
  rw [isRoot] at loaded listed isDirectory
  obtain ⟨rules, _, _, isRules, _⟩ := projectFiles_eq_ok listed
  obtain ⟨entries, status⟩ := Disk.exists_status_of_view plain isDirectory'
  have listed' : projectFiles disk' root.text root project.excluded =
      .ok (Walk.files rules (.directory entries)) := by
    unfold projectFiles
    rw [status]
    dsimp only
    rw [← Manifest.rules_eq_of_sameFile alike.ignored, isRules]
  refine ⟨{ plan with
    configured := directory.join (Path.ofText project.outputName)
    files := Walk.files rules (.directory entries) }, ?_⟩
  unfold Plan.of
  rw [isRoot]
  simp only [load_eq_of_view plain isDirectory isDirectory' config loaded, resolved, selected, listed',
    Except.mapError, bind, Except.bind, pure, Except.pure]

/-- The same project with a file that cannot be read, which neither configures it nor says what is
ignored, and without that file; no scans are kept. -/
structure Unreadable (root : Path) (names : List Text) (disk disk' : Disk) : Prop where
  orderly : disk.Orderly
  orderly' : disk'.Orderly
  undecodable : ∃ content, disk.view (root.names ++ names) = some (.file content) ∧
    ∀ text, Utf8.decode content.bytes ≠ .ok text
  gone : disk'.view (root.names ++ names) = none
  others : ∀ place, place ≠ root.names ++ names → disk'.view place = disk.view place
  notRoot : names ≠ []
  notConfig : names ≠ [configFile]
  notIgnore : names ≠ [Manifest.ignoreFile]
  notState : ∀ rest, names ≠ Walk.stateDirectory :: rest
  noScans : ∀ content, disk.view (root.names ++ [Walk.stateDirectory, "cache.json"]) ≠
    some (.file content)

namespace Unreadable

variable {host : Host} {request : Request} {root : Path} {names : List Text} {disk disk' : Disk}
  {plan plan' : Plan} (unreadable : Unreadable root names disk disk')

include unreadable

theorem sameBelow : disk.SameBelow root (· ≠ names) disk' := by
  intro place content other
  rw [unreadable.others _ fun same => other (List.append_cancel_left same)]

theorem alike (plain : Path.parentName ∉ root.names) : Alike root disk disk' :=
  unreadable.sameBelow.alike plain unreadable.notConfig.symm unreadable.notIgnore.symm

/-- The project is a directory on both disks. -/
theorem view_root :
    disk.view root.names = some .directory ∧ disk'.view root.names = some .directory := by
  obtain ⟨content, seen, _⟩ := unreadable.undecodable
  have isDirectory := Disk.view_eq_directory_of_append unreadable.notRoot seen
  refine ⟨isDirectory, ?_⟩
  rw [unreadable.others, isDirectory]
  intro same
  rw [List.self_eq_append_right] at same
  exact unreadable.notRoot same

theorem isName : ∀ name ∈ names, Path.IsName name := by
  obtain ⟨content, seen, _⟩ := unreadable.undecodable
  intro name mem
  exact Tree.Orderly.isName_of_view unreadable.orderly seen name (List.mem_append_right _ mem)

/-- No text is read from the file. -/
theorem unread (plain : Path.parentName ∉ root.names) :
    ∃ error, disk.readText (root.join (Path.ofText (Path.joinNames names))) = .error error := by
  obtain ⟨content, seen, undecodable⟩ := unreadable.undecodable
  have joined : root.join (Path.ofText (Path.joinNames names)) = ⟨root.anchor, root.names ++ names⟩ := by
    rw [Path.ofText_joinNames unreadable.isName]
    rfl
  have plain' : Path.parentName ∉ root.names ++ names := by
    rw [List.mem_append, not_or]
    exact ⟨plain, fun mem => (unreadable.isName _ mem).notParent rfl⟩
  have look := @Disk.look_of_view disk ⟨root.anchor, root.names ++ names⟩ (.file content) plain' seen
  rw [joined, Disk.readText_of_file look]
  cases decoded : Utf8.decode content.bytes with
  | ok text => exact absurd decoded (undecodable text)
  | error error => exact ⟨.decoding error, rfl⟩

/-! ### Plans -/

/-- There is a plan for the project with the file just if there is one for the project without it. -/
theorem exists_plan_iff (isRoot : Path.resolve host.working request.path = root) :
    (∃ plan', Plan.of host request disk' = .ok plan') ↔ ∃ plan, Plan.of host request disk = .ok plan := by
  have plain : Path.parentName ∉ root.names := isRoot ▸ Path.plain_resolve _ _
  have alike := unreadable.alike plain
  have config : disk'.view (root.names ++ [configFile]) = disk.view (root.names ++ [configFile]) :=
    unreadable.others _ fun same => unreadable.notConfig (List.append_cancel_left same).symm
  constructor
  · rintro ⟨plan', planned'⟩
    exact Plan.exists_of_alike alike.symm isRoot unreadable.view_root.1 config.symm planned'
  · rintro ⟨plan, planned⟩
    exact Plan.exists_of_alike alike isRoot unreadable.view_root.2 config planned

section

variable (isRoot : Path.resolve host.working request.path = root)
  (planned : Plan.of host request disk = .ok plan) (planned' : Plan.of host request disk' = .ok plan')

include isRoot planned planned'

/-- The plan without the file is that with it, but for the file. -/
theorem plan_eq : plan' = plan.among (· != Path.joinNames names) := by
  have plain : Path.parentName ∉ root.names := isRoot ▸ Path.plain_resolve _ _
  have same : plan.among (· != Path.joinNames names) = plan'.among (· != Path.joinNames names) :=
    Plan.among_eq planned planned' unreadable.orderly unreadable.orderly' isRoot unreadable.sameBelow
      unreadable.notConfig.symm unreadable.notIgnore.symm
      fun place fits same => bne_iff_ne.mp fits (congrArg Path.joinNames same)
  have absent : ∀ file ∈ plan'.files, (file.path != Path.joinNames names) = true := by
    intro file mem
    obtain ⟨_, _, _, _, _, listed, _⟩ := Plan.of_eq_ok planned'
    rw [isRoot] at listed
    obtain ⟨place, isPath, all, seen, _⟩ := exists_view_of_listed listed plain unreadable.orderly' mem
    rw [bne_iff_ne, isPath]
    intro same
    rw [Path.joinNames_inj all unreadable.isName same, unreadable.gone] at seen
    cases seen
  rw [same]
  unfold Plan.among
  rw [List.filter_eq_self.mpr absent]

theorem searchOn_eq (isDry : request.dry = true) : plan'.searchOn host request root disk' =
    (plan.searchOn host request root disk).without (Path.joinNames names) disk' := by
  have plain : Path.parentName ∉ root.names := isRoot ▸ Path.plain_resolve _ _
  have hashes := unreadable.sameBelow.hashes_eq plain (unreadable.notState _).symm
  rw [unreadable.plan_eq isRoot planned planned', Plan.searchOn_of_dry _ isDry,
    Plan.searchOn_of_dry _ isDry, ← hashes]
  unfold Plan.search Search.without Search.withFiles Plan.among
  dsimp only
  rw [List.filter_map]
  rfl

theorem misses (isDry : request.dry = true)
    (identities : ∀ scanner ∈ plan.scanners, (':' : CodePoint) ∉ scanner.identity) :
    (plan.searchOn host request root disk).Misses (Path.joinNames names) disk' := by
  have plain : Path.parentName ∉ root.names := isRoot ▸ Path.plain_resolve _ _
  rw [Plan.searchOn_of_dry _ isDry]
  refine ⟨identities, unreadable.unread plain, ?_⟩
  intro record isRecord other
  obtain ⟨file, mem, rfl⟩ := List.mem_map.mp isRecord
  have mem' : file ∈ plan'.files := by
    rw [unreadable.plan_eq isRoot planned planned']
    exact List.mem_filter.mpr ⟨mem, bne_iff_ne.mpr other⟩
  subst isRoot
  have read := Plan.read_file planned unreadable.orderly (Disk.Touches.refl _ disk) mem
  have read' := Plan.read_file planned' unreadable.orderly' (Disk.Touches.refl _ disk') mem'
  exact Disk.readText_of_read (read.trans read'.symm)

/-- The same is found without the file. -/
theorem finds_iff (isDry : request.dry = true)
    (identities : ∀ scanner ∈ plan.scanners, (':' : CodePoint) ∉ scanner.identity) {asked : Nat}
    {markers : List Marker} {findings : List Finding} :
    (∃ found, (plan'.searchOn host request root disk').Finds asked found ∧ found.markers = markers ∧
        found.findings = findings) ↔
      ∃ found, (plan.searchOn host request root disk).Finds asked found ∧ found.markers = markers ∧
        found.findings = findings := by
  have plain : Path.parentName ∉ root.names := isRoot ▸ Path.plain_resolve _ _
  have noScans (content : FileContent) : disk.look (scanCachePath root) ≠ .ok (.file content) := by
    intro seen
    have view := Disk.view_of_look (plain_scanCachePath plain) seen
    rw [scanCachePath, Path.child, Path.child, List.append_assoc] at view
    exact unreadable.noScans content view
  have scans := unreadable.sameBelow.scans plain (unreadable.notState _).symm
  have misses := unreadable.misses isRoot planned planned' isDry identities
  rw [unreadable.searchOn_eq isRoot planned planned' isDry]
  rw [Plan.searchOn_of_dry _ isDry] at misses ⊢
  exact Search.finds_without_iff misses noScans scans

end

section

variable (isRoot : Path.resolve host.working request.path = root) (isDry : request.dry = true)
  (identities : ∀ plan, Plan.of host request disk = .ok plan →
    ∀ scanner ∈ plan.scanners, (':' : CodePoint) ∉ scanner.identity)

include isRoot isDry identities

theorem findsAlso_without : FindsAlso host request root disk disk' := by
  intro plan found asked planned finds
  obtain ⟨plan', planned'⟩ := (unreadable.exists_plan_iff isRoot).mpr ⟨plan, planned⟩
  obtain ⟨found', finds', markers, findings⟩ :=
    (unreadable.finds_iff isRoot planned planned' isDry (identities plan planned)).mpr
      ⟨found, finds, rfl, rfl⟩
  have isPlan := unreadable.plan_eq isRoot planned planned'
  exact ⟨plan', found', planned', finds', by rw [isPlan]; rfl, by rw [isPlan]; rfl, markers, findings⟩

theorem findsAlso_with : FindsAlso host request root disk' disk := by
  intro plan' found' asked planned' finds'
  obtain ⟨plan, planned⟩ := (unreadable.exists_plan_iff isRoot).mp ⟨plan', planned'⟩
  obtain ⟨found, finds, markers, findings⟩ :=
    (unreadable.finds_iff isRoot planned planned' isDry (identities plan planned)).mp
      ⟨found', finds', rfl, rfl⟩
  have isPlan := unreadable.plan_eq isRoot planned planned'
  exact ⟨plan, found, planned, finds, by rw [isPlan]; rfl, by rw [isPlan]; rfl, markers, findings⟩

end

end Unreadable

/-- A file of one byte that no text begins with. -/
def exampleBytes : FileContent :=
  ⟨[0xFF], 7⟩

theorem unreadable_example : Unreadable ⟨"/", ["p"]⟩ ["B.cs"] (exampleDiskWith "B.cs" exampleBytes)
    (exampleDisk (exampleContent "a" 1)) where
  orderly := orderly_exampleDiskWith (by decide) (by decide) exampleBytes
  orderly' := orderly_exampleDisk _
  undecodable := by
    have refused : (Utf8.decode exampleBytes.bytes).toOption = none := by decide +kernel
    refine ⟨exampleBytes, rfl, fun text decoded => ?_⟩
    rw [decoded] at refused
    cases refused
  gone := by decide +kernel
  others := fun place other => (view_exampleDiskWith other exampleBytes).symm
  notRoot := by decide
  notConfig := by decide
  notIgnore := by decide
  notState := fun rest same => by cases same
  noScans := by
    intro content
    rw [view_exampleDiskWith (by decide)]
    exact nofun

end ClassHarvest.Project
