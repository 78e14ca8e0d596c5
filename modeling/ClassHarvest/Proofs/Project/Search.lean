import ClassHarvest.Proofs.Project.Evidence
import ClassHarvest.Proofs.Steps

/-!
# What a search finds

A search that starts with explained records finds in every file what is there, whether it recalls it
or not, and leaves explained records behind, one for each file and each scanner that reads it.
-/

namespace ClassHarvest.Project

open CSharp Gathering Json Scan

namespace Search

/-- The bytes of a file. -/
def bytesOf (search : Search) (file : FileRecord) : List UInt8 :=
  ((search.disk.read (search.manifest.root.join (Path.ofText file.path))).toOption).getD []

/-- The files, settings and scanners of a search are what the evidence knows, its manifest says the
truth about the files, and no file and no scanner occurs twice. -/
structure Backed (search : Search) (evidence : Evidence) : Prop where
  own : ∀ scanner ∈ search.scanners, scanner ∈ Scanner.builtIn
  scannersNodup : search.scanners.Nodup
  used : evidence.settings search.settings
  reads : ∀ file ∈ search.manifest.files,
    search.disk.read (search.manifest.root.join (Path.ofText file.path)) =
      .ok (search.bytesOf file)
  hashes : ∀ file ∈ search.manifest.files, file.hash = Sha256.hexDigest (search.bytesOf file)
  seen : ∀ file ∈ search.manifest.files, evidence.bytes file.path (search.bytesOf file)
  pathsNodup : (search.manifest.files.map (·.path)).Nodup
  paths : ∀ file ∈ search.manifest.files, ∀ c ∈ file.path, c.isHighSurrogate = false
  version : ∀ c ∈ search.host.version, c.isHighSurrogate = false

/-- The digest of the settings; nothing if they have none. -/
def fingerprint (search : Search) : Text :=
  (search.settings.fingerprint.toOption).getD []

/-- The record of findings that a scanner makes in a file. -/
def findingRecord (search : Search) (scanner : Scanner) (file : FileRecord)
    (findings : List Finding) : Record :=
  ⟨search.findingSignature scanner search.fingerprint, file.hash, .findings findings⟩

/-- The record of the markers in a file. -/
def markerRecord (search : Search) (file : FileRecord) (markers : List Marker) : Record :=
  ⟨search.markerSignature, file.hash, .markers markers⟩

theorem fingerprint_eq (search : Search) {fingerprint : Text}
    (digest : search.settings.fingerprint = .ok fingerprint) : search.fingerprint = fingerprint := by
  unfold Search.fingerprint
  rw [digest]
  rfl

variable {search : Search} {evidence : Evidence}

theorem sources_subset (search : Search) : search.sources ⊆ search.manifest.files := by
  intro file mem
  exact (List.mem_filter.mp mem).1

theorem inputsOf_subset (search : Search) (scanner : Scanner) :
    search.inputsOf scanner ⊆ search.manifest.files := by
  intro file mem
  unfold inputsOf at mem
  split at mem
  · exact (List.mem_filter.mp mem).1
  · exact search.sources_subset mem

end Search

/-! ## The desk -/

/-- What a search works with is right: the cache holds some records, which are explained, and what was
read is what is in the files. -/
structure Desk.Sound (search : Search) (evidence : Evidence) (location : Path) (saved : Records)
    (records : Records) (desk : Desk) : Prop where
  describes : Ledger.Describes ⟨records, saved⟩ IsFindingKey location desk.cache search.disk
  explains : evidence.ExplainsAll records
  units : ∀ file ∈ search.manifest.files, ∀ unit, desk.units.get? file.path = some unit →
    freshUnit file.path (search.bytesOf file) = .ok unit
  files : ∀ file ∈ search.manifest.files, ∀ whole, desk.files.get? file.path = some whole →
    whole = (freshText (search.bytesOf file)).map fun text => ⟨file.path, text⟩

namespace Desk.Sound

variable {search : Search} {evidence : Evidence} {location : Path} {saved records : Records}
  {desk : Desk}

/-- The account of scans has no part in it. -/
theorem withProgress (sound : Sound search evidence location saved records desk)
    (progress : Progress) :
    Sound search evidence location saved records { desk with progress } :=
  ⟨sound.describes, sound.explains, sound.units, sound.files⟩

/-- A unit that was read is put on the desk. -/
theorem withUnit (sound : Sound search evidence location saved records desk)
    (backed : search.Backed evidence) {file : FileRecord} (mem : file ∈ search.manifest.files)
    {unit : Option SourceUnit} (fresh : freshUnit file.path (search.bytesOf file) = .ok unit) :
    Sound search evidence location saved records
      { desk with units := desk.units.put file.path unit } where
  describes := sound.describes
  explains := sound.explains
  units := by
    intro other isFile unit' found
    change Dictionary.get? other.path (desk.units.put file.path unit) = some unit' at found
    rw [Dictionary.get?_put] at found
    split at found
    · next same =>
        cases found
        rw [← List.inj_on_of_nodup_map backed.pathsNodup mem isFile same]
        exact fresh
    · exact sound.units other isFile unit' found
  files := sound.files

/-- A file that was read is put on the desk. -/
theorem withFile (sound : Sound search evidence location saved records desk)
    (backed : search.Backed evidence) {file : FileRecord} (mem : file ∈ search.manifest.files)
    {whole : Option TextFile}
    (fresh : whole = (freshText (search.bytesOf file)).map fun text => ⟨file.path, text⟩) :
    Sound search evidence location saved records
      { desk with files := desk.files.put file.path whole } where
  describes := sound.describes
  explains := sound.explains
  units := sound.units
  files := by
    intro other isFile whole' found
    change Dictionary.get? other.path (desk.files.put file.path whole) = some whole' at found
    rw [Dictionary.get?_put] at found
    split at found
    · next same =>
        cases found
        rw [← List.inj_on_of_nodup_map backed.pathsNodup mem isFile same]
        exact fresh
    · exact sound.files other isFile whole' found

/-- What is not looked for is dropped. -/
theorem prune (sound : Sound search evidence location saved records desk) (keys : List Text) :
    Sound search evidence location saved (records.only keys)
      { desk with cache := desk.cache.prune keys } :=
  ⟨sound.describes.prune keys, sound.explains.only keys, sound.units, sound.files⟩

end Desk.Sound

namespace Search

variable {search : Search} {evidence : Evidence} {location : Path} {saved records : Records}
  {desk : Desk}

/-! ## Reading -/

/-- A file is read as it is. -/
theorem ensures_textOf (backed : search.Backed evidence)
    (sound : desk.Sound search evidence location saved records) {file : FileRecord}
    (mem : file ∈ search.manifest.files) :
    Ensures (search.textOf file) desk
      (fun text after => text = freshText (search.bytesOf file) ∧
        after.Sound search evidence location saved records)
      fun _ => False := by
  have read := backed.reads file mem
  unfold textOf Disk.readText freshText
  rw [read]
  dsimp only
  cases Utf8.decode (search.bytesOf file) with
  | ok text =>
      dsimp only
      exact Ensures.pure ⟨rfl, sound⟩
  | error error =>
      dsimp only
      exact Ensures.modify_bind (Ensures.pure ⟨rfl, sound.withProgress _⟩)

theorem ensures_unitOf (backed : search.Backed evidence)
    (sound : desk.Sound search evidence location saved records) {file : FileRecord}
    (mem : file ∈ search.manifest.files) :
    Ensures (search.unitOf file) desk
      (fun unit after => freshUnit file.path (search.bytesOf file) = .ok unit ∧
        after.Sound search evidence location saved records)
      fun _ => ∀ unit, freshUnit file.path (search.bytesOf file) ≠ .ok unit := by
  unfold unitOf
  apply Ensures.get_bind
  cases known : desk.units.get? file.path with
  | some unit => exact Ensures.pure ⟨sound.units file mem unit known, sound⟩
  | none =>
      apply Ensures.bind ((ensures_textOf backed sound mem).mapFailed fun _ => False.elim)
      rintro text after ⟨rfl, sound'⟩
      have hash := backed.hashes file mem
      cases isText : freshText (search.bytesOf file) with
      | none =>
          have fresh : freshUnit file.path (search.bytesOf file) = .ok none := by
            unfold freshUnit
            rw [isText]
          dsimp only
          rw [pure_bind]
          apply Ensures.modify_bind
          exact Ensures.pure ⟨fresh, sound'.withUnit backed mem fresh⟩
      | some text =>
          dsimp only
          cases isUnit : SourceUnit.read file.path file.hash text with
          | ok unit =>
              have fresh : freshUnit file.path (search.bytesOf file) = .ok (some unit) := by
                unfold freshUnit
                rw [isText, ← hash]
                dsimp only
                rw [isUnit]
                rfl
              dsimp only
              rw [pure_bind]
              apply Ensures.modify_bind
              exact Ensures.pure ⟨fresh, sound'.withUnit backed mem fresh⟩
          | error error =>
              apply Ensures.throw
              intro unit fresh
              unfold freshUnit at fresh
              rw [isText, ← hash] at fresh
              dsimp only at fresh
              rw [isUnit] at fresh
              cases fresh

theorem ensures_fileOf (backed : search.Backed evidence)
    (sound : desk.Sound search evidence location saved records) {file : FileRecord}
    (mem : file ∈ search.manifest.files) :
    Ensures (search.fileOf file) desk
      (fun whole after =>
        whole = (freshText (search.bytesOf file)).map (fun text => ⟨file.path, text⟩) ∧
        after.Sound search evidence location saved records)
      fun _ => False := by
  unfold fileOf
  apply Ensures.get_bind
  cases known : desk.files.get? file.path with
  | some whole => exact Ensures.pure ⟨sound.files file mem whole known, sound⟩
  | none =>
      apply Ensures.bind (ensures_textOf backed sound mem)
      rintro text after ⟨rfl, sound'⟩
      exact Ensures.modify_bind (Ensures.pure ⟨rfl, sound'.withFile backed mem rfl⟩)

/-! ## Markers -/

/-- The markers in a file are kept. -/
theorem sound_keepMarkers (backed : search.Backed evidence)
    (sound : desk.Sound search evidence location saved records) {file : FileRecord}
    (mem : file ∈ search.manifest.files) {markers : List Marker}
    (fresh : freshMarkers file.path (search.bytesOf file) = .ok markers) :
    Desk.Sound search evidence location saved
      (records.put (markerKey file) (search.markerRecord file markers))
      { desk with
        cache := desk.cache.keepMarkers (markerKey file) search.markerSignature file.hash
          search.host.time markers } where
  describes := by
    apply sound.describes.store
      (ScanCache.holds_keepMarkers search.markerSignature file.hash search.host.time markers)
    · refine ⟨joinSurrogates_markerKeyOf (backed.paths file mem),
        joinSurrogates_markerSignatureOf backed.version, ?_⟩
      change joinSurrogates file.hash = file.hash
      rw [backed.hashes file mem]
      exact joinSurrogates_eq_self fun c mem => Sha256.isHighSurrogate_of_mem_hexDigest mem
    · exact not_isFindingKey_markerKeyOf file.path
  explains := by
    apply sound.explains.put
    have explained := Evidence.Explains.markers search.host.version (backed.seen file mem)
      (joinSurrogates_eq_self (backed.paths file mem)) fresh
    rw [← backed.hashes file mem] at explained
    exact explained
  units := sound.units
  files := sound.files

/-- The candidates for the marker in a file are found, recalled or not, and kept. -/
theorem ensures_markersIn (backed : search.Backed evidence) (distinct : evidence.Distinct)
    (sound : desk.Sound search evidence location saved records) {file : FileRecord}
    (mem : file ∈ search.sources) :
    Ensures (search.markersIn file) desk
      (fun markers after => freshMarkers file.path (search.bytesOf file) = .ok markers ∧
        after.Sound search evidence location saved
          (records.put (markerKey file) (search.markerRecord file markers)))
      fun _ => ∀ unit, freshUnit file.path (search.bytesOf file) ≠ .ok unit := by
  have isFile := search.sources_subset mem
  have recalled := sound.describes.markers_eq (not_isFindingKey_markerKeyOf file.path)
    search.markerSignature file.hash
  unfold markersIn
  apply Ensures.get_bind
  dsimp only
  change Option.map _ (desk.cache.markers (markerKey file) search.markerSignature file.hash) =
    records.markers (markerKey file) search.markerSignature file.hash at recalled
  cases known : desk.cache.markers (markerKey file) search.markerSignature file.hash with
  | some stored =>
      rw [known] at recalled
      have held := Records.markers_eq_some_iff.mp recalled.symm
      have explained := sound.explains _ _ held
      rw [backed.hashes file isFile] at explained
      apply Ensures.pure
      constructor
      · exact explained.freshMarkers_eq distinct (backed.seen file isFile)
      · have same := Records.put_eq_self held
        unfold markerRecord
        rw [same]
        exact sound
  | none =>
      apply Ensures.bind (ensures_unitOf backed sound isFile)
      rintro unit after ⟨isUnit, sound'⟩
      have fresh : freshMarkers file.path (search.bytesOf file) =
          .ok ((unit.map Marker.candidates).getD []) := by
        unfold freshMarkers
        rw [isUnit]
        rfl
      exact Ensures.modify_bind
        (Ensures.pure ⟨fresh, sound_keepMarkers backed sound' isFile fresh⟩)

/-! ## Findings -/

/-- A scan finds what is there, unless it is called off. -/
theorem ensures_scanning {α : Type} {scan : Scanning α} {outcome : Except Pattern.ExtractError α}
    (computes : Computes search.signal scan outcome)
    (sound : desk.Sound search evidence location saved records) :
    Ensures (scanning scan) desk
      (fun value after => outcome = .ok value ∧
        after.Sound search evidence location saved records)
      fun _ => (∀ asked, search.signal asked = false) → ∀ value, outcome ≠ .ok value := by
  unfold scanning
  apply Ensures.get_bind
  have result := computes desk.progress
  generalize (scan.run.run desk.progress : Except Pattern.ExtractError α × Progress) = ran
    at result ⊢
  obtain ⟨value, progress⟩ := ran
  cases value with
  | error error =>
      intro uncancelled value isOutcome
      rcases result with found | ⟨⟨asked, cancels⟩, _⟩
      · cases found.trans isOutcome
      · rw [uncancelled asked] at cancels
        cases cancels
  | ok value =>
      rcases result with found | ⟨_, cancelled⟩
      · exact ⟨found.symm, sound.withProgress progress⟩
      · cases cancelled

/-- What a scanner would find in a file cannot be found, even if it is not called off. -/
def Resists (search : Search) (scanner : Scanner) (file : FileRecord) : Prop :=
  (∀ asked, search.signal asked = false) → ∀ found,
    freshFindings scanner search.settings file.path (search.bytesOf file) ≠ .ok found

theorem ensures_scan (backed : search.Backed evidence)
    (sound : desk.Sound search evidence location saved records) (scanner : Scanner)
    {file : FileRecord} (mem : file ∈ search.manifest.files) :
    Ensures (search.scan scanner file) desk
      (fun found after =>
        freshFindings scanner search.settings file.path (search.bytesOf file) = .ok found ∧
        after.Sound search evidence location saved records)
      fun _ => search.Resists scanner file := by
  unfold Resists scan freshFindings
  cases scanner.input with
  | file =>
      dsimp only
      apply Ensures.bind ((ensures_fileOf backed sound mem).mapFailed fun _ => False.elim)
      rintro whole after ⟨rfl, sound'⟩
      cases freshText (search.bytesOf file) with
      | none => exact Ensures.pure ⟨rfl, sound'⟩
      | some text =>
          apply (ensures_scanning (Computes.scanFile _ _ _) sound').mono
          · rintro found after' ⟨found_eq, sound''⟩
            dsimp only
            rw [found_eq]
            exact ⟨rfl, sound''⟩
          · exact fun _ fails uncancelled found same =>
              fails uncancelled found (mapError_eq_ok_iff.mp same)
  | source =>
      dsimp only
      apply Ensures.bind
      · apply (ensures_unitOf backed sound mem).mapFailed
        intro _ noUnit _ found same
        cases isUnit : freshUnit file.path (search.bytesOf file) with
        | error error =>
            rw [isUnit] at same
            cases same
        | ok unit => exact noUnit unit isUnit
      rintro unit after ⟨isUnit, sound'⟩
      rw [isUnit]
      cases unit with
      | none => exact Ensures.pure ⟨rfl, sound'⟩
      | some unit =>
          apply (ensures_scanning (Computes.scanUnit _ _ _) sound').mono
          · rintro found after' ⟨found_eq, sound''⟩
            dsimp only
            rw [found_eq]
            exact ⟨rfl, sound''⟩
          · exact fun _ fails uncancelled found same =>
              fails uncancelled found (mapError_eq_ok_iff.mp same)

/-- An answer is recalled from some records, or is what is found where they have none. -/
inductive Answers (search : Search) (records : Records) (visit : Scanner × FileRecord)
    (answer : Answer) : Prop where
  | recalled (isRecalled : answer.recalled = true)
      (digest : search.settings.fingerprint = .ok search.fingerprint)
      (held : records (findingKey visit.1 visit.2) =
        some (search.findingRecord visit.1 visit.2 answer.findings))
  | computed (isComputed : answer.recalled = false)
      (missing : ∀ kept, records (findingKey visit.1 visit.2) ≠
        some (search.findingRecord visit.1 visit.2 kept))
      (fresh : freshFindings visit.1 search.settings visit.2.path (search.bytesOf visit.2) =
        .ok answer.findings)

/-- The findings in a file are kept. -/
theorem sound_keepFindings (backed : search.Backed evidence)
    (sound : desk.Sound search evidence location saved records) {scanner : Scanner}
    (own : scanner ∈ Scanner.builtIn) {fingerprint : Text}
    (digest : search.settings.fingerprint = .ok fingerprint) {file : FileRecord}
    (mem : file ∈ search.manifest.files) {findings : List Finding}
    (fresh : freshFindings scanner search.settings file.path (search.bytesOf file) = .ok findings) :
    Desk.Sound search evidence location saved
      (records.put (findingKey scanner file) (search.findingRecord scanner file findings))
      { desk with
        cache := desk.cache.keepFindings (findingKey scanner file)
          (search.findingSignature scanner fingerprint) file.hash search.host.time findings } := by
  have fingerprint_eq := search.fingerprint_eq digest
  refine ⟨?_, ?_, sound.units, sound.files⟩
  · apply sound.describes.store
    · have holds := ScanCache.holds_keepFindings (search.findingSignature scanner fingerprint)
        file.hash search.host.time findings
      rw [← fingerprint_eq] at holds ⊢
      exact holds
    · refine ⟨joinSurrogates_findingKeyOf own (backed.paths file mem), ?_, ?_⟩
      · apply joinSurrogates_findingSignatureOf own backed.version
        intro c mem
        rw [fingerprint_eq] at mem
        exact isHighSurrogate_of_mem_fingerprint digest mem
      · change joinSurrogates file.hash = file.hash
        rw [backed.hashes file mem]
        exact joinSurrogates_eq_self fun c mem => Sha256.isHighSurrogate_of_mem_hexDigest mem
    · exact isFindingKey_findingKeyOf own file.path
  · apply sound.explains.put
    have explained := Evidence.Explains.findings search.host.version own (backed.seen file mem)
      backed.used digest fresh (Or.inl rfl)
    rw [← backed.hashes file mem, ← fingerprint_eq] at explained
    exact explained

/-- The answer of a scanner for a file is as it should be, and kept. -/
theorem ensures_answer (backed : search.Backed evidence)
    (sound : desk.Sound search evidence location saved records) {scanner : Scanner}
    (own : scanner ∈ Scanner.builtIn) {fingerprint : Text}
    (digest : search.settings.fingerprint = .ok fingerprint) {file : FileRecord}
    (mem : file ∈ search.manifest.files) :
    Ensures (search.answer scanner fingerprint file) desk
      (fun answer after => search.Answers records (scanner, file) answer ∧
        after.Sound search evidence location saved
          (records.put (findingKey scanner file)
            (search.findingRecord scanner file answer.findings)))
      fun _ => search.Resists scanner file := by
  have fingerprint_eq := search.fingerprint_eq digest
  have recalled := sound.describes.findings_eq (isFindingKey_findingKeyOf own file.path)
    (search.findingSignature scanner fingerprint) file.hash
  change Option.map _ (desk.cache.findings (findingKey scanner file) _ _) =
    records.findings (findingKey scanner file) _ _ at recalled
  unfold answer
  apply Ensures.get_bind
  cases known : desk.cache.findings (findingKey scanner file)
      (search.findingSignature scanner fingerprint) file.hash with
  | some stored =>
      rw [known] at recalled
      have held := Records.findings_eq_some_iff.mp recalled.symm
      rw [← fingerprint_eq] at held
      apply Ensures.pure
      constructor
      · exact Answers.recalled rfl (fingerprint_eq.symm ▸ digest) held
      · have same := Records.put_eq_self held
        unfold findingRecord
        rw [same]
        exact sound
  | none =>
      rw [known] at recalled
      apply Ensures.bind (ensures_scan backed sound scanner mem)
      rintro findings after ⟨fresh, sound'⟩
      apply Ensures.modify_bind
      apply Ensures.pure
      constructor
      · apply Answers.computed rfl _ fresh
        intro kept held
        have found := Records.findings_eq_some_iff.mpr held
        rw [fingerprint_eq, ← recalled] at found
        cases found
      · exact sound_keepFindings backed sound' own digest mem fresh

/-! ## What is looked for -/

/-- The files that a scanner reads, each with the scanner. -/
def visitsOf (search : Search) (scanner : Scanner) : List (Scanner × FileRecord) :=
  (search.inputsOf scanner).map (scanner, ·)

/-- The scanners with the files that they read, in the order in which they are searched. -/
def visits (search : Search) : List (Scanner × FileRecord) :=
  search.scanners.flatMap search.visitsOf

/-- Nothing keeps a search from its end: it is not called off, the settings have a digest, the source
files can be parsed, and the scanners find something or nothing in all files. -/
structure Searchable (search : Search) : Prop where
  uncancelled : ∀ asked, search.signal asked = false
  digest : ∃ fingerprint, search.settings.fingerprint = .ok fingerprint
  units : ∀ file ∈ search.sources, ∃ unit, freshUnit file.path (search.bytesOf file) = .ok unit
  findings : ∀ visit ∈ search.visits, ∃ found,
    freshFindings visit.1 search.settings visit.2.path (search.bytesOf visit.2) = .ok found

/-- The key under which the findings of a visit are kept. -/
def visitKey (visit : Scanner × FileRecord) : Text :=
  findingKey visit.1 visit.2

/-- The record of markers with its key. -/
def markerEntry (search : Search) (file : FileRecord) (markers : List Marker) : Text × Record :=
  (markerKey file, search.markerRecord file markers)

/-- The record of an answer with its key. -/
def findingEntry (search : Search) (visit : Scanner × FileRecord) (answer : Answer) :
    Text × Record :=
  (visitKey visit, search.findingRecord visit.1 visit.2 answer.findings)

theorem keys_eq (search : Search) :
    search.keys = search.sources.map markerKey ++ search.visits.map visitKey := by
  have each (scanner : Scanner) : (search.inputsOf scanner).map (findingKey scanner) =
      (search.visitsOf scanner).map visitKey := by
    unfold visitsOf
    rw [List.map_map]
    rfl
  unfold keys visits
  rw [List.map_flatMap]
  simp only [each]

theorem mem_visits {visit : Scanner × FileRecord} :
    visit ∈ search.visits ↔ visit.1 ∈ search.scanners ∧ visit.2 ∈ search.inputsOf visit.1 := by
  obtain ⟨scanner, file⟩ := visit
  unfold visits visitsOf
  simp only [List.mem_flatMap, List.mem_map, Prod.mk.injEq]
  constructor
  · rintro ⟨scanner', isScanner, file', isInput, rfl, rfl⟩
    exact ⟨isScanner, isInput⟩
  · rintro ⟨isScanner, isInput⟩
    exact ⟨scanner, isScanner, file, isInput, rfl, rfl⟩

theorem Backed.files_nodup (backed : search.Backed evidence) : search.manifest.files.Nodup :=
  backed.pathsNodup.of_map _

theorem Backed.eq_of_path (backed : search.Backed evidence) {file file' : FileRecord}
    (mem : file ∈ search.manifest.files) (mem' : file' ∈ search.manifest.files)
    (same : file.path = file'.path) : file = file' :=
  List.inj_on_of_nodup_map backed.pathsNodup mem mem' same

theorem nodup_sources (backed : search.Backed evidence) : search.sources.Nodup :=
  backed.files_nodup.filter _

theorem nodup_inputsOf (backed : search.Backed evidence) (scanner : Scanner) :
    (search.inputsOf scanner).Nodup := by
  unfold inputsOf
  split
  · exact backed.files_nodup.filter _
  · exact nodup_sources backed

theorem nodup_visits (backed : search.Backed evidence) : search.visits.Nodup := by
  unfold visits
  rw [List.nodup_flatMap]
  constructor
  · intro scanner _
    apply (nodup_inputsOf backed scanner).map
    intro file file' same
    exact (Prod.mk.inj same).2
  · apply backed.scannersNodup.imp
    intro scanner scanner' different visit isVisit isVisit'
    obtain ⟨_, _, rfl⟩ := List.mem_map.mp isVisit
    obtain ⟨_, _, same⟩ := List.mem_map.mp isVisit'
    exact different (Prod.mk.inj same).1.symm

theorem visitKey_inj (backed : search.Backed evidence) {visit visit' : Scanner × FileRecord}
    (mem : visit ∈ search.visits) (mem' : visit' ∈ search.visits)
    (same : visitKey visit = visitKey visit') : visit = visit' := by
  obtain ⟨scanner, file⟩ := visit
  obtain ⟨scanner', file'⟩ := visit'
  obtain ⟨isScanner, isInput⟩ := mem_visits.mp mem
  obtain ⟨isScanner', isInput'⟩ := mem_visits.mp mem'
  obtain ⟨rfl, path⟩ :=
    findingKeyOf_inj (backed.own _ isScanner) (backed.own _ isScanner') same
  have sameFile := backed.eq_of_path (search.inputsOf_subset _ isInput)
    (search.inputsOf_subset _ isInput') path
  exact Prod.ext rfl sameFile

/-- Everything that a search looks for has a key of its own. -/
theorem nodup_keys (backed : search.Backed evidence) : search.keys.Nodup := by
  rw [keys_eq, List.nodup_append']
  refine ⟨?_, ?_, ?_⟩
  · apply (nodup_sources backed).map_on
    intro file mem file' mem' same
    exact backed.eq_of_path (search.sources_subset mem) (search.sources_subset mem')
      (markerKeyOf_inj same)
  · apply (nodup_visits backed).map_on
    intro visit mem visit' mem' same
    exact visitKey_inj backed mem mem' same
  · intro key isMarkerKey isVisitKey
    obtain ⟨file, _, rfl⟩ := List.mem_map.mp isMarkerKey
    obtain ⟨visit, isVisit, same⟩ := List.mem_map.mp isVisitKey
    exact markerKeyOf_ne_findingKeyOf (backed.own _ (mem_visits.mp isVisit).1) _ _ same.symm

/-! ## The whole search -/

/-- What is kept of a search. -/
def entries (search : Search) (markers : List (List Marker)) (answers : List Answer) :
    List (Text × Record) :=
  List.zipWith search.markerEntry search.sources markers ++
    List.zipWith search.findingEntry search.visits answers

/-- Some markers are those in some files. -/
abbrev MarkersOf (search : Search) (files : List FileRecord) (markers : List (List Marker)) : Prop :=
  List.Forall₂ (fun file found => freshMarkers file.path (search.bytesOf file) = .ok found)
    files markers

/-- Some answers are for some visits. -/
abbrev AnswersFor (search : Search) (records : Records) (visits : List (Scanner × FileRecord))
    (answers : List Answer) : Prop :=
  List.Forall₂ (search.Answers records) visits answers

theorem ensures_allMarkers (backed : search.Backed evidence) (distinct : evidence.Distinct)
    (sound : desk.Sound search evidence location saved records) :
    Ensures (search.sources.mapM search.markersIn) desk
      (fun markers after => search.MarkersOf search.sources markers ∧
        after.Sound search evidence location saved
          (records.putAll (List.zipWith search.markerEntry search.sources markers)))
      fun _ => ¬ search.Searchable := by
  apply Ensures.mapM fun files markers (after : Desk) => search.MarkersOf files markers ∧
    after.Sound search evidence location saved
      (records.putAll (List.zipWith search.markerEntry files markers))
  · exact ⟨List.Forall₂.nil, sound⟩
  · rintro before file after whole markers desk ⟨found, sound⟩
    have mem : file ∈ search.sources := by rw [whole]; simp
    apply (ensures_markersIn backed distinct sound mem).mono
    · rintro markers' desk' ⟨fresh, sound'⟩
      refine ⟨List.rel_append found (List.Forall₂.cons fresh List.Forall₂.nil), ?_⟩
      rw [List.zipWith_append found.length_eq]
      exact (Records.putAll_concat _ _ _ _).symm ▸ sound'
    · intro _ noUnit searchable
      obtain ⟨unit, isUnit⟩ := searchable.units file mem
      exact noUnit unit isUnit

/-- What has been kept does not matter to an answer for something else. -/
theorem Answers.of_putAll {pairs : List (Text × Record)} {visit : Scanner × FileRecord}
    {answer : Answer} (answers : search.Answers (records.putAll pairs) visit answer)
    (new : visitKey visit ∉ pairs.map (·.1)) : search.Answers records visit answer := by
  have same : records.putAll pairs (findingKey visit.1 visit.2) =
      records (findingKey visit.1 visit.2) := Records.putAll_of_not_mem records new
  cases answers with
  | recalled isRecalled digest held => exact .recalled isRecalled digest (same ▸ held)
  | computed isComputed missing fresh =>
      exact .computed isComputed (fun kept => same ▸ missing kept) fresh

theorem map_fst_zipWith {α β : Type} {f : α → β → Text × Record} {key : α → Text}
    (first : ∀ x y, (f x y).1 = key x) {xs : List α} {ys : List β} (length : xs.length = ys.length) :
    (List.zipWith f xs ys).map (·.1) = xs.map key := by
  induction xs generalizing ys with
  | nil => rfl
  | cons x xs ih =>
      cases ys with
      | nil => cases length
      | cons y ys =>
          rw [List.zipWith_cons_cons, List.map_cons, List.map_cons, ih (Nat.succ.inj length), first]

theorem keys_of_markers {files : List FileRecord} {markers : List (List Marker)}
    (length : files.length = markers.length) :
    (List.zipWith search.markerEntry files markers).map (·.1) = files.map markerKey := by
  apply map_fst_zipWith _ length
  intro file found
  rfl

theorem keys_of_answers {visits : List (Scanner × FileRecord)} {answers : List Answer}
    (length : visits.length = answers.length) :
    (List.zipWith search.findingEntry visits answers).map (·.1) = visits.map visitKey := by
  apply map_fst_zipWith _ length
  intro visit answer
  rfl

/-- Some files have been searched: the answers are as they should be, and kept. -/
structure Visited (search : Search) (evidence : Evidence) (location : Path) (saved records : Records)
    (visits : List (Scanner × FileRecord)) (answers : List Answer) (desk : Desk) : Prop where
  answered : search.AnswersFor records visits answers
  sound : desk.Sound search evidence location saved
    (records.putAll (List.zipWith search.findingEntry visits answers))

variable {visits others : List (Scanner × FileRecord)} {answers : List Answer} {scanner : Scanner}

/-- One more file is searched. -/
theorem ensures_next (backed : search.Backed evidence) {file : FileRecord}
    (whole : search.visits = visits ++ (scanner, file) :: others) {fingerprint : Text}
    (digest : search.settings.fingerprint = .ok fingerprint)
    (visited : search.Visited evidence location saved records visits answers desk) :
    Ensures (search.answer scanner fingerprint file) desk
      (fun answer => search.Visited evidence location saved records (visits ++ [(scanner, file)])
        (answers ++ [answer]))
      fun _ => ¬ search.Searchable := by
  have mem : (scanner, file) ∈ search.visits := by rw [whole]; simp
  obtain ⟨isScanner, isInput⟩ := mem_visits.mp mem
  have keys := nodup_keys backed
  rw [keys_eq, whole] at keys
  have new : visitKey (scanner, file) ∉ visits.map visitKey := by
    have split := (List.nodup_append'.mp keys).2.1
    rw [List.map_append, List.map_cons] at split
    exact fun member => (List.nodup_append'.mp split).2.2 member List.mem_cons_self
  apply (ensures_answer backed visited.sound (backed.own scanner isScanner) digest
    (search.inputsOf_subset scanner isInput)).mono
  · rintro answer after ⟨answered, sound⟩
    constructor
    · apply List.rel_append visited.answered
      apply List.Forall₂.cons _ List.Forall₂.nil
      apply answered.of_putAll
      rw [keys_of_answers visited.answered.length_eq]
      exact new
    · rw [List.zipWith_append visited.answered.length_eq]
      exact (Records.putAll_concat _ _ _ _).symm ▸ sound
  · intro _ resists searchable
    obtain ⟨found, isFound⟩ := searchable.findings _ mem
    exact resists searchable.uncancelled found isFound

/-- The files that a scanner reads are searched. -/
theorem ensures_answersOf (backed : search.Backed evidence)
    (whole : search.visits = visits ++ (search.visitsOf scanner ++ others))
    (visited : search.Visited evidence location saved records visits answers desk) :
    Ensures (search.answersOf scanner) desk
      (fun found => search.Visited evidence location saved records
        (visits ++ search.visitsOf scanner) (answers ++ found))
      fun _ => ¬ search.Searchable := by
  unfold answersOf
  cases digest : search.settings.fingerprint with
  | error error =>
      intro searchable
      obtain ⟨fingerprint, digest'⟩ := searchable.digest
      cases digest.symm.trans digest'
  | ok fingerprint =>
      apply Ensures.mapM fun files found => search.Visited evidence location saved records
        (visits ++ files.map (scanner, ·)) (answers ++ found)
      · simpa using visited
      · intro before file after split found desk visited'
        have whole' : search.visits = (visits ++ before.map (scanner, ·)) ++
            (scanner, file) :: (after.map (scanner, ·) ++ others) := by
          rw [whole, visitsOf, split]
          simp
        apply (ensures_next backed whole' digest visited').mono
        · intro answer desk' visited''
          rw [List.map_append, List.map_singleton, ← List.append_assoc, ← List.append_assoc]
          exact visited''
        · exact fun _ holds => holds

/-- All scanners search the files that they read. -/
theorem ensures_allAnswers (backed : search.Backed evidence)
    (sound : desk.Sound search evidence location saved records) :
    Ensures (search.scanners.mapM search.answersOf) desk
      (fun found => search.Visited evidence location saved records search.visits found.flatten)
      fun _ => ¬ search.Searchable := by
  apply Ensures.mapM fun scanners (found : List (List Answer)) =>
    search.Visited evidence location saved records (scanners.flatMap search.visitsOf) found.flatten
  · exact ⟨List.Forall₂.nil, sound⟩
  · intro before scanner after split found desk visited
    have whole : search.visits = before.flatMap search.visitsOf ++
        (search.visitsOf scanner ++ after.flatMap search.visitsOf) := by
      rw [visits, split]
      simp
    apply (ensures_answersOf backed whole visited).mono
    · intro answers desk' visited'
      rw [List.flatMap_append, List.flatMap_singleton, List.flatten_append, List.flatten_singleton]
      exact visited'
    · exact fun _ holds => holds

/-- A search finds the markers and findings that are there and keeps just these. -/
theorem ensures_search (backed : search.Backed evidence) (distinct : evidence.Distinct)
    (sound : desk.Sound search evidence location saved records) :
    Ensures search.search desk
      (fun found after => ∃ markers, found.markers = markers.flatten ∧
        search.MarkersOf search.sources markers ∧
        search.AnswersFor records search.visits found.answers ∧
        after.Sound search evidence location saved
          (Records.empty.putAll (search.entries markers found.answers)))
      fun _ => ¬ search.Searchable := by
  unfold Search.search
  apply Ensures.bind (ensures_allMarkers backed distinct sound)
  rintro markers desk₁ ⟨markersOf, sound₁⟩
  apply Ensures.bind (ensures_allAnswers backed sound₁)
  intro answers desk₂ visited
  have keys : (search.entries markers answers.flatten).map (·.1) = search.keys := by
    unfold entries
    rw [List.map_append, keys_of_markers markersOf.length_eq,
      keys_of_answers visited.answered.length_eq, keys_eq]
  have answered : search.AnswersFor records search.visits answers.flatten := by
    apply List.forall₂_iff_zip.mpr
    refine ⟨visited.answered.length_eq, fun {visit answer} mem => ?_⟩
    have isVisit := mem_visits.mp (List.of_mem_zip mem).1
    apply ((List.forall₂_iff_zip.mp visited.answered).2 mem).of_putAll
    rw [keys_of_markers markersOf.length_eq]
    intro isMarkerKey
    obtain ⟨file, _, same⟩ := List.mem_map.mp isMarkerKey
    exact markerKeyOf_ne_findingKeyOf (backed.own _ isVisit.1) _ _ same
  apply Ensures.modify_bind
  apply Ensures.get_bind
  apply Ensures.modify_bind
  apply Ensures.modify_bind
  apply Ensures.pure
  refine ⟨markers, rfl, markersOf, answered, ?_⟩
  have kept := Records.only_putAll records keys
  rw [entries, Records.putAll_append] at kept
  unfold entries
  rw [← kept]
  exact (visited.sound.withProgress _).prune search.keys

end Search
end ClassHarvest.Project
