import ClassHarvest.Proofs.Project.Observation

/-!
# Where records come from

Whatever was in the files of a project when they were scanned, what is kept of them came from scans: the
texts of a marker are as texts are read from files, and the findings under the key of a scanner have its
category.  That holds even where a stamp or a digest does not tell two files apart.
-/

namespace ClassHarvest

open CSharp Json Scan

/-! ## Texts that were read -/

/-- The text has neither surrogates nor carriage returns, as what is read from files. -/
def Text.IsRead (t : Text) : Prop :=
  ∀ c ∈ t, c.isSurrogate = false ∧ c.val ≠ 13

/-- The texts of a marker are as they are read from files. -/
structure Marker.IsRead (marker : Marker) : Prop where
  name : marker.name.IsRead
  «namespace» : marker.namespace.IsRead
  modifiers : marker.modifiers.IsRead

theorem Marker.IsRead.joined {marker : Marker} (isRead : marker.IsRead) : marker.joined.IsRead := by
  have each {t : Text} (isRead : t.IsRead) : (joinSurrogates t).IsRead := by
    rw [Project.joinSurrogates_of_chars fun c mem => (isRead c mem).1]
    exact isRead
  exact ⟨each isRead.name, each isRead.namespace, each isRead.modifiers⟩

/-- The texts of the declarations in a unit are as they are read from files. -/
def CSharp.SourceUnit.IsRead (unit : SourceUnit) : Prop :=
  ∀ declaration ∈ unit.declarations,
    declaration.All fun c => c.isSurrogate = false ∧ c.val ≠ 13

theorem CSharp.SourceUnit.isRead_of_read {path hash source : Text} {unit : SourceUnit}
    (isRead : source.IsRead) (read : SourceUnit.read path hash source = .ok unit) : unit.IsRead :=
  fun declaration mem => (SourceUnit.declarations_all (by decide) isRead read declaration mem).1

theorem Marker.isRead_of_mem_candidates {unit : SourceUnit} (isRead : unit.IsRead) {marker : Marker}
    (mem : marker ∈ Marker.candidates unit) : marker.IsRead := by
  obtain ⟨declaration, isCandidate, rfl⟩ := List.mem_map.mp mem
  have all := isRead declaration (List.mem_filter.mp isCandidate).1
  exact ⟨all.name, all.namespace, all.modifierText⟩

namespace Project

/-! ## Records -/

/-- A record under a key is as scans make them. -/
def IsNative (key : Text) (record : Record) : Prop :=
  match record.payload with
  | .markers found => ∀ marker ∈ found, marker.IsRead
  | .findings found => ∀ scanner ∈ Scanner.builtIn, ∀ path, key = findingKeyOf scanner path →
      ∀ finding ∈ found, finding.category = scanner.category

/-- All records are as scans make them. -/
def AllNative (records : Records) : Prop :=
  ∀ key record, records key = some record → IsNative key record

section

variable {records : Records} {key : Text} {record : Record}

theorem IsNative.joined (native : IsNative key record) : IsNative key record.joined := by
  obtain ⟨signature, fingerprint, payload⟩ := record
  cases payload with
  | markers found =>
      intro marker mem
      obtain ⟨before, isFound, rfl⟩ := List.mem_map.mp mem
      exact (native before isFound).joined
  | findings found =>
      intro scanner own path isKey finding mem
      obtain ⟨before, isFound, rfl⟩ := List.mem_map.mp mem
      change joinSurrogates before.category = _
      rw [native scanner own path isKey before isFound]
      exact joinSurrogates_of_chars (isSurrogate_of_mem_category own)

theorem AllNative.joined (native : AllNative records) : AllNative records.joined := by
  intro key record found
  obtain ⟨before, held, rfl⟩ := Option.map_eq_some_iff.mp found
  exact (native key before held).joined

theorem AllNative.put (native : AllNative records) (isNative : IsNative key record) :
    AllNative (records.put key record) := by
  intro key' record' found
  change (if key' = key then some record else records key') = some record' at found
  split at found
  · next same =>
      cases found
      rw [same]
      exact isNative
  · exact native key' record' found

theorem AllNative.only (native : AllNative records) (keys : List Text) :
    AllNative (records.only keys) := by
  intro key record found
  change (if keys.contains key then records key else none) = some record at found
  split at found
  · exact native key record found
  · cases found

theorem allNative_empty : AllNative Records.empty := by
  intro key record found
  cases found

/-- Markers that are read are native under every key. -/
theorem isNative_markers {found : List Marker} (isRead : ∀ marker ∈ found, marker.IsRead)
    (key signature fingerprint : Text) : IsNative key ⟨signature, fingerprint, .markers found⟩ :=
  isRead

/-- Findings of one scanner are native under its keys. -/
theorem isNative_findings {scanner : Scanner} (own : scanner ∈ Scanner.builtIn)
    {found : List Finding} (category : ∀ finding ∈ found, finding.category = scanner.category)
    (path signature fingerprint : Text) :
    IsNative (findingKeyOf scanner path) ⟨signature, fingerprint, .findings found⟩ := by
  intro scanner' own' path' same finding mem
  obtain ⟨rfl, _⟩ := findingKeyOf_inj own own' same
  exact category finding mem

end

/-! ## Searches -/

/-- The scanners of a search come with the program, and what it keeps records under can be kept. -/
structure Search.Plain (search : Search) : Prop where
  own : ∀ scanner ∈ search.scanners, scanner ∈ Scanner.builtIn
  paths : ∀ file ∈ search.manifest.files, ∀ c ∈ file.path, c.isHighSurrogate = false
  hashes : ∀ file ∈ search.manifest.files, joinSurrogates file.hash = file.hash
  version : ∀ c ∈ search.host.version, c.isHighSurrogate = false

/-- The cache of a search holds native records, and the units that it has read are as units are read. -/
structure Desk.Native (search : Search) (location : Path) (saved : Records) (desk : Desk) : Prop where
  records : ∃ records, Ledger.Describes ⟨records, saved⟩ IsFindingKey location desk.cache search.disk ∧
    AllNative records
  units : ∀ path unit, desk.units.get? path = some (some unit) → unit.IsRead

namespace Search

variable {search : Search} {location : Path} {saved : Records} {desk : Desk}

/-- A scan keeps account of itself, and gives what it computes. -/
theorem gives_scanning {α : Type} {scan : Scanning α} {outcome : Except Pattern.ExtractError α}
    {signal : Pattern.Signal} (computes : Computes signal scan outcome) :
    Ensures (scanning scan) desk
      (fun value after => outcome = .ok value ∧ ∃ progress, after = { desk with progress })
      fun _ => True := by
  unfold scanning
  apply Ensures.get_bind
  have result := computes desk.progress
  generalize (scan.run.run desk.progress : Except Pattern.ExtractError α × Progress) = ran
    at result ⊢
  obtain ⟨value, progress⟩ := ran
  cases value with
  | error error => trivial
  | ok value =>
      rcases result with found | ⟨_, cancelled⟩
      · exact ⟨found.symm, progress, rfl⟩
      · cases cancelled

theorem native_textOf (native : desk.Native search location saved) (file : FileRecord) :
    Ensures (search.textOf file) desk
      (fun text after => (∀ t ∈ text, t.IsRead) ∧ after.Native search location saved)
      fun _ => True := by
  unfold textOf
  cases read : search.disk.readText (search.manifest.root.join (Path.ofText file.path)) with
  | ok text =>
      apply Ensures.pure
      refine ⟨?_, native⟩
      rintro _ ⟨⟩
      obtain ⟨bytes, fresh⟩ := exists_freshText_of_readText read
      exact freshText_chars fresh
  | error error =>
      apply Ensures.modify_bind
      apply Ensures.pure
      exact ⟨nofun, native.records, native.units⟩

theorem native_unitOf (native : desk.Native search location saved) (file : FileRecord) :
    Ensures (search.unitOf file) desk
      (fun unit after => (∀ u ∈ unit, u.IsRead) ∧ after.Native search location saved)
      fun _ => True := by
  have keep {desk : Desk} (native : desk.Native search location saved) (unit : Option SourceUnit)
      (isRead : ∀ u ∈ unit, u.IsRead) : Ensures (do
        modify fun desk => { desk with units := desk.units.put file.path unit }
        return unit : Searching (Option SourceUnit)) desk
      (fun unit after => (∀ u ∈ unit, u.IsRead) ∧ after.Native search location saved)
      fun _ => True := by
    apply Ensures.modify_bind
    apply Ensures.pure
    refine ⟨isRead, native.records, fun path unit' found => ?_⟩
    change Dictionary.get? path (desk.units.put file.path unit) = some (some unit') at found
    rw [Dictionary.get?_put] at found
    split at found
    · cases found
      exact isRead unit' rfl
    · exact native.units path unit' found
  unfold unitOf
  apply Ensures.get_bind
  cases known : desk.units.get? file.path with
  | some unit =>
      apply Ensures.pure
      refine ⟨?_, native⟩
      rintro u ⟨⟩
      exact native.units _ u known
  | none =>
      apply Ensures.bind (native_textOf native file)
      rintro text after ⟨isRead, native'⟩
      cases text with
      | none =>
          dsimp only
          rw [pure_bind]
          exact keep native' none nofun
      | some text =>
          dsimp only
          cases read : SourceUnit.read file.path file.hash text with
          | ok unit =>
              dsimp only
              rw [pure_bind]
              apply keep native'
              rintro u ⟨⟩
              exact SourceUnit.isRead_of_read (isRead text rfl) read
          | error error => exact Ensures.throw trivial

theorem native_fileOf (native : desk.Native search location saved) (file : FileRecord) :
    Ensures (search.fileOf file) desk (fun _ after => after.Native search location saved)
      fun _ => True := by
  unfold fileOf
  apply Ensures.get_bind
  split
  · exact Ensures.pure native
  · apply Ensures.bind (native_textOf native file)
    rintro text after ⟨_, native'⟩
    apply Ensures.modify_bind
    apply Ensures.pure
    exact ⟨native'.records, native'.units⟩

/-- The markers in a file are as they are read, recalled or not. -/
theorem native_markersIn (plain : search.Plain) (native : desk.Native search location saved)
    {file : FileRecord} (mem : file ∈ search.manifest.files) :
    Ensures (search.markersIn file) desk
      (fun markers after => (∀ marker ∈ markers, marker.IsRead) ∧ after.Native search location saved)
      fun _ => True := by
  obtain ⟨records, describes, allNative⟩ := native.records
  have recalled := describes.markers_eq (not_isFindingKey_markerKeyOf file.path)
    search.markerSignature file.hash
  unfold markersIn
  apply Ensures.get_bind
  dsimp only
  change Option.map _ (desk.cache.markers (markerKey file) search.markerSignature file.hash) =
    records.markers (markerKey file) search.markerSignature file.hash at recalled
  cases known : desk.cache.markers (markerKey file) search.markerSignature file.hash with
  | some stored =>
      rw [known] at recalled
      apply Ensures.pure
      exact ⟨allNative _ _ (Records.markers_eq_some_iff.mp recalled.symm), native⟩
  | none =>
      apply Ensures.bind (native_unitOf native file)
      rintro unit after ⟨isRead, ⟨records', describes', allNative'⟩, units⟩
      have markers : ∀ marker ∈ (unit.map Marker.candidates).getD [], marker.IsRead := by
        cases unit with
        | none => exact nofun
        | some unit => exact fun marker mem => Marker.isRead_of_mem_candidates (isRead unit rfl) mem
      apply Ensures.modify_bind
      apply Ensures.pure
      refine ⟨markers, ⟨_, ?_, allNative'.put (isNative_markers markers (markerKey file)
        search.markerSignature file.hash)⟩, units⟩
      apply describes'.store
        (ScanCache.holds_keepMarkers search.markerSignature file.hash search.host.time _)
      · exact ⟨joinSurrogates_markerKeyOf (plain.paths file mem),
          joinSurrogates_markerSignatureOf plain.version, plain.hashes file mem⟩
      · exact not_isFindingKey_markerKeyOf file.path

/-- What a scanner finds in a file has its category. -/
theorem native_scan (native : desk.Native search location saved) (scanner : Scanner)
    (file : FileRecord) :
    Ensures (search.scan scanner file) desk
      (fun found after => (∀ finding ∈ found, finding.category = scanner.category) ∧
        after.Native search location saved)
      fun _ => True := by
  have nothing {desk : Desk} (native : desk.Native search location saved) :
      (∀ finding ∈ ([] : List Finding), finding.category = scanner.category) ∧
        desk.Native search location saved :=
    ⟨nofun, native⟩
  unfold scan
  cases scanner.input with
  | file =>
      apply Ensures.bind (native_fileOf native file)
      intro whole after native'
      cases whole with
      | none => exact Ensures.pure (nothing native')
      | some whole =>
          apply (gives_scanning (Computes.scanFile scanner search.settings whole)).mono
          · rintro found _ ⟨isFound, progress, rfl⟩
            refine ⟨fun finding mem => ?_, native'.records, native'.units⟩
            obtain ⟨classes, _, rfl⟩ := Scanner.exists_of_mem_findingsInFile isFound mem
            rfl
          · exact fun _ holds => holds
  | source =>
      apply Ensures.bind (native_unitOf native file)
      rintro unit after ⟨_, native'⟩
      cases unit with
      | none => exact Ensures.pure (nothing native')
      | some unit =>
          apply (gives_scanning (Computes.scanUnit scanner search.settings unit)).mono
          · rintro found _ ⟨isFound, progress, rfl⟩
            refine ⟨fun finding mem => ?_, native'.records, native'.units⟩
            obtain ⟨call, _, classes, _, rfl⟩ := Scanner.exists_of_mem_findingsInUnit isFound mem
            rfl
          · exact fun _ holds => holds

/-- The findings in the answer of a scanner have its category, recalled or not. -/
theorem native_answer (plain : search.Plain) (native : desk.Native search location saved)
    {scanner : Scanner} (own : scanner ∈ Scanner.builtIn) {fingerprint : Text}
    (digest : search.settings.fingerprint = .ok fingerprint) {file : FileRecord}
    (mem : file ∈ search.manifest.files) :
    Ensures (search.answer scanner fingerprint file) desk
      (fun answer after => (∀ finding ∈ answer.findings, finding.category = scanner.category) ∧
        after.Native search location saved)
      fun _ => True := by
  obtain ⟨records, describes, allNative⟩ := native.records
  have recalled := describes.findings_eq (isFindingKey_findingKeyOf own file.path)
    (search.findingSignature scanner fingerprint) file.hash
  change Option.map _ (desk.cache.findings (findingKey scanner file) _ _) =
    records.findings (findingKey scanner file) _ _ at recalled
  unfold answer
  apply Ensures.get_bind
  cases known : desk.cache.findings (findingKey scanner file)
      (search.findingSignature scanner fingerprint) file.hash with
  | some stored =>
      rw [known] at recalled
      apply Ensures.pure
      have isNative := allNative _ _ (Records.findings_eq_some_iff.mp recalled.symm)
      exact ⟨isNative scanner own file.path rfl, native⟩
  | none =>
      apply Ensures.bind (native_scan native scanner file)
      rintro findings after ⟨category, ⟨records', describes', allNative'⟩, units⟩
      apply Ensures.modify_bind
      apply Ensures.pure
      refine ⟨category, ⟨_, ?_, allNative'.put (isNative_findings own category file.path
        (search.findingSignature scanner fingerprint) file.hash)⟩, units⟩
      apply describes'.store (ScanCache.holds_keepFindings
        (search.findingSignature scanner fingerprint) file.hash search.host.time findings)
      · exact ⟨joinSurrogates_findingKeyOf own (plain.paths file mem),
          joinSurrogates_findingSignatureOf own plain.version
            fun c mem => isHighSurrogate_of_mem_fingerprint digest mem, plain.hashes file mem⟩
      · exact isFindingKey_findingKeyOf own file.path

/-- The findings in some answers have the category of a scanner. -/
def AnsweredBy (scanner : Scanner) (answers : List Answer) : Prop :=
  ∀ answer ∈ answers, ∀ finding ∈ answer.findings, finding.category = scanner.category

theorem native_answersOf (plain : search.Plain) (native : desk.Native search location saved)
    {scanner : Scanner} (own : scanner ∈ Scanner.builtIn) :
    Ensures (search.answersOf scanner) desk
      (fun answers after => AnsweredBy scanner answers ∧ after.Native search location saved)
      fun _ => True := by
  unfold answersOf
  cases digest : search.settings.fingerprint with
  | error error => exact Ensures.throw trivial
  | ok fingerprint =>
      apply Ensures.mapM fun _ answers (after : Desk) =>
        AnsweredBy scanner answers ∧ after.Native search location saved
      · exact ⟨nofun, native⟩
      · rintro before file after whole answers middle ⟨answered, native⟩
        have mem : file ∈ search.inputsOf scanner := by rw [whole]; simp
        apply (native_answer plain native own digest (search.inputsOf_subset scanner mem)).mono
        · rintro answer last ⟨category, native⟩
          refine ⟨fun other isAnswer => ?_, native⟩
          rcases List.mem_append.mp isAnswer with earlier | isLast
          · exact answered other earlier
          · rw [List.mem_singleton.mp isLast]
            exact category
        · exact fun _ holds => holds

/-- What a search found is as scans give it: the markers are read, and the answers come scanner by
scanner, each with findings of the category of its scanner. -/
structure Yields (search : Search) (found : Found) : Prop where
  markers : ∀ marker ∈ found.markers, marker.IsRead
  answers : ∃ groups, found.answers = groups.flatten ∧
    List.Forall₂ AnsweredBy search.scanners groups

/-- A search with native records finds what scans give, and its records stay native. -/
theorem native_search (plain : search.Plain) (native : desk.Native search location saved) :
    Ensures search.search desk
      (fun found after => search.Yields found ∧ after.Native search location saved)
      fun _ => True := by
  unfold Search.search
  have allMarkers : Ensures (search.sources.mapM search.markersIn) desk
      (fun markers after => (∀ marker ∈ markers.flatten, marker.IsRead) ∧
        after.Native search location saved) fun _ => True := by
    apply Ensures.mapM fun _ (markers : List (List Marker)) (after : Desk) =>
      (∀ marker ∈ markers.flatten, marker.IsRead) ∧ after.Native search location saved
    · exact ⟨nofun, native⟩
    · rintro before file after whole markers middle ⟨isRead, native⟩
      have mem : file ∈ search.sources := by rw [whole]; simp
      apply (native_markersIn plain native (search.sources_subset mem)).mono
      · rintro found last ⟨isRead', native⟩
        refine ⟨fun marker isMarker => ?_, native⟩
        rw [List.flatten_append, List.flatten_singleton, List.mem_append] at isMarker
        exact isMarker.elim (isRead marker) (isRead' marker)
      · exact fun _ holds => holds
  apply Ensures.bind allMarkers
  rintro markers middle ⟨isRead, native⟩
  have allAnswers : Ensures (search.scanners.mapM search.answersOf) middle
      (fun groups after => List.Forall₂ AnsweredBy search.scanners groups ∧
        after.Native search location saved) fun _ => True := by
    apply Ensures.mapM fun scanners (groups : List (List Answer)) (after : Desk) =>
      List.Forall₂ AnsweredBy scanners groups ∧ after.Native search location saved
    · exact ⟨List.Forall₂.nil, native⟩
    · rintro before scanner after whole groups desk' ⟨answered, native⟩
      have own : scanner ∈ Scanner.builtIn := plain.own scanner (by rw [whole]; simp)
      apply (native_answersOf plain native own).mono
      · rintro answers last ⟨answered', native⟩
        exact ⟨List.rel_append answered (List.Forall₂.cons answered' List.Forall₂.nil), native⟩
      · exact fun _ holds => holds
  apply Ensures.bind allAnswers
  rintro groups after ⟨answered, ⟨records, describes, allNative⟩, units⟩
  apply Ensures.modify_bind
  apply Ensures.get_bind
  apply Ensures.modify_bind
  apply Ensures.modify_bind
  apply Ensures.pure
  exact ⟨⟨isRead, groups, rfl, answered⟩,
    ⟨_, describes.prune search.keys, allNative.only search.keys⟩, units⟩

end Search
end Project
end ClassHarvest
