import ClassHarvest.Proofs.Cache.Hashes
import ClassHarvest.Proofs.Cache.Ledger
import ClassHarvest.Proofs.Project.Fresh
import ClassHarvest.Proofs.Separation

/-!
# Where the records of a cache come from

A record is explained if some file that was seen, and some settings that were used, give it.  When
digests tell contents and settings apart, a record that is recalled is what would be found anew.
-/

namespace ClassHarvest.Project

open Json Scan

/-! ## Keys and signatures -/

/-- What the keys of markers begin with. -/
def markerStart : Text := "markers:"

/-- Keys under which findings are kept. -/
def IsFindingKey (key : Text) : Prop :=
  ¬ markerStart <+: key

/-- The key under which the markers in the file at a path are kept. -/
def markerKeyOf (path : Text) : Text :=
  markerStart ++ path

/-- The key under which the findings of a scanner in the file at a path are kept. -/
def findingKeyOf (scanner : Scanner) (path : Text) : Text :=
  scanner.identity ++ (":" : Text) ++ path

/-- What the markers in a file depend on, besides the file. -/
def markerSignatureOf (version : Text) : Text :=
  "markers:" ++ Marker.className ++ (":" : Text) ++ version

/-- What the findings of a scanner depend on, besides the file. -/
def findingSignatureOf (scanner : Scanner) (version fingerprint : Text) : Text :=
  Text.join ":" [scanner.identity, "1", version, fingerprint]

theorem eq_of_identity {scanner scanner' : Scanner} (own : scanner ∈ Scanner.builtIn)
    (own' : scanner' ∈ Scanner.builtIn) (same : scanner.identity = scanner'.identity) :
    scanner = scanner' := by
  have lengths : (Scanner.builtIn.map fun scanner => scanner.identity.length).Nodup := by decide
  exact List.inj_on_of_nodup_map lengths own own' (congrArg List.length same)

theorem colon_not_mem_identity {scanner : Scanner} (own : scanner ∈ Scanner.builtIn) :
    (':' : CodePoint) ∉ scanner.identity := by
  have all : ∀ s ∈ Scanner.builtIn, (':' : CodePoint) ∉ s.identity := by decide
  exact all scanner own

theorem findingKeyOf_inj {scanner scanner' : Scanner} (own : scanner ∈ Scanner.builtIn)
    (own' : scanner' ∈ Scanner.builtIn) {path path' : Text}
    (same : findingKeyOf scanner path = findingKeyOf scanner' path') :
    scanner = scanner' ∧ path = path' := by
  unfold findingKeyOf at same
  rw [List.append_assoc, List.append_assoc] at same
  obtain ⟨identity, rfl⟩ :=
    cons_inj_of_not_mem (colon_not_mem_identity own) (colon_not_mem_identity own') same
  exact ⟨eq_of_identity own own' identity, rfl⟩

theorem markerKeyOf_inj {path path' : Text} (same : markerKeyOf path = markerKeyOf path') :
    path = path' :=
  List.append_cancel_left same

theorem isFindingKey_findingKeyOf {scanner : Scanner} (own : scanner ∈ Scanner.builtIn)
    (path : Text) : IsFindingKey (findingKeyOf scanner path) := by
  rintro ⟨rest, same⟩
  have heads : ∀ s ∈ Scanner.builtIn, s.identity.head? = some (('c' : Char) : CodePoint) := by
    decide
  have first : (findingKeyOf scanner path).head? = some (('c' : Char) : CodePoint) := by
    unfold findingKeyOf
    rw [List.append_assoc, List.head?_append, heads scanner own]
    rfl
  have other : (markerStart ++ rest).head? = some (('m' : Char) : CodePoint) := rfl
  rw [← same, other] at first
  exact absurd first (by decide)

theorem not_isFindingKey_markerKeyOf (path : Text) : ¬ IsFindingKey (markerKeyOf path) := by
  intro isFinding
  exact isFinding ⟨path, rfl⟩

theorem markerKeyOf_ne_findingKeyOf {scanner : Scanner} (own : scanner ∈ Scanner.builtIn)
    (path path' : Text) : markerKeyOf path ≠ findingKeyOf scanner path' := by
  intro same
  apply not_isFindingKey_markerKeyOf path
  rw [same]
  exact isFindingKey_findingKeyOf own path'

/-- Signatures of findings that end with digests tell the digests apart. -/
theorem fingerprint_of_findingSignatureOf {scanner scanner' : Scanner}
    {version version' fingerprint fingerprint' : Text}
    (length : fingerprint.length = fingerprint'.length)
    (same : findingSignatureOf scanner version fingerprint =
      findingSignatureOf scanner' version' fingerprint') : fingerprint = fingerprint' := by
  simp only [findingSignatureOf, Text.join, ← List.append_assoc] at same
  exact (List.append_inj' same length).2

theorem exists_hexDigest_of_fingerprint {settings : RunSettings} {fingerprint : Text}
    (given : settings.fingerprint = .ok fingerprint) :
    ∃ bytes, fingerprint = Sha256.hexDigest bytes := by
  unfold RunSettings.fingerprint at given
  cases parts : settings.fingerprintParts.mapM Utf8.encode with
  | error error =>
      rw [parts] at given
      cases given
  | ok parts' =>
      rw [parts] at given
      cases given
      exact ⟨_, rfl⟩

theorem length_of_fingerprint {settings : RunSettings} {fingerprint : Text}
    (given : settings.fingerprint = .ok fingerprint) : fingerprint.length = 64 := by
  obtain ⟨bytes, rfl⟩ := exists_hexDigest_of_fingerprint given
  exact Sha256.length_hexDigest bytes

theorem isHighSurrogate_of_mem_fingerprint {settings : RunSettings} {fingerprint : Text}
    (given : settings.fingerprint = .ok fingerprint) {c : CodePoint} (mem : c ∈ fingerprint) :
    c.isHighSurrogate = false := by
  obtain ⟨bytes, rfl⟩ := exists_hexDigest_of_fingerprint given
  exact Sha256.isHighSurrogate_of_mem_hexDigest mem

/-! ## Texts that a cache keeps as they are -/

theorem joinSurrogates_append {s t : Text} (front : ∀ c ∈ s, c.isHighSurrogate = false)
    (back : ∀ c ∈ t, c.isHighSurrogate = false) : joinSurrogates (s ++ t) = s ++ t := by
  apply joinSurrogates_eq_self
  intro c mem
  rcases List.mem_append.mp mem with inFront | inBack
  · exact front c inFront
  · exact back c inBack

theorem joinSurrogates_markerKeyOf {path : Text} (plain : ∀ c ∈ path, c.isHighSurrogate = false) :
    joinSurrogates (markerKeyOf path) = markerKeyOf path :=
  joinSurrogates_append (by decide) plain

theorem joinSurrogates_markerSignatureOf {version : Text}
    (plain : ∀ c ∈ version, c.isHighSurrogate = false) :
    joinSurrogates (markerSignatureOf version) = markerSignatureOf version :=
  joinSurrogates_append (by decide) plain

theorem isHighSurrogate_of_mem_identity {scanner : Scanner} (own : scanner ∈ Scanner.builtIn) :
    ∀ c ∈ scanner.identity ++ (":" : Text), c.isHighSurrogate = false := by
  have all : ∀ s ∈ Scanner.builtIn, ∀ c ∈ s.identity ++ (":" : Text),
      c.isHighSurrogate = false := by decide
  exact all scanner own

theorem joinSurrogates_findingKeyOf {scanner : Scanner} (own : scanner ∈ Scanner.builtIn)
    {path : Text} (plain : ∀ c ∈ path, c.isHighSurrogate = false) :
    joinSurrogates (findingKeyOf scanner path) = findingKeyOf scanner path :=
  joinSurrogates_append (isHighSurrogate_of_mem_identity own) plain

theorem joinSurrogates_findingSignatureOf {scanner : Scanner} (own : scanner ∈ Scanner.builtIn)
    {version fingerprint : Text} (plain : ∀ c ∈ version, c.isHighSurrogate = false)
    (plain' : ∀ c ∈ fingerprint, c.isHighSurrogate = false) :
    joinSurrogates (findingSignatureOf scanner version fingerprint) =
      findingSignatureOf scanner version fingerprint := by
  have identity := isHighSurrogate_of_mem_identity own
  have between : ∀ c ∈ ("1" : Text) ++ (":" : Text), c.isHighSurrogate = false := by decide
  have colon : ∀ c ∈ (":" : Text), c.isHighSurrogate = false := by decide
  apply joinSurrogates_eq_self
  intro c mem
  simp only [findingSignatureOf, Text.join, List.mem_append] at mem identity between
  rcases mem with mem | mem | mem | mem
  · exact identity c mem
  · exact between c mem
  · rcases mem with mem | mem
    · exact plain c mem
    · exact colon c mem
  · exact plain' c mem

/-! ## Evidence -/

/-- What was seen of a project: its files, and the settings it was searched with. -/
structure Evidence where
  /-- What the file at a path held at some time. -/
  seen : Text → FileContent → Prop
  /-- The settings that were used. -/
  settings : RunSettings → Prop

/-- The file at a path had some bytes at some time. -/
def Evidence.bytes (evidence : Evidence) (path : Text) (bytes : List UInt8) : Prop :=
  ∃ content, evidence.seen path content ∧ content.bytes = bytes

/-- Stamps and digests tell apart what was seen. -/
structure Evidence.Distinct (evidence : Evidence) : Prop where
  settled : HashCache.Settled evidence.seen
  digests : ∀ path path' bytes bytes', evidence.bytes path bytes → evidence.bytes path' bytes' →
    Sha256.hexDigest bytes = Sha256.hexDigest bytes' → bytes = bytes'

/-- Fingerprints tell apart the settings that were used. -/
def Evidence.DistinctSettings (evidence : Evidence) : Prop :=
  ∀ settings settings' fingerprint, evidence.settings settings → evidence.settings settings' →
    settings.fingerprint = .ok fingerprint → settings'.fingerprint = .ok fingerprint →
    SameSearch settings settings'

/-- The evidence gives the record under the key. -/
inductive Evidence.Explains (evidence : Evidence) : Text → Record → Prop
  | markers {path : Text} {bytes : List UInt8} {found : List Marker} (version : Text)
      (seen : evidence.bytes path bytes) (whole : joinSurrogates path = path)
      (fresh : freshMarkers path bytes = .ok found) :
      Explains evidence (markerKeyOf path)
        ⟨markerSignatureOf version, Sha256.hexDigest bytes, .markers found⟩
  | findings {scanner : Scanner} {settings : RunSettings} {path fingerprint : Text}
      {bytes : List UInt8} {found kept : List Finding} (version : Text)
      (own : scanner ∈ Scanner.builtIn) (seen : evidence.bytes path bytes)
      (used : evidence.settings settings) (digest : settings.fingerprint = .ok fingerprint)
      (fresh : freshFindings scanner settings path bytes = .ok found)
      (same : kept = found ∨ kept = found.map Finding.joined) :
      Explains evidence (findingKeyOf scanner path)
        ⟨findingSignatureOf scanner version fingerprint, Sha256.hexDigest bytes, .findings kept⟩

/-- All records are explained. -/
def Evidence.ExplainsAll (evidence : Evidence) (records : Records) : Prop :=
  ∀ key record, records key = some record → evidence.Explains key record

namespace Evidence

variable {evidence : Evidence} {records : Records} {key : Text} {record : Record}

/-- A record stays explained when it is written to a file and read again. -/
theorem Explains.joined (explains : evidence.Explains key record) :
    evidence.Explains key record.joined := by
  cases explains with
  | markers version seen whole fresh =>
      unfold Record.joined Payload.joined
      simp only [joined_freshMarkers fresh whole]
      exact .markers version seen whole fresh
  | @findings _ _ _ _ _ found kept version own seen used digest fresh same =>
      apply Explains.findings version own seen used digest fresh
      right
      rcases same with rfl | rfl
      · rfl
      · simp [Function.comp_def]

theorem ExplainsAll.joined (explains : evidence.ExplainsAll records) :
    evidence.ExplainsAll records.joined := by
  intro key record found
  obtain ⟨before, held, rfl⟩ := Option.map_eq_some_iff.mp found
  exact (explains key before held).joined

theorem ExplainsAll.put (explains : evidence.ExplainsAll records)
    (explained : evidence.Explains key record) : evidence.ExplainsAll (records.put key record) := by
  intro key' record' found
  change (if key' = key then some record else records key') = some record' at found
  split at found
  · next same =>
      cases found
      rw [same]
      exact explained
  · exact explains key' record' found

theorem ExplainsAll.only (explains : evidence.ExplainsAll records) (keys : List Text) :
    evidence.ExplainsAll (records.only keys) := by
  intro key record found
  change (if keys.contains key then records key else none) = some record at found
  split at found
  · exact explains key record found
  · cases found

theorem explainsAll_empty : evidence.ExplainsAll Records.empty := by
  intro key record found
  cases found

/-! ## Recalling -/

/-- Markers that are recalled under the digest of a file are the markers in the file. -/
theorem Explains.freshMarkers_eq {signature : Text} {bytes : List UInt8} {path : Text}
    {found : List Marker} (explains : evidence.Explains (markerKeyOf path)
      ⟨signature, Sha256.hexDigest bytes, .markers found⟩) (distinct : evidence.Distinct)
    (seen : evidence.bytes path bytes) : freshMarkers path bytes = .ok found := by
  generalize isKey : markerKeyOf path = key at explains
  generalize isRecord : (⟨signature, Sha256.hexDigest bytes, .markers found⟩ : Record) = record
    at explains
  cases explains with
  | markers version seen' whole fresh =>
      obtain rfl := markerKeyOf_inj isKey
      simp only [Record.mk.injEq, Payload.markers.injEq] at isRecord
      obtain ⟨_, digest, rfl⟩ := isRecord
      rw [distinct.digests _ _ _ _ seen seen' digest]
      exact fresh
  | findings version own _ _ _ _ _ => exact absurd isKey (markerKeyOf_ne_findingKeyOf own _ _)

/-- Findings that are recalled under the digests of a file and of settings are those in the file, as
they are or as a cache keeps them. -/
theorem Explains.freshFindings_eq {scanner : Scanner} (own : scanner ∈ Scanner.builtIn)
    {settings : RunSettings} {version fingerprint path : Text} {bytes : List UInt8}
    {kept : List Finding} (explains : evidence.Explains (findingKeyOf scanner path)
      ⟨findingSignatureOf scanner version fingerprint, Sha256.hexDigest bytes, .findings kept⟩)
    (distinct : evidence.Distinct) (distinctSettings : evidence.DistinctSettings)
    (seen : evidence.bytes path bytes) (used : evidence.settings settings)
    (digest : settings.fingerprint = .ok fingerprint) :
    ∃ found, freshFindings scanner settings path bytes = .ok found ∧
      (kept = found ∨ kept = found.map Finding.joined) := by
  generalize isKey : findingKeyOf scanner path = key at explains
  generalize isRecord : (⟨findingSignatureOf scanner version fingerprint, Sha256.hexDigest bytes,
    .findings kept⟩ : Record) = record at explains
  cases explains with
  | markers version' _ _ _ => exact absurd isKey.symm (markerKeyOf_ne_findingKeyOf own _ _)
  | @findings scanner' settings' path' fingerprint' bytes' found' kept' version' own' seen' used'
      digest' fresh same =>
      obtain ⟨rfl, rfl⟩ := findingKeyOf_inj own own' isKey
      simp only [Record.mk.injEq, Payload.findings.injEq] at isRecord
      obtain ⟨signature, bytesDigest, rfl⟩ := isRecord
      have lengths : fingerprint.length = fingerprint'.length := by
        rw [length_of_fingerprint digest, length_of_fingerprint digest']
      obtain rfl := fingerprint_of_findingSignatureOf lengths signature
      obtain rfl := distinct.digests _ _ _ _ seen seen' bytesDigest
      have sameSearch := distinctSettings _ _ _ used used' digest digest'
      refine ⟨found', ?_, same⟩
      rw [sameSearch.freshFindings]
      exact fresh

end Evidence
end ClassHarvest.Project
