import ClassHarvest.Proofs.Separation
import ClassHarvest.Proofs.Settings.Loading
import ClassHarvest.Proofs.Settings.Resolution
import ClassHarvest.Proofs.Text.Utf8

/-!
# Fingerprints of settings

A fingerprint is the digest of the class pattern, the suffixes and the helpers, each closed by a null
byte, with two more null bytes between suffixes and helpers.  As no suffix is empty, those two are found
again, so settings without null characters are told apart by what the digest is taken of.
-/

namespace ClassHarvest

open Gathering Yaml

/-! ## Suffixes are not empty -/

theorem nil_not_mem_splitExtensions (filter : Text) : [] ∉ splitExtensions filter := by
  intro mem
  have filled := List.of_mem_filter mem
  cases filled

theorem ProjectSettings.nil_not_mem_suffixesOf {document : Document} {value : Option Value}
    {suffixes : List Text} (given : suffixesOf document value = .ok suffixes) : [] ∉ suffixes := by
  unfold suffixesOf at given
  split at given
  · cases given
    exact nil_not_mem_splitExtensions _
  · obtain ⟨texts, -, given⟩ := bind_eq_ok_iff.mp given
    cases given
    intro mem
    cases List.of_mem_filter mem

theorem ProjectSettings.nil_not_mem_extensions_of_ofEntries {document : Document}
    {entries : List (Scalar × Value)} {project : ProjectSettings}
    (said : ofEntries document entries = .ok project) : [] ∉ project.extensions := by
  obtain ⟨enabled, -, said⟩ := bind_eq_ok_iff.mp said
  obtain ⟨mode, -, said⟩ := bind_eq_ok_iff.mp said
  obtain ⟨directory, -, said⟩ := bind_eq_ok_iff.mp said
  obtain ⟨options, -, said⟩ := bind_eq_ok_iff.mp said
  obtain ⟨pattern, -, said⟩ := bind_eq_ok_iff.mp said
  obtain ⟨suffixes, areSuffixes, said⟩ := bind_eq_ok_iff.mp said
  obtain ⟨helpers, -, said⟩ := bind_eq_ok_iff.mp said
  obtain ⟨excluded, -, said⟩ := bind_eq_ok_iff.mp said
  cases said
  exact nil_not_mem_suffixesOf areSuffixes

theorem ProjectSettings.nil_not_mem_extensions_of_ofText {text : Text} {project : ProjectSettings}
    (said : ofText text = .ok project) : [] ∉ project.extensions := by
  by_cases blank : text.isBlank
  · rw [ofText_of_blank blank] at said
    cases said
    exact List.not_mem_nil
  cases loaded : Document.ofText text with
  | error error =>
      rw [ofText_of_error blank loaded] at said
      cases said
  | ok document =>
      rw [ofText_of_document blank loaded] at said
      split at said
      · cases said
        exact List.not_mem_nil
      split at said
      · exact nil_not_mem_extensions_of_ofEntries (mapError_eq_ok_iff.mp said)
      · cases said

theorem ProjectSettings.nil_not_mem_extensions_of_load {disk : Disk} {path directory : Path}
    {project : ProjectSettings} (loaded : load disk path = .ok (directory, project)) :
    [] ∉ project.extensions := by
  unfold load at loaded
  dsimp only at loaded
  split at loaded
  · obtain ⟨text, -, loaded⟩ := bind_eq_ok_iff.mp loaded
    obtain ⟨settings, said, loaded⟩ := bind_eq_ok_iff.mp loaded
    cases loaded
    exact nil_not_mem_extensions_of_ofText said
  · cases loaded
    exact List.not_mem_nil

theorem nil_not_mem_extensions_of_resolve {project : ProjectSettings} {host : Options}
    {mode : Option Text} {settings : RunSettings} (ofProject : [] ∉ project.extensions)
    (resolved : resolve project host mode = .ok settings) : [] ∉ settings.extensions := by
  rw [(parts_of_resolve resolved).2.1, extensionsOf_eq, suffixesWith, orDefault]
  split
  · decide
  · cases Options.first? (project.options.update host) Options.extensionKeys with
    | none => exact ofProject
    | some filter => exact nil_not_mem_splitExtensions filter

/-! ## What the digest is taken of -/

namespace RunSettings

variable {settings settings' : RunSettings}

/-- The bytes of which the fingerprint is the digest. -/
def fingerprintMessage (settings : RunSettings) : List UInt8 :=
  settings.fingerprintParts.flatMap fun part => part.flatMap Utf8.bytes ++ [0]

/-- Settings without null characters, where they have an influence on scans. -/
def IsNullFree (settings : RunSettings) : Prop :=
  ∀ part ∈ settings.pattern.source :: (settings.extensions ++ settings.helpers),
    ∀ c ∈ part, c.val ≠ 0

instance (settings : RunSettings) : Decidable settings.IsNullFree :=
  inferInstanceAs (Decidable
    (∀ part ∈ settings.pattern.source :: (settings.extensions ++ settings.helpers),
      ∀ c ∈ part, c.val ≠ 0))

/-- The parts of which the message is made: the null character that keeps suffixes and helpers apart,
with the byte that closes it, is the same as two empty parts. -/
def messageParts (settings : RunSettings) : List Text :=
  settings.pattern.source :: (settings.extensions ++ [] :: [] :: settings.helpers)

/-- Texts have bytes just if there is no surrogate in them. -/
theorem mapM_encode_eq_ok_iff {parts : List Text} {written : List (List UInt8)} :
    parts.mapM Utf8.encode = .ok written ↔
      (∀ part ∈ parts, ∀ c ∈ part, c.isSurrogate = false) ∧
        parts.map (·.flatMap Utf8.bytes) = written := by
  induction parts generalizing written with
  | nil =>
      rw [mapM_eq_nil_iff, List.map_nil, eq_comm]
      exact (and_iff_right (List.forall_mem_nil _)).symm
  | cons part parts ih =>
      simp only [mapM_eq_cons_iff, Utf8.encode_eq_ok_iff, ih, List.forall_mem_cons, List.map_cons]
      constructor
      · rintro ⟨_, _, ⟨whole, rfl⟩, ⟨others, rfl⟩, rfl⟩
        exact ⟨⟨whole, others⟩, rfl⟩
      · rintro ⟨⟨whole, others⟩, rfl⟩
        exact ⟨_, _, ⟨whole, rfl⟩, ⟨others, rfl⟩, rfl⟩

/-- There is a fingerprint just if there is no surrogate; it is the digest of the message. -/
theorem fingerprint_eq_ok_iff {digest : Text} : settings.fingerprint = .ok digest ↔
    (∀ part ∈ settings.fingerprintParts, ∀ c ∈ part, c.isSurrogate = false) ∧
      Sha256.hexDigest settings.fingerprintMessage = digest := by
  have message : (settings.fingerprintParts.map (·.flatMap Utf8.bytes)).flatMap (· ++ [0]) =
      settings.fingerprintMessage := List.flatMap_map _ _ _
  rw [fingerprint, bind_eq_ok_iff, ← message]
  simp only [mapM_encode_eq_ok_iff]
  constructor
  · rintro ⟨_, ⟨whole, rfl⟩, isDigest⟩
    exact ⟨whole, Except.ok.inj isDigest⟩
  · rintro ⟨whole, rfl⟩
    exact ⟨_, ⟨whole, rfl⟩, rfl⟩

theorem fingerprintMessage_eq (settings : RunSettings) :
    settings.fingerprintMessage =
      (settings.messageParts.map (·.flatMap Utf8.bytes)).flatMap (· ++ [0]) := by
  have null : ([CodePoint.ofNat 0].flatMap Utf8.bytes : List UInt8) = [0] := by decide
  simp [fingerprintMessage, fingerprintParts, messageParts, List.flatMap_map, null]

theorem isSurrogate_of_mem_messageParts {digest : Text} (given : settings.fingerprint = .ok digest)
    {part : Text} (mem : part ∈ settings.messageParts) : ∀ c ∈ part, c.isSurrogate = false := by
  have whole := (fingerprint_eq_ok_iff.mp given).1
  simp only [messageParts, List.mem_cons, List.mem_append] at mem
  simp only [fingerprintParts, List.cons_append, List.mem_cons, List.mem_append] at whole
  rcases mem with rfl | inSuffixes | rfl | rfl | inHelpers
  · exact whole _ (.inl rfl)
  · exact whole _ (.inr (.inl (.inl inSuffixes)))
  · exact List.forall_mem_nil _
  · exact List.forall_mem_nil _
  · exact whole _ (.inr (.inr inHelpers))

/-- The message tells the parts that it is made of, if no null character is in them. -/
theorem messageParts_inj {digest digest' : Text} (free : settings.IsNullFree)
    (free' : settings'.IsNullFree) (given : settings.fingerprint = .ok digest)
    (given' : settings'.fingerprint = .ok digest')
    (same : settings.fingerprintMessage = settings'.fingerprintMessage) :
    settings.messageParts = settings'.messageParts := by
  have closed {settings : RunSettings} (free : settings.IsNullFree) :
      ∀ bytes ∈ settings.messageParts.map (·.flatMap Utf8.bytes), (0 : UInt8) ∉ bytes := by
    rw [List.forall_mem_map]
    intro part mem isByte
    obtain ⟨c, isCharacter, isByte⟩ := List.mem_flatMap.mp isByte
    refine Utf8.zero_not_mem_bytes (free part ?_ c isCharacter) isByte
    simp only [messageParts, List.mem_cons, List.mem_append] at mem ⊢
    rcases mem with isSource | isSuffix | rfl | rfl | isHelper
    · exact .inl isSource
    · exact .inr (.inl isSuffix)
    · cases isCharacter
    · cases isCharacter
    · exact .inr (.inr isHelper)
  have decoded {settings : RunSettings} {digest : Text} (given : settings.fingerprint = .ok digest) :
      (settings.messageParts.map (·.flatMap Utf8.bytes)).map Utf8.decode =
        settings.messageParts.map Except.ok := by
    rw [List.map_map]
    exact List.map_congr_left fun part mem =>
      Utf8.decodeFrom_flatMap_bytes (isSurrogate_of_mem_messageParts given mem) 0
  rw [fingerprintMessage_eq, fingerprintMessage_eq] at same
  have bytes := flatMap_closed_inj (closed free) (closed free') same
  apply List.map_injective_iff.mpr fun _ _ => Except.ok.inj
  rw [← decoded given, bytes, decoded given']

/-- Where no suffix is empty, the parts tell where the helpers begin. -/
theorem eq_of_messageParts (filled : [] ∉ settings.extensions) (filled' : [] ∉ settings'.extensions)
    (same : settings.messageParts = settings'.messageParts) :
    settings.pattern.source = settings'.pattern.source ∧
      settings.extensions = settings'.extensions ∧ settings.helpers = settings'.helpers := by
  obtain ⟨source, others⟩ := List.cons.inj same
  obtain ⟨extensions, behind⟩ := cons_inj_of_not_mem filled filled' others
  exact ⟨source, extensions, (List.cons.inj behind).2⟩

end RunSettings

/-! ## Fingerprints -/

variable {disk disk' : Disk} {path path' directory directory' : Path}
  {project project' : ProjectSettings} {host host' : Options} {mode mode' : Option Text}
  {settings settings' : RunSettings} {digest digest' : Text}

end ClassHarvest
