import ClassHarvest.Cache.ScanCache
import ClassHarvest.Proofs.Files.Disk
import ClassHarvest.Proofs.Json.Reading
import ClassHarvest.Proofs.Text.Utf8
import Mathlib.Data.Option.Basic

/-!
# Opening the file of a cache

A file of any content is opened as a cache if its bytes are a text and no number that is read in it
has too many digits; nothing else refuses it.  The cache has the entries of the document in the file
that are objects with all members of an entry, and none if there is no document of its format.
-/

namespace ClassHarvest

open Json (Object Value HasLongRun)
open Gathering

/-! ## Entries of a document -/

/-- An entry with the members of an object. -/
structure CacheEntry.HasMembersOf (entry : CacheEntry) (members : Object) : Prop where
  signature : members.get? "signature" = some entry.signature
  fingerprint : members.get? "fingerprint" = some entry.fingerprint
  results : members.get? "results" = some entry.results
  others : entry.others = members.filter fun (name, _) => !memberNames.contains name

/-- Just the objects with all members of an entry are entries. -/
theorem CacheEntry.ofJson?_eq_some_iff {value : Value} {entry : CacheEntry} :
    ofJson? value = some entry ↔
      ∃ members, value = .object members ∧ entry.HasMembersOf members := by
  simp only [ofJson?, Option.bind_eq_bind, Option.bind_eq_some_iff, Value.object?_eq_some_iff,
    Option.pure_def, Option.some.injEq]
  constructor
  · rintro ⟨members, rfl, signature, isSignature, fingerprint, isFingerprint, results, isResults, rfl⟩
    exact ⟨members, rfl, isSignature, isFingerprint, isResults, rfl⟩
  · rintro ⟨members, rfl, has⟩
    refine ⟨members, rfl, _, has.signature, _, has.fingerprint, _, has.results, ?_⟩
    rw [← has.others]

namespace ScanCache

/-- A document of the format of the cache, with some entries. -/
def DocumentHasEntries (document : Value) (entries : Object) : Prop :=
  ∃ (members : Object) (version : Value), document = .object members ∧
    members.get? "version" = some version ∧ version.isOne = true ∧
      members.get? "entries" = some (.object entries)

theorem entriesOf_of_document {document : Value} {entries : Object}
    (has : DocumentHasEntries document entries) :
    entriesOf document = entries.filterMap fun (key, value) =>
      (CacheEntry.ofJson? value).map (key, ·) := by
  obtain ⟨members, version, rfl, isVersion, isOne, areEntries⟩ := has
  simp [entriesOf, Value.object?, isVersion, isOne, areEntries, guard]

theorem entriesOf_eq_nil {document : Value}
    (other : ∀ entries, ¬ DocumentHasEntries document entries) : entriesOf document = [] := by
  unfold entriesOf
  dsimp only
  rw [Option.getD_eq_iff]
  refine Or.inr ⟨?_, rfl⟩
  rw [Option.eq_none_iff_forall_ne_some]
  intro kept found
  simp only [Option.bind_eq_bind, Option.bind_eq_some_iff, Option.guard_eq_some',
    Value.object?_eq_some_iff] at found
  obtain ⟨members, isObject, version, isVersion, -, isOne, _, isInner, entries, rfl, -⟩ := found
  exact other entries ⟨members, version, isObject, isVersion, isOne, isInner⟩

/-- Each of the entries is found under its key. -/
theorem get?_entriesOf {document : Value} {entries : Object}
    (has : DocumentHasEntries document entries) (distinct : document.Distinct) :
    (entriesOf document).keys.Nodup ∧ ∀ key entry, (entriesOf document).get? key = some entry ↔
      ∃ members, entries.get? key = some (.object members) ∧ entry.HasMembersOf members := by
  have nodup : entries.keys.Nodup := by
    obtain ⟨members, version, rfl, -, -, areEntries⟩ := has
    exact (distinct.get? areEntries).nodup
  rw [entriesOf_of_document has]
  refine ⟨Dictionary.nodup_keys_filterMap nodup CacheEntry.ofJson?, fun key entry => ?_⟩
  rw [Dictionary.get?_filterMap nodup, Option.bind_eq_some_iff]
  constructor
  · rintro ⟨value, found, isEntry⟩
    obtain ⟨members, rfl, hasMembers⟩ := CacheEntry.ofJson?_eq_some_iff.mp isEntry
    exact ⟨members, found, hasMembers⟩
  · rintro ⟨members, found, hasMembers⟩
    exact ⟨_, found, CacheEntry.ofJson?_eq_some_iff.mpr ⟨members, rfl, hasMembers⟩⟩

/-! ## Contents of files -/

/-- The content of a file with a document. -/
def ContentHasDocument (bytes : List UInt8) (document : Value) : Prop :=
  ∃ text, Utf8.encode text = .ok bytes ∧ Json.read text.universalNewlines = .ok document

/-- The content of a file with a document of the format of the cache, with some entries. -/
def ContentHasEntries (bytes : List UInt8) (entries : Object) : Prop :=
  ∃ document, ContentHasDocument bytes document ∧ DocumentHasEntries document entries

/-- The content of a file that is a text in which no number that is read has too many digits. -/
def IsReadable (bytes : List UInt8) : Prop :=
  ∃ text, Utf8.encode text = .ok bytes ∧
    ∀ n, Json.read text.universalNewlines ≠ .error (.tooManyDigits n)

/-- A text without runs of digits that are too long for a number is readable. -/
theorem isReadable_of_short {text : Text} {bytes : List UInt8} (encoded : Utf8.encode text = .ok bytes)
    (short : ∀ n, ¬ HasLongRun text n) : IsReadable bytes := by
  refine ⟨text, encoded, fun n refused => short n ?_⟩
  obtain ⟨many, run, inside, length, digits⟩ := Json.hasLongRun_of_read refused
  refine ⟨many, run, Text.infix_of_infix_universalNewlines (fun mem => ?_) inside, length, digits⟩
  exact absurd (digits _ mem) (by decide)

/-! ## Opening -/

section

variable {disk : Disk} {path : Path} {bytes : List UInt8}

theorem load_of_read (content : disk.read path = .ok bytes) :
    load disk path = match Utf8.decode bytes with
      | .error error => .error (.decoding error)
      | .ok text => match Json.read text.universalNewlines with
        | .ok document => .ok (entriesOf document, [])
        | .error (.tooManyDigits digits) => .error (.tooManyDigits digits)
        | .error error => .ok ([], unreadable path error.message) := by
  unfold load
  rw [Disk.readText, content]
  dsimp only
  cases Utf8.decode bytes with
  | error error => rfl
  | ok text => rfl

theorem exists_load_iff (content : disk.read path = .ok bytes) :
    (∃ loaded, load disk path = .ok loaded) ↔ IsReadable bytes := by
  rw [load_of_read content]
  cases decoded : Utf8.decode bytes with
  | error error =>
      simp only [reduceCtorEq, exists_false, false_iff]
      rintro ⟨text, encoded, _⟩
      rw [Utf8.decode_eq_ok_iff.mpr encoded] at decoded
      cases decoded
  | ok text =>
      have readable : IsReadable bytes ↔
          ∀ n, Json.read text.universalNewlines ≠ .error (.tooManyDigits n) := by
        unfold IsReadable
        simp only [← Utf8.decode_eq_ok_iff, decoded, Except.ok.injEq, exists_eq_left']
      rw [readable]
      dsimp only
      cases isRead : Json.read text.universalNewlines with
      | ok document => simp
      | error error => cases error <;> simp

theorem load_of_document (content : disk.read path = .ok bytes) {document : Value}
    (has : ContentHasDocument bytes document) : load disk path = .ok (entriesOf document, []) := by
  obtain ⟨text, encoded, isRead⟩ := has
  rw [load_of_read content, Utf8.decode_eq_ok_iff.mpr encoded]
  dsimp only
  rw [isRead]

theorem load_of_no_document (content : disk.read path = .ok bytes)
    (none : ∀ document, ¬ ContentHasDocument bytes document) {entries : Dictionary CacheEntry}
    {log : Log} (loaded : load disk path = .ok (entries, log)) : entries = [] := by
  rw [load_of_read content] at loaded
  split at loaded
  · cases loaded
  · next text decoded =>
      split at loaded
      · next document isRead =>
          exact absurd ⟨text, Utf8.decode_eq_ok_iff.mp decoded, isRead⟩ (none document)
      · cases loaded
      · cases loaded
        rfl

variable {cache : ScanCache} {log : Log}

theorem load_of_openAt (opened : openAt (some path) disk = .ok (cache, log)) :
    load disk path = .ok (cache.entries, log) := by
  rw [openAt] at opened
  cases loaded : load disk path with
  | error error =>
      rw [loaded] at opened
      cases opened
  | ok pair =>
      rw [loaded] at opened
      cases opened
      rfl

theorem entries_eq_nil_of_openAt (content : disk.read path = .ok bytes)
    (opened : openAt (some path) disk = .ok (cache, log))
    (none : ∀ entries, ¬ ContentHasEntries bytes entries) : cache.entries = [] := by
  have loaded := load_of_openAt opened
  by_cases hasDocument : ∃ document, ContentHasDocument bytes document
  · obtain ⟨document, has⟩ := hasDocument
    rw [load_of_document content has] at loaded
    rw [← (Prod.mk.inj (Except.ok.inj loaded)).1]
    exact entriesOf_eq_nil fun entries isEntries => none entries ⟨document, has, isEntries⟩
  · exact load_of_no_document content (not_exists.mp hasDocument) loaded

theorem get?_entries_of_openAt (content : disk.read path = .ok bytes)
    (opened : openAt (some path) disk = .ok (cache, log)) {entries : Object}
    (has : ContentHasEntries bytes entries) :
    cache.entries.keys.Nodup ∧ ∀ key entry, cache.entries.get? key = some entry ↔
      ∃ members, entries.get? key = some (.object members) ∧ entry.HasMembersOf members := by
  obtain ⟨document, hasDocument, isEntries⟩ := has
  have loaded := load_of_openAt opened
  rw [load_of_document content hasDocument] at loaded
  rw [← (Prod.mk.inj (Except.ok.inj loaded)).1]
  obtain ⟨text, -, isRead⟩ := hasDocument
  exact get?_entriesOf isEntries (Json.distinct_of_read isRead)

/-- A file is opened as a cache just if it is readable; it is, if it is a text in which no run of digits
is too long for a number.  The cache has no entries unless the file has a document of its format, and
then it has just those entries of the document that are objects with all members of an entry. -/
theorem openAt_has_entries (content : disk.read path = .ok bytes) :
    ((∃ opened, openAt (some path) disk = .ok opened) ↔ IsReadable bytes) ∧
    (∀ text, Utf8.encode text = .ok bytes → (∀ n, ¬ HasLongRun text n) →
      ∃ opened, openAt (some path) disk = .ok opened) ∧
    ∀ cache log, openAt (some path) disk = .ok (cache, log) →
      ((∀ entries, ¬ ContentHasEntries bytes entries) → cache.entries = []) ∧
      ∀ entries, ContentHasEntries bytes entries →
        cache.entries.keys.Nodup ∧ ∀ key entry, cache.entries.get? key = some entry ↔
          ∃ members, entries.get? key = some (.object members) ∧ entry.HasMembersOf members := by
  have opens : (∃ opened, openAt (some path) disk = .ok opened) ↔ IsReadable bytes :=
    exists_map_eq_ok_iff.trans (exists_load_iff content)
  refine ⟨opens, fun text encoded short => opens.mpr (isReadable_of_short encoded short), ?_⟩
  exact fun cache log opened => ⟨entries_eq_nil_of_openAt content opened,
    fun entries has => get?_entries_of_openAt content opened has⟩

end

/-! ### A file with an entry -/

/-- The text of an object on one line, with the texts of its values. -/
def objectText (members : List (Text × Text)) : Text :=
  "\x7b" ++ Text.join ", " (members.map Json.memberText) ++ "\x7d"

/-- A document with an entry for a marker and a number in the place of another entry. -/
def sampleText : Text :=
  objectText [("version", "1"), ("entries", objectText [("a", "5"), ("m", objectText [
    ("signature", Json.quoted "s"), ("fingerprint", Json.quoted "f"),
    ("results", "[" ++ objectText [("namespace", Json.quoted "App"), ("name", Json.quoted "Site"),
      ("modifiers", Json.quoted "partial"), ("is_static", "false")] ++ "]")])])]

/-- The content of a file with this document. -/
def sampleContent : List UInt8 :=
  (Utf8.encode sampleText).toOption.getD []

/-- The path of the file. -/
def samplePath : Path :=
  ⟨"/", ["cache.json"]⟩

/-- A disk with nothing but this file. -/
def sampleDisk : Disk where
  top := .directory [("cache.json", .file ⟨sampleContent, 0⟩)]
  clock := 1

theorem openAt_has_entries_sample :
    sampleDisk.read samplePath = .ok sampleContent ∧ IsReadable sampleContent ∧
      ∃ entries members : Object, ContentHasEntries sampleContent entries ∧
        entries.get? "m" = some (.object members) := by
  have content : sampleDisk.read samplePath = .ok sampleContent := rfl
  have outcome : (openAt (some samplePath) sampleDisk).toOption.any
      (fun opened => (opened.1.entries.get? "m").isSome) = true := by decide +kernel
  obtain ⟨opens, -, holds⟩ := openAt_has_entries content
  cases opened : openAt (some samplePath) sampleDisk with
  | error error =>
      rw [opened] at outcome
      cases outcome
  | ok pair =>
      obtain ⟨cache, log⟩ := pair
      rw [opened] at outcome
      obtain ⟨entry, isEntry⟩ := Option.isSome_iff_exists.mp outcome
      obtain ⟨none, some⟩ := holds cache log opened
      refine ⟨content, opens.mp ⟨_, opened⟩, ?_⟩
      by_contra other
      have empty : cache.entries = [] := none fun entries has => by
        obtain ⟨members, found, -⟩ := ((some entries has).2 "m" entry).mp isEntry
        exact other ⟨entries, members, has, found⟩
      rw [empty] at isEntry
      cases isEntry

-- A byte that starts no character refuses the file.
example : (openAt (some samplePath)
    ⟨.directory [("cache.json", .file ⟨[0xFF], 0⟩)], 1⟩).toOption.isNone = true := by
  decide +kernel

end ScanCache
end ClassHarvest
