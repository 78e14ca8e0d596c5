import ClassHarvest.Cache.Stored
import ClassHarvest.Files.Disk
import ClassHarvest.Json.Reader

/-!
# The cache of scans

What scans found is kept under a key, together with a signature of the code and the settings that
found it and a fingerprint of the input.  It is recalled only under the same signature and
fingerprint.  The cache is kept in a file between runs.
-/

namespace ClassHarvest

open Json (Value)

/-- What is kept under a key. -/
structure CacheEntry where
  /-- The signature of what found it. -/
  signature : Value
  /-- The fingerprint of the input. -/
  fingerprint : Value
  /-- What was found. -/
  results : Value
  /-- Anything else that is said about it. -/
  others : Json.Object
deriving Repr

namespace CacheEntry

/-- The members that every entry has. -/
def memberNames : List Text := ["signature", "fingerprint", "results"]

/-- The entry that an object stands for. -/
def ofJson? (value : Value) : Option CacheEntry := do
  let members ← value.object?
  return {
    signature := ← members.get? "signature"
    fingerprint := ← members.get? "fingerprint"
    results := ← members.get? "results"
    others := members.filter fun (name, _) => !memberNames.contains name }

/-- The object that stands for an entry. -/
def toJson (entry : CacheEntry) : Value :=
  .object (("signature", entry.signature) :: ("fingerprint", entry.fingerprint) ::
    ("results", entry.results) :: entry.others)

/-- Whether an entry was made under a signature and a fingerprint. -/
def isFor (entry : CacheEntry) (signature fingerprint : Text) : Bool :=
  entry.signature.string? = some signature && entry.fingerprint.string? = some fingerprint

end CacheEntry

/-- The cache of scans. -/
structure ScanCache where
  /-- The file in which it is kept, if it is kept. -/
  location : Option Path
  /-- The entries. -/
  entries : Dictionary CacheEntry
  /-- Whether it differs from what the file holds. -/
  changed : Bool
deriving Repr

/-- Why a cache cannot be opened. -/
inductive CacheError where
  /-- The file holds no text. -/
  | decoding (error : Utf8.DecodeError)
  /-- The file holds a number that has too many digits. -/
  | tooManyDigits (digits : Nat)
deriving DecidableEq, Repr

/-- The wording of a refusal. -/
def CacheError.message : CacheError → Text
  | .decoding error => error.message
  | .tooManyDigits digits => Numeral.readMessage digits

namespace ScanCache

/-! ## The file -/

/-- The format of the file. -/
def formatVersion : Int := 1

/-- The entries of a document.  A document of another format has none, and what is no entry is left
out. -/
def entriesOf (document : Value) : Dictionary CacheEntry :=
  let entries? : Option (Dictionary CacheEntry) := do
    let members ← document.object?
    guard (← members.get? "version").isOne
    let entries ← (← members.get? "entries").object?
    return entries.filterMap fun (key, value) => (CacheEntry.ofJson? value).map (key, ·)
  entries?.getD []

/-- The document with some entries. -/
def documentOf (entries : Dictionary CacheEntry) : Value :=
  .object [("version", .int formatVersion),
    ("entries", .object (entries.map fun (key, entry) => (key, entry.toJson)))]

/-- What is reported of a file that cannot be read. -/
def unreadable (path : Path) (reason : Text) : Log :=
  [⟨.debug, "Ignoring unreadable cache " ++ path.text ++ ": " ++ reason⟩]

/-- The entries in a file.  There are none without the file, or if it cannot be accessed or is no
document; the last two are reported. -/
def load (disk : Disk) (path : Path) : Except CacheError (Dictionary CacheEntry × Log) :=
  match disk.readText path with
  | .error (.access error) =>
    if error.fault = .notFound then .ok ([], []) else .ok ([], unreadable path error.message)
  | .error (.decoding error) => .error (.decoding error)
  | .ok text =>
    match Json.read text with
    | .ok document => .ok (entriesOf document, [])
    | .error (.tooManyDigits digits) => .error (.tooManyDigits digits)
    | .error error => .ok ([], unreadable path error.message)

/-- The cache that is kept in a file, and what is reported of the file; without a file, an empty
cache. -/
def openAt (location : Option Path) (disk : Disk) : Except CacheError (ScanCache × Log) :=
  match location with
  | none => .ok (⟨none, [], false⟩, [])
  | some path =>
    (load disk path).map fun (entries, log) => (⟨some path, entries, false⟩, log)

/-- The file that is written first and then takes the place of the file of a cache. -/
def stagingPath (path : Path) : Path :=
  path.parent.child (path.name ++ (".tmp" : Text))

/-- Write the file of a cache, unless it holds the cache already.  The directory of the file is made
even if the cache turns out to hold a number that cannot be written. -/
def persist (cache : ScanCache) (disk : Disk) : Disk × Except FileWriteError ScanCache :=
  match cache.location, cache.changed with
  | some path, true =>
    match disk.ensureDirectory path.parent with
    | (disk, .error error) => (disk, .error (.access error))
    | (disk, .ok ()) =>
      if (documentOf cache.entries).isWritable then
        match disk.writeText (stagingPath path) (Json.write (documentOf cache.entries)) with
        | (disk, .error error) => (disk, .error error)
        | (disk, .ok ()) =>
          match disk.replace (stagingPath path) path with
          | (disk, .error error) => (disk, .error (.access error))
          | (disk, .ok ()) => (disk, .ok { cache with changed := false })
      else (disk, .error .tooManyDigits)
  | _, _ => (disk, .ok cache)

/-! ## Entries -/

/-- What is kept under a key, if it was found under this signature and fingerprint and every item can
be read. -/
def kept? {α : Type} (ofJson? : Value → Option α) (cache : ScanCache)
    (key signature fingerprint : Text) : Option (List α) := do
  let entry ← cache.entries.get? key
  guard (entry.isFor signature fingerprint)
  (← entry.results.array?).mapM ofJson?

/-- The findings that are kept under a key. -/
def findings (cache : ScanCache) (key signature fingerprint : Text) : Option (List StoredFinding) :=
  cache.kept? StoredFinding.ofJson? key signature fingerprint

/-- The markers that are kept under a key. -/
def markers (cache : ScanCache) (key signature fingerprint : Text) : Option (List StoredMarker) :=
  cache.kept? StoredMarker.ofJson? key signature fingerprint

/-- The cache with results kept under a key since a time. -/
def keep (cache : ScanCache) (key signature fingerprint time : Text) (results : List Value) :
    ScanCache :=
  let entry : CacheEntry := {
    signature := .string signature
    fingerprint := .string fingerprint
    results := .array results
    others := [("updated_at", .string time)] }
  { cache with entries := cache.entries.put key entry, changed := true }

/-- The cache with findings kept under a key. -/
def keepFindings (cache : ScanCache) (key signature fingerprint time : Text)
    (findings : List Finding) : ScanCache :=
  cache.keep key signature fingerprint time (findings.map Finding.toJson)

/-- The cache with markers kept under a key. -/
def keepMarkers (cache : ScanCache) (key signature fingerprint time : Text)
    (markers : List Marker) : ScanCache :=
  cache.keep key signature fingerprint time (markers.map Marker.toJson)

/-- How many entries a cache has that are under none of some keys. -/
def staleCount (cache : ScanCache) (keys : List Text) : Nat :=
  cache.entries.countP fun (key, _) => !keys.contains key

/-- The cache with only the entries under some keys. -/
def prune (cache : ScanCache) (keys : List Text) : ScanCache :=
  if cache.staleCount keys = 0 then cache
  else { cache with
    entries := cache.entries.filter fun (key, _) => keys.contains key
    changed := true }

/-- What is reported when entries are dropped. -/
def pruneLog (cache : ScanCache) (keys : List Text) : Log :=
  if cache.staleCount keys = 0 then []
  else [⟨.debug, "Pruned " ++ Text.ofNat (cache.staleCount keys) ++ " stale cache entries"⟩]

/-- The cache without entries. -/
def clear (cache : ScanCache) : ScanCache :=
  { cache with entries := [], changed := true }

/-- The number of entries. -/
def size (cache : ScanCache) : Nat :=
  cache.entries.length

end ScanCache
end ClassHarvest
