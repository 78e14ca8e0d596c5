import ClassHarvest.Proofs.Cache.File
import Mathlib.Data.Set.Card

/-!
# The cache of scans as two maps

A cache that is kept in a file is a pair of maps: what it holds now, and what it held when it was last
written.  Storing, pruning and clearing change the first, writing copies it to the second, and opening
the file again copies it back.  The replies of a cache to any sequence of operations are those of the
two maps, whether or not the writing can be done at a time.
-/

namespace ClassHarvest

open Json

/-! ## Two maps -/

namespace Records

/-- The keys under which there is a record. -/
def keys (records : Records) : Set Text :=
  {key | (records key).isSome = true}

/-- The records with one under a key. -/
def put (records : Records) (key : Text) (record : Record) : Records :=
  fun k => if k = key then some record else records k

/-- The records under some keys. -/
def only (records : Records) (keys : List Text) : Records :=
  fun key => if keys.contains key then records key else none

/-- The findings under a key, if they depend on just this. -/
def findings (records : Records) (key signature fingerprint : Text) : Option (List Finding) :=
  match records key with
  | some ⟨s, f, .findings found⟩ => if s = signature ∧ f = fingerprint then some found else none
  | _ => none

/-- The markers under a key, if they depend on just this. -/
def markers (records : Records) (key signature fingerprint : Text) : Option (List Marker) :=
  match records key with
  | some ⟨s, f, .markers found⟩ => if s = signature ∧ f = fingerprint then some found else none
  | _ => none

theorem put_eq_self {records : Records} {key : Text} {record : Record}
    (held : records key = some record) : records.put key record = records := by
  funext other
  unfold put
  split
  · next same => rw [same, held]
  · rfl

theorem findings_eq_some_iff {records : Records} {key signature fingerprint : Text}
    {found : List Finding} :
    records.findings key signature fingerprint = some found ↔
      records key = some ⟨signature, fingerprint, .findings found⟩ := by
  unfold findings
  constructor
  · intro isFound
    split at isFound
    · next s f found' held =>
        split at isFound
        · next same =>
            cases isFound
            rw [held, same.1, same.2]
        · cases isFound
    · cases isFound
  · intro held
    rw [held]
    exact if_pos ⟨rfl, rfl⟩

theorem markers_eq_some_iff {records : Records} {key signature fingerprint : Text}
    {found : List Marker} :
    records.markers key signature fingerprint = some found ↔
      records key = some ⟨signature, fingerprint, .markers found⟩ := by
  unfold markers
  constructor
  · intro isFound
    split at isFound
    · next s f found' held =>
        split at isFound
        · next same =>
            cases isFound
            rw [held, same.1, same.2]
        · cases isFound
    · cases isFound
  · intro held
    rw [held]
    exact if_pos ⟨rfl, rfl⟩

/-- The records with some more, each under its key. -/
def putAll (records : Records) (pairs : List (Text × Record)) : Records :=
  pairs.foldl (fun records pair => records.put pair.1 pair.2) records

theorem putAll_concat (records : Records) (pairs : List (Text × Record)) (key : Text)
    (record : Record) :
    records.putAll (pairs ++ [(key, record)]) = (records.putAll pairs).put key record := by
  unfold putAll
  rw [List.foldl_append]
  rfl

theorem putAll_append (records : Records) (pairs others : List (Text × Record)) :
    records.putAll (pairs ++ others) = (records.putAll pairs).putAll others :=
  List.foldl_append

theorem putAll_of_not_mem (records : Records) {pairs : List (Text × Record)} {key : Text}
    (absent : key ∉ pairs.map (·.1)) : records.putAll pairs key = records key := by
  induction pairs generalizing records with
  | nil => rfl
  | cons pair pairs ih =>
      rw [List.map_cons, List.mem_cons, not_or] at absent
      change (records.put pair.1 pair.2).putAll pairs key = records key
      rw [ih _ absent.2]
      exact if_neg absent.1

/-- What was put under a key does not depend on what was there before. -/
theorem putAll_congr (records records' : Records) {pairs : List (Text × Record)} {key : Text}
    (member : key ∈ pairs.map (·.1)) : records.putAll pairs key = records'.putAll pairs key := by
  induction pairs generalizing records records' with
  | nil => cases member
  | cons pair pairs ih =>
      change (records.put pair.1 pair.2).putAll pairs key =
        (records'.put pair.1 pair.2).putAll pairs key
      by_cases later : key ∈ pairs.map (·.1)
      · exact ih _ _ later
      · rw [List.map_cons, List.mem_cons] at member
        have same : key = pair.1 := member.resolve_right later
        rw [putAll_of_not_mem _ later, putAll_of_not_mem _ later]
        unfold put
        rw [if_pos same, if_pos same]

/-- Of the records under the keys of what was put, only that is left. -/
theorem only_putAll (records : Records) {pairs : List (Text × Record)} {keys : List Text}
    (same : pairs.map (·.1) = keys) : (records.putAll pairs).only keys = empty.putAll pairs := by
  funext key
  unfold only
  split
  · next member =>
      apply putAll_congr
      rw [same]
      exact List.contains_iff_mem.mp member
  · next absent =>
      have outside : key ∉ pairs.map (·.1) := by
        rw [same]
        exact fun member => absent (List.contains_iff_mem.mpr member)
      rw [putAll_of_not_mem _ outside]
      rfl

theorem putAll_of_mem (records : Records) {pairs : List (Text × Record)}
    (nodup : (pairs.map (·.1)).Nodup) {key : Text} {record : Record}
    (member : (key, record) ∈ pairs) : records.putAll pairs key = some record := by
  induction pairs generalizing records with
  | nil => cases member
  | cons pair pairs ih =>
      rw [List.map_cons, List.nodup_cons] at nodup
      change (records.put pair.1 pair.2).putAll pairs key = some record
      rcases List.mem_cons.mp member with rfl | later
      · rw [putAll_of_not_mem _ nodup.1]
        exact if_pos rfl
      · exact ih _ nodup.2 later

end Records

/-- What a cache holds, and what it held when it was last written. -/
structure Ledger where
  /-- What it holds. -/
  current : Records
  /-- What its file holds. -/
  saved : Records

/-- The ledger without records. -/
def Ledger.empty : Ledger :=
  ⟨Records.empty, Records.empty⟩

/-- What may be done with a cache. -/
inductive CacheOperation where
  /-- Store findings under a key. -/
  | storeFindings (key signature fingerprint time : Text) (found : List Finding)
  /-- Store markers under a key. -/
  | storeMarkers (key signature fingerprint time : Text) (found : List Marker)
  /-- Ask for findings. -/
  | getFindings (key signature fingerprint : Text)
  /-- Ask for markers. -/
  | getMarkers (key signature fingerprint : Text)
  /-- Drop what is under none of some keys. -/
  | prune (keys : List Text)
  /-- Drop everything. -/
  | clear
  /-- Write the file. -/
  | persist
  /-- Open the file again. -/
  | reopen
  /-- Count the keys. -/
  | size

/-- What a cache replies. -/
inductive CacheReply where
  /-- Nothing in particular. -/
  | done
  /-- Findings, if there are any for the question. -/
  | findings (found : Option (List Finding))
  /-- Markers, if there are any for the question. -/
  | markers (found : Option (List Marker))
  /-- A number of keys. -/
  | number (n : Nat)
  /-- The file cannot be written. -/
  | refused (error : FileWriteError)
  /-- The file cannot be opened. -/
  | unopened (error : CacheError)

namespace Ledger

/-- A ledger before an operation, the reply, and the ledger afterwards. -/
inductive Step (ledger : Ledger) : CacheOperation → CacheReply → Ledger → Prop where
  | storeFindings (key signature fingerprint time : Text) (found : List Finding) :
      Step ledger (.storeFindings key signature fingerprint time found) .done
        { ledger with current := ledger.current.put key ⟨signature, fingerprint, .findings found⟩ }
  | storeMarkers (key signature fingerprint time : Text) (found : List Marker) :
      Step ledger (.storeMarkers key signature fingerprint time found) .done
        { ledger with current := ledger.current.put key ⟨signature, fingerprint, .markers found⟩ }
  | getFindings (key signature fingerprint : Text) :
      Step ledger (.getFindings key signature fingerprint)
        (.findings (ledger.current.findings key signature fingerprint)) ledger
  | getMarkers (key signature fingerprint : Text) :
      Step ledger (.getMarkers key signature fingerprint)
        (.markers (ledger.current.markers key signature fingerprint)) ledger
  | prune (keys : List Text) :
      Step ledger (.prune keys) (.number (ledger.current.keys \ {key | key ∈ keys}).ncard)
        { ledger with current := ledger.current.only keys }
  | clear : Step ledger .clear .done { ledger with current := Records.empty }
  | persist : Step ledger .persist .done { ledger with saved := ledger.current.joined }
  | refuse (error : FileWriteError) : Step ledger .persist (.refused error) ledger
  | reopen : Step ledger .reopen .done { ledger with current := ledger.saved }
  | size : Step ledger .size (.number ledger.current.keys.ncard) ledger

/-- The replies to some operations, one after the other. -/
inductive Replies : Ledger → List CacheOperation → List CacheReply → Prop where
  | nil (ledger : Ledger) : Replies ledger [] []
  | cons {ledger after : Ledger} {operation : CacheOperation} {reply : CacheReply}
      {operations : List CacheOperation} {replies : List CacheReply}
      (step : ledger.Step operation reply after) (others : Replies after operations replies) :
      Replies ledger (operation :: operations) (reply :: replies)

end Ledger

/-! ## The cache itself -/

namespace ScanCache

/-- The reply of a cache to an operation, and the cache and the disk afterwards. -/
def perform (path : Path) (cache : ScanCache) (disk : Disk) :
    CacheOperation → CacheReply × ScanCache × Disk
  | .storeFindings key signature fingerprint time found =>
    (.done, cache.keepFindings key signature fingerprint time found, disk)
  | .storeMarkers key signature fingerprint time found =>
    (.done, cache.keepMarkers key signature fingerprint time found, disk)
  | .getFindings key signature fingerprint =>
    (.findings ((cache.findings key signature fingerprint).map (List.map StoredFinding.finding)),
      cache, disk)
  | .getMarkers key signature fingerprint =>
    (.markers ((cache.markers key signature fingerprint).map (List.map StoredMarker.marker)),
      cache, disk)
  | .prune keys => (.number (cache.staleCount keys), cache.prune keys, disk)
  | .clear => (.done, cache.clear, disk)
  | .persist =>
    match cache.persist disk with
    | (disk, .ok cache) => (.done, cache, disk)
    | (disk, .error error) => (.refused error, cache, disk)
  | .reopen =>
    match openAt (some path) disk with
    | .ok (cache, _) => (.done, cache, disk)
    | .error error => (.unopened error, cache, disk)
  | .size => (.number cache.size, cache, disk)

/-- The replies of a cache to some operations, one after the other. -/
def replies (path : Path) (cache : ScanCache) (disk : Disk) : List CacheOperation → List CacheReply
  | [] => []
  | operation :: operations =>
    match cache.perform path disk operation with
    | (reply, cache, disk) => reply :: replies path cache disk operations

end ScanCache

/-- An operation that stores under a key, a signature and a fingerprint without surrogates, and whose key
is one of those for findings if it is about findings, and none of them if it is about markers. -/
def CacheOperation.IsTame (forFindings : Text → Prop) : CacheOperation → Prop
  | .storeFindings key signature fingerprint _ _ =>
    (key.hasSurrogate = false ∧ signature.hasSurrogate = false ∧
      fingerprint.hasSurrogate = false) ∧ forFindings key
  | .storeMarkers key signature fingerprint _ _ =>
    (key.hasSurrogate = false ∧ signature.hasSurrogate = false ∧
      fingerprint.hasSurrogate = false) ∧ ¬ forFindings key
  | .getFindings key _ _ => forFindings key
  | .getMarkers key _ _ => ¬ forFindings key
  | _ => True

/-- An operation that stores no line with too many digits to be written. -/
def CacheOperation.FitsLines : CacheOperation → Prop
  | .storeFindings _ _ _ _ found => ∀ finding ∈ found, FitsLine finding.line
  | .storeMarkers _ _ _ _ found => ∀ marker ∈ found, FitsLine marker.line
  | _ => True

/-! ## Counting keys -/

namespace EntriesHold

variable {entries : Dictionary CacheEntry} {records : Records}

/-- A cache has as many entries as there are keys. -/
theorem length_eq (held : EntriesHold entries records) : entries.length = records.keys.ncard := by
  have same : records.keys = ((Dictionary.keys entries).toFinset : Set Text) := by
    ext key
    rw [List.coe_toFinset]
    exact held.isSome_iff key
  rw [same, Set.ncard_coe_finset, List.toFinset_card_of_nodup held.nodup, Dictionary.keys,
    List.length_map]

/-- The entries that are under none of some keys are counted. -/
theorem countP_eq (held : EntriesHold entries records) (keys : List Text) :
    (entries.countP fun (key, _) => !keys.contains key) =
      (records.keys \ {key | key ∈ keys}).ncard := by
  have others := (held.filter fun key => !keys.contains key).length_eq
  rw [← List.countP_eq_length_filter] at others
  rw [others]
  congr 1
  ext key
  simp only [Records.keys, Set.mem_ofPred_eq, Set.mem_sdiff]
  by_cases mem : key ∈ keys <;> simp [mem]

/-- If no entry is under other keys, no record is. -/
theorem only_eq_self {cache : ScanCache} (held : EntriesHold cache.entries records)
    {keys : List Text} (none : cache.staleCount keys = 0) : records.only keys = records := by
  funext key
  rw [Records.only]
  split
  · rfl
  · next dropped =>
      cases found : records key with
      | none => rfl
      | some record =>
          obtain ⟨entry, isEntry, _⟩ := held.get?_eq_some found
          have counted := List.countP_eq_zero.mp none (key, entry)
            (Dictionary.mem_of_get?_eq_some isEntry)
          exact absurd counted (by simpa using dropped)

theorem prune {cache : ScanCache} (held : EntriesHold cache.entries records) (keys : List Text) :
    EntriesHold (cache.prune keys).entries (records.only keys) := by
  rw [ScanCache.prune]
  split
  · next none =>
      rw [held.only_eq_self none]
      exact held
  · exact held.filter fun key => keys.contains key

end EntriesHold

/-! ## What is kept and found -/

namespace ScanCache

theorem holds_keepFindings (signature fingerprint time : Text) (found : List Finding) :
    CacheEntry.Holds
      ⟨.string signature, .string fingerprint, .array (found.map Finding.toJson),
        [("updated_at", .string time)]⟩ ⟨signature, fingerprint, .findings found⟩ where
  signature := rfl
  fingerprint := rfl
  results := ⟨_, rfl, by
    change List.Forall₂ _ _ (found.map Finding.members)
    rw [List.forall₂_map_left_iff, List.forall₂_map_right_iff, List.forall₂_same]
    exact fun finding _ => hasMembers_object finding.members⟩
  others := ⟨time, rfl⟩

theorem holds_keepMarkers (signature fingerprint time : Text) (found : List Marker) :
    CacheEntry.Holds
      ⟨.string signature, .string fingerprint, .array (found.map Marker.toJson),
        [("updated_at", .string time)]⟩ ⟨signature, fingerprint, .markers found⟩ where
  signature := rfl
  fingerprint := rfl
  results := ⟨_, rfl, by
    change List.Forall₂ _ _ (found.map Marker.members)
    rw [List.forall₂_map_left_iff, List.forall₂_map_right_iff, List.forall₂_same]
    exact fun marker _ => hasMembers_object marker.members⟩
  others := ⟨time, rfl⟩

/-- What is found under a key is what its record says. -/
theorem kept?_eq {α β : Type} {ofJson? : Value → Option β} {read : β → α} {members : α → Object}
    (each : ∀ value x, value.HasMembers (members x) → (ofJson? value).map read = some x)
    {cache : ScanCache} {key : Text} {entry : CacheEntry} {record : Record} {found : List α}
    (isEntry : cache.entries.get? key = some entry) (holds : entry.Holds record)
    (isFound : record.payload.objects = found.map members) (signature fingerprint : Text) :
    (cache.kept? ofJson? key signature fingerprint).map (List.map read) =
      if record.signature = signature ∧ record.fingerprint = fingerprint then some found else none := by
  obtain ⟨items, isArray, all⟩ := holds.results
  rw [isFound] at all
  have decoded := CacheEntry.Holds.mapM_ofJson? each all
  rw [kept?]
  simp only [Option.bind_eq_bind, isEntry, Option.bind_some]
  by_cases isFor : record.signature = signature ∧ record.fingerprint = fingerprint
  · rw [(holds.isFor_iff signature fingerprint).mpr isFor, if_pos isFor]
    simpa [guard, isArray, Value.array?] using decoded
  · have isNot : entry.isFor signature fingerprint = false := by
      rw [← Bool.not_eq_true, holds.isFor_iff]
      exact isFor
    rw [isNot, if_neg isFor]
    simp [guard]

end ScanCache

/-! ## The ledger of a cache -/

/-- Findings are under keys for findings, and markers under others. -/
def Records.Sorted (forFindings : Text → Prop) (records : Records) : Prop :=
  ∀ key record, records key = some record →
    match record.payload with
    | .findings _ => forFindings key
    | .markers _ => ¬ forFindings key

theorem Records.Sorted.joined {forFindings : Text → Prop} {records : Records}
    (sorted : records.Sorted forFindings) : records.joined.Sorted forFindings := by
  intro key record found
  obtain ⟨before, held, rfl⟩ := Option.map_eq_some_iff.mp found
  have beforeSorted := sorted key before held
  rw [Record.joined]
  cases payload : before.payload with
  | findings found => simpa [payload, Payload.joined] using beforeSorted
  | markers found => simpa [payload, Payload.joined] using beforeSorted

/-- A cache and its file hold what a ledger says.  If the cache does not count as changed, its file holds
what the cache holds, as a file keeps it. -/
structure Ledger.Describes (ledger : Ledger) (forFindings : Text → Prop) (path : Path)
    (cache : ScanCache) (disk : Disk) : Prop where
  location : cache.location = some path
  entries : EntriesHold cache.entries ledger.current
  tame : ledger.current.Tame
  sorted : ledger.current.Sorted forFindings
  file : ScanCache.FileHolds disk path ledger.saved
  savedSorted : ledger.saved.Sorted forFindings
  settled : cache.changed = false → ledger.saved = ledger.current.joined

namespace Ledger.Describes

open ScanCache

variable {ledger : Ledger} {forFindings : Text → Prop} {path : Path} {cache : ScanCache}
  {disk : Disk}

theorem joined_of_hasSurrogate {key signature fingerprint : Text}
    (whole : key.hasSurrogate = false ∧ signature.hasSurrogate = false ∧
      fingerprint.hasSurrogate = false) :
    joinSurrogates key = key ∧ joinSurrogates signature = signature ∧
      joinSurrogates fingerprint = fingerprint :=
  ⟨joinSurrogates_of_hasSurrogate whole.1, joinSurrogates_of_hasSurrogate whole.2.1,
    joinSurrogates_of_hasSurrogate whole.2.2⟩

/-- A record that is stored. -/
theorem store (describes : ledger.Describes forFindings path cache disk) {key : Text}
    {entry : CacheEntry} {record : Record} (holds : entry.Holds record)
    (tame : joinSurrogates key = key ∧ joinSurrogates record.signature = record.signature ∧
      joinSurrogates record.fingerprint = record.fingerprint)
    (suits : match record.payload with
      | .findings _ => forFindings key
      | .markers _ => ¬ forFindings key) :
    Describes { ledger with current := ledger.current.put key record } forFindings path
      { cache with entries := cache.entries.put key entry, changed := true } disk where
  location := describes.location
  entries := describes.entries.put key holds
  tame := by
    intro k r found
    change (if k = key then some record else ledger.current k) = some r at found
    split at found
    · next same =>
        cases found
        rw [same]
        exact tame
    · exact describes.tame k r found
  sorted := by
    intro k r found
    change (if k = key then some record else ledger.current k) = some r at found
    split at found
    · next same =>
        cases found
        rw [same]
        exact suits
    · exact describes.sorted k r found
  file := describes.file
  savedSorted := describes.savedSorted
  settled := fun unchanged => absurd unchanged (by simp)

/-- Records of which some are dropped. -/
theorem prune (describes : ledger.Describes forFindings path cache disk) (keys : List Text) :
    Describes { ledger with current := ledger.current.only keys } forFindings path
      (cache.prune keys) disk where
  location := by
    rw [ScanCache.prune]
    split <;> exact describes.location
  entries := describes.entries.prune keys
  tame := by
    intro key record found
    change (if keys.contains key then ledger.current key else none) = some record at found
    split at found
    · exact describes.tame key record found
    · cases found
  sorted := by
    intro key record found
    change (if keys.contains key then ledger.current key else none) = some record at found
    split at found
    · exact describes.sorted key record found
    · cases found
  file := describes.file
  savedSorted := describes.savedSorted
  settled := by
    intro unchanged
    rw [ScanCache.prune] at unchanged
    split at unchanged
    · next none =>
        rw [describes.entries.only_eq_self none]
        exact describes.settled unchanged
    · cases unchanged

theorem clear (describes : ledger.Describes forFindings path cache disk) :
    Describes { ledger with current := Records.empty } forFindings path cache.clear disk where
  location := describes.location
  entries := EntriesHold.nil
  tame := fun _ _ found => by cases found
  sorted := fun _ _ found => by cases found
  file := describes.file
  savedSorted := describes.savedSorted
  settled := fun unchanged => absurd unchanged (by simp [ScanCache.clear])

/-- A cache is written, or its file stays as it is. -/
theorem persist (describes : ledger.Describes forFindings path cache disk) :
    (∃ disk' cache', cache.persist disk = (disk', .ok cache') ∧
      Describes { ledger with saved := ledger.current.joined } forFindings path cache' disk') ∨
    ∃ disk' error, cache.persist disk = (disk', .error error) ∧
      Describes ledger forFindings path cache disk' := by
  cases changed : cache.changed with
  | false =>
      have same : cache.persist disk = (disk, .ok cache) := by
        rw [ScanCache.persist, describes.location, changed]
      refine Or.inl ⟨disk, cache, same, ?_⟩
      rw [← describes.settled changed]
      exact describes
  | true =>
      rcases persist_cases describes.location changed disk with
        ⟨disk', error, refused, touches⟩ |
        ⟨disk', bytes, stamp, written, writable, touches, encoded, seen⟩
      · refine Or.inr ⟨disk', error, refused, ?_⟩
        refine { describes with file := describes.file.of_touches touches ?_ }
        exact fun mem => place_stagingPath_ne path (List.mem_singleton.mp mem).symm
      · exact Or.inl ⟨disk', _, written, {
          location := describes.location
          entries := describes.entries
          tame := describes.tame
          sorted := describes.sorted
          file := FileHolds.written seen describes.entries describes.tame writable encoded
          savedSorted := describes.sorted.joined
          settled := fun _ => rfl }⟩

/-- A cache is opened from its file. -/
theorem openAt_of_file {saved : Records} (file : FileHolds disk path saved)
    (sorted : saved.Sorted forFindings) :
    ∃ cache log, openAt (some path) disk = .ok (cache, log) ∧
      Describes ⟨saved, saved⟩ forFindings path cache disk := by
  obtain ⟨entries, log, loaded, held⟩ := file.load_eq_ok
  refine ⟨⟨some path, entries, false⟩, log, by rw [openAt, loaded]; rfl, {
    location := rfl
    entries := held
    tame := file.tame
    sorted := sorted
    file := file
    savedSorted := sorted
    settled := fun _ => file.joined_eq.symm }⟩

/-- A cache is opened again. -/
theorem reopen (describes : ledger.Describes forFindings path cache disk) :
    ∃ cache' log, openAt (some path) disk = .ok (cache', log) ∧
      Describes { ledger with current := ledger.saved } forFindings path cache' disk :=
  openAt_of_file describes.file describes.savedSorted

theorem findings_eq (describes : ledger.Describes forFindings path cache disk) {key : Text}
    (suits : forFindings key) (signature fingerprint : Text) :
    (cache.findings key signature fingerprint).map (List.map StoredFinding.finding) =
      ledger.current.findings key signature fingerprint := by
  cases found : ledger.current key with
  | none =>
      rw [ScanCache.findings, kept?, describes.entries.get?_eq_none found, Records.findings, found]
      rfl
  | some record =>
      obtain ⟨entry, isEntry, holds⟩ := describes.entries.get?_eq_some found
      have sorted := describes.sorted key record found
      obtain ⟨s, f, payload⟩ := record
      cases payload with
      | markers list => exact absurd suits sorted
      | findings list =>
          rw [ScanCache.findings, kept?_eq (fun _ _ => Finding.ofJson?_of_hasMembers) isEntry holds rfl,
            Records.findings, found]

theorem markers_eq (describes : ledger.Describes forFindings path cache disk) {key : Text}
    (suits : ¬ forFindings key) (signature fingerprint : Text) :
    (cache.markers key signature fingerprint).map (List.map StoredMarker.marker) =
      ledger.current.markers key signature fingerprint := by
  cases found : ledger.current key with
  | none =>
      rw [ScanCache.markers, kept?, describes.entries.get?_eq_none found, Records.markers, found]
      rfl
  | some record =>
      obtain ⟨entry, isEntry, holds⟩ := describes.entries.get?_eq_some found
      have sorted := describes.sorted key record found
      obtain ⟨s, f, payload⟩ := record
      cases payload with
      | findings list => exact absurd sorted suits
      | markers list =>
          rw [ScanCache.markers, kept?_eq (fun _ _ => Marker.ofJson?_of_hasMembers) isEntry holds rfl,
            Records.markers, found]

/-- Every operation on a cache is a step of its ledger. -/
theorem perform (describes : ledger.Describes forFindings path cache disk)
    {operation : CacheOperation} (tame : operation.IsTame forFindings) :
    ∃ reply cache' disk' ledger', cache.perform path disk operation = (reply, cache', disk') ∧
      ledger.Step operation reply ledger' ∧ ledger'.Describes forFindings path cache' disk' := by
  cases operation with
  | storeFindings key signature fingerprint time found =>
      exact ⟨_, _, _, _, rfl, Step.storeFindings key signature fingerprint time found,
        describes.store (holds_keepFindings signature fingerprint time found)
          (joined_of_hasSurrogate tame.1) tame.2⟩
  | storeMarkers key signature fingerprint time found =>
      exact ⟨_, _, _, _, rfl, Step.storeMarkers key signature fingerprint time found,
        describes.store (holds_keepMarkers signature fingerprint time found)
          (joined_of_hasSurrogate tame.1) tame.2⟩
  | getFindings key signature fingerprint =>
      refine ⟨_, _, _, _, rfl, ?_, describes⟩
      rw [describes.findings_eq tame]
      exact Step.getFindings key signature fingerprint
  | getMarkers key signature fingerprint =>
      refine ⟨_, _, _, _, rfl, ?_, describes⟩
      rw [describes.markers_eq tame]
      exact Step.getMarkers key signature fingerprint
  | prune keys =>
      refine ⟨_, _, _, _, rfl, ?_, describes.prune keys⟩
      rw [ScanCache.staleCount, describes.entries.countP_eq]
      exact Step.prune keys
  | clear => exact ⟨_, _, _, _, rfl, Step.clear, describes.clear⟩
  | persist =>
      rcases describes.persist with ⟨disk', cache', written, after⟩ | ⟨disk', error, refused, after⟩
      · exact ⟨_, cache', disk', _, by rw [ScanCache.perform, written], Step.persist, after⟩
      · exact ⟨_, cache, disk', _, by rw [ScanCache.perform, refused], Step.refuse error, after⟩
  | reopen =>
      obtain ⟨cache', log, opened, after⟩ := describes.reopen
      exact ⟨_, cache', disk, _, by rw [ScanCache.perform, opened], Step.reopen, after⟩
  | size =>
      refine ⟨_, _, _, _, rfl, ?_, describes⟩
      rw [ScanCache.size, describes.entries.length_eq]
      exact Step.size

/-- The replies of a cache are those of its ledger. -/
theorem replies (describes : ledger.Describes forFindings path cache disk)
    {operations : List CacheOperation} (tame : ∀ operation ∈ operations, operation.IsTame forFindings) :
    ledger.Replies operations (cache.replies path disk operations) := by
  induction operations generalizing ledger cache disk with
  | nil => exact Replies.nil ledger
  | cons operation operations ih =>
      obtain ⟨reply, cache', disk', ledger', performed, step, after⟩ :=
        describes.perform (tame operation List.mem_cons_self)
      rw [ScanCache.replies, performed]
      exact Replies.cons step
        (ih after fun other mem => tame other (List.mem_cons_of_mem operation mem))

/-- A file that is not there is described by the empty ledger. -/
theorem openAt_of_absent {path : Path} {disk : Disk} (absent : disk.view path.place = none)
    (forFindings : Text → Prop) :
    ∃ cache log, openAt (some path) disk = .ok (cache, log) ∧
      Ledger.empty.Describes forFindings path cache disk := by
  have holds : FileHolds disk path Records.empty :=
    FileHolds.absent fun content seen => by
      rw [absent] at seen
      cases seen
  exact openAt_of_file holds fun _ _ found => by cases found

end Ledger.Describes

/-! ## When the file can be written -/

/-- No line in a ledger has too many digits. -/
def Ledger.Fits (ledger : Ledger) : Prop :=
  ledger.current.Fits ∧ ledger.saved.Fits

theorem Records.Fits.put {records : Records} (fits : records.Fits) (key : Text) (record : Record)
    (recordFits : record.payload.Fits) : (records.put key record).Fits := by
  intro k r found
  rw [Records.put] at found
  split at found
  · cases found
    exact recordFits
  · exact fits k r found

theorem Records.fits_empty : Records.empty.Fits := by
  intro key record found
  cases found

theorem Ledger.Step.fits {ledger after : Ledger} {operation : CacheOperation} {reply : CacheReply}
    (step : ledger.Step operation reply after) (fits : ledger.Fits)
    (operationFits : operation.FitsLines) : after.Fits := by
  cases step with
  | storeFindings key signature fingerprint time found =>
      exact ⟨fits.1.put key ⟨signature, fingerprint, .findings found⟩ operationFits, fits.2⟩
  | storeMarkers key signature fingerprint time found =>
      exact ⟨fits.1.put key ⟨signature, fingerprint, .markers found⟩ operationFits, fits.2⟩
  | prune keys =>
      refine ⟨fun key record found => ?_, fits.2⟩
      change (if keys.contains key then ledger.current key else none) = some record at found
      split at found
      · exact fits.1 key record found
      · cases found
  | clear => exact ⟨Records.fits_empty, fits.2⟩
  | persist => exact ⟨fits.1, fits.1.joined⟩
  | reopen => exact ⟨fits.2, fits.2⟩
  | getFindings _ _ _ => exact fits
  | getMarkers _ _ _ => exact fits
  | refuse _ => exact fits
  | size => exact fits

namespace Ledger.Describes

open ScanCache

variable {ledger : Ledger} {forFindings : Text → Prop} {path : Path} {cache : ScanCache}
  {disk : Disk}

/-- Where nothing is in the way, the cache is written. -/
theorem exists_persist (describes : ledger.Describes forFindings path cache disk)
    (fits : ledger.current.Fits) (admits : Admits disk path) :
    ∃ disk' cache', cache.persist disk = (disk', .ok cache') ∧ Admits disk' path := by
  cases changed : cache.changed with
  | false =>
      exact ⟨disk, cache, by rw [ScanCache.persist, describes.location, changed], admits⟩
  | true =>
      obtain ⟨disk', written, admits'⟩ := persist_of_admits describes.location changed admits
        (describes.entries.isWritable fits) (encode_write describes.entries.floatFree_documentOf)
      exact ⟨disk', _, written, admits'⟩

/-- Where nothing is in the way, no operation is refused. -/
theorem not_refused (describes : ledger.Describes forFindings path cache disk)
    {operations : List CacheOperation}
    (tame : ∀ operation ∈ operations, operation.IsTame forFindings) (fits : ledger.Fits)
    (operationsFit : ∀ operation ∈ operations, operation.FitsLines) (admits : Admits disk path)
    (error : FileWriteError) :
    .refused error ∉ cache.replies path disk operations := by
  induction operations generalizing ledger cache disk with
  | nil => exact List.not_mem_nil
  | cons operation operations ih =>
      obtain ⟨reply, cache', disk', ledger', performed, step, after⟩ :=
        describes.perform (tame operation List.mem_cons_self)
      have stays : reply ≠ .refused error ∧ Admits disk' path := by
        cases operation with
        | persist =>
            obtain ⟨written, cache'', persisted, admits'⟩ := describes.exists_persist fits.1 admits
            rw [ScanCache.perform, persisted] at performed
            cases performed
            exact ⟨by simp, admits'⟩
        | reopen =>
            obtain ⟨cache'', log, opened, _⟩ := describes.reopen
            rw [ScanCache.perform, opened] at performed
            cases performed
            exact ⟨by simp, admits⟩
        | _ =>
            cases performed
            exact ⟨by simp, admits⟩
      rw [ScanCache.replies, performed]
      rw [List.mem_cons, not_or]
      refine ⟨stays.1.symm, ?_⟩
      exact ih after (fun other mem => tame other (List.mem_cons_of_mem operation mem))
        (step.fits fits (operationsFit operation List.mem_cons_self))
        (fun other mem => operationsFit other (List.mem_cons_of_mem operation mem)) stays.2

end Ledger.Describes

/-- A cache that is opened where no file is replies to every sequence of operations as its ledger does.
Where nothing is in the way of the file, and no line has too many digits, writing is never refused. -/
theorem ScanCache.replies_of_ledger {path : Path} {disk : Disk}
    (absent : disk.view path.place = none) (forFindings : Text → Prop)
    {operations : List CacheOperation}
    (tame : ∀ operation ∈ operations, operation.IsTame forFindings) :
    ∃ cache log, ScanCache.openAt (some path) disk = .ok (cache, log) ∧
      Ledger.empty.Replies operations (cache.replies path disk operations) ∧
      (ScanCache.Admits disk path → (∀ operation ∈ operations, operation.FitsLines) →
        ∀ error, .refused error ∉ cache.replies path disk operations) := by
  obtain ⟨cache, log, opened, describes⟩ := Ledger.Describes.openAt_of_absent absent forFindings
  refine ⟨cache, log, opened, describes.replies tame, fun admits fits error => ?_⟩
  exact describes.not_refused tame ⟨Records.fits_empty, Records.fits_empty⟩ fits admits error

/-! ### A cache in an empty directory -/

/-- An empty disk. -/
def emptyDisk : Disk :=
  ⟨.directory [], 0⟩

/-- A file of a cache in it. -/
def cachePathAtTop : Path :=
  ⟨"/", ["cache.json"]⟩

/-- Findings are stored, written, dropped, read again and asked for. -/
def storeAndReopen : List CacheOperation := [
  .storeFindings "calls:a.cs" "signature" "fingerprint" "now" [⟨"calls", "a.cs", 3, ["x"]⟩],
  .persist, .clear, .reopen, .getFindings "calls:a.cs" "signature" "fingerprint"]

theorem ScanCache.replies_of_ledger_emptyDisk :
    (emptyDisk.view cachePathAtTop.place = none ∧
      ∀ operation ∈ storeAndReopen, operation.IsTame (· = "calls:a.cs")) ∧
    ∃ cache log, ScanCache.openAt (some cachePathAtTop) emptyDisk = .ok (cache, log) ∧
      Ledger.empty.Replies storeAndReopen (cache.replies cachePathAtTop emptyDisk storeAndReopen) ∧
      ∀ error, .refused error ∉ cache.replies cachePathAtTop emptyDisk storeAndReopen := by
  have absent : emptyDisk.view cachePathAtTop.place = none := by decide
  have tame : ∀ operation ∈ storeAndReopen, operation.IsTame (· = "calls:a.cs") := by
    intro operation mem
    simp only [storeAndReopen, List.mem_cons, List.not_mem_nil, or_false] at mem
    rcases mem with rfl | rfl | rfl | rfl | rfl
    · exact ⟨⟨by decide, by decide, by decide⟩, rfl⟩
    · trivial
    · trivial
    · trivial
    · rfl
  have fits : ∀ operation ∈ storeAndReopen, operation.FitsLines := by
    intro operation mem
    simp only [storeAndReopen, List.mem_cons, List.not_mem_nil, or_false] at mem
    rcases mem with rfl | rfl | rfl | rfl | rfl
    · intro finding mem
      rw [List.mem_singleton.mp mem]
      exact (isSome_write?_iff 3).mpr (by decide)
    · trivial
    · trivial
    · trivial
    · trivial
  have admits : ScanCache.Admits emptyDisk cachePathAtTop := {
    named := by decide
    plain := by decide
    around := ⟨rfl, by decide, by
      intro front isFront content seen
      rw [List.prefix_nil.mp isFront] at seen
      cases seen⟩
    free := by decide
    stagingFree := by decide }
  obtain ⟨cache, log, opened, replies, written⟩ :=
    ScanCache.replies_of_ledger absent (· = "calls:a.cs") tame
  exact ⟨⟨absent, tame⟩, cache, log, opened, replies, written admits fits⟩

end ClassHarvest
