import ClassHarvest.Cache.ScanCache
import ClassHarvest.Proofs.Cache.Stored

/-!
# Records of the cache of scans

What is stored under a key is a record: a signature, a fingerprint, and findings or markers.  The entries
of a cache hold records by key.  Records that are written to a file and read again have the same keys, and
under each of them is the same record with the pairs of surrogates in its findings or markers joined.
-/

namespace ClassHarvest

open Json Gathering

/-! ## Records -/

/-- What is found under a key. -/
inductive Payload where
  /-- Findings. -/
  | findings (found : List Finding)
  /-- Markers. -/
  | markers (found : List Marker)
deriving DecidableEq, Repr

namespace Payload

/-- What becomes of a payload in a file. -/
def joined : Payload → Payload
  | .findings found => .findings (found.map Finding.joined)
  | .markers found => .markers (found.map Marker.joined)

/-- The members of the objects that stand for a payload. -/
def objects : Payload → List Object
  | .findings found => found.map Finding.members
  | .markers found => found.map Marker.members

@[simp]
theorem joined_joined (payload : Payload) : payload.joined.joined = payload.joined := by
  cases payload <;> simp [joined]

theorem floatFree_of_mem_objects {payload : Payload} {members : Object}
    (mem : members ∈ payload.objects) : ∀ member ∈ members, member.2.FloatFree := by
  cases payload with
  | findings found =>
      obtain ⟨finding, _, rfl⟩ := List.mem_map.mp mem
      exact finding.floatFree_members
  | markers found =>
      obtain ⟨marker, _, rfl⟩ := List.mem_map.mp mem
      exact marker.floatFree_members

end Payload

/-- A payload with what it depends on. -/
structure Record where
  /-- The signature of what found it. -/
  signature : Text
  /-- The fingerprint of the input. -/
  fingerprint : Text
  /-- What was found. -/
  payload : Payload
deriving DecidableEq, Repr

/-- What becomes of a record in a file. -/
def Record.joined (record : Record) : Record :=
  { record with payload := record.payload.joined }

@[simp]
theorem Record.joined_joined (record : Record) : record.joined.joined = record.joined := by
  simp [Record.joined]

/-- Records by key. -/
abbrev Records := Text → Option Record

namespace Records

/-- No records. -/
def empty : Records :=
  fun _ => none

/-- What becomes of records in a file. -/
def joined (records : Records) : Records :=
  fun key => (records key).map Record.joined

@[simp]
theorem joined_joined (records : Records) : records.joined.joined = records.joined := by
  funext key
  simp [joined, Function.comp_def]

/-- Keys, signatures and fingerprints hold no pairs of surrogates. -/
def Tame (records : Records) : Prop :=
  ∀ key record, records key = some record →
    joinSurrogates key = key ∧ joinSurrogates record.signature = record.signature ∧
      joinSurrogates record.fingerprint = record.fingerprint

theorem Tame.joined {records : Records} (tame : records.Tame) : records.joined.Tame := by
  intro key record found
  obtain ⟨before, held, rfl⟩ := Option.map_eq_some_iff.mp found
  exact tame key before held

end Records

/-! ## Entries -/

namespace CacheEntry

/-- The name of the member that says when an entry was stored. -/
def timeName : Text := "updated_at"

/-- An entry that holds a record. -/
structure Holds (entry : CacheEntry) (record : Record) : Prop where
  signature : entry.signature = .string record.signature
  fingerprint : entry.fingerprint = .string record.fingerprint
  results : ∃ items, entry.results = .array items ∧
    List.Forall₂ Value.HasMembers items record.payload.objects
  others : ∃ time, entry.others = [(timeName, .string time)]

/-- The members of the object that stands for an entry. -/
def members (record : Record) (items : List Value) (time : Text) : Object := [
  ("signature", .string record.signature), ("fingerprint", .string record.fingerprint),
  ("results", .array items), (timeName, .string time)]

theorem tidyNames_members (record : Record) (items : List Value) (time : Text) :
    TidyNames (members record items time).keys where
  nodup := by
    change (["signature", "fingerprint", "results", timeName] : List Text).Nodup
    decide
  joined := by
    change ∀ name ∈ (["signature", "fingerprint", "results", timeName] : List Text),
      joinSurrogates name = name
    decide

/-- The time is all that an entry holds beside its record. -/
theorem filter_members {given : Object} {signature fingerprint results time : Value}
    (perm : given.Perm [("signature", signature), ("fingerprint", fingerprint), ("results", results),
      (timeName, time)]) :
    given.filter (fun (name, _) => !memberNames.contains name) = [(timeName, time)] :=
  List.perm_singleton.mp (perm.filter _)

namespace Holds

variable {entry : CacheEntry} {record : Record}

theorem toJson_eq (held : entry.Holds record) :
    ∃ items time, List.Forall₂ Value.HasMembers items record.payload.objects ∧
      entry.toJson = .object (members record items time) := by
  obtain ⟨items, isArray, all⟩ := held.results
  obtain ⟨time, others⟩ := held.others
  refine ⟨items, time, all, ?_⟩
  rw [toJson, held.signature, held.fingerprint, isArray, others]
  rfl

theorem exists_hasMembers {items : List Value} {objects : List Object}
    (all : List.Forall₂ Value.HasMembers items objects) {item : Value} (mem : item ∈ items) :
    ∃ members ∈ objects, item.HasMembers members := by
  induction all with
  | nil => cases mem
  | cons first _ ih =>
      rcases List.mem_cons.mp mem with rfl | mem
      · exact ⟨_, List.mem_cons_self, first⟩
      · obtain ⟨members, inside, held⟩ := ih mem
        exact ⟨members, List.mem_cons_of_mem _ inside, held⟩

theorem floatFree (held : entry.Holds record) : entry.toJson.FloatFree := by
  obtain ⟨items, time, all, isObject⟩ := held.toJson_eq
  rw [isObject]
  refine Value.FloatFree.object fun member mem => ?_
  simp only [members, List.mem_cons, List.not_mem_nil, or_false] at mem
  rcases mem with rfl | rfl | rfl | rfl
  · exact Value.FloatFree.string _
  · exact Value.FloatFree.string _
  · refine Value.FloatFree.array fun item mem => ?_
    obtain ⟨members, inside, isObject⟩ := exists_hasMembers all mem
    exact isObject.floatFree (Payload.floatFree_of_mem_objects inside)
  · exact Value.FloatFree.string _

/-- The items of a payload that are read again stand for the payload as a file keeps it. -/
theorem forall₂_reread {payload : Payload} {items found : List Value}
    (all : List.Forall₂ Value.HasMembers items payload.objects)
    (read : items.mapM Value.reread = .ok found) :
    List.Forall₂ Value.HasMembers found payload.joined.objects := by
  have step {α : Type} (members : α → Object) (joined : α → α)
      (tidy : ∀ x, TidyNames (members x).keys)
      (kept : ∀ x members', (members x).mapM rereadOf = .ok members' → members' = members (joined x))
      (xs : List α) {items found : List Value}
      (all : List.Forall₂ Value.HasMembers items (xs.map members))
      (read : items.mapM Value.reread = .ok found) :
      List.Forall₂ Value.HasMembers found ((xs.map joined).map members) := by
    induction xs generalizing items found with
    | nil =>
        cases all
        rw [mapM_eq_nil_iff] at read
        rw [read]
        exact List.Forall₂.nil
    | cons x xs ih =>
        rw [List.map_cons] at all
        cases all with
        | cons first others =>
            obtain ⟨w, ws, firstRead, othersRead, rfl⟩ := mapM_eq_cons_iff.mp read
            obtain ⟨members', mapped, held⟩ := first.reread (tidy x) firstRead
            rw [kept x members' mapped] at held
            exact List.Forall₂.cons held (ih others othersRead)
  cases payload with
  | findings list =>
      exact step Finding.members Finding.joined Finding.tidyNames_members
        (fun _ _ mapped => Finding.members_joined mapped) list all read
  | markers list =>
      exact step Marker.members Marker.joined Marker.tidyNames_members
        (fun _ _ mapped => Marker.members_joined mapped) list all read

/-- An entry that is written to a file and read again. -/
theorem ofJson?_reread (held : entry.Holds record)
    (signature : joinSurrogates record.signature = record.signature)
    (fingerprint : joinSurrogates record.fingerprint = record.fingerprint) {w : Value}
    (read : entry.toJson.reread = .ok w) :
    ∃ entry', CacheEntry.ofJson? w = some entry' ∧ entry'.Holds record.joined := by
  obtain ⟨items, time, all, isObject⟩ := held.toJson_eq
  rw [isObject] at read
  have names := tidyNames_members record items time
  obtain ⟨members', mapped, read⟩ := (hasMembers_object _).reread names read
  obtain ⟨_, _, first, behind₁, rfl⟩ := mapM_eq_cons_iff.mp mapped
  obtain ⟨_, _, second, behind₂, rfl⟩ := mapM_eq_cons_iff.mp behind₁
  obtain ⟨_, _, third, behind₃, rfl⟩ := mapM_eq_cons_iff.mp behind₂
  obtain ⟨_, _, fourth, behind₄, rfl⟩ := mapM_eq_cons_iff.mp behind₃
  rw [mapM_eq_nil_iff] at behind₄
  obtain ⟨_, signatureRead, rfl⟩ := (rereadOf_eq_ok_iff (by decide)).mp first
  obtain ⟨_, fingerprintRead, rfl⟩ := (rereadOf_eq_ok_iff (by decide)).mp second
  obtain ⟨_, resultsRead, rfl⟩ := (rereadOf_eq_ok_iff (by decide)).mp third
  obtain ⟨_, timeRead, rfl⟩ := (rereadOf_eq_ok_iff (by decide)).mp fourth
  subst behind₄
  rw [reread_array] at resultsRead
  cases itemsRead : items.mapM Value.reread with
  | error n => simp [itemsRead, Except.map] at resultsRead
  | ok found =>
      rw [itemsRead] at resultsRead
      cases signatureRead
      cases fingerprintRead
      cases resultsRead
      cases timeRead
      obtain ⟨given, isObject', same, perm⟩ := read.object? names.nodup
      refine ⟨⟨.string (joinSurrogates record.signature), .string (joinSurrogates record.fingerprint),
        .array found, [(timeName, .string (joinSurrogates time))]⟩, ?_, ?_⟩
      · rw [CacheEntry.ofJson?, isObject']
        simp only [Option.bind_eq_bind, Option.bind_some, same, filter_members perm]
        rfl
      · exact ⟨congrArg Value.string signature, congrArg Value.string fingerprint,
          ⟨found, rfl, forall₂_reread all itemsRead⟩, ⟨_, rfl⟩⟩

/-- An entry is for the signature and the fingerprint of its record. -/
theorem isFor_iff (held : entry.Holds record) (signature fingerprint : Text) :
    entry.isFor signature fingerprint = true ↔
      record.signature = signature ∧ record.fingerprint = fingerprint := by
  simp [isFor, held.signature, held.fingerprint, Value.string?]

theorem mapM_ofJson? {α β : Type} {ofJson? : Value → Option β} {read : β → α} {members : α → Object}
    (each : ∀ value x, value.HasMembers (members x) → (ofJson? value).map read = some x)
    {xs : List α} {items : List Value}
    (all : List.Forall₂ Value.HasMembers items (xs.map members)) :
    (items.mapM ofJson?).map (List.map read) = some xs := by
  induction xs generalizing items with
  | nil =>
      cases all
      rfl
  | cons x xs ih =>
      rw [List.map_cons] at all
      cases all with
      | cons first others =>
          rename_i item items
          have firstRead := each item x first
          have othersRead := ih others
          rw [Option.map_eq_some_iff] at firstRead othersRead
          obtain ⟨y, isRead, rfl⟩ := firstRead
          obtain ⟨ys, areRead, rfl⟩ := othersRead
          rw [List.mapM_cons, isRead, areRead]
          rfl

end Holds
end CacheEntry

/-! ## The entries of a cache -/

/-- The entries hold some records, each under its key. -/
structure EntriesHold (entries : Dictionary CacheEntry) (records : Records) : Prop where
  nodup : entries.keys.Nodup
  each : ∀ key, Option.Rel CacheEntry.Holds (entries.get? key) (records key)

namespace EntriesHold

variable {entries : Dictionary CacheEntry} {records : Records}

theorem nil : EntriesHold [] Records.empty :=
  ⟨List.nodup_nil, fun _ => Option.Rel.none⟩

theorem isSome_iff (held : EntriesHold entries records) (key : Text) :
    (records key).isSome = true ↔ key ∈ entries.keys := by
  rw [← Dictionary.isSome_get?_iff]
  have rel := held.each key
  cases found : entries.get? key with
  | none =>
      rw [found] at rel
      generalize records key = r at rel ⊢
      cases rel
      rfl
  | some entry =>
      rw [found] at rel
      generalize records key = r at rel ⊢
      cases rel
      rfl

theorem get?_eq_some (held : EntriesHold entries records) {key : Text} {record : Record}
    (found : records key = some record) :
    ∃ entry, entries.get? key = some entry ∧ entry.Holds record := by
  have rel := held.each key
  rw [found] at rel
  generalize entries.get? key = e at rel ⊢
  cases rel with
  | some holds => exact ⟨_, rfl, holds⟩

theorem of_get?_eq_some (held : EntriesHold entries records) {key : Text} {entry : CacheEntry}
    (found : entries.get? key = some entry) :
    ∃ record, records key = some record ∧ entry.Holds record := by
  have rel := held.each key
  rw [found] at rel
  generalize records key = r at rel ⊢
  cases rel with
  | some holds => exact ⟨_, rfl, holds⟩

theorem get?_eq_none (held : EntriesHold entries records) {key : Text}
    (absent : records key = none) : entries.get? key = none := by
  have rel := held.each key
  rw [absent] at rel
  generalize entries.get? key = e at rel ⊢
  cases rel
  rfl

theorem put (held : EntriesHold entries records) (key : Text) {entry : CacheEntry} {record : Record}
    (holds : entry.Holds record) :
    EntriesHold (entries.put key entry) (fun k => if k = key then some record else records k) := by
  refine ⟨Dictionary.nodup_keys_put held.nodup key entry, fun k => ?_⟩
  rw [Dictionary.get?_put]
  by_cases same : key = k
  · subst same
    rw [if_pos rfl, if_pos rfl]
    exact Option.Rel.some holds
  · rw [if_neg same, if_neg (Ne.symm same)]
    exact held.each k

theorem filter (held : EntriesHold entries records) (p : Text → Bool) :
    EntriesHold (entries.filter fun (key, _) => p key)
      (fun key => if p key then records key else none) := by
  refine ⟨Dictionary.nodup_keys_filter held.nodup _, fun key => ?_⟩
  rw [Dictionary.get?_filter]
  split
  · exact held.each key
  · exact Option.Rel.none

/-! ## The document of a cache -/

theorem floatFree_documentOf (held : EntriesHold entries records) :
    (ScanCache.documentOf entries).FloatFree := by
  refine Value.FloatFree.object fun member mem => ?_
  simp only [List.mem_cons, List.not_mem_nil, or_false] at mem
  rcases mem with rfl | rfl
  · exact Value.FloatFree.int _
  · refine Value.FloatFree.object fun member mem => ?_
    obtain ⟨⟨key, entry⟩, inside, rfl⟩ := List.mem_map.mp mem
    obtain ⟨record, _, holds⟩ :=
      held.of_get?_eq_some ((Dictionary.get?_eq_some_iff held.nodup).mpr inside)
    exact holds.floatFree

theorem tidyNames_keys (held : EntriesHold entries records) (tame : records.Tame) :
    TidyNames entries.keys where
  nodup := held.nodup
  joined := by
    intro key mem
    obtain ⟨record, found⟩ := Option.isSome_iff_exists.mp ((held.isSome_iff key).mpr mem)
    exact (tame key record found).1

/-- The entries in a document of the version of the program. -/
theorem entriesOf_eq {w inner : Value} {outer given : Dictionary Value}
    (isOuter : w.object? = some outer)
    (version : outer.get? "version" = some (.int ScanCache.formatVersion))
    (isInner : outer.get? "entries" = some inner) (isGiven : inner.object? = some given) :
    ScanCache.entriesOf w =
      given.filterMap fun (key, value) => (CacheEntry.ofJson? value).map (key, ·) := by
  rw [ScanCache.entriesOf, isOuter]
  simp only [Option.bind_eq_bind, Option.bind_some, version, isInner, isGiven]
  rfl

/-- The records in a file are those that were written, as a file keeps them. -/
theorem entriesOf_reread (held : EntriesHold entries records) (tame : records.Tame) {w : Value}
    (read : (ScanCache.documentOf entries).reread = .ok w) :
    EntriesHold (ScanCache.entriesOf w) records.joined := by
  have tidy := held.tidyNames_keys tame
  rw [← Dictionary.keys_map CacheEntry.toJson entries] at tidy
  obtain ⟨outer, inner, given, isOuter, version, isInner, isGiven, givenNodup, rel⟩ :=
    exists_members_of_reread ⟨by decide, by decide⟩ tidy read
  rw [entriesOf_eq isOuter version isInner isGiven]
  refine ⟨Dictionary.nodup_keys_filterMap givenNodup CacheEntry.ofJson?, fun key => ?_⟩
  rw [Dictionary.get?_filterMap givenNodup, Records.joined]
  have rel := rel key
  rw [Dictionary.get?_map] at rel
  cases isRecord : records key with
  | none =>
      rw [held.get?_eq_none isRecord] at rel
      generalize Dictionary.get? key given = value at rel ⊢
      cases rel
      exact Option.Rel.none
  | some record =>
      obtain ⟨entry, isEntry, holds⟩ := held.get?_eq_some isRecord
      obtain ⟨_, signature, fingerprint⟩ := tame key record isRecord
      rw [isEntry] at rel
      generalize Dictionary.get? key given = value at rel ⊢
      cases rel with
      | some valueRead =>
          obtain ⟨entry', isEntry', holds'⟩ :=
            holds.ofJson?_reread signature fingerprint valueRead
          rw [Option.bind_some, isEntry', Option.map_some]
          exact Option.Rel.some holds'

end EntriesHold

/-! ## Numbers that can be written -/

/-- A line that does not have too many digits to be written. -/
def FitsLine (line : Int) : Prop :=
  (Numeral.write? line).isSome = true

/-- Whether no line has too many digits. -/
def Payload.Fits : Payload → Prop
  | .findings found => ∀ finding ∈ found, FitsLine finding.line
  | .markers found => ∀ marker ∈ found, FitsLine marker.line

/-- Whether no line in some records has too many digits. -/
def Records.Fits (records : Records) : Prop :=
  ∀ key record, records key = some record → record.payload.Fits

theorem Records.Fits.joined {records : Records} (fits : records.Fits) : records.joined.Fits := by
  intro key record found
  obtain ⟨before, held, rfl⟩ := Option.map_eq_some_iff.mp found
  have beforeFits := fits key before held
  rw [Record.joined]
  cases payload : before.payload with
  | findings found =>
      rw [payload] at beforeFits
      intro finding mem
      obtain ⟨first, inside, rfl⟩ := List.mem_map.mp mem
      exact beforeFits first inside
  | markers found =>
      rw [payload] at beforeFits
      intro marker mem
      obtain ⟨first, inside, rfl⟩ := List.mem_map.mp mem
      exact beforeFits first inside

theorem isWritable_of_hasMembers {value : Value} {members : Object}
    (held : value.HasMembers members)
    (writable : ∀ member ∈ members, member.2.isWritable = true) : value.isWritable = true := by
  obtain ⟨given, rfl, perm⟩ := held
  rw [Value.isWritable, areWritableMembers_iff]
  exact fun member mem => writable member (perm.mem_iff.mp mem)

theorem isWritable_of_mem_objects {payload : Payload} (fits : payload.Fits) {members : Object}
    (mem : members ∈ payload.objects) : ∀ member ∈ members, member.2.isWritable = true := by
  have strings (texts : List Text) : (Value.array (texts.map .string)).isWritable = true := by
    rw [Value.isWritable, areWritable_iff]
    intro item mem
    obtain ⟨t, _, rfl⟩ := List.mem_map.mp mem
    rfl
  cases payload with
  | findings found =>
      obtain ⟨finding, inside, rfl⟩ := List.mem_map.mp mem
      intro member mem
      simp only [Finding.members, List.mem_cons, List.not_mem_nil, or_false] at mem
      rcases mem with rfl | rfl | rfl | rfl
      · rfl
      · rfl
      · exact fits finding inside
      · exact strings finding.classes
  | markers found =>
      obtain ⟨marker, inside, rfl⟩ := List.mem_map.mp mem
      intro member mem
      simp only [Marker.members, List.mem_cons, List.not_mem_nil, or_false] at mem
      rcases mem with rfl | rfl | rfl | rfl | rfl | rfl
      · rfl
      · rfl
      · rfl
      · rfl
      · rfl
      · exact fits marker inside

theorem CacheEntry.Holds.isWritable {entry : CacheEntry} {record : Record}
    (held : entry.Holds record) (fits : record.payload.Fits) : entry.toJson.isWritable = true := by
  obtain ⟨items, time, all, isObject⟩ := held.toJson_eq
  rw [isObject]
  refine isWritable_of_hasMembers (hasMembers_object _) fun member mem => ?_
  simp only [members, List.mem_cons, List.not_mem_nil, or_false] at mem
  rcases mem with rfl | rfl | rfl | rfl
  · rfl
  · rfl
  · rw [Value.isWritable, areWritable_iff]
    intro item mem
    obtain ⟨objects, inside, isObject⟩ := Holds.exists_hasMembers all mem
    exact isWritable_of_hasMembers isObject (isWritable_of_mem_objects fits inside)
  · rfl

theorem EntriesHold.isWritable {entries : Dictionary CacheEntry} {records : Records}
    (held : EntriesHold entries records) (fits : records.Fits) :
    (ScanCache.documentOf entries).isWritable = true := by
  refine isWritable_of_hasMembers (hasMembers_object _) fun member mem => ?_
  simp only [List.mem_cons, List.not_mem_nil, or_false] at mem
  rcases mem with rfl | rfl
  · exact (isSome_write?_iff ScanCache.formatVersion).mpr (by decide)
  · refine isWritable_of_hasMembers (hasMembers_object _) fun member mem => ?_
    obtain ⟨⟨key, entry⟩, inside, rfl⟩ := List.mem_map.mp mem
    obtain ⟨record, found, holds⟩ :=
      held.of_get?_eq_some ((Dictionary.get?_eq_some_iff held.nodup).mpr inside)
    exact holds.isWritable (fits key record found)

end ClassHarvest
