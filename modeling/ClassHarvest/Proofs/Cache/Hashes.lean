import ClassHarvest.Cache.HashCache
import ClassHarvest.Proofs.Cache.Stored
import ClassHarvest.Proofs.Digest
import ClassHarvest.Proofs.Files.Outside
import ClassHarvest.Proofs.Files.Unique
import ClassHarvest.Proofs.Json.Documents

/-!
# The cache of hashes tells the truth

Every hash that is kept is the digest of a file that was seen with the size and the stamp beside it.
When files with the same path, size and stamp have the same bytes, a hash that is taken from the cache
is the digest of the file.
-/

namespace ClassHarvest

open Json Gathering

namespace HashEntry

/-- The members of the object that stands for an entry. -/
def members (entry : HashEntry) : Object := [
  ("size", .int entry.size), ("mtime_ns", .int entry.stamp), ("hash", .string entry.hash)]

theorem tidyNames_members (entry : HashEntry) : TidyNames entry.members.keys where
  nodup := by
    change (["size", "mtime_ns", "hash"] : List Text).Nodup
    decide
  joined := by
    change ∀ name ∈ (["size", "mtime_ns", "hash"] : List Text), joinSurrogates name = name
    decide

theorem floatFree (entry : HashEntry) : entry.toJson.FloatFree := by
  apply Value.FloatFree.object
  intro member mem
  simp only [List.mem_cons, List.not_mem_nil, or_false] at mem
  rcases mem with rfl | rfl | rfl
  · exact Value.FloatFree.int _
  · exact Value.FloatFree.int _
  · exact Value.FloatFree.string _

/-- An entry is read again as it was written. -/
theorem ofJson?_reread {entry : HashEntry} (whole : joinSurrogates entry.hash = entry.hash)
    {w : Value} (read : entry.toJson.reread = .ok w) : ofJson? w = some entry := by
  obtain ⟨_, mapped, held⟩ :=
    (hasMembers_object entry.members).reread entry.tidyNames_members read
  obtain ⟨_, _, size, behind1, rfl⟩ := mapM_eq_cons_iff.mp mapped
  obtain ⟨_, _, stamp, behind2, rfl⟩ := mapM_eq_cons_iff.mp behind1
  obtain ⟨_, _, hash, behind3, rfl⟩ := mapM_eq_cons_iff.mp behind2
  rw [mapM_eq_nil_iff] at behind3
  subst behind3
  obtain ⟨_, sizeRead, rfl⟩ := (rereadOf_eq_ok_iff (by decide)).mp size
  obtain ⟨_, stampRead, rfl⟩ := (rereadOf_eq_ok_iff (by decide)).mp stamp
  obtain ⟨_, hashRead, rfl⟩ := (rereadOf_eq_ok_iff (by decide)).mp hash
  obtain rfl := reread_int_eq_ok sizeRead
  obtain rfl := reread_int_eq_ok stampRead
  cases hashRead
  rw [whole] at held
  change w.HasMembers entry.members at held
  obtain ⟨given, isObject, same, _⟩ := held.object? entry.tidyNames_members.nodup
  have isSize : Dictionary.get? "size" entry.members = some (.int entry.size) := rfl
  have isStamp : Dictionary.get? "mtime_ns" entry.members = some (.int entry.stamp) := rfl
  have isHash : Dictionary.get? "hash" entry.members = some (.string entry.hash) := rfl
  rw [ofJson?, isObject]
  simp only [Option.bind_eq_bind, Option.bind_some, same, isSize, isStamp, isHash, Value.string?,
    Value.whole?]
  rfl

end HashEntry

namespace HashCache

variable {seen : Text → FileContent → Prop} {cache : HashCache}

/-- Every entry is that of a file that was seen, with its digest. -/
def Justified (seen : Text → FileContent → Prop) (cache : HashCache) : Prop :=
  ∀ path entry, cache.get? path = some entry →
    ∃ content, seen path content ∧ entry = .ofFile content (Sha256.hexDigest content.bytes)

/-- Files that were seen with the same path, size and stamp have the same bytes. -/
def Settled (seen : Text → FileContent → Prop) : Prop :=
  ∀ path content content', seen path content → seen path content' →
    content.bytes.length = content'.bytes.length → content.stamp = content'.stamp →
      content.bytes = content'.bytes

theorem justified_nil : Justified seen [] := by
  intro path entry found
  cases found

/-- The entry of a file with its hash, kept or not, is that of a file that was seen, with its digest. -/
theorem exists_ofFile_hashOf (justified : Justified seen cache) {path : Text} {content : FileContent}
    (isSeen : seen path content) :
    ∃ content', seen path content' ∧ HashEntry.ofFile content (cache.hashOf path content) =
      .ofFile content' (Sha256.hexDigest content'.bytes) := by
  rw [hashOf]
  split
  · next entry kept =>
      obtain ⟨found, fits⟩ := Option.filter_eq_some_iff.mp kept
      obtain ⟨content', isSeen', rfl⟩ := justified path entry found
      simp only [HashEntry.isOf, HashEntry.ofFile, Bool.and_eq_true, decide_eq_true_eq,
        Int.natCast_inj] at fits
      refine ⟨content', isSeen', ?_⟩
      rw [HashEntry.ofFile, HashEntry.ofFile, fits.1, fits.2]
  · exact ⟨content, isSeen, rfl⟩

/-- The hash of a file is its digest, kept or not. -/
theorem hashOf_eq (justified : Justified seen cache) (settled : Settled seen) {path : Text}
    {content : FileContent} (isSeen : seen path content) :
    cache.hashOf path content = Sha256.hexDigest content.bytes := by
  obtain ⟨content', isSeen', same⟩ := exists_ofFile_hashOf justified isSeen
  simp only [HashEntry.ofFile, HashEntry.mk.injEq, Int.natCast_inj] at same
  obtain ⟨size, stamp, digest⟩ := same
  rw [digest, settled path content content' isSeen isSeen' size stamp]

/-- A cache keeps a hash as it is. -/
theorem joinSurrogates_hashOf (justified : Justified seen cache) {path : Text}
    {content : FileContent} (isSeen : seen path content) :
    joinSurrogates (cache.hashOf path content) = cache.hashOf path content := by
  obtain ⟨content', _, same⟩ := exists_ofFile_hashOf justified isSeen
  have digest : cache.hashOf path content = Sha256.hexDigest content'.bytes :=
    congrArg HashEntry.hash same
  rw [digest]
  exact joinSurrogates_eq_self fun c mem => Sha256.isHighSurrogate_of_mem_hexDigest mem

/-! ## The file -/

theorem floatFree_toDocument (cache : HashCache) : cache.toDocument.FloatFree := by
  apply Value.FloatFree.object
  intro member mem
  simp only [List.mem_cons, List.not_mem_nil, or_false] at mem
  rcases mem with rfl | rfl
  · exact Value.FloatFree.int _
  · apply Value.FloatFree.object
    intro member mem
    obtain ⟨⟨path, entry⟩, _, rfl⟩ := List.mem_map.mp mem
    exact entry.floatFree

/-- Paths and hashes that a file keeps as they are, each path once. -/
structure Tidy (cache : HashCache) : Prop where
  paths : TidyNames cache.keys
  hashes : ∀ entry ∈ cache, joinSurrogates entry.2.hash = entry.2.hash

/-- The entries in a document of the version of the program. -/
theorem ofDocument_eq {w inner : Value} {outer given : Dictionary Value}
    (isOuter : w.object? = some outer)
    (version : outer.get? "version" = some (.int formatVersion))
    (isInner : outer.get? "files" = some inner) (isGiven : inner.object? = some given) :
    ofDocument w = given.filterMap fun (path, value) => (HashEntry.ofJson? value).map (path, ·) := by
  rw [ofDocument, isOuter]
  simp only [Option.bind_eq_bind, Option.bind_some, version, isInner, isGiven]
  rfl

/-- Nothing is read again but what was written. -/
theorem get?_ofDocument_reread (tidy : cache.Tidy) {w : Value}
    (read : cache.toDocument.reread = .ok w) {path : Text} {entry : HashEntry}
    (found : (ofDocument w).get? path = some entry) : cache.get? path = some entry := by
  have names := tidy.paths
  rw [← Dictionary.keys_map HashEntry.toJson cache] at names
  obtain ⟨outer, inner, given, isOuter, version, isInner, isGiven, nodup, rel⟩ :=
    exists_members_of_reread ⟨by decide, by decide⟩ names read
  rw [ofDocument_eq isOuter version isInner isGiven, Dictionary.get?_filterMap nodup] at found
  have rel := rel path
  rw [Dictionary.get?_map] at rel
  generalize Dictionary.get? path given = value at rel found
  cases kept : Dictionary.get? path cache with
  | none =>
      rw [kept] at rel
      cases rel
      cases found
  | some before =>
      rw [kept] at rel
      cases rel with
      | some valueRead =>
          have whole := tidy.hashes _ (Dictionary.mem_of_get?_eq_some kept)
          rw [Option.bind_some, HashEntry.ofJson?_reread whole valueRead] at found
          exact found

/-- The entries in a file with some bytes. -/
def ofBytes (bytes : List UInt8) : HashCache :=
  match Utf8.decode bytes with
  | .error _ => []
  | .ok text =>
    match Json.read text.universalNewlines with
    | .error _ => []
    | .ok document => ofDocument document

theorem get?_ofBytes (tidy : cache.Tidy) {bytes : List UInt8}
    (written : Utf8.encode (Json.write cache.toDocument) = .ok bytes) {path : Text}
    {entry : HashEntry} (found : (ofBytes bytes).get? path = some entry) :
    cache.get? path = some entry := by
  obtain ⟨text, decoded, same⟩ := decode_document cache.floatFree_toDocument written
  rw [ofBytes, decoded] at found
  simp only [same, read_write cache.floatFree_toDocument] at found
  cases read : cache.toDocument.reread with
  | error digits =>
      rw [read] at found
      cases found
  | ok w =>
      rw [read] at found
      exact get?_ofDocument_reread tidy read found

/-- The file of hashes holds only hashes of files that were seen. -/
def Trusted (seen : Text → FileContent → Prop) (disk : Disk) (path : Path) : Prop :=
  ∀ content, disk.view path.place = some (.file content) → Justified seen (ofBytes content.bytes)

theorem Trusted.justified {disk : Disk} {path : Path} (trusted : Trusted seen disk path) :
    Justified seen (load disk path) := by
  rw [load, Disk.readText, Disk.read_eq]
  cases found : disk.look path with
  | error fault => exact justified_nil
  | ok sight =>
      cases sight with
      | directory => exact justified_nil
      | file content =>
          obtain ⟨names, located, isSeen⟩ := Disk.look_eq_ok_iff.mp found
          rw [Disk.locate_eq_ok located] at isSeen
          have justified := trusted content isSeen
          rw [ofBytes] at justified
          dsimp only
          cases decoded : Utf8.decode content.bytes with
          | error error => exact justified_nil
          | ok text =>
              rw [decoded] at justified
              exact justified

theorem Trusted.of_view {disk disk' : Disk} {path : Path} (trusted : Trusted seen disk path)
    (same : ∀ content, disk'.view path.place = some (.file content) →
      disk.view path.place = some (.file content)) : Trusted seen disk' path :=
  fun content isSeen => trusted content (same content isSeen)

/-! ## Saving -/

theorem save_cases (cache : HashCache) (disk : Disk) (path : Path) :
    let made := (disk.ensureDirectory path.parent).1
    (cache.save disk path).1 = made ∨
      ∃ names bytes, made.writable path = .ok names ∧
        Utf8.encode (Json.write cache.toDocument) = .ok bytes ∧
        (cache.save disk path).1 = made.putFile names bytes := by
  intro made
  have encoded := encode_write cache.floatFree_toDocument
  rw [save]
  rcases isMade : disk.ensureDirectory path.parent with ⟨made', result⟩
  have same : made = made' := congrArg Prod.fst isMade
  cases result with
  | error error => exact Or.inl same.symm
  | ok _ =>
      dsimp only
      unfold Disk.writeText
      rw [encoded, same]
      cases free : made'.writable path with
      | error fault => exact Or.inl rfl
      | ok names => exact Or.inr ⟨names, _, rfl, rfl, rfl⟩

/-- Saving touches nothing but the file of hashes. -/
theorem touches_save (cache : HashCache) (disk : Disk) (path : Path) :
    disk.Touches [path.place] (cache.save disk path).1 := by
  have made := Disk.Touches.of_grows (Disk.grows_ensureDirectory disk path.parent) [path.place]
  rcases cache.save_cases disk path with same | ⟨names, bytes, free, _, same⟩
  · rw [same]
    exact made
  · rw [same]
    have names_eq : names = path.place := Disk.locate_eq_ok (Disk.writable_eq_ok free).1
    exact made.trans (names_eq ▸ Disk.Touches.of_putFile free bytes)

theorem unique_save {disk : Disk} (unique : disk.Unique) (cache : HashCache) (path : Path) :
    (cache.save disk path).1.Unique := by
  have made := unique.ensureDirectory path.parent
  rcases cache.save_cases disk path with same | ⟨names, bytes, _, _, same⟩
  · rw [same]
    exact made
  · rw [same]
    exact made.putFile names bytes

/-- In a directory, at most the directory of the file is made. -/
theorem makesOnly_save {disk : Disk} {path : Path} (cache : HashCache)
    (plain : Path.parentName ∉ path.parent.names)
    (inside : disk.view path.parent.names.dropLast = some .directory) :
    disk.MakesOnly path.parent.names (cache.save disk path).1 := by
  have made := Disk.MakesOnly.of_ensureDirectory plain inside
  rcases cache.save_cases disk path with same | ⟨names, bytes, free, _, same⟩
  · rw [same]
    exact made
  · rw [same]
    exact made.trans fun others _ => (Disk.directories_putFile free bytes others).mp

/-- The directory of the file is there afterwards, if nothing is in its way. -/
theorem directory_save {disk : Disk} {path : Path} (cache : HashCache)
    (free : disk.Open path.parent.names) :
    (cache.save disk path).1.view path.parent.names = some .directory := by
  obtain ⟨made, ensured, inside⟩ := Disk.ensureDirectory_of_open free
  have isMade : (disk.ensureDirectory path.parent).1 = made := by rw [ensured]
  rcases cache.save_cases disk path with same | ⟨names, bytes, writable, _, same⟩
  · rw [same, isMade]
    exact inside
  · rw [isMade] at same writable
    rw [same]
    exact (Disk.directories_putFile writable bytes _).mpr inside

/-- What is saved is trusted again. -/
theorem trusted_save {disk : Disk} {path : Path} (trusted : Trusted seen disk path)
    (tidy : cache.Tidy) (justified : Justified seen cache) :
    Trusted seen (cache.save disk path).1 path := by
  have grown := Disk.grows_ensureDirectory disk path.parent
  rcases cache.save_cases disk path with same | ⟨names, bytes, free, encoded, same⟩
  · rw [same]
    exact trusted.of_view fun content isSeen => grown.view_eq_file_iff.mp isSeen
  · rw [same]
    have names_eq : names = path.place := Disk.locate_eq_ok (Disk.writable_eq_ok free).1
    intro content isSeen
    rw [Disk.view_putFile free, if_pos names_eq.symm] at isSeen
    cases isSeen
    intro p entry found
    exact justified p entry (get?_ofBytes tidy encoded found)

end HashCache
end ClassHarvest
