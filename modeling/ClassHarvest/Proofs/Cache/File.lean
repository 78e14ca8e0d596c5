import ClassHarvest.Proofs.Cache.Records
import ClassHarvest.Proofs.Files.Outside
import ClassHarvest.Proofs.Files.Unique
import ClassHarvest.Proofs.Json.Documents

/-!
# The file of a cache

The file of a cache holds the records that were in the cache when it was last written, as a file keeps
them.  Writing goes to another file first; whatever becomes of it, the file of the cache holds what it
held before or what was to be written.
-/

namespace ClassHarvest

open Json

/-! ## Two places -/

namespace ScanCache

/-- What is put behind the name of a file to make the name of the file that is written first. -/
def stagingEnd : Text := ".tmp"

theorem append_stagingEnd_ne (name : Text) : name ++ stagingEnd ≠ Path.parentName := by
  intro same
  have last := congrArg List.getLast? same
  rw [List.getLast?_append] at last
  exact absurd (Option.some.inj last) (by decide)

theorem place_stagingPath (path : Path) :
    (stagingPath path).place = path.parent.place ++ [path.name ++ stagingEnd] := by
  rw [Path.place, stagingPath, Path.child, Path.followParents_concat]
  exact if_neg (append_stagingEnd_ne path.name)

/-- The file that is written first is another one. -/
theorem place_stagingPath_ne (path : Path) : (stagingPath path).place ≠ path.place := by
  rw [place_stagingPath]
  rcases List.eq_nil_or_concat' path.names with top | ⟨above, name, below⟩
  · intro same
    have empty : path.place = [] := by
      rw [Path.place, top]
      rfl
    rw [empty] at same
    exact absurd same (by simp)
  · have parent : path.parent.place = Path.followParents above := by
      rw [Path.place, Path.parent, below, List.dropLast_concat]
    have last : path.name = name := by
      rw [Path.name, below, List.getLastD_concat]
    rw [parent, last, Path.place, below, Path.followParents_concat]
    split
    · intro same
      have lengths := congrArg List.length same
      rw [List.length_append, List.length_dropLast, List.length_singleton] at lengths
      omega
    · intro same
      have names := List.append_cancel_left same
      rw [List.cons.injEq] at names
      have lengths := congrArg List.length names.1
      rw [List.length_append] at lengths
      exact absurd lengths (by simp [stagingEnd, Text.ofString])

/-! ## What the file holds -/

/-- The records that the file of a cache holds; none if there is no file. -/
inductive FileHolds (disk : Disk) (path : Path) : Records → Prop where
  | absent (noFile : ∀ content, disk.view path.place ≠ some (.file content)) :
      FileHolds disk path Records.empty
  | written {content : FileContent} {entries : Dictionary CacheEntry} {records : Records}
      (seen : disk.look path = .ok (.file content)) (held : EntriesHold entries records)
      (tame : records.Tame) (writable : (documentOf entries).isWritable = true)
      (bytes : Utf8.encode (Json.write (documentOf entries)) = .ok content.bytes) :
      FileHolds disk path records.joined

namespace FileHolds

variable {disk disk' : Disk} {path : Path} {records : Records}

theorem tame (holds : FileHolds disk path records) : records.Tame := by
  cases holds with
  | absent _ =>
      intro key record found
      cases found
  | written _ _ tame _ _ => exact tame.joined

/-- A file keeps its records as they are. -/
theorem joined_eq (holds : FileHolds disk path records) : records.joined = records := by
  cases holds with
  | absent _ => rfl
  | written _ _ _ _ _ => exact Records.joined_joined _

/-- The records of the file are read from it. -/
theorem load_eq_ok (holds : FileHolds disk path records) :
    ∃ entries log, load disk path = .ok (entries, log) ∧ EntriesHold entries records := by
  cases holds with
  | absent noFile =>
      have unread : ∃ error, disk.readText path = .error (.access error) := by
        rw [Disk.readText, Disk.read_eq]
        cases found : disk.look path with
        | error fault => exact ⟨_, rfl⟩
        | ok sight =>
            cases sight with
            | directory => exact ⟨_, rfl⟩
            | file content =>
                obtain ⟨names, located, seen⟩ := Disk.look_eq_ok_iff.mp found
                rw [Disk.locate_eq_ok located] at seen
                exact absurd seen (noFile content)
      obtain ⟨error, unread⟩ := unread
      rw [load, unread]
      simp only
      split
      · exact ⟨_, _, rfl, EntriesHold.nil⟩
      · exact ⟨_, _, rfl, EntriesHold.nil⟩
  | written seen held tame writable bytes =>
      rename_i content entries records
      have text := readText_document held.floatFree_documentOf seen bytes
      obtain ⟨w, reread, read⟩ := read_write_of_isWritable held.floatFree_documentOf writable
      refine ⟨entriesOf w, [], ?_, held.entriesOf_reread tame reread⟩
      rw [load, text]
      simp only [read]

/-- A file that is not touched holds what it held. -/
theorem of_touches {places : List (List Text)} (holds : FileHolds disk path records)
    (touches : disk.Touches places disk') (outside : path.place ∉ places) :
    FileHolds disk' path records := by
  cases holds with
  | absent noFile =>
      exact absent fun content seen =>
        noFile content ((touches.view_eq_file_iff outside).mp seen)
  | written seen held tame writable bytes =>
      exact written (touches.look_eq_file outside seen) held tame writable bytes

theorem of_view (holds : FileHolds disk path records) (plain : Path.parentName ∉ path.names)
    (same : disk'.view path.names = disk.view path.names) : FileHolds disk' path records := by
  cases holds with
  | absent noFile =>
      apply FileHolds.absent
      rw [Path.place_of_plain plain] at noFile ⊢
      rw [same]
      exact noFile
  | written seen held tame writable bytes =>
      have seen' := Disk.view_of_look plain seen
      rw [← same] at seen'
      exact FileHolds.written (Disk.look_of_view plain seen') held tame writable bytes

end FileHolds

/-! ## Writing the file -/

/-- Writing a cache that differs from its file either fails, and then the file is as it was, or makes
the file hold the document of the cache. -/
theorem persist_cases {cache : ScanCache} {path : Path} (location : cache.location = some path)
    (changed : cache.changed = true) (disk : Disk) :
    (∃ disk' error, cache.persist disk = (disk', .error error) ∧
      disk.Touches [(stagingPath path).place] disk') ∨
    ∃ disk' bytes stamp, cache.persist disk = (disk', .ok { cache with changed := false }) ∧
      (documentOf cache.entries).isWritable = true ∧
      disk.Touches [(stagingPath path).place, path.place] disk' ∧
      Utf8.encode (Json.write (documentOf cache.entries)) = .ok bytes ∧
      disk'.look path = .ok (.file ⟨bytes, stamp⟩) := by
  have grows := Disk.Touches.of_grows (disk.grows_ensureDirectory path.parent)
    [(stagingPath path).place]
  rw [persist, location, changed]
  simp only
  cases made : disk.ensureDirectory path.parent with
  | mk made_ outcome =>
      rw [made] at grows
      cases outcome with
      | error error => exact Or.inl ⟨made_, .access error, rfl, grows⟩
      | ok _ =>
          simp only
          by_cases writable : (documentOf cache.entries).isWritable = true
          case neg =>
              rw [if_neg writable]
              exact Or.inl ⟨made_, .tooManyDigits, rfl, grows⟩
          rw [if_pos writable]
          have staged := Disk.Touches.of_writeText made_ (stagingPath path)
            (Json.write (documentOf cache.entries))
          cases written : made_.writeText (stagingPath path)
              (Json.write (documentOf cache.entries)) with
          | mk staged_ outcome =>
              rw [written] at staged
              have staged := grows.trans staged
              cases outcome with
              | error error => exact Or.inl ⟨staged_, error, rfl, staged⟩
              | ok _ =>
                  simp only
                  cases replaced : staged_.replace (stagingPath path) path with
                  | mk disk' outcome =>
                      cases outcome with
                      | error error =>
                          have same := Disk.replace_eq_error (by rw [replaced])
                          rw [replaced] at same
                          obtain rfl : disk' = staged_ := same
                          exact Or.inl ⟨disk', .access error, rfl, staged⟩
                      | ok _ =>
                          obtain ⟨bytes, encoded, seen⟩ := Disk.look_writeText written
                          obtain ⟨names, located, _⟩ := Disk.look_eq_ok_iff.mp seen
                          have top := Disk.view_top located (by simp [stagingPath, Path.child])
                          have moved := Disk.Touches.of_replace top seen path
                          rw [replaced] at moved
                          exact Or.inr ⟨disk', bytes, _, rfl, writable,
                            (staged.mono (by simp)).trans moved, encoded,
                            Disk.look_replace top seen replaced⟩

/-- What stays true of the disk in each step of writing a cache is true afterwards. -/
theorem persist_induction {motive : Disk → Prop} {cache : ScanCache} {path : Path} {disk : Disk}
    (location : cache.location = some path) (start : motive disk)
    (made : motive (disk.ensureDirectory path.parent).1)
    (written : ∀ disk text, motive disk → motive (disk.writeText (stagingPath path) text).1)
    (replaced : ∀ disk content, disk.view [] = some .directory →
      disk.look (stagingPath path) = .ok (.file content) → motive disk →
        motive (disk.replace (stagingPath path) path).1) :
    motive (cache.persist disk).1 := by
  unfold persist
  rw [location]
  split
  · next path' _ isPath _ =>
      cases isPath
      split
      · next disk' _ ensured =>
          rw [ensured] at made
          exact made
      · next disk' ensured =>
          rw [ensured] at made
          have staged := written disk' (Json.write (documentOf cache.entries)) made
          split
          · split
            · next isWritten =>
                rw [isWritten] at staged
                exact staged
            · next isWritten =>
                rw [isWritten] at staged
                obtain ⟨bytes, _, seen⟩ := Disk.look_writeText isWritten
                obtain ⟨names, located, _⟩ := Disk.look_eq_ok_iff.mp seen
                have top := Disk.view_top located (by simp [stagingPath, Path.child])
                have moved := replaced _ _ top seen staged
                split
                · next isReplaced =>
                    rw [isReplaced] at moved
                    exact moved
                · next isReplaced =>
                    rw [isReplaced] at moved
                    exact moved
          · exact made
  · exact start

section

variable {cache : ScanCache} {path : Path} {disk : Disk}

theorem touches_persist (location : cache.location = some path) (disk : Disk) :
    disk.Touches [(stagingPath path).place, path.place] (cache.persist disk).1 := by
  apply persist_induction location (Disk.Touches.refl _ _)
  · exact Disk.Touches.of_grows (disk.grows_ensureDirectory path.parent) _
  · intro disk' text touches
    exact touches.trans
      ((Disk.Touches.of_writeText disk' (stagingPath path) text).mono (by simp [Path.place]))
  · intro disk' content top seen touches
    exact touches.trans (Disk.Touches.of_replace top seen path)

theorem unique_persist (location : cache.location = some path) (unique : disk.Unique) :
    (cache.persist disk).1.Unique := by
  apply persist_induction location unique
  · exact unique.ensureDirectory path.parent
  · intro disk' text unique'
    exact unique'.writeText (stagingPath path) text
  · intro disk' content _ _ unique'
    exact unique'.replace (stagingPath path) path

/-- In a directory, at most the directory of the file is made. -/
theorem makesOnly_persist (location : cache.location = some path)
    (plain : Path.parentName ∉ path.parent.names)
    (inside : disk.view path.parent.names.dropLast = some .directory) :
    disk.MakesOnly path.parent.names (cache.persist disk).1 := by
  apply persist_induction location (Disk.MakesOnly.refl _ _)
  · exact Disk.MakesOnly.of_ensureDirectory plain inside
  · intro disk' text before
    exact before.trans (.of_makesNoDirectory _
      (Disk.MakesNoDirectory.of_writeText disk' (stagingPath path) text))
  · intro disk' content top seen before
    exact before.trans (.of_makesNoDirectory _ (Disk.MakesNoDirectory.of_replace top seen path))

end

/-! ## Writing where nothing is in the way -/

/-- Nothing is in the way of the file of a cache, nor of the file that is written first. -/
structure Admits (disk : Disk) (path : Path) : Prop where
  named : path.names ≠ []
  plain : Path.parentName ∉ path.names
  around : disk.Open path.parent.names
  free : disk.view path.names ≠ some .directory
  stagingFree : disk.view (stagingPath path).names ≠ some .directory

namespace Admits

variable {disk : Disk} {path : Path}

theorem plain_parent (admits : Admits disk path) : Path.parentName ∉ path.parent.names :=
  admits.around.plain

theorem plain_staging (admits : Admits disk path) : Path.parentName ∉ (stagingPath path).names := by
  change Path.parentName ∉ path.parent.names ++ [path.name ++ stagingEnd]
  rw [List.mem_append, not_or, List.mem_singleton]
  exact ⟨admits.plain_parent, (append_stagingEnd_ne path.name).symm⟩

theorem stagingNames_ne (admits : Admits disk path) : (stagingPath path).names ≠ path.names := by
  have differ := place_stagingPath_ne path
  rwa [Path.place, Path.followParents_of_plain admits.plain_staging, Path.place,
    Path.followParents_of_plain admits.plain] at differ

/-- A place in the directory of the file is reached once the directory is there. -/
theorem follow_eq_ok (admits : Admits disk path) {disk' : Disk}
    (inside : disk'.view path.parent.names = some .directory) {name : Text}
    (plain : name ≠ Path.parentName) :
    disk'.follow [] (path.parent.names ++ [name]) = .ok (path.parent.names ++ [name]) := by
  refine Disk.follow_plain [] ?_ fun front isFront other => ?_
  · rw [List.mem_append, not_or, List.mem_singleton]
    exact ⟨admits.plain_parent, Ne.symm plain⟩
  · rw [List.nil_append]
    exact Disk.view_of_prefix inside ((List.prefix_concat_iff.mp isFront).resolve_left other)

/-- The directory of the file is made, and nothing in it. -/
theorem exists_ensureDirectory (admits : Admits disk path) :
    ∃ made, disk.ensureDirectory path.parent = (made, .ok ()) ∧ Admits made path ∧
      made.view path.parent.names = some .directory := by
  obtain ⟨made, ensured, inside⟩ := Disk.ensureDirectory_of_open admits.around
  have grows := disk.grows_ensureDirectory path.parent
  rw [ensured] at grows
  have beside (name : Text) : made.view (path.parent.names ++ [name]) =
      disk.view (path.parent.names ++ [name]) := by
    have outside : ∀ front, front <+: path.parent.names.reverse.reverse →
        path.parent.names ++ [name] ≠ Path.followParents front := by
      rw [List.reverse_reverse]
      intro front isFront same
      rw [Path.followParents_of_plain fun mem => admits.plain_parent (isFront.subset mem)] at same
      have lengths := isFront.length_le
      rw [← same, List.length_append] at lengths
      exact absurd lengths (by simp)
    have same := Disk.view_ensureNames path.parent.anchor _ disk outside
    rwa [← Disk.ensureDirectory, ensured] at same
  refine ⟨made, ensured, ⟨admits.named, admits.plain, ?_, ?_, ?_⟩, inside⟩
  · exact ⟨grows.view_eq_some admits.around.top, admits.plain_parent, fun front isFront content seen =>
      admits.around.clear front isFront content (grows.view_eq_file_iff.mp seen)⟩
  · rw [Path.names_eq_concat admits.named, beside, ← Path.names_eq_concat admits.named]
    exact admits.free
  · exact (beside _).symm ▸ admits.stagingFree

/-- Once the directory is there, the file is written by way of the other one. -/
theorem exists_replace (admits : Admits disk path)
    (inside : disk.view path.parent.names = some .directory) {text : Text} {bytes : List UInt8}
    (encoded : Utf8.encode text = .ok bytes) :
    ∃ staged disk', disk.writeText (stagingPath path) text = (staged, .ok ()) ∧
      staged.replace (stagingPath path) path = (disk', .ok ()) ∧ Admits disk' path := by
  have stagingWritable : disk.writable (stagingPath path) = .ok (stagingPath path).names :=
    Disk.writable_of_locate (admits.follow_eq_ok inside (append_stagingEnd_ne path.name))
      admits.stagingFree
  have written : disk.writeText (stagingPath path) text =
      (disk.putFile (stagingPath path).names bytes, .ok ()) := by
    rw [Disk.writeText, stagingWritable]
    simp only [encoded]
  have view := Disk.view_putFile stagingWritable bytes
  have stays := Disk.Touches.of_putFile stagingWritable bytes
  have targetWritable : (disk.putFile (stagingPath path).names bytes).writable path =
      .ok path.names := by
    refine Disk.writable_of_locate (stays.locate_eq_ok ?_) ?_
    · rw [Disk.locate, Path.names_eq_concat admits.named]
      refine admits.follow_eq_ok inside fun same => admits.plain ?_
      rw [Path.names_eq_concat admits.named, same]
      exact List.mem_append_right _ List.mem_cons_self
    · rw [view, if_neg admits.stagingNames_ne.symm]
      exact admits.free
  obtain ⟨_, _, seen⟩ := Disk.look_writeText written
  obtain ⟨disk', replaced⟩ := Disk.exists_replace seen targetWritable
  have top := stays.directories [] admits.around.top
  obtain ⟨source, target, sourceLocated, targetFound, moved⟩ := Disk.replace_eq_ok top seen replaced
  rw [stays.locate_eq_ok (Disk.writable_eq_ok stagingWritable).1, Except.ok.injEq] at sourceLocated
  rw [targetWritable, Except.ok.injEq] at targetFound
  subst sourceLocated
  subst targetFound
  have directories := (Disk.Touches.of_replace top seen path).directories
  rw [replaced] at directories
  have inside' := directories _ (stays.directories _ inside)
  refine ⟨_, disk', written, replaced, admits.named, admits.plain,
    ⟨directories [] top, admits.plain_parent, fun front isFront content seen => ?_⟩, ?_, ?_⟩
  · rw [Disk.view_of_prefix inside' isFront] at seen
    cases seen
  · rw [moved, if_pos rfl]
    simp
  · rw [moved, if_neg admits.stagingNames_ne, if_pos rfl]
    simp

end Admits

/-- Where nothing is in the way, a cache is written if its document can be. -/
theorem persist_of_admits {cache : ScanCache} {path : Path} {disk : Disk}
    (location : cache.location = some path) (changed : cache.changed = true)
    (admits : Admits disk path) (writable : (documentOf cache.entries).isWritable = true)
    {bytes : List UInt8} (encoded : Utf8.encode (Json.write (documentOf cache.entries)) = .ok bytes) :
    ∃ disk', cache.persist disk = (disk', .ok { cache with changed := false }) ∧
      Admits disk' path := by
  obtain ⟨made, ensured, admitsMade, inside⟩ := admits.exists_ensureDirectory
  obtain ⟨staged, disk', written, replaced, admits'⟩ := admitsMade.exists_replace inside encoded
  refine ⟨disk', ?_, admits'⟩
  rw [persist, location, changed]
  simp only [ensured, writable, if_true, written, replaced]

end ScanCache
end ClassHarvest
