import ClassHarvest.Generation
import ClassHarvest.Project.Output
import ClassHarvest.Proofs.Files.Making
import ClassHarvest.Proofs.Files.Names
import ClassHarvest.Proofs.Files.Unique
import ClassHarvest.Proofs.Files.Walk
import ClassHarvest.Proofs.Steps
import ClassHarvest.Proofs.Text.Utf8
import Mathlib.Data.List.Nodup

/-!
# What is done in the output directory

Only files with the names of generated ones are written or removed.  If all goes well, the generated
files are there with their texts afterwards, and no others with such names; and where this is so
already, nothing is done.
-/

namespace ClassHarvest.Project.Output

open Emission

/-! ## Names and places -/

theorem isArtifactName_artifactName (category : Text) :
    isArtifactName (artifactName category) = true := by
  have starts : artifactStart.isPrefixOf (artifactName category) = true := by
    rw [List.isPrefixOf_iff_prefix]
    exact ⟨_, (List.append_assoc _ _ _).symm⟩
  have ends : artifactEnd.isSuffixOf (artifactName category) = true := by
    rw [List.isSuffixOf_iff_suffix]
    exact ⟨_, rfl⟩
  rw [isArtifactName, starts, ends]
  simp

theorem isArtifactName_of_mem_emit {emitter : Emitter} {set : ClassSet} {artifact : Artifact}
    (mem : artifact ∈ emitter.emit set) : isArtifactName artifact.name = true := by
  unfold Emitter.emit at mem
  split at mem
  · rw [List.mem_singleton.mp mem]
    change isArtifactName combinedArtifact = true
    decide
  · rcases List.mem_append.mp mem with ofCategory | isUnion
    · obtain ⟨⟨category, classes⟩, _, rfl⟩ := List.mem_map.mp ofCategory
      exact isArtifactName_artifactName category
    · rw [List.mem_singleton.mp isUnion]
      change isArtifactName combinedArtifact = true
      decide

theorem isArtifactName_of_mem_finish {marker : Option Marker} {findings : List Finding}
    {scanners : List Scan.Scanner} {emitter : Emitter} {artifact : Artifact}
    (mem : artifact ∈ (Generation.finish marker findings scanners emitter).artifacts) :
    isArtifactName artifact.name = true := by
  unfold Generation.finish at mem
  cases marker with
  | none => cases mem
  | some marker => exact isArtifactName_of_mem_emit mem

theorem ne_of_isArtifactName {name other : Text} (isName : isArtifactName name = true)
    (isOther : isArtifactName other = false) : name ≠ other := by
  rintro rfl
  rw [isName] at isOther
  cases isOther

/-- The place of the file of an artifact. -/
def targetPlace (directory : Path) (artifact : Artifact) : List Text :=
  (directory.child artifact.name).place

theorem place_child_artifact (directory : Path) {name : Text} (isName : isArtifactName name = true) :
    (directory.child name).place = directory.place ++ [name] :=
  Path.place_child (ne_of_isArtifactName isName (by decide))

theorem place_child_mem_iff {directory : Path} {artifacts : List Artifact} {name : Text}
    (names : ∀ artifact ∈ artifacts, isArtifactName artifact.name = true)
    (isName : isArtifactName name = true) :
    (directory.child name).place ∈ artifacts.map (targetPlace directory) ↔
      name ∈ artifacts.map (·.name) := by
  constructor
  · intro mem
    obtain ⟨artifact, isArtifact, same⟩ := List.mem_map.mp mem
    rw [targetPlace, place_child_artifact _ (names artifact isArtifact),
      place_child_artifact _ isName] at same
    rw [← (List.cons.inj (List.append_cancel_left same)).1]
    exact List.mem_map_of_mem isArtifact
  · intro mem
    obtain ⟨artifact, isArtifact, rfl⟩ := List.mem_map.mp mem
    exact List.mem_map_of_mem isArtifact

/-- Files with different names have different places. -/
theorem nodup_places {artifacts : List Artifact} (nodup : (artifacts.map (·.name)).Nodup)
    (names : ∀ artifact ∈ artifacts, isArtifactName artifact.name = true) (directory : Path) :
    (artifacts.map (targetPlace directory)).Nodup := by
  apply (List.Nodup.of_map _ nodup).map_on
  intro artifact mem artifact' mem' same
  unfold targetPlace at same
  rw [place_child_artifact _ (names _ mem), place_child_artifact _ (names _ mem')] at same
  exact List.inj_on_of_nodup_map nodup mem mem' (List.cons.inj (List.append_cancel_left same)).1

/-- A place that ends with the name of a generated file. -/
def IsArtifactPlace (place : List Text) : Prop :=
  ∃ above name, place = above ++ [name] ∧ isArtifactName name = true

theorem isArtifactPlace_child (directory : Path) {name : Text} (isName : isArtifactName name = true) :
    IsArtifactPlace (directory.child name).place :=
  ⟨directory.place, name, place_child_artifact directory isName, isName⟩

theorem isArtifactPlace_of_mem {artifacts : List Artifact}
    (names : ∀ artifact ∈ artifacts, isArtifactName artifact.name = true) (directory : Path) :
    ∀ place ∈ artifacts.map (targetPlace directory), IsArtifactPlace place := by
  intro place mem
  obtain ⟨artifact, isArtifact, rfl⟩ := List.mem_map.mp mem
  exact isArtifactPlace_child directory (names artifact isArtifact)

theorem not_isArtifactPlace {above : List Text} {name : Text} (other : isArtifactName name = false) :
    ¬ IsArtifactPlace (above ++ [name]) := by
  rintro ⟨above', name', same, isName⟩
  have last := (List.append_inj' same rfl).2
  rw [List.cons.injEq] at last
  rw [← last.1, other] at isName
  cases isName

/-! ## Writing -/

variable {directory : Path} {artifact : Artifact} {world : World}

theorem isUpToDate_eq_true_iff {disk : Disk} {target : Path} :
    isUpToDate disk target artifact = .ok true ↔ disk.readText target = .ok artifact.text := by
  unfold isUpToDate
  rw [Disk.exists_eq, Disk.readText, Disk.read_eq]
  cases disk.look target with
  | error fault => simp [Except.toOption]
  | ok sight =>
      cases sight with
      | directory => simp [Except.toOption]
      | file content =>
          simp only [Except.toOption, Option.isSome_some, if_true]
          cases Utf8.decode content.bytes with
          | error error => simp
          | ok text => simp

/-- The text that was written is read, if no line in it ends otherwise than with a line feed. -/
theorem readText_writeText {disk disk' : Disk} {target : Path} {text : Text}
    (written : disk.writeText target text = (disk', .ok ())) (feeds : ∀ c ∈ text, c.val ≠ 13) :
    disk'.readText target = .ok text := by
  obtain ⟨bytes, encoded, seen⟩ := Disk.look_writeText written
  rw [Disk.readText_of_file seen, Utf8.decode_of_encode encoded]
  exact congrArg Except.ok (Text.universalNewlines_eq_self feeds)

/-- What is done with the disk is done in a step. -/
theorem ensures_onDisk {ε α : Type} {failure : ε → Failure} {step : Disk → Disk × Except ε α}
    {given : α → World → Prop} {failed : World → Prop}
    (done : ∀ disk value, step world.disk = (disk, .ok value) → given value { world with disk })
    (refused : ∀ disk error, step world.disk = (disk, .error error) → failed { world with disk }) :
    Ensures (Running.onDisk failure step) world given failed := by
  unfold Running.onDisk
  apply Ensures.get_bind
  rcases result : step world.disk with ⟨disk, outcome⟩
  cases outcome with
  | ok value => exact done disk value result
  | error error => exact refused disk error result

theorem ensures_ensureDirectory (path : Path) (places : List (List Text)) (world : World) :
    Ensures (Running.onDisk (fun error => .writing (.access error)) (·.ensureDirectory path)) world
      (fun _ after => world.disk.Touches places after.disk ∧
        (world.disk.Unique → after.disk.Unique))
      fun after => world.disk.Touches places after.disk := by
  have touches := Disk.Touches.of_grows (Disk.grows_ensureDirectory world.disk path) places
  apply ensures_onDisk
  · intro disk value result
    rw [result] at touches
    refine ⟨touches, fun unique => ?_⟩
    have stays := unique.ensureDirectory path
    rw [result] at stays
    exact stays
  · intro disk error result
    rw [result] at touches
    exact touches

theorem ensures_writeText (target : Path) (text : Text) (world : World) :
    Ensures (Running.onDisk .writing (·.writeText target text)) world
      (fun _ after => world.disk.Touches [target.place] after.disk ∧
        (world.disk.Unique → after.disk.Unique) ∧
        ((∀ c ∈ text, c.val ≠ 13) → after.disk.readText target = .ok text))
      fun after => world.disk.Touches [target.place] after.disk := by
  have touches := Disk.Touches.of_writeText world.disk target text
  apply ensures_onDisk
  · intro disk value result
    rw [result] at touches
    refine ⟨touches, fun unique => ?_, readText_writeText result⟩
    have stays := unique.writeText target text
    rw [result] at stays
    exact stays
  · intro disk error result
    rw [result] at touches
    exact touches

/-- An artifact is written to its place, or is there already. -/
theorem ensures_write (directory : Path) (artifact : Artifact) (world : World) :
    Ensures (write directory artifact) world
      (fun _ after => world.disk.Touches [targetPlace directory artifact] after.disk ∧
        (world.disk.Unique → after.disk.Unique) ∧
        ((∀ c ∈ artifact.text, c.val ≠ 13) →
          after.disk.readText (directory.child artifact.name) = .ok artifact.text))
      fun after => world.disk.Touches [targetPlace directory artifact] after.disk := by
  unfold write
  apply Ensures.get_bind
  cases fresh : isUpToDate world.disk (directory.child artifact.name) artifact with
  | error error => exact Ensures.throw (Disk.Touches.refl _ _)
  | ok upToDate =>
      cases upToDate with
      | true =>
          apply Ensures.modify_bind
          apply Ensures.pure
          exact ⟨Disk.Touches.refl _ _, id, fun _ => isUpToDate_eq_true_iff.mp fresh⟩
      | false =>
          apply Ensures.bind (ensures_ensureDirectory _ _ world)
          rintro _ middle ⟨made, unique⟩
          have written := ensures_writeText (directory.child artifact.name) artifact.text middle
          apply Ensures.bind (written.mapFailed fun after touches => made.trans touches)
          rintro _ after ⟨touches, unique', read⟩
          apply Ensures.modify_bind
          apply Ensures.pure
          exact ⟨made.trans touches, fun before => unique' (unique before), read⟩

theorem look_of_readText {disk : Disk} {target : Path} {text : Text}
    (read : disk.readText target = .ok text) :
    ∃ content, disk.look target = .ok (.file content) := by
  rw [Disk.readText, Disk.read_eq] at read
  cases seen : disk.look target with
  | error fault =>
      rw [seen] at read
      cases read
  | ok sight =>
      cases sight with
      | directory =>
          rw [seen] at read
          cases read
      | file content => exact ⟨content, rfl⟩

theorem readText_of_touches {disk disk' : Disk} {places : List (List Text)}
    (touches : disk.Touches places disk') {target : Path} (outside : target.place ∉ places)
    {text : Text} (read : disk.readText target = .ok text) : disk'.readText target = .ok text := by
  obtain ⟨content, seen⟩ := look_of_readText read
  have same : disk.look target = disk'.look target := by
    rw [seen, touches.look_eq_file outside seen]
  rw [← Disk.readText_congr same]
  exact read

/-- Of some artifacts, some have been written to their places. -/
structure Wrote (directory : Path) (artifacts done : List Artifact) (disk disk' : Disk) : Prop where
  touches : disk.Touches (artifacts.map (targetPlace directory)) disk'
  unique : disk.Unique → disk'.Unique
  texts : (artifacts.map (targetPlace directory)).Nodup → ∀ artifact ∈ done,
    (∀ c ∈ artifact.text, c.val ≠ 13) →
      disk'.readText (directory.child artifact.name) = .ok artifact.text

/-- All artifacts are written to their places. -/
theorem wrote_writeAll (directory : Path) (artifacts : List Artifact) (world : World) :
    Ensures (writeAll directory artifacts) world
      (fun _ after => Wrote directory artifacts artifacts world.disk after.disk)
      fun after => world.disk.Touches (artifacts.map (targetPlace directory)) after.disk := by
  have each : Ensures (artifacts.mapM (write directory)) world
      (fun _ after => Wrote directory artifacts artifacts world.disk after.disk)
      fun after => world.disk.Touches (artifacts.map (targetPlace directory)) after.disk := by
    apply Ensures.mapM fun done (_ : List (Option Path)) (after : World) =>
      Wrote directory artifacts done world.disk after.disk
    · refine ⟨Disk.Touches.refl _ _, id, fun _ artifact mem => ?_⟩
      cases mem
    · intro before artifact behind whole _ middle wrote
      have subset : [targetPlace directory artifact] ⊆ artifacts.map (targetPlace directory) := by
        intro place mem
        rw [List.mem_singleton.mp mem, whole]
        simp
      apply (ensures_write directory artifact middle).mono
      · rintro _ after ⟨touches, unique, read⟩
        refine ⟨wrote.touches.trans (touches.mono subset),
          fun start => unique (wrote.unique start), ?_⟩
        intro nodup other mem feeds
        rcases List.mem_append.mp mem with earlier | isLast
        · apply readText_of_touches touches _ (wrote.texts nodup other earlier feeds)
          rw [whole, List.map_append, List.map_cons, List.nodup_append'] at nodup
          rw [List.mem_singleton]
          intro same
          change targetPlace directory other = targetPlace directory artifact at same
          apply nodup.2.2 (List.mem_map.mpr ⟨other, earlier, rfl⟩)
          rw [same]
          exact List.mem_cons_self
        · rw [List.mem_singleton.mp isLast] at feeds ⊢
          exact read feeds
      · intro after touches
        exact wrote.touches.trans (touches.mono subset)
  unfold writeAll
  apply Ensures.bind each
  intro _ after holds
  exact Ensures.pure holds

/-- Where all artifacts are in their places, nothing is written. -/
theorem ensures_writeAll_of_fresh {artifacts : List Artifact}
    (fresh : ∀ artifact ∈ artifacts,
      world.disk.readText (directory.child artifact.name) = .ok artifact.text) :
    Ensures (writeAll directory artifacts) world
      (fun written after => written = [] ∧ after.disk = world.disk) fun _ => False := by
  have each : Ensures (artifacts.mapM (write directory)) world
      (fun written after => written.filterMap id = [] ∧ after.disk = world.disk)
      fun _ => False := by
    apply Ensures.mapM fun _ (written : List (Option Path)) (after : World) =>
      written.filterMap id = [] ∧ after.disk = world.disk
    · exact ⟨rfl, rfl⟩
    · rintro before artifact behind whole written middle ⟨none, same⟩
      have upToDate : isUpToDate middle.disk (directory.child artifact.name) artifact = .ok true := by
        rw [isUpToDate_eq_true_iff, same]
        apply fresh
        rw [whole]
        simp
      unfold write
      apply Ensures.get_bind
      rw [upToDate]
      apply Ensures.modify_bind
      apply Ensures.pure
      refine ⟨?_, same⟩
      rw [List.filterMap_append, none]
      rfl
  unfold writeAll
  apply Ensures.bind each
  rintro written after ⟨none, same⟩
  exact Ensures.pure ⟨none, same⟩

/-- All artifacts are written to their places, or nothing is if they are there. -/
theorem ensures_writeAll (directory : Path) (artifacts : List Artifact) (world : World) :
    Ensures (writeAll directory artifacts) world
      (fun written after => Wrote directory artifacts artifacts world.disk after.disk ∧
        ((∀ artifact ∈ artifacts,
          world.disk.readText (directory.child artifact.name) = .ok artifact.text) →
            written = [] ∧ after.disk = world.disk))
      fun after => world.disk.Touches (artifacts.map (targetPlace directory)) after.disk ∧
        ∃ artifact ∈ artifacts,
          world.disk.readText (directory.child artifact.name) ≠ .ok artifact.text := by
  have wrote := wrote_writeAll directory artifacts world
  by_cases fresh : ∀ artifact ∈ artifacts,
      world.disk.readText (directory.child artifact.name) = .ok artifact.text
  · apply (wrote.and (ensures_writeAll_of_fresh fresh)).mono
    · rintro written after ⟨holds, same⟩
      exact ⟨holds, fun _ => same⟩
    · rintro after ⟨_, never⟩
      exact never.elim
  · apply wrote.mono
    · intro written after holds
      exact ⟨holds, fun all => absurd all fresh⟩
    · intro after touches
      exact ⟨touches, by simpa using fresh⟩

/-! ## What is missing -/

section

variable {disk disk' : Disk} {name text : Text}

/-- There is a directory at the path already, or the path never leads up again. -/
def Direct (disk : Disk) (directory : Path) : Prop :=
  disk.look directory = .ok .directory ∨ Path.parentName ∉ directory.names

theorem Direct.of_touches {places : List (List Text)} (direct : Direct disk directory)
    (touches : disk.Touches places disk') : Direct disk' directory := by
  rcases direct with present | plain
  · left
    obtain ⟨names, located, seen⟩ := Disk.look_eq_ok_iff.mp present
    exact Disk.look_eq_ok_iff.mpr ⟨names, touches.locate_eq_ok located, touches.directories _ seen⟩
  · exact Or.inr plain

/-- In a directory that is reached directly, a file is found where it is seen. -/
theorem Direct.look_child (direct : Direct disk directory) (notParent : name ≠ Path.parentName)
    {content : FileContent} (seen : disk.view (directory.place ++ [name]) = some (.file content)) :
    disk.look (directory.child name) = .ok (.file content) := by
  rcases direct with present | plain
  · obtain ⟨names, located, inside⟩ := Disk.look_eq_ok_iff.mp present
    rw [← show names = directory.place from Disk.locate_eq_ok located] at seen
    exact Disk.look_eq_ok_iff.mpr ⟨_, Disk.locate_child located inside notParent, seen⟩
  · apply Disk.look_of_view
    · rw [Path.child, List.mem_append, List.mem_singleton, not_or]
      exact ⟨plain, Ne.symm notParent⟩
    · rw [Path.place_of_plain plain] at seen
      exact seen

/-- What is done elsewhere does not matter to the text of an artifact. -/
theorem Direct.readText_iff {places : List (List Text)} (direct : Direct disk directory)
    (touches : disk.Touches places disk') (isName : isArtifactName name = true)
    (outside : (directory.child name).place ∉ places) :
    disk'.readText (directory.child name) = .ok text ↔
      disk.readText (directory.child name) = .ok text := by
  have notParent : name ≠ Path.parentName := ne_of_isArtifactName isName (by decide)
  refine ⟨fun read => ?_, readText_of_touches touches outside⟩
  obtain ⟨content, seen⟩ := look_of_readText read
  obtain ⟨names, located, isSeen⟩ := Disk.look_eq_ok_iff.mp seen
  have place : names = (directory.child name).place := Disk.locate_eq_ok located
  rw [← place] at outside
  have before := (touches.view_eq_file_iff outside).mp isSeen
  rw [place, place_child_artifact directory isName] at before
  rw [← read]
  apply Disk.readText_congr
  rw [direct.look_child notParent before, seen]

/-- Once a directory is there that is reached directly, nothing but the way to it is different. -/
theorem Direct.view_ensureDirectory (direct : Direct disk directory) {names : List Text}
    (aside : ¬ names <+: directory.place) :
    (disk.ensureDirectory directory).1.view names = disk.view names := by
  rcases direct with present | plain
  · rw [Disk.ensureDirectory_of_directory present]
  · apply Disk.view_ensureNames
    intro front isFront same
    rw [List.reverse_reverse] at isFront
    rw [Path.followParents_of_plain fun mem => plain (isFront.subset mem)] at same
    rw [Path.place_of_plain plain, same] at aside
    exact aside isFront

/-- The artifacts that are not in a directory. -/
def missing (disk : Disk) (directory : Path) (artifacts : List Artifact) : List Artifact :=
  artifacts.filter fun artifact =>
    disk.readText (directory.child artifact.name) ≠ .ok artifact.text

/-- What is done elsewhere does not matter to what is missing. -/
theorem Direct.missing_eq {places : List (List Text)} {artifacts : List Artifact}
    (direct : Direct disk directory) (touches : disk.Touches places disk')
    (names : ∀ artifact ∈ artifacts, isArtifactName artifact.name = true)
    (outside : ∀ artifact ∈ artifacts, targetPlace directory artifact ∉ places) :
    missing disk' directory artifacts = missing disk directory artifacts := by
  apply List.filter_congr
  intro artifact mem
  rw [decide_eq_decide, Ne, Ne, direct.readText_iff touches (names artifact mem) (outside artifact mem)]

/-- When a directory is made that is reached directly, nothing but the way to it is different. -/
theorem ensures_way (directory : Path) (world : World) :
    Ensures (Running.onDisk (fun error => .writing (.access error)) (·.ensureDirectory directory)) world
      (fun _ after => Direct world.disk directory → ∀ names, ¬ names <+: directory.place →
        after.disk.view names = world.disk.view names) fun _ => True := by
  apply ensures_onDisk
  · intro disk value result direct names aside
    have same := direct.view_ensureDirectory aside
    rw [result] at same
    exact same
  · exact fun _ _ _ => trivial

/-- When a text is written, nothing but its file is different. -/
theorem ensures_beside (target : Path) (text : Text) (world : World) :
    Ensures (Running.onDisk .writing (·.writeText target text)) world
      (fun _ after => ∀ names, names ≠ target.place →
        after.disk.view names = world.disk.view names) fun _ => True := by
  apply ensures_onDisk
  · intro disk value result names other
    obtain ⟨place, bytes, writable, _, rfl⟩ := Disk.writeText_eq_ok result
    have isPlace : place = target.place := Disk.locate_eq_ok (Disk.writable_eq_ok writable).1
    change (world.disk.putFile place bytes).view names = _
    rw [Disk.view_putFile writable, if_neg (isPlace ▸ other)]
  · exact fun _ _ _ => trivial

/-- An artifact is written if it is missing, and nothing but the way to it is different. -/
theorem supplies_write (directory : Path) (artifact : Artifact) (world : World) :
    Ensures (write directory artifact) world
      (fun written after =>
        written.toList = (missing world.disk directory [artifact]).map
          (fun artifact => directory.child artifact.name) ∧
        (Direct world.disk directory → ∀ names, names ≠ targetPlace directory artifact →
          ¬ names <+: directory.place → after.disk.view names = world.disk.view names))
      fun _ => True := by
  unfold write
  apply Ensures.get_bind
  cases fresh : isUpToDate world.disk (directory.child artifact.name) artifact with
  | error error => exact Ensures.throw trivial
  | ok upToDate =>
      cases upToDate with
      | true =>
          apply Ensures.modify_bind
          apply Ensures.pure
          refine ⟨?_, fun _ _ _ _ => rfl⟩
          simp [missing, isUpToDate_eq_true_iff.mp fresh]
      | false =>
          have absent : world.disk.readText (directory.child artifact.name) ≠ .ok artifact.text := by
            rw [Ne, ← isUpToDate_eq_true_iff, fresh]
            decide
          have parent : (directory.child artifact.name).parent = directory := by
            simp [Path.parent, Path.child]
          dsimp only
          rw [parent]
          apply Ensures.bind (ensures_way directory world)
          intro _ middle around
          apply Ensures.bind (ensures_beside (directory.child artifact.name) artifact.text middle)
          intro _ after beside
          apply Ensures.modify_bind
          apply Ensures.pure
          refine ⟨?_, fun direct names other aside =>
            (beside names other).trans (around direct names aside)⟩
          simp [missing, absent]

/-- Of some artifacts, those that were missing have been written, and nothing but the way to them is
different. -/
structure Supplied (directory : Path) (done : List Artifact) (written : List Path)
    (disk disk' : Disk) : Prop where
  written : written =
    (missing disk directory done).map fun artifact => directory.child artifact.name
  beside : ∀ names, names ∉ done.map (targetPlace directory) → ¬ names <+: directory.place →
    disk'.view names = disk.view names

/-- One more artifact is written, unless it is there. -/
theorem Supplied.concat {done : List Artifact} {written more : List Path} {middle after : Disk}
    (supplied : Supplied directory done written disk middle)
    (touches : disk.Touches (done.map (targetPlace directory)) middle)
    (direct : Direct disk directory) (isName : isArtifactName artifact.name = true)
    (new : targetPlace directory artifact ∉ done.map (targetPlace directory))
    (isMore : more = (missing middle directory [artifact]).map
      fun artifact => directory.child artifact.name)
    (beside : ∀ names, names ≠ targetPlace directory artifact → ¬ names <+: directory.place →
      after.view names = middle.view names) :
    Supplied directory (done ++ [artifact]) (written ++ more) disk after where
  written := by
    -- What was written before does not matter to whether this artifact is missing.
    rw [isMore, direct.missing_eq touches (by simpa using isName) (by simpa using new),
      supplied.written, missing, missing, missing, List.filter_append, List.map_append]
  beside := by
    intro names outside aside
    rw [List.map_append, List.mem_append, not_or, List.map_singleton, List.mem_singleton] at outside
    rw [beside names outside.2 aside, supplied.beside names outside.1 aside]

/-- The artifacts that are missing are written, if their directory is reached directly. -/
theorem supplies_writeAll {artifacts : List Artifact} (world : World)
    (names : ∀ artifact ∈ artifacts, isArtifactName artifact.name = true) :
    Ensures (writeAll directory artifacts) world
      (fun written after => (artifacts.map (targetPlace directory)).Nodup →
        Direct world.disk directory → Supplied directory artifacts written world.disk after.disk)
      fun _ => True := by
  by_cases both : (artifacts.map (targetPlace directory)).Nodup ∧ Direct world.disk directory
  swap
  · apply (Ensures.always _ _).mono
    · exact fun _ _ _ nodup direct => absurd ⟨nodup, direct⟩ both
    · exact fun _ holds => holds
  obtain ⟨nodup, direct⟩ := both
  have each : Ensures (artifacts.mapM (write directory)) world
      (fun written after =>
        Supplied directory artifacts (written.filterMap id) world.disk after.disk ∧
          world.disk.Touches (artifacts.map (targetPlace directory)) after.disk)
      fun _ => True := by
    apply Ensures.mapM fun done (written : List (Option Path)) (after : World) =>
      Supplied directory done (written.filterMap id) world.disk after.disk ∧
        world.disk.Touches (done.map (targetPlace directory)) after.disk
    · exact ⟨⟨rfl, fun _ _ _ => rfl⟩, Disk.Touches.refl _ _⟩
    · rintro before artifact behind whole written middle ⟨supplied, touches⟩
      have isName := names artifact (by rw [whole]; simp)
      have new : targetPlace directory artifact ∉ before.map (targetPlace directory) := by
        rw [whole, List.map_append, List.map_cons, List.nodup_append'] at nodup
        exact fun mem => nodup.2.2 mem List.mem_cons_self
      apply ((supplies_write directory artifact middle).and
        (ensures_write directory artifact middle)).mono
      · rintro result after ⟨⟨isWritten, beside⟩, touches', _⟩
        constructor
        · have isMore : [result].filterMap id = result.toList := by cases result <;> rfl
          rw [List.filterMap_append, isMore]
          exact supplied.concat touches direct isName new isWritten
            (beside (direct.of_touches touches))
        · rw [List.map_append]
          exact (touches.mono (List.subset_append_left _ _)).trans
            (touches'.mono (List.subset_append_right _ _))
      · exact fun _ _ => trivial
  unfold writeAll
  apply Ensures.bind each
  intro written after holds
  exact Ensures.pure fun _ _ => holds.1

end

/-! ## Removing -/

/-- The files to be removed are those that are seen with names of generated files, and are none of the
artifacts. -/
theorem mem_stale_iff {disk : Disk} (unique : disk.Unique) {artifacts : List Artifact} {name : Text} :
    name ∈ stale disk directory artifacts ↔
      isArtifactName name = true ∧ name ∉ artifacts.map (·.name) ∧
        ∃ names content, disk.locate directory = .ok names ∧
          disk.view (names ++ [name]) = some (.file content) := by
  rw [← Disk.mem_entries_iff unique]
  unfold stale Text.sort
  rw [List.mem_filter, (List.mergeSort_perm _ _).mem_iff, List.mem_map]
  simp only [Bool.and_eq_true, Bool.not_eq_true', List.contains_eq_mem, decide_eq_false_iff_not]
  constructor
  · rintro ⟨⟨⟨key, tree⟩, mem, rfl⟩, isName, new⟩
    obtain ⟨isEntry, noDirectory⟩ := List.mem_filter.mp mem
    exact ⟨isName, new, tree, isEntry, by simpa using noDirectory⟩
  · rintro ⟨isName, new, tree, isEntry, noDirectory⟩
    exact ⟨⟨(name, tree), List.mem_filter.mpr ⟨isEntry, by simp [noDirectory]⟩, rfl⟩, isName, new⟩

theorem isArtifactPlace_of_mem_stale {disk : Disk} (unique : disk.Unique) (artifacts : List Artifact) :
    ∀ place ∈ (stale disk directory artifacts).map (directory.place ++ [·]),
      IsArtifactPlace place := by
  intro place mem
  obtain ⟨name, isStale, rfl⟩ := List.mem_map.mp mem
  exact ⟨_, name, rfl, ((mem_stale_iff unique).mp isStale).1⟩

theorem pairwise_stale (disk : Disk) (directory : Path) (artifacts : List Artifact) :
    (stale disk directory artifacts).Pairwise fun name other => Text.le name other = true :=
  (Text.pairwise_sort _).filter _

theorem nodup_stale {disk : Disk} (unique : disk.Unique) (directory : Path)
    (artifacts : List Artifact) : (stale disk directory artifacts).Nodup := by
  unfold stale Text.sort
  apply List.Nodup.filter
  rw [(List.mergeSort_perm _ _).nodup_iff]
  exact (Disk.nodup_entries unique directory).sublist (List.filter_sublist.map _)

/-- A file that is seen under the name of a generated one, and is none of the artifacts, is to be
removed. -/
theorem mem_stale_of_look {disk : Disk} (unique : disk.Unique) {artifacts : List Artifact} {name : Text}
    {content : FileContent} (isName : isArtifactName name = true)
    (seen : disk.look (directory.child name) = .ok (.file content))
    (new : name ∉ artifacts.map (·.name)) : name ∈ stale disk directory artifacts := by
  obtain ⟨names, located, isSeen⟩ := Disk.look_eq_ok_iff.mp seen
  have isPlace : names = _ :=
    (Disk.locate_eq_ok located).trans (place_child_artifact directory isName)
  rw [isPlace] at isSeen
  exact (mem_stale_iff unique).mpr ⟨isName, new, _, content, Disk.locate_of_child located, isSeen⟩

/-- What is removed are files. -/
theorem exists_file_of_mem_stale {disk : Disk} (unique : disk.Unique) {artifacts : List Artifact}
    {name : Text}
    (mem : name ∈ stale disk directory artifacts) :
    ∃ content, disk.view (directory.place ++ [name]) = some (.file content) := by
  obtain ⟨_, _, place, content, located, seen⟩ := (mem_stale_iff unique).mp mem
  rw [Disk.locate_eq_ok located] at seen
  exact ⟨content, seen⟩

/-- Some files in a directory are gone, and nothing else is different. -/
structure Removed (above : List Text) (names : List Text) (disk disk' : Disk) : Prop where
  view : ∀ others, disk'.view others =
    if others ∈ names.map (above ++ [·]) then none else disk.view others
  unique : disk'.Unique

section

variable {disk disk' : Disk} {artifacts : List Artifact}

/-- The directories are those from before. -/
theorem Removed.directory_iff {above names : List Text} (gone : Removed above names disk disk')
    (files : ∀ name ∈ names, ∃ content, disk.view (above ++ [name]) = some (.file content))
    (others : List Text) : disk'.view others = some .directory ↔ disk.view others = some .directory := by
  rw [gone.view]
  split
  · next mem =>
      obtain ⟨name, isRemoved, rfl⟩ := List.mem_map.mp mem
      obtain ⟨content, seen⟩ := files name isRemoved
      simp [seen]
  · exact Iff.rfl

/-- One more file is removed. -/
theorem Removed.remove {before : List Text} {name : Text}
    (gone : Removed directory.place before disk disk') (unique : disk.Unique)
    (areStale : ∀ other ∈ before, other ∈ stale disk directory artifacts)
    (isStale : name ∈ stale disk directory artifacts) :
    Removed directory.place (before ++ [name]) disk (disk'.remove (directory.child name)) := by
  obtain ⟨isName, _, place, content, located, seen⟩ := (mem_stale_iff unique).mp isStale
  have place_eq : place = directory.place := Disk.locate_eq_ok located
  subst place_eq
  have inside : disk.view directory.place = some .directory :=
    Disk.view_eq_directory_of_append (by simp) seen
  -- The directory is still there, so the name in it is found.
  have directories (names : List Text) (seen : disk.view names = some .directory) :
      disk'.view names = some .directory :=
    (gone.directory_iff (fun _ mem => exists_file_of_mem_stale unique (areStale _ mem)) names).mpr seen
  have child := Disk.locate_child (Disk.follow_of_directories directories located)
    (directories _ inside) (ne_of_isArtifactName isName (by decide))
  refine ⟨fun others => ?_, gone.unique.remove _⟩
  rw [Disk.view_remove child (by simp), List.map_append, List.map_singleton]
  by_cases below : directory.place ++ [name] <+: others
  · rw [if_pos below]
    obtain ⟨more, rfl⟩ := below
    cases more with
    | nil => simp
    | cons next more =>
        rw [Disk.view_eq_none_of_file seen (List.prefix_append _ (next :: more)) (by simp)]
        split <;> rfl
  · have other : others ≠ directory.place ++ [name] := by
      rintro rfl
      exact below (List.prefix_refl _)
    rw [if_neg below, gone.view]
    simp [other]

theorem Removed.touches (unique : disk.Unique)
    (gone : Removed directory.place (stale disk directory artifacts) disk disk') :
    disk.Touches ((stale disk directory artifacts).map (directory.place ++ [·])) disk' := by
  constructor
  · exact fun names => (gone.directory_iff (fun _ => exists_file_of_mem_stale unique) names).mpr
  · intro names outside
    rw [gone.view, if_neg outside]
    exact Or.inl rfl

/-- The artifacts are not removed. -/
theorem Removed.readText (unique : disk.Unique)
    (gone : Removed directory.place (stale disk directory artifacts) disk disk') {text : Text}
    (mem : artifact ∈ artifacts) (isName : isArtifactName artifact.name = true)
    (read : disk.readText (directory.child artifact.name) = .ok text) :
    disk'.readText (directory.child artifact.name) = .ok text := by
  apply readText_of_touches (gone.touches unique) _ read
  intro isStale
  obtain ⟨name, isStale, same⟩ := List.mem_map.mp isStale
  rw [place_child_artifact _ isName] at same
  obtain ⟨_, new, _⟩ := (mem_stale_iff unique).mp isStale
  apply new
  rw [(List.cons.inj (List.append_cancel_left same)).1]
  exact List.mem_map_of_mem mem

/-- After the removal nothing is left to be removed. -/
theorem Removed.stale_eq_nil (unique : disk.Unique)
    (gone : Removed directory.place (stale disk directory artifacts) disk disk') :
    stale disk' directory artifacts = [] := by
  apply List.eq_nil_iff_forall_not_mem.mpr
  intro name mem
  obtain ⟨isName, new, place, content, located, seen⟩ := (mem_stale_iff gone.unique).mp mem
  have place_eq : place = directory.place := Disk.locate_eq_ok located
  rw [gone.view] at seen
  split at seen
  · cases seen
  · next kept =>
      have before := Disk.follow_of_directories
        (fun names => (gone.directory_iff (fun _ => exists_file_of_mem_stale unique) names).mp) located
      apply kept
      rw [place_eq]
      exact List.mem_map.mpr
        ⟨name, (mem_stale_iff unique).mpr ⟨isName, new, place, content, before, seen⟩, rfl⟩

/-- After the removal every file under the name of a generated one is one of the artifacts. -/
theorem Removed.mem_of_look (unique : disk.Unique)
    (gone : Removed directory.place (stale disk directory artifacts) disk disk') {name : Text}
    {content : FileContent} (isName : isArtifactName name = true)
    (seen : disk'.look (directory.child name) = .ok (.file content)) :
    name ∈ artifacts.map (·.name) := by
  by_contra new
  have isStale := mem_stale_of_look gone.unique isName seen new
  rw [gone.stale_eq_nil unique] at isStale
  cases isStale

/-- What is done elsewhere, without a new directory, leaves nothing to be removed where there was
nothing. -/
theorem stale_eq_nil_of_touches {places : List (List Text)} (unique : disk.Unique)
    (unique' : disk'.Unique) (touches : disk.Touches places disk')
    (noDirectory : disk.MakesNoDirectory disk') (outside : ∀ place ∈ places, ¬ IsArtifactPlace place)
    (none : stale disk directory artifacts = []) : stale disk' directory artifacts = [] := by
  apply List.eq_nil_iff_forall_not_mem.mpr
  intro name mem
  obtain ⟨isName, new, place, content, located, seen⟩ := (mem_stale_iff unique').mp mem
  have before : disk.view (place ++ [name]) = some (.file content) := by
    apply (touches.view_eq_file_iff _).mp seen
    exact fun isPlace => outside _ isPlace ⟨place, name, rfl, isName⟩
  have isStale : name ∈ stale disk directory artifacts := (mem_stale_iff unique).mpr
    ⟨isName, new, place, content, Disk.follow_of_directories noDirectory located, before⟩
  rw [none] at isStale
  cases isStale

end

/-- Earlier generated files are removed. -/
theorem ensures_removeStale (unique : world.disk.Unique) (artifacts : List Artifact) :
    Ensures (removeStale directory artifacts) world
      (fun removed after =>
        removed = (stale world.disk directory artifacts).map directory.child ∧
        Removed directory.place (stale world.disk directory artifacts) world.disk after.disk)
      fun _ => False := by
  unfold removeStale
  apply Ensures.get_bind
  generalize listed : stale world.disk directory artifacts = names
  apply Ensures.mapM fun done (removed : List Path) (after : World) =>
    removed = done.map directory.child ∧ Removed directory.place done world.disk after.disk
  · refine ⟨rfl, fun others => ?_, unique⟩
    rw [if_neg (by simp)]
  · rintro before name behind whole removed middle ⟨rfl, gone⟩
    have areStale : ∀ other ∈ before, other ∈ stale world.disk directory artifacts := by
      intro other mem
      rw [listed, whole]
      exact List.mem_append_left _ mem
    have isStale : name ∈ stale world.disk directory artifacts := by
      rw [listed, whole]
      exact List.mem_append_right _ List.mem_cons_self
    unfold removeFile
    apply Ensures.modify_bind
    apply Ensures.modify_bind
    apply Ensures.pure
    exact ⟨by simp, gone.remove unique areStale isStale⟩

end ClassHarvest.Project.Output
