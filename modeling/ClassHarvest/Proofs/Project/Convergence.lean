import ClassHarvest.Proofs.Project.Listing

/-!
# The output directory after a run

Whatever was in the output directory before a run, afterwards it holds what was generated and nothing
else under the names of generated files, and what has another name is as it was.
-/

namespace ClassHarvest

open Emission Scan

/-! ## What is generated -/

/-- The generated files can be written one beside the other, and are read as they were written. -/
structure Generation.Writable (generation : Generation) : Prop where
  names : (generation.artifacts.map (·.name)).Nodup
  texts : ∀ artifact ∈ generation.artifacts, Feeds artifact.text

namespace Project

variable {host : Host} {request : Request} {root : Path} {plan : Plan} {found : Found}
  {outcome : Outcome} {disk kept wrote disk' : Disk} {place : List Text}

theorem Search.Yields.writable {search : Search} (yields : search.Yields found)
    (own : ∀ scanner ∈ search.scanners, scanner ∈ Scanner.builtIn) (nodup : search.scanners.Nodup)
    (mode : Mode) : (Generation.finish (Marker.select found.markers) found.findings search.scanners
      (Generation.emitterFor search.scanners mode)).Writable where
  names := Generation.nodup_names_finish own nodup yields.known
  texts := by
    apply fun artifact => Generation.feeds_of_mem_finish own nodup yields.known
    intro chosen isChosen
    have isRead := yields.markers chosen (List.mem_of_mem_head? isChosen)
    exact ⟨fun c mem => (isRead.namespace c mem).2, fun c mem => (isRead.name c mem).2,
      fun c mem => (isRead.modifiers c mem).2⟩

/-! ## What a run leaves -/

/-- The places of what was generated. -/
def Outcome.places (outcome : Outcome) : List (List Text) :=
  outcome.generation.artifacts.map (Output.targetPlace outcome.outputDirectory)

/-- The output directory holds what was generated and no other file with the name of a generated one, and
nothing else on the disk is different, apart from the caches of the project.  Where the output directory
is reached directly, only the way to it is made, and what was written is what was missing. -/
structure Converged (root : Path) (outcome : Outcome) (disk disk' : Disk) : Prop where
  /-- The generated files are there with their texts. -/
  texts : ∀ artifact ∈ outcome.generation.artifacts,
    disk'.readText (outcome.outputDirectory.child artifact.name) = .ok artifact.text
  /-- No other file in the output directory has the name of a generated one. -/
  owned : ∀ name content, isArtifactName name = true →
    disk'.look (outcome.outputDirectory.child name) = .ok (.file content) →
      name ∈ outcome.generation.artifacts.map (·.name)
  /-- The other files are as they were. -/
  files : ∀ place, place ∉ cachePlaces root → place ∉ outcome.places →
    place ∉ outcome.removed.map Path.place → ∀ content,
      disk'.view place = some (.file content) ↔ disk.view place = some (.file content)
  /-- The directories that were there are there. -/
  directories : ∀ place, disk.view place = some .directory → disk'.view place = some .directory
  /-- There is nothing new but what was generated, the caches, and the way to the output directory. -/
  others : Output.Direct disk outcome.outputDirectory → ∀ place, place ∉ cachePlaces root →
    place ≠ root.names ++ [Walk.stateDirectory] → place ∉ outcome.places →
      place ∉ outcome.removed.map Path.place → ¬ place <+: outcome.outputDirectory.place →
        disk'.view place = disk.view place
  /-- What was written are the generated files that were missing or had other texts, in order. -/
  written : Output.Direct disk outcome.outputDirectory → outcome.written =
    (outcome.generation.artifacts.filter fun artifact =>
      disk.readText (outcome.outputDirectory.child artifact.name) ≠ .ok artifact.text).map
        fun artifact => outcome.outputDirectory.child artifact.name
  /-- What was removed are files in the output directory in the order of their names. -/
  sorted : ∃ names : List Text, outcome.removed = names.map outcome.outputDirectory.child ∧ names.Nodup ∧
    names.Pairwise fun name other => Text.le name other = true
  /-- What was removed are the files that are gone. -/
  removed : ∀ place, place ∈ outcome.removed.map Path.place ↔ place ∉ cachePlaces root ∧
    (∃ content, disk.view place = some (.file content)) ∧ disk'.view place = none

namespace Settles

variable (settles : Settles root outcome disk kept wrote disk') (unique : disk.Unique)
  (plain : Path.parentName ∉ root.names)

include settles

include unique in
theorem unique_wrote : wrote.Unique :=
  settles.written.unique (settles.confined.unique unique)

include plain in
theorem not_mem_cachePlaces (mem : place ∈ outcome.places) : place ∉ cachePlaces root := by
  exact fun isCache => not_isArtifactPlace_cachePlaces plain isCache
    (Output.isArtifactPlace_of_mem settles.names _ place mem)

include unique in
/-- The places of what was removed. -/
theorem places_removed : outcome.removed.map Path.place =
    (Output.stale wrote outcome.outputDirectory outcome.generation.artifacts).map
      (outcome.outputDirectory.place ++ [·]) := by
  rw [settles.stale, List.map_map]
  apply List.map_congr_left
  intro name isStale
  exact Output.place_child_artifact _
    ((Output.mem_stale_iff (settles.unique_wrote unique)).mp isStale).1

include unique in
theorem texts (writable : outcome.generation.Writable) :
    ∀ artifact ∈ outcome.generation.artifacts,
      disk'.readText (outcome.outputDirectory.child artifact.name) = .ok artifact.text := by
  intro artifact mem
  have nodup := Output.nodup_places writable.names settles.names outcome.outputDirectory
  apply settles.removed.readText (settles.unique_wrote unique) mem (settles.names artifact mem)
  exact settles.written.texts nodup artifact mem (writable.texts artifact mem)

include unique in
theorem owned {name : Text} {content : FileContent} (isName : isArtifactName name = true)
    (seen : disk'.look (outcome.outputDirectory.child name) = .ok (.file content)) :
    name ∈ outcome.generation.artifacts.map (·.name) :=
  settles.removed.mem_of_look (settles.unique_wrote unique) isName seen

include unique in
/-- What was not removed is as it was after writing. -/
theorem view_eq_wrote (remains : place ∉ outcome.removed.map Path.place) :
    disk'.view place = wrote.view place := by
  rw [settles.places_removed unique] at remains
  rw [settles.removed.view, if_neg remains]

include unique in
theorem view_eq_file_iff (notCache : place ∉ cachePlaces root) (notArtifact : place ∉ outcome.places)
    (remains : place ∉ outcome.removed.map Path.place) (content : FileContent) :
    disk'.view place = some (.file content) ↔ disk.view place = some (.file content) := by
  rw [settles.view_eq_wrote unique remains, settles.written.touches.view_eq_file_iff notArtifact,
    settles.confined.touches.view_eq_file_iff notCache]

include unique in
theorem directories (seen : disk.view place = some .directory) :
    disk'.view place = some .directory := by
  have unique' := settles.unique_wrote unique
  apply (settles.removed.directory_iff (fun _ => Output.exists_file_of_mem_stale unique') place).mpr
  exact settles.written.touches.directories _ (settles.confined.touches.directories _ seen)

include unique plain in
/-- What was removed are the files that are gone. -/
theorem mem_places_removed_iff (writable : outcome.generation.Writable) :
    place ∈ outcome.removed.map Path.place ↔ place ∉ cachePlaces root ∧
      (∃ content, disk.view place = some (.file content)) ∧ disk'.view place = none := by
  constructor
  · intro mem
    rw [settles.places_removed unique] at mem
    have gone : disk'.view place = none := by rw [settles.removed.view, if_pos mem]
    obtain ⟨name, isStale, rfl⟩ := List.mem_map.mp mem
    have unique' := settles.unique_wrote unique
    obtain ⟨isName, new, _⟩ := (Output.mem_stale_iff unique').mp isStale
    obtain ⟨content, seen⟩ := Output.exists_file_of_mem_stale unique' isStale
    have notCache : outcome.outputDirectory.place ++ [name] ∉ cachePlaces root :=
      fun isCache => not_isArtifactPlace_cachePlaces plain isCache ⟨_, name, rfl, isName⟩
    have notArtifact : outcome.outputDirectory.place ++ [name] ∉ outcome.places := by
      rw [← Output.place_child_artifact _ isName]
      exact mt (Output.place_child_mem_iff settles.names isName).mp new
    refine ⟨notCache, ⟨content, ?_⟩, gone⟩
    rw [← settles.confined.touches.view_eq_file_iff notCache]
    exact (settles.written.touches.view_eq_file_iff notArtifact).mp seen
  · rintro ⟨notCache, ⟨content, seen⟩, gone⟩
    by_contra remains
    by_cases isArtifact : place ∈ outcome.places
    · obtain ⟨artifact, mem, rfl⟩ := List.mem_map.mp isArtifact
      obtain ⟨content', look⟩ := Output.look_of_readText (settles.texts unique writable artifact mem)
      obtain ⟨names, located, isSeen⟩ := Disk.look_eq_ok_iff.mp look
      rw [Disk.locate_eq_ok located] at isSeen
      cases gone.symm.trans isSeen
    · have still := (settles.view_eq_file_iff unique notCache isArtifact remains content).mpr seen
      rw [gone] at still
      cases still

/-- If the output directory is reached directly, then what was missing after the caches were kept was
written, and nothing beside. -/
theorem supplies (writable : outcome.generation.Writable)
    (direct : Output.Direct disk outcome.outputDirectory) : Output.Supplied outcome.outputDirectory
      outcome.generation.artifacts outcome.written kept wrote :=
  settles.supplied (Output.nodup_places writable.names settles.names outcome.outputDirectory)
    (direct.of_touches settles.confined.touches)

include unique in
/-- Nothing else is different, if the output directory is reached directly. -/
theorem view_eq (writable : outcome.generation.Writable) (inside : disk.view root.names = some .directory)
    (direct : Output.Direct disk outcome.outputDirectory) (notCache : place ∉ cachePlaces root)
    (notState : place ≠ root.names ++ [Walk.stateDirectory]) (notArtifact : place ∉ outcome.places)
    (remains : place ∉ outcome.removed.map Path.place)
    (aside : ¬ place <+: outcome.outputDirectory.place) : disk'.view place = disk.view place := by
  rw [settles.view_eq_wrote unique remains,
    (settles.supplies writable direct).beside place notArtifact aside]
  exact (settles.confined.makesOnly inside).view_eq settles.confined.touches notState notCache

include plain in
/-- What was written is what was missing, if the output directory is reached directly. -/
theorem written_eq (writable : outcome.generation.Writable)
    (direct : Output.Direct disk outcome.outputDirectory) :
    outcome.written =
      (Output.missing disk outcome.outputDirectory outcome.generation.artifacts).map
        fun artifact => outcome.outputDirectory.child artifact.name := by
  rw [(settles.supplies writable direct).written,
    direct.missing_eq settles.confined.touches settles.names]
  exact fun artifact mem => settles.not_mem_cachePlaces plain (List.mem_map_of_mem mem)

include unique plain in
theorem converged (writable : outcome.generation.Writable)
    (inside : disk.view root.names = some .directory) : Converged root outcome disk disk' where
  texts := settles.texts unique writable
  owned := fun _ _ => settles.owned unique
  files := fun _ => settles.view_eq_file_iff unique
  directories := fun _ => settles.directories unique
  others := fun direct _ => settles.view_eq unique writable inside direct
  written := settles.written_eq plain writable
  sorted := ⟨_, settles.stale, Output.nodup_stale (settles.unique_wrote unique) _ _,
    Output.pairwise_stale _ _ _⟩
  removed := fun _ => settles.mem_places_removed_iff unique plain writable

end Settles

/-! ## Convergence -/

end Project
end ClassHarvest
