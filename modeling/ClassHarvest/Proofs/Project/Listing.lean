import ClassHarvest.Proofs.Emission.Texts
import ClassHarvest.Proofs.Project.Authenticity
import ClassHarvest.Proofs.Project.Cancellation
import ClassHarvest.Proofs.Settings.Resolution

/-!
# Class names that are listed

What is collected of a project are the class names that a run generates, in the same order: a run puts
the findings into groups first, but they come in the order of these groups.
-/

namespace ClassHarvest.Project

open Gathering Scan Running

variable {host : Host} {request : Request} {world : World} {root : Path} {disk : Disk} {plan : Plan}
  {asked : Nat} {found : Found}

/-! ## What the mode decides -/

/-- The mode is all that settings for different modes may differ in. -/
theorem sameSearch_of_resolve {project : ProjectSettings} {options : Options}
    {mode mode' : Option Text} {settings settings' : RunSettings}
    (resolved : resolve project options mode = .ok settings)
    (resolved' : resolve project options mode' = .ok settings') : SameSearch settings settings' := by
  obtain ⟨compiled, extensions, helpers⟩ := parts_of_resolve resolved
  obtain ⟨compiled', extensions', helpers'⟩ := parts_of_resolve resolved'
  exact ⟨Except.ok.inj (compiled.symm.trans compiled'), extensions.trans extensions'.symm,
    helpers.trans helpers'.symm⟩

/-- The plans for two modes differ in the mode. -/
theorem Plan.eq_of_modes {mode mode' : Option Text} {plan' : Plan}
    (planned : Plan.of host { request with mode } disk = .ok plan)
    (planned' : Plan.of host { request with mode := mode' } disk = .ok plan') :
    plan' = { plan with settings := { plan.settings with mode := plan'.settings.mode } } := by
  obtain ⟨directory, project, loaded, resolved, selected, listed, configured⟩ := Plan.of_eq_ok planned
  obtain ⟨directory', project', loaded', resolved', selected', listed', configured'⟩ :=
    Plan.of_eq_ok planned'
  cases loaded.symm.trans loaded'
  have same := sameSearch_of_resolve resolved' resolved
  have settings : plan'.settings = { plan.settings with mode := plan'.settings.mode } :=
    SameSearch.eq_of_mode ⟨same.pattern, same.extensions, same.helpers⟩ rfl
  have scanners := Except.ok.inj (selected'.symm.trans selected)
  have files := Except.ok.inj (listed'.symm.trans listed)
  have directories := configured'.trans configured.symm
  obtain ⟨settings', scanners', directory', files'⟩ := plan'
  simp only at settings scanners files directories
  subst scanners files directories
  rw [settings]

/-- A search finds the same in every mode. -/
theorem Search.Finds.inMode (finds : (plan.searchOn host request root disk).Finds asked found)
    (mode : Mode) : ({ plan with settings := { plan.settings with mode } }.searchOn host request root
      disk).Finds asked found :=
  finds

/-! ## Groups of findings -/

/-- The findings of some answers come scanner by scanner. -/
theorem Search.Yields.exists_groups {search : Search} (yields : search.Yields found) :
    ∃ groups, found.findings = groups.flatten ∧
      List.Forall₂ (fun category findings => ∀ finding ∈ findings, finding.category = category)
        (search.scanners.map (·.category)) groups := by
  obtain ⟨groups, isAnswers, answered⟩ := yields.answers
  refine ⟨groups.map (·.flatMap Answer.findings), ?_, ?_⟩
  · unfold Found.findings
    rw [isAnswers, List.flatten_eq_flatMap, List.flatMap_assoc, List.flatMap_def]
    rfl
  · rw [List.forall₂_map_left_iff, List.forall₂_map_right_iff]
    apply answered.imp
    intro scanner answers own finding mem
    obtain ⟨answer, isAnswer, mem⟩ := List.mem_flatMap.mp mem
    exact own answer isAnswer finding mem

/-- Every finding belongs to a scanner of the search. -/
theorem Search.Yields.known {search : Search} (yields : search.Yields found) :
    Generation.Known search.scanners found.findings := by
  obtain ⟨groups, isFindings, each⟩ := yields.exists_groups
  rw [Generation.Known, isFindings]
  exact ClassSet.known_of_forall₂ each

/-- The class set of what a search finds has the class names of all findings, in their order. -/
theorem Search.Yields.classes_eq {search : Search} (yields : search.Yields found)
    (own : ∀ scanner ∈ search.scanners, scanner ∈ Scanner.builtIn) (nodup : search.scanners.Nodup)
    (marker : Marker) :
    (ClassSet.aggregate marker found.findings (search.scanners.map (·.category))).classes =
      ClassSet.union (found.findings.map (·.classes)) := by
  obtain ⟨groups, isFindings, each⟩ := yields.exists_groups
  rw [isFindings]
  exact ClassSet.classes_aggregate (Generation.nodup_categories own nodup) each marker

/-! ## Listing -/

end ClassHarvest.Project
