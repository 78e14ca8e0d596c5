import ClassHarvest.CommandLine.Session
import ClassHarvest.Proofs.Files.Glob
import ClassHarvest.Proofs.Files.Names
import ClassHarvest.Proofs.Project.History

/-!
# What a listing prints

A listing prints the class names that are collected, each with a line feed behind it.  Cut at the line
feeds it gives the names back, just if there is no line feed in any of them.
-/

namespace ClassHarvest

namespace Text

variable {c : CodePoint} {pieces : List Text}

/-- A piece that holds the separator is cut. -/
theorem length_splitOn_of_mem {t : Text} (mem : c ∈ t) : 1 < (List.splitOn c t).length := by
  by_contra short
  have whole := splitOn_eq_self_of_length (Nat.le_of_not_lt short)
  obtain ⟨front, back, rfl⟩ := List.append_of_mem mem
  have longer := length_splitOn_pos c back
  have first := length_splitOn_pos c front
  rw [List.splitOn_append_cons_self] at whole
  have lengths := congrArg List.length whole
  rw [List.length_append, List.length_singleton] at lengths
  omega

/-- Pieces are not cut just if none holds the separator. -/
theorem flatMap_splitOn_eq_self_iff :
    pieces.flatMap (List.splitOn c) = pieces ↔ ∀ piece ∈ pieces, c ∉ piece := by
  constructor
  · intro whole piece mem inside
    obtain ⟨front, back, rfl⟩ := List.append_of_mem mem
    have first := length_le_length_flatMap_splitOn c front
    have others := length_le_length_flatMap_splitOn c back
    have cut := length_splitOn_of_mem inside
    have lengths := congrArg List.length whole
    rw [List.flatMap_append, List.flatMap_cons, List.length_append, List.length_append,
      List.length_append, List.length_cons] at lengths
    omega
  · intro apart
    induction pieces with
    | nil => rfl
    | cons piece pieces ih =>
        have whole := splitOn_of_not_mem (apart piece List.mem_cons_self)
        rw [splitOn_eq] at whole
        rw [List.flatMap_cons, whole, ih fun other mem => apart other (List.mem_cons_of_mem _ mem)]
        rfl

end Text

namespace CommandLine

open Project

/-! ## Lines -/

/-- Lines are cut at the line feeds inside them and at their ends. -/
theorem splitOn_linesText (lines : List Text) :
    (linesText lines).splitOn '\n' = lines.flatMap (List.splitOn ('\n' : CodePoint)) ++ [[]] := by
  rw [Text.splitOn_eq]
  induction lines with
  | nil => rfl
  | cons line lines ih =>
      have closed : linesText (line :: lines) = line ++ ('\n' : CodePoint) :: linesText lines := by
        rw [linesText, List.flatMap_cons, List.append_assoc]
        rfl
      rw [closed, List.splitOn_append_cons_self, ih, List.flatMap_cons, List.append_assoc]

/-! ## Listings -/

variable {host : Host} {texts : List Text} {arguments : Arguments} {options : Options} {disk : Disk}
  {classes : List Text} {after : World}

/-- What a session leaves behind when it lists class names. -/
theorem exists_session_list (parsed : Arguments.ofTexts texts = .ok arguments)
    (isList : arguments.command = .list) (understood : Options.parse arguments.pairs = .ok options)
    (collects : (collect host (requestOf arguments options)).run.run { disk } =
      (.ok classes, after)) :
    ∃ transcript, session host texts disk = (after.disk, transcript) ∧
      transcript.ending = .exit 0 ∧ transcript.output = linesText classes := by
  have performs : ((perform host .list (requestOf arguments options)).run.run { disk } :
      Except Failure Text × World) = (.ok (listOutput classes), after) := by
    rw [perform, ExceptT.run_bind, StateT.run_bind, collects]
    rfl
  let reporter : Reporter := ⟨Reporter.thresholdFor arguments.verbose arguments.trace, none⟩
  refine ⟨{ output := linesText classes, errors := reporter.errorText after.progress.log }, ?_,
    rfl, rfl⟩
  rw [session, parsed]
  simp only [understood, isList, performs]
  rfl

end CommandLine
end ClassHarvest
