import ClassHarvest.Proofs.Dictionary
import ClassHarvest.Proofs.Steps
import ClassHarvest.Project.Search

/-!
# What holds of the desk of a search

A search takes account of its scans, changes what the cache holds, and puts the files on its desk that it
has read.  What none of these breaks holds of the desk whenever it holds at the beginning, however the
search ends.
-/

namespace ClassHarvest.Project

open Scan

/-- A step keeps a property of the desk, also if it fails. -/
def Preserves {α : Type} (holds : Desk → Prop) (step : Searching α) : Prop :=
  ∀ desk, holds desk → Ensures step desk (fun _ => holds) holds

namespace Preserves

variable {α β : Type} {holds : Desk → Prop} {step : Searching α} {next : α → Searching β}

theorem pure (value : α) : Preserves holds (Pure.pure value : Searching α) :=
  fun _ before => Ensures.pure before

theorem throw (failure : Failure) : Preserves holds (MonadExcept.throw failure : Searching α) :=
  fun _ before => Ensures.throw before

theorem bind (first : Preserves holds step) (rest : ∀ value, Preserves holds (next value)) :
    Preserves holds (step >>= next) :=
  fun desk before => Ensures.bind (first desk before) rest

theorem get_bind {next : Desk → Searching β} (rest : ∀ desk, Preserves holds (next desk)) :
    Preserves holds (get >>= next) :=
  fun desk before => rest desk desk before

theorem modify {f : Desk → Desk} (keeps : ∀ desk, holds desk → holds (f desk)) :
    Preserves holds (modify f : Searching Unit) :=
  fun desk before => Ensures.of_modify (keeps desk before)

theorem mapM {f : α → Searching β} {xs : List α} (each : ∀ x ∈ xs, Preserves holds (f x)) :
    Preserves holds (xs.mapM f) := by
  induction xs with
  | nil => exact pure []
  | cons x xs ih =>
      rw [List.mapM_cons]
      exact bind (each x List.mem_cons_self) fun y =>
        bind (ih fun x mem => each x (List.mem_cons_of_mem _ mem)) fun ys => pure (y :: ys)

end Preserves

namespace Search

/-- Nothing that a search does to its desk breaks a property. -/
structure Respects (search : Search) (holds : Desk → Prop) : Prop where
  progress : ∀ desk progress, holds desk → holds { desk with progress }
  cache : ∀ desk cache, cache.location = desk.cache.location → holds desk → holds { desk with cache }
  units : ∀ desk, ∀ file ∈ search.sources, ∀ unit, holds desk →
    holds { desk with units := desk.units.put file.path unit }
  files : ∀ desk, ∀ file ∈ search.wholes, ∀ read, holds desk →
    holds { desk with files := desk.files.put file.path read }

namespace Respects

variable {search : Search} {holds : Desk → Prop} (respects : search.Respects holds)
  {file : FileRecord}

include respects

/-! ## Reading -/

theorem report (records : Log) : Preserves holds (report records) :=
  Preserves.modify fun desk => respects.progress desk _

theorem scanning {α : Type} (scan : Scanning α) : Preserves holds (scanning scan) := by
  intro desk before
  unfold Search.scanning
  apply Ensures.get_bind
  rcases (scan.run.run desk.progress : Except Pattern.ExtractError α × Progress) with
    ⟨result, progress⟩
  have after := respects.progress desk progress before
  cases result with
  | ok value => exact Ensures.modify_bind (Ensures.pure after)
  | error error => exact Ensures.modify_bind (Ensures.throw after)

theorem textOf (file : FileRecord) : Preserves holds (search.textOf file) := by
  unfold Search.textOf
  split
  · exact Preserves.pure _
  · exact Preserves.bind (respects.report _) fun _ => Preserves.pure _

theorem unitOf (isSource : file ∈ search.sources) : Preserves holds (search.unitOf file) := by
  have keep (unit : Option CSharp.SourceUnit) : Preserves holds (do
      modify fun desk => { desk with units := desk.units.put file.path unit }
      return unit : Searching (Option CSharp.SourceUnit)) :=
    Preserves.bind (Preserves.modify fun desk => respects.units desk file isSource unit)
      fun _ => Preserves.pure _
  unfold Search.unitOf
  apply Preserves.get_bind
  intro desk
  split
  · exact Preserves.pure _
  · apply Preserves.bind (respects.textOf file)
    intro text
    cases text with
    | none => exact Preserves.bind (Preserves.pure none) keep
    | some text =>
        dsimp only
        split
        · exact Preserves.bind (Preserves.pure _) keep
        · exact Preserves.bind (Preserves.throw _) keep

theorem fileOf (isWhole : file ∈ search.wholes) : Preserves holds (search.fileOf file) := by
  unfold Search.fileOf
  apply Preserves.get_bind
  intro desk
  split
  · exact Preserves.pure _
  · exact Preserves.bind (respects.textOf file) fun _ =>
      Preserves.bind (Preserves.modify fun desk => respects.files desk file isWhole _) fun _ =>
        Preserves.pure _

/-! ## Searching -/

theorem markersIn (isSource : file ∈ search.sources) : Preserves holds (search.markersIn file) := by
  unfold Search.markersIn
  apply Preserves.get_bind
  intro desk
  dsimp only
  split
  · exact Preserves.pure _
  · exact Preserves.bind (respects.unitOf isSource) fun _ =>
      Preserves.bind (Preserves.modify fun desk => respects.cache desk _ rfl) fun _ =>
        Preserves.pure _

/-- Which files a scanner reads decides how they are read. -/
theorem scan {scanner : Scanner} (isInput : file ∈ search.inputsOf scanner) :
    Preserves holds (search.scan scanner file) := by
  unfold Search.inputsOf at isInput
  unfold Search.scan
  cases input : scanner.input with
  | file =>
      rw [input] at isInput
      apply Preserves.bind (respects.fileOf isInput)
      intro whole
      split
      · exact Preserves.pure _
      · exact respects.scanning _
  | source =>
      rw [input] at isInput
      apply Preserves.bind (respects.unitOf isInput)
      intro unit
      split
      · exact Preserves.pure _
      · exact respects.scanning _

theorem answer {scanner : Scanner} (fingerprint : Text) (isInput : file ∈ search.inputsOf scanner) :
    Preserves holds (search.answer scanner fingerprint file) := by
  unfold Search.answer
  apply Preserves.get_bind
  intro desk
  split
  · exact Preserves.pure _
  · exact Preserves.bind (respects.scan isInput) fun _ =>
      Preserves.bind (Preserves.modify fun desk => respects.cache desk _ rfl) fun _ =>
        Preserves.pure _

theorem answersOf (scanner : Scanner) : Preserves holds (search.answersOf scanner) := by
  unfold Search.answersOf
  split
  · exact Preserves.throw _
  · exact Preserves.mapM fun file isInput => respects.answer _ isInput

/-- What a search respects it preserves. -/
theorem preserves : Preserves holds search.search := by
  have location (cache : ScanCache) (keys : List Text) :
      (cache.prune keys).location = cache.location := by
    unfold ScanCache.prune
    split <;> rfl
  unfold Search.search
  apply Preserves.bind (Preserves.mapM fun file isSource => respects.markersIn isSource)
  intro markers
  apply Preserves.bind (Preserves.mapM fun scanner _ => respects.answersOf scanner)
  intro answers
  apply Preserves.bind (respects.report _)
  intro _
  apply Preserves.get_bind
  intro desk
  apply Preserves.bind (respects.report _)
  intro _
  exact Preserves.bind (Preserves.modify fun desk => respects.cache desk _ (location _ _)) fun _ =>
    Preserves.pure _

end Respects

/-! ## What is read -/

/-- A search does not move its cache. -/
theorem respects_location (search : Search) (location : Option Path) :
    search.Respects fun desk => desk.cache.location = location where
  progress := fun _ _ before => before
  cache := fun _ _ same before => same.trans before
  units := fun _ _ _ _ before => before
  files := fun _ _ _ _ before => before

/-- Only source files are read as source. -/
theorem respects_units (search : Search) :
    search.Respects fun desk => ∀ path ∈ desk.units.keys, path ∈ search.sources.map (·.path) where
  progress := fun _ _ before => before
  cache := fun _ _ _ before => before
  units := by
    intro desk file isSource unit before path mem
    rw [Dictionary.keys_put] at mem
    split at mem
    · exact before path mem
    · rcases List.mem_append.mp mem with earlier | isLast
      · exact before path earlier
      · rw [List.mem_singleton.mp isLast]
        exact List.mem_map_of_mem isSource
  files := fun _ _ _ _ before => before

end Search
end ClassHarvest.Project
