import ClassHarvest.Generation
import ClassHarvest.Proofs.Gathering

/-!
# What scans compute

A scan keeps account of its progress, but what it gives does not depend on it: it is a computation
of its own, which may fail, as long as the scan is not called off.  This module states what that
means, and gives the computation of every part of a generation.
-/

namespace ClassHarvest.Scan

open CSharp Gathering Pattern

variable {α β : Type}

/-- The scan gives the outcome after all progress, unless the signal cancels it. -/
def Computes (signal : Signal) (scan : Scanning α) (outcome : Except ExtractError α) : Prop :=
  ∀ progress, (scan.run.run progress).1 = outcome ∨
    ((∃ asked, signal asked = true) ∧ (scan.run.run progress).1 = .error .cancelled)

namespace Computes

variable {signal : Signal}

/-! ## Steps and their sequences -/

theorem pure (value : α) : Computes signal (Pure.pure value) (.ok value) := by
  intro progress
  left
  rfl

/-- A sequence of scans computes the sequence of what they compute. -/
theorem bind {scan : Scanning α} {next : α → Scanning β} {outcome : Except ExtractError α}
    {after : α → Except ExtractError β} (first : Computes signal scan outcome)
    (second : ∀ value, outcome = .ok value → Computes signal (next value) (after value)) :
    Computes signal (scan >>= next) (outcome >>= after) := by
  intro progress
  have unfolded : ((scan >>= next).run.run progress).1 =
      match scan.run.run progress with
      | (.ok value, middle) => ((next value).run.run middle).1
      | (.error error, _) => .error error := by
    rw [ExceptT.run_bind, StateT.run_bind]
    generalize StateT.run scan.run progress = given
    obtain ⟨_ | _, _⟩ := given <;> rfl
  rw [unfolded]
  obtain found | ⟨cancels, found⟩ := first progress
  all_goals
    generalize scan.run.run progress = given at found
    obtain ⟨result, middle⟩ := given
    change result = _ at found
    subst found
  · cases result with
    | error error =>
        left
        rfl
    | ok value => exact second value rfl middle
  · right
    exact ⟨cancels, rfl⟩

/-- Reports have no influence on what follows them. -/
theorem report_bind {next : Unit → Scanning α} {outcome : Except ExtractError α} (records : Log)
    (after : Computes signal (next ()) outcome) :
    Computes signal (report records >>= next) outcome := by
  intro progress
  exact after { progress with log := progress.log ++ records }

/-- What is done with what a scan gives is done with what it computes. -/
theorem map {scan : Scanning α} {outcome : Except ExtractError α} (f : α → β)
    (first : Computes signal scan outcome) :
    Computes signal (scan >>= fun value => Pure.pure (f value)) (outcome.map f) := by
  have both : Computes signal (scan >>= fun value => Pure.pure (f value))
      (outcome >>= fun value => .ok (f value)) :=
    first.bind fun value _ => pure (f value)
  cases outcome <;> exact both

/-- Scans of a list compute the list of what they compute. -/
theorem mapM {scan : α → Scanning β} {outcome : α → Except ExtractError β} (xs : List α)
    (each : ∀ x ∈ xs, Computes signal (scan x) (outcome x)) :
    Computes signal (xs.mapM scan) (xs.mapM outcome) := by
  induction xs with
  | nil => exact pure []
  | cons x xs ih =>
      rw [List.mapM_cons, List.mapM_cons]
      apply bind (each x (by simp))
      intro first _
      apply bind (ih fun y member => each y (by simp [member]))
      intro rest _
      exact pure (first :: rest)

/-- A scan that is never cancelled gives what it computes. -/
theorem eq_of_never {scan : Scanning α} {outcome : Except ExtractError α}
    (computes : Computes Signal.never scan outcome) (progress : Progress) :
    (scan.run.run progress).1 = outcome := by
  obtain found | ⟨⟨_, cancels⟩, _⟩ := computes progress
  · exact found
  · cases cancels

/-! ## Searches -/

/-- The signal and the count of its questions have an influence on the class lists of a text only if
the search is called off. -/
theorem valuesOf_cases (signal : Signal) (pattern : ClassPattern) (text : Array CodePoint)
    (found : List Match) (asked asked' : Nat) :
    (valuesOf pattern text signal asked found).map (·.1) =
        (valuesOf pattern text Signal.never asked' found).map (·.1) ∨
      ((∃ n, signal n = true) ∧
        valuesOf pattern text signal asked found = .error .cancelled) := by
  induction found generalizing asked asked' with
  | nil =>
      left
      rfl
  | cons found rest ih =>
      rw [valuesOf, valuesOf]
      by_cases cancels : signal asked = true
      · right
        rw [if_pos cancels]
        exact ⟨⟨asked, cancels⟩, rfl⟩
      · rw [if_neg cancels, if_neg (by simp [Signal.never])]
        cases pattern.valueOf text found with
        | error error =>
            left
            rfl
        | ok value =>
            obtain same | ⟨cancels, off⟩ := ih (asked + 1) (asked' + 1)
            · left
              generalize valuesOf pattern text signal (asked + 1) rest = left at same ⊢
              generalize valuesOf pattern text Signal.never (asked' + 1) rest = right at same ⊢
              cases left <;> cases right <;> simp_all [Except.map]
            · right
              refine ⟨cancels, ?_⟩
              simp only [off]

theorem run_find (settings : RunSettings) (text : Text) (progress : Progress) :
    (Scan.find settings signal text).run.run progress =
      ((match settings.pattern.extractUnder signal progress.asked text with
        | .error error => throw error
        | .ok (found, asked) => do
            modify fun progress => { progress with asked }
            return found : Scanning (List Text)).run.run progress) :=
  rfl

theorem find (settings : RunSettings) (text : Text) :
    Computes signal (find settings signal text) (settings.pattern.extract text) := by
  intro progress
  have unfolded : ((Scan.find settings signal text).run.run progress).1 =
      (settings.pattern.extractUnder signal progress.asked text).map (·.1) := by
    rw [run_find]
    cases settings.pattern.extractUnder signal progress.asked text <;> rfl
  rw [unfolded]
  obtain same | ⟨cancels, off⟩ := valuesOf_cases signal settings.pattern text.toArray
    (settings.pattern.program.regex.allMatches settings.pattern.program.flags text.toArray)
    progress.asked 0
  · left
    exact same
  · right
    refine ⟨cancels, ?_⟩
    change (valuesOf settings.pattern text.toArray signal progress.asked _).map (·.1) = _
    rw [off]
    rfl

end Computes

/-! ## Findings -/

namespace Scanner

/-- The class names that a call of the shape that a scanner reads supplies. -/
def supplied (scanner : Scanner) (settings : RunSettings) (call : Call) :
    Except ExtractError (Option (List Text)) :=
  match scanner.subject with
  | .attributes => .ok (call.attributeLiteral?.map ([·]))
  | .markup => call.markupLiterals? settings.pattern.extract
  | .helpers => .ok (call.helperLiteral?.map ([·]))
  | .files | .nothing => .ok none

/-- The finding at a call, if there is one. -/
def findingAt (scanner : Scanner) (settings : RunSettings) (path : Text) (call : Call) :
    Except ExtractError (Option Finding) :=
  if scanner.matches settings call then
    (scanner.supplied settings call).map fun supplied =>
      supplied.map fun classes => ⟨scanner.category, path, call.line, classes⟩
  else .ok none

/-- The findings in a source unit. -/
def findingsInUnit (scanner : Scanner) (settings : RunSettings) (unit : SourceUnit) :
    Except ExtractError (List Finding) :=
  (unit.calls.mapM (scanner.findingAt settings unit.path)).map (·.filterMap id)

/-- The findings in a file. -/
def findingsInFile (scanner : Scanner) (settings : RunSettings) (file : TextFile) :
    Except ExtractError (List Finding) :=
  if scanner.supports settings file.path then
    (settings.pattern.extract file.text).map fun classes =>
      [⟨scanner.category, file.path, 0, classes⟩]
  else .ok []

/-- The findings in some inputs. -/
def findingsIn (scanner : Scanner) (units : List SourceUnit) (files : List TextFile)
    (settings : RunSettings) : Except ExtractError (List Finding) := do
  let inUnits ← units.mapM (scanner.findingsInUnit settings)
  let inFiles ← files.mapM (scanner.findingsInFile settings)
  return inUnits.flatten ++ inFiles.flatten

/-- A finding at a call holds what the call supplies. -/
theorem findingAt_eq_some {scanner : Scanner} {settings : RunSettings} {path : Text} {call : Call}
    {finding : Finding} (found : scanner.findingAt settings path call = .ok (some finding)) :
    ∃ classes, scanner.supplied settings call = .ok (some classes) ∧
      finding = ⟨scanner.category, path, call.line, classes⟩ := by
  unfold findingAt at found
  split at found
  · cases supplied : scanner.supplied settings call with
    | error error =>
        rw [supplied] at found
        cases found
    | ok classes? =>
        rw [supplied] at found
        cases classes? with
        | none => cases found
        | some classes =>
            cases found
            exact ⟨classes, rfl, rfl⟩
  · cases found

theorem exists_of_mem_findingsInUnit {scanner : Scanner} {settings : RunSettings}
    {unit : SourceUnit} {found : List Finding}
    (given : scanner.findingsInUnit settings unit = .ok found) {finding : Finding}
    (member : finding ∈ found) :
    ∃ call ∈ unit.calls, ∃ classes, scanner.supplied settings call = .ok (some classes) ∧
      finding = ⟨scanner.category, unit.path, call.line, classes⟩ := by
  unfold findingsInUnit at given
  cases mapped : unit.calls.mapM (scanner.findingAt settings unit.path) with
  | error error =>
      rw [mapped] at given
      cases given
  | ok each =>
      rw [mapped] at given
      cases given
      obtain ⟨some', inEach, rfl⟩ := List.mem_filterMap.mp member
      obtain ⟨call, isCall, foundAt⟩ := exists_of_mem_mapM mapped inEach
      exact ⟨call, isCall, findingAt_eq_some foundAt⟩

theorem exists_of_mem_findingsInFile {scanner : Scanner} {settings : RunSettings}
    {file : TextFile} {found : List Finding}
    (given : scanner.findingsInFile settings file = .ok found) {finding : Finding}
    (member : finding ∈ found) :
    ∃ classes, settings.pattern.extract file.text = .ok classes ∧
      finding = ⟨scanner.category, file.path, 0, classes⟩ := by
  unfold findingsInFile at given
  split at given
  · cases extracted : settings.pattern.extract file.text with
    | error error =>
        rw [extracted] at given
        cases given
    | ok classes =>
        rw [extracted] at given
        cases given
        exact ⟨classes, rfl, List.mem_singleton.mp member⟩
  · cases given
    cases member

/-- All findings of a scanner have its category. -/
theorem category_of_mem_findingsIn {scanner : Scanner} {units : List SourceUnit}
    {files : List TextFile} {settings : RunSettings} {found : List Finding}
    (given : scanner.findingsIn units files settings = .ok found) {finding : Finding}
    (member : finding ∈ found) : finding.category = scanner.category := by
  unfold findingsIn at given
  cases inUnits : units.mapM (scanner.findingsInUnit settings) with
  | error error =>
      rw [inUnits] at given
      cases given
  | ok unitFindings =>
      cases inFiles : files.mapM (scanner.findingsInFile settings) with
      | error error =>
          rw [inUnits, inFiles] at given
          cases given
      | ok fileFindings =>
          rw [inUnits, inFiles] at given
          cases given
          rcases List.mem_append.mp member with inUnit | inFile
          · obtain ⟨each, inEach, isIn⟩ := List.mem_flatten.mp inUnit
            obtain ⟨unit, _, foundIn⟩ := exists_of_mem_mapM inUnits inEach
            obtain ⟨_, _, _, _, rfl⟩ := exists_of_mem_findingsInUnit foundIn isIn
            rfl
          · obtain ⟨each, inEach, isIn⟩ := List.mem_flatten.mp inFile
            obtain ⟨file, _, foundIn⟩ := exists_of_mem_mapM inFiles inEach
            obtain ⟨_, _, rfl⟩ := exists_of_mem_findingsInFile foundIn isIn
            rfl

end Scanner

namespace Computes

variable {signal : Signal}

theorem extract (scanner : Scanner) (settings : RunSettings) (call : Call) :
    Computes signal (scanner.extract settings signal call) (scanner.supplied settings call) := by
  unfold Scanner.extract Scanner.supplied
  cases scanner.subject with
  | markup =>
      simp only [Call.markupLiterals?]
      cases call.markupLiteral? with
      | none => exact pure none
      | some markup =>
          apply bind (find settings markup)
          intro classes _
          exact pure (some classes)
  | _ => exact pure _

theorem scanCall (scanner : Scanner) (settings : RunSettings) (unit : SourceUnit) (call : Call) :
    Computes signal (scanner.scanCall settings signal unit call)
      (scanner.findingAt settings unit.path call) := by
  unfold Scanner.scanCall Scanner.findingAt
  by_cases fits : scanner.matches settings call = true
  · rw [if_pos fits, if_pos fits]
    have mapped (outcome : Except ExtractError (Option (List Text)))
        (f : Option (List Text) → Option Finding) :
        outcome.map f = outcome >>= fun supplied => .ok (f supplied) := by
      cases outcome <;> rfl
    rw [mapped]
    apply bind (extract scanner settings call)
    intro supplied _
    cases supplied with
    | some classes => exact pure _
    | none => exact report_bind _ (pure none)
  · rw [if_neg fits, if_neg fits]
    exact pure none

theorem scanUnit (scanner : Scanner) (settings : RunSettings) (unit : SourceUnit) :
    Computes signal (scanner.scanUnit settings signal unit)
      (scanner.findingsInUnit settings unit) := by
  have each : Computes signal (unit.calls.mapM (scanner.scanCall settings signal unit))
      (unit.calls.mapM (scanner.findingAt settings unit.path)) :=
    mapM unit.calls fun call _ => scanCall scanner settings unit call
  exact each.map (List.filterMap id)

theorem scanFile (scanner : Scanner) (settings : RunSettings) (file : TextFile) :
    Computes signal (scanner.scanFile settings signal file)
      (scanner.findingsInFile settings file) := by
  unfold Scanner.scanFile Scanner.findingsInFile
  split
  · exact map _ (find settings file.text)
  · exact pure []

end Computes
end ClassHarvest.Scan

/-! ## Generations -/

namespace ClassHarvest.Generation

open CSharp Emission Pattern Scan

/-- The findings of some scanners in some inputs: by scanner, then by input. -/
def allFindings (scanners : List Scanner) (units : List SourceUnit) (files : List TextFile)
    (settings : RunSettings) : Except ExtractError (List Finding) :=
  (scanners.mapM fun scanner : Scanner => scanner.findingsIn units files settings).map List.flatten

/-- What a generation gives if it is not called off. -/
def outcome (scanners : List Scanner) (emitter : Emitter) (units : List SourceUnit)
    (files : List TextFile) (settings : RunSettings) : Except ExtractError Generation :=
  (allFindings scanners units files settings).map fun found =>
    finish (Marker.select (Marker.discover units)) found scanners emitter

variable {signal : Signal}

theorem computes_collect (scanners : List Scanner) (units : List SourceUnit)
    (files : List TextFile) (settings : RunSettings) :
    Computes signal (collect scanners units files settings signal)
      (allFindings scanners units files settings) := by
  have each : Computes signal
      (scanners.mapM fun scanner => do
        let inUnits ← units.mapM (scanner.scanUnit settings signal)
        let inFiles ← files.mapM (scanner.scanFile settings signal)
        return inUnits.flatten ++ inFiles.flatten)
      (scanners.mapM fun scanner => scanner.findingsIn units files settings) := by
    apply Computes.mapM
    intro scanner _
    apply Computes.bind (Computes.mapM units fun unit _ => Computes.scanUnit scanner settings unit)
    intro inUnits _
    apply Computes.bind (Computes.mapM files fun file _ => Computes.scanFile scanner settings file)
    intro inFiles _
    exact Computes.pure _
  exact each.map List.flatten

theorem computes_generate (scanners : List Scanner) (emitter : Emitter) (units : List SourceUnit)
    (files : List TextFile) (settings : RunSettings) :
    Computes signal (generate scanners emitter units files settings signal)
      (outcome scanners emitter units files settings) := by
  have mapped : outcome scanners emitter units files settings = (do
      let found ← allFindings scanners units files settings
      .ok (finish (Marker.select (Marker.discover units)) found scanners emitter)) := by
    unfold outcome
    cases allFindings scanners units files settings <;> rfl
  rw [mapped]
  apply Computes.bind (computes_collect scanners units files settings)
  intro found _
  exact Computes.report_bind _ (Computes.report_bind _ (Computes.pure _))

end ClassHarvest.Generation
