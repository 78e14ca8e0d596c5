import ClassHarvest.Proofs.Project.Search
import ClassHarvest.Proofs.Lockstep

/-!
# Searches that go together

What a search finds depends on the texts that it reads and on the answers of the signal to cancel, and
not on what was reported before.  So two searches go together as long as these are the same.
-/

namespace ClassHarvest

open CSharp Pattern

/-- What two logs have in common stays so when the same is reported to both. -/
def Log.Grows (logs : Log → Log → Prop) : Prop :=
  ∀ log log' records, logs log log' → logs (log ++ records) (log' ++ records)

/-- A signal answers as another one does, unless it cancels and that is expected. -/
def Pattern.Signal.Follows (stops : ExtractError → Prop) (signal other : Signal) : Prop :=
  ∀ asked, signal asked = other asked ∨ signal asked = true ∧ stops .cancelled

variable {logs : Log → Log → Prop}

/-! ## Scans -/

namespace Scan

variable {stops : ExtractError → Prop} {signal other : Signal}

/-- The signal has been asked as often, and the logs have something in common. -/
structure Progress.Alike (logs : Log → Log → Prop) (progress progress' : Progress) : Prop where
  asked : progress.asked = progress'.asked
  log : logs progress.log progress'.log

theorem valuesOf_eq (follows : signal.Follows stops other) (pattern : ClassPattern)
    (text : Array CodePoint) (asked : Nat) (found : List Match) :
    valuesOf pattern text signal asked found = valuesOf pattern text other asked found ∨
      valuesOf pattern text signal asked found = .error .cancelled ∧ stops .cancelled := by
  induction found generalizing asked with
  | nil => exact Or.inl rfl
  | cons found rest ih =>
      rw [valuesOf, valuesOf]
      by_cases cancels : signal asked = true
      · rw [if_pos cancels]
        rcases follows asked with same | ⟨_, expected⟩
        · rw [if_pos (same ▸ cancels)]
          exact Or.inl rfl
        · exact Or.inr ⟨rfl, expected⟩
      · rw [if_neg cancels]
        rcases follows asked with same | ⟨cancels', _⟩
        · rw [if_neg (same ▸ cancels)]
          cases pattern.valueOf text found with
          | error error => exact Or.inl rfl
          | ok value =>
              dsimp only
              rcases ih (asked + 1) with same | ⟨cancelled, expected⟩
              · rw [same]
                exact Or.inl rfl
              · rw [cancelled]
                exact Or.inr ⟨rfl, expected⟩
        · exact absurd cancels' cancels

theorem extractUnder_eq (follows : signal.Follows stops other) (pattern : ClassPattern) (asked : Nat)
    (text : Text) :
    pattern.extractUnder signal asked text = pattern.extractUnder other asked text ∨
      pattern.extractUnder signal asked text = .error .cancelled ∧ stops .cancelled :=
  valuesOf_eq follows pattern text.toArray asked _

theorem lockstep_report (grows : Log.Grows logs) (records : Log) :
    Lockstep (Progress.Alike logs) stops (report records) (report records) := by
  apply Lockstep.modify
  exact fun progress progress' same => ⟨same.asked, grows _ _ records same.log⟩

theorem lockstep_find (follows : signal.Follows stops other) (settings : RunSettings) (text : Text) :
    Lockstep (Progress.Alike logs) stops (find settings signal text) (find settings other text) := by
  unfold find
  apply Lockstep.get_bind
  intro progress progress' same
  rw [← same.asked]
  rcases extractUnder_eq follows settings.pattern progress.asked text with
    equal | ⟨cancelled, expected⟩
  · rw [equal]
    split
    · exact Lockstep.throw _
    · exact Lockstep.bind (Lockstep.modify fun _ _ same => ⟨rfl, same.log⟩) fun _ => Lockstep.pure _
  · rw [cancelled]
    exact Lockstep.stop expected

theorem lockstep_extract (follows : signal.Follows stops other) (scanner : Scanner)
    (settings : RunSettings) (call : Call) :
    Lockstep (Progress.Alike logs) stops (scanner.extract settings signal call)
      (scanner.extract settings other call) := by
  unfold Scanner.extract
  cases scanner.subject with
  | markup =>
      unfold Call.markupLiterals?
      dsimp only
      cases call.markupLiteral? with
      | none => exact Lockstep.pure _
      | some markup =>
          exact Lockstep.bind (lockstep_find follows settings markup) fun _ => Lockstep.pure _
  | _ => exact Lockstep.pure _

theorem lockstep_scanCall (grows : Log.Grows logs) (follows : signal.Follows stops other)
    (scanner : Scanner) (settings : RunSettings) (unit : SourceUnit) (call : Call) :
    Lockstep (Progress.Alike logs) stops (scanner.scanCall settings signal unit call)
      (scanner.scanCall settings other unit call) := by
  unfold Scanner.scanCall
  split
  · apply Lockstep.bind (lockstep_extract follows scanner settings call)
    intro classes
    cases classes with
    | some classes => exact Lockstep.pure _
    | none => exact Lockstep.bind (lockstep_report grows _) fun _ => Lockstep.pure _
  · exact Lockstep.pure _

theorem lockstep_scanUnit (grows : Log.Grows logs) (follows : signal.Follows stops other)
    (scanner : Scanner) (settings : RunSettings) (unit : SourceUnit) :
    Lockstep (Progress.Alike logs) stops (scanner.scanUnit settings signal unit)
      (scanner.scanUnit settings other unit) := by
  unfold Scanner.scanUnit
  exact Lockstep.bind
    (Lockstep.mapM fun call _ => lockstep_scanCall grows follows scanner settings unit call)
    fun _ => Lockstep.pure _

theorem lockstep_scanFile (follows : signal.Follows stops other) (scanner : Scanner)
    (settings : RunSettings) (file : TextFile) :
    Lockstep (Progress.Alike logs) stops (scanner.scanFile settings signal file)
      (scanner.scanFile settings other file) := by
  unfold Scanner.scanFile
  split
  · exact Lockstep.bind (lockstep_find follows settings file.text) fun _ => Lockstep.pure _
  · exact Lockstep.pure _

end Scan

/-! ## Searches -/

namespace Project

open Scan

variable {stops : Failure → Prop}

/-- Two desks hold the same, what was reported apart. -/
structure Desk.Alike (logs : Log → Log → Prop) (desk desk' : Desk) : Prop where
  cache : desk.cache = desk'.cache
  units : desk.units = desk'.units
  files : desk.files = desk'.files
  progress : desk.progress.Alike logs desk'.progress

namespace Search

/-- The same search on another disk, under another signal. -/
def onDisk (search : Search) (disk : Disk) (signal : Signal) : Search :=
  { search with disk, signal }

/-- On another disk and under another signal, a search reads the same and gets the same answers. -/
structure Matches (search : Search) (logs : Log → Log → Prop) (stops : Failure → Prop) (disk : Disk)
    (signal : Signal) : Prop where
  grows : Log.Grows logs
  follows : search.signal.Follows (fun error => stops (.extraction error)) signal
  reads : ∀ file ∈ search.manifest.files,
    let path := search.manifest.root.join (Path.ofText file.path)
    search.disk.readText path = disk.readText path ∨
      (∃ error, search.disk.readText path = .error error) ∧
        (∃ error, disk.readText path = .error error) ∧ ∀ log log', logs log log'

variable {search : Search} {disk : Disk} {signal : Signal}

theorem lockstep_report (grows : Log.Grows logs) (records : Log) :
    Lockstep (Desk.Alike logs) stops (report records) (report records) := by
  apply Lockstep.modify
  intro desk desk' same
  exact ⟨same.cache, same.units, same.files, same.progress.asked,
    grows _ _ records same.progress.log⟩

theorem run_scanning {α : Type} (scan : Scanning α) (desk : Desk) : (scanning scan).run.run desk =
    ((match (scan.run.run desk.progress : Except ExtractError α × Progress) with
      | (result, progress) => do
          set { desk with progress }
          match result with
          | .ok value => return value
          | .error error => throw (.extraction error) : Searching α)).run.run desk :=
  rfl

/-- Scans that go together do so in a search. -/
theorem lockstep_scanning {α : Type} {scan scan' : Scanning α}
    (together : Lockstep (Progress.Alike logs) (fun error => stops (.extraction error)) scan scan') :
    Lockstep (Desk.Alike logs) stops (scanning scan) (scanning scan') := by
  intro desk desk' same
  have both := together _ _ same.progress
  rw [run_scanning, run_scanning]
  generalize (scan.run.run desk.progress : Except ExtractError α × Progress) = ran at both ⊢
  generalize (scan'.run.run desk'.progress : Except ExtractError α × Progress) = ran' at both ⊢
  obtain ⟨result, progress⟩ := ran
  obtain ⟨result', progress'⟩ := ran'
  rcases both with ⟨error, isError, expected⟩ | ⟨isResult, same'⟩
  · change result = .error error at isError
    subst isError
    exact Or.inl ⟨_, rfl, expected⟩
  · change result = result' at isResult
    subst isResult
    right
    cases result with
    | ok value => exact ⟨rfl, same.cache, same.units, same.files, same'⟩
    | error error => exact ⟨rfl, same.cache, same.units, same.files, same'⟩

theorem lockstep_textOf (fits : search.Matches logs stops disk signal) {file : FileRecord}
    (mem : file ∈ search.manifest.files) :
    Lockstep (Desk.Alike logs) stops (search.textOf file) ((search.onDisk disk signal).textOf file) := by
  have reads := fits.reads file mem
  unfold textOf onDisk
  dsimp only at reads ⊢
  rcases reads with same | ⟨⟨error, unread⟩, ⟨error', unread'⟩, all⟩
  · rw [same]
    split
    · exact Lockstep.pure _
    · exact Lockstep.bind (lockstep_report fits.grows _) fun _ => Lockstep.pure _
  · rw [unread, unread']
    apply Lockstep.bind (Lockstep.modify _) fun _ => Lockstep.pure none
    exact fun _ _ same => ⟨same.cache, same.units, same.files, same.progress.asked, all _ _⟩

theorem lockstep_unitOf (fits : search.Matches logs stops disk signal) {file : FileRecord}
    (mem : file ∈ search.manifest.files) :
    Lockstep (Desk.Alike logs) stops (search.unitOf file) ((search.onDisk disk signal).unitOf file) := by
  have keep (unit : Option SourceUnit) : Lockstep (Desk.Alike logs) stops (do
      modify fun desk => { desk with units := desk.units.put file.path unit }
      return unit : Searching (Option SourceUnit)) (do
      modify fun desk => { desk with units := desk.units.put file.path unit }
      return unit) := by
    apply Lockstep.bind (Lockstep.modify _) fun _ => Lockstep.pure _
    intro desk desk' same
    refine ⟨same.cache, ?_, same.files, same.progress⟩
    dsimp only
    rw [same.units]
  unfold unitOf
  apply Lockstep.get_bind
  intro desk desk' same
  rw [← same.units]
  split
  · exact Lockstep.pure _
  · apply Lockstep.bind (lockstep_textOf fits mem)
    intro text
    cases text with
    | none => exact Lockstep.bind (Lockstep.pure none) keep
    | some text =>
        dsimp only
        split
        · exact Lockstep.bind (Lockstep.pure _) keep
        · exact Lockstep.bind (Lockstep.throw _) keep

theorem lockstep_fileOf (fits : search.Matches logs stops disk signal) {file : FileRecord}
    (mem : file ∈ search.manifest.files) :
    Lockstep (Desk.Alike logs) stops (search.fileOf file) ((search.onDisk disk signal).fileOf file) := by
  unfold fileOf
  apply Lockstep.get_bind
  intro desk desk' same
  rw [← same.files]
  split
  · exact Lockstep.pure _
  · apply Lockstep.bind (lockstep_textOf fits mem)
    intro text
    apply Lockstep.bind (Lockstep.modify _) fun _ => Lockstep.pure _
    intro desk desk' same
    refine ⟨same.cache, same.units, ?_, same.progress⟩
    dsimp only
    rw [same.files]

theorem lockstep_markersIn (fits : search.Matches logs stops disk signal) {file : FileRecord}
    (mem : file ∈ search.manifest.files) :
    Lockstep (Desk.Alike logs) stops (search.markersIn file)
      ((search.onDisk disk signal).markersIn file) := by
  unfold markersIn
  apply Lockstep.get_bind
  intro desk desk' same
  have signature : (search.onDisk disk signal).markerSignature = search.markerSignature := rfl
  dsimp only
  rw [signature, ← same.cache]
  split
  · exact Lockstep.pure _
  · apply Lockstep.bind (lockstep_unitOf fits mem)
    intro unit
    apply Lockstep.bind (Lockstep.modify _) fun _ => Lockstep.pure _
    intro desk desk' same
    refine ⟨?_, same.units, same.files, same.progress⟩
    dsimp only
    rw [same.cache]
    rfl

theorem lockstep_scan (fits : search.Matches logs stops disk signal) (scanner : Scanner)
    {file : FileRecord} (mem : file ∈ search.manifest.files) :
    Lockstep (Desk.Alike logs) stops (search.scan scanner file)
      ((search.onDisk disk signal).scan scanner file) := by
  unfold scan
  split
  · apply Lockstep.bind (lockstep_fileOf fits mem)
    intro whole
    cases whole with
    | none => exact Lockstep.pure _
    | some whole => exact lockstep_scanning (lockstep_scanFile fits.follows scanner _ whole)
  · apply Lockstep.bind (lockstep_unitOf fits mem)
    intro unit
    cases unit with
    | none => exact Lockstep.pure _
    | some unit => exact lockstep_scanning (lockstep_scanUnit fits.grows fits.follows scanner _ unit)

theorem lockstep_answer (fits : search.Matches logs stops disk signal) (scanner : Scanner)
    (fingerprint : Text) {file : FileRecord} (mem : file ∈ search.manifest.files) :
    Lockstep (Desk.Alike logs) stops (search.answer scanner fingerprint file)
      ((search.onDisk disk signal).answer scanner fingerprint file) := by
  unfold answer
  apply Lockstep.get_bind
  intro desk desk' same
  have signature : (search.onDisk disk signal).findingSignature scanner fingerprint =
      search.findingSignature scanner fingerprint := rfl
  rw [signature, ← same.cache]
  split
  · exact Lockstep.pure _
  · apply Lockstep.bind (lockstep_scan fits scanner mem)
    intro findings
    apply Lockstep.bind (Lockstep.modify _) fun _ => Lockstep.pure _
    intro desk desk' same
    refine ⟨?_, same.units, same.files, same.progress⟩
    dsimp only
    rw [same.cache]
    rfl

theorem lockstep_answersOf (fits : search.Matches logs stops disk signal) (scanner : Scanner) :
    Lockstep (Desk.Alike logs) stops (search.answersOf scanner)
      ((search.onDisk disk signal).answersOf scanner) := by
  have settings : (search.onDisk disk signal).settings = search.settings := rfl
  have inputs : (search.onDisk disk signal).inputsOf scanner = search.inputsOf scanner := rfl
  unfold answersOf
  rw [settings, inputs]
  split
  · exact Lockstep.throw _
  · apply Lockstep.mapM
    intro file mem
    exact lockstep_answer fits scanner _ (search.inputsOf_subset scanner mem)

/-- A search that reads the same on another disk, and gets the same answers from another signal, finds the
same there. -/
theorem lockstep_search (fits : search.Matches logs stops disk signal) :
    Lockstep (Desk.Alike logs) stops search.search (search.onDisk disk signal).search := by
  have sources : (search.onDisk disk signal).sources = search.sources := rfl
  have scanners : (search.onDisk disk signal).scanners = search.scanners := rfl
  have keys : (search.onDisk disk signal).keys = search.keys := rfl
  unfold Search.search
  rw [sources, scanners, keys]
  apply Lockstep.bind
  · apply Lockstep.mapM
    intro file mem
    exact lockstep_markersIn fits (search.sources_subset mem)
  intro markers
  apply Lockstep.bind (Lockstep.mapM fun scanner _ => lockstep_answersOf fits scanner)
  intro answers
  apply Lockstep.bind (lockstep_report fits.grows _)
  intro _
  apply Lockstep.get_bind
  intro desk desk' same
  rw [← same.cache]
  apply Lockstep.bind (lockstep_report fits.grows _)
  intro _
  apply Lockstep.bind (Lockstep.modify _) fun _ => Lockstep.pure _
  intro desk desk' same
  refine ⟨?_, same.units, same.files, same.progress⟩
  dsimp only
  rw [same.cache]

end Search
end Project
end ClassHarvest
