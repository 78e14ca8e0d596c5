import ClassHarvest.Generation
import ClassHarvest.Project.Failure

/-!
# The search of a project

Every scanner reads those files of the manifest that are meant for it.  What it found in a file that
has not changed since is recalled from the cache; the rest is searched, and what is found is kept.
A file is read and parsed once at most.
-/

namespace ClassHarvest.Project

open CSharp Pattern Scan

/-- What a search is about. -/
structure Search where
  /-- The files. -/
  disk : Disk
  /-- The manifest of the project. -/
  manifest : Manifest
  /-- The settings. -/
  settings : RunSettings
  /-- The scanners. -/
  scanners : List Scanner
  /-- The signal to cancel. -/
  signal : Signal
  /-- What the run finds around it. -/
  host : Host

/-- What a search works with. -/
structure Desk where
  /-- The cache of scans. -/
  cache : ScanCache
  /-- The source units that were read, by path; nothing for a file that cannot be read. -/
  units : Dictionary (Option SourceUnit) := []
  /-- The other files that were read, by path; nothing for a file that cannot be read. -/
  files : Dictionary (Option TextFile) := []
  /-- What the scans keep account of. -/
  progress : Progress

/-- A step of a search. -/
abbrev Searching := ExceptT Failure (StateM Desk)

/-- What a scanner found in a file. -/
structure Answer where
  /-- What it found. -/
  findings : List Finding
  /-- Whether that was recalled from the cache. -/
  recalled : Bool
deriving Repr

/-- What a search found. -/
structure Found where
  /-- The candidates for the marker. -/
  markers : List Marker
  /-- The answers of the scanners. -/
  answers : List Answer
deriving Repr

namespace Found

/-- All findings. -/
def findings (found : Found) : List Finding :=
  found.answers.flatMap Answer.findings

/-- How many answers were recalled. -/
def reused (found : Found) : Nat :=
  found.answers.countP Answer.recalled

/-- How many answers were not recalled. -/
def computed (found : Found) : Nat :=
  found.answers.countP fun answer => !answer.recalled

/-- What is reported of a search. -/
def log (found : Found) : Log :=
  [⟨.debug, "Scanner results: " ++ Text.ofNat found.reused ++ " reused, " ++
    Text.ofNat found.computed ++ " computed"⟩]

end Found

namespace Search

/-! ## Reading -/

/-- Report something. -/
def report (records : Log) : Searching Unit :=
  modify fun desk =>
    { desk with progress := { desk.progress with log := desk.progress.log ++ records } }

/-- Run a scan. -/
def scanning {α : Type} (scan : Scanning α) : Searching α := do
  let desk ← get
  let (result, progress) := (scan.run.run desk.progress : Except ExtractError α × Progress)
  set { desk with progress }
  match result with
  | .ok value => return value
  | .error error => throw (.extraction error)

/-- The text of a file.  It is only reported if there is none. -/
def textOf (search : Search) (file : FileRecord) : Searching (Option Text) := do
  match search.disk.readText (search.manifest.root.join (Path.ofText file.path)) with
  | .ok text => return some text
  | .error error =>
    report [⟨.debug, "Skipping unreadable file " ++ file.path ++ (": " : Text) ++ error.message⟩]
    return none

/-- The source unit of a file, unless the file cannot be read. -/
def unitOf (search : Search) (file : FileRecord) : Searching (Option SourceUnit) := do
  match (← get).units.get? file.path with
  | some unit => return unit
  | none =>
    let unit ← match ← search.textOf file with
      | none => pure none
      | some text =>
        match SourceUnit.read file.path file.hash text with
        | .ok unit => pure (some unit)
        | .error error => throw (.literal error)
    modify fun desk => { desk with units := desk.units.put file.path unit }
    return unit

/-- A file with its text, unless the file cannot be read. -/
def fileOf (search : Search) (file : FileRecord) : Searching (Option TextFile) := do
  match (← get).files.get? file.path with
  | some read => return read
  | none =>
    let read := (← search.textOf file).map fun text => ⟨file.path, text⟩
    modify fun desk => { desk with files := desk.files.put file.path read }
    return read

/-! ## Inputs and keys -/

/-- The files of a project that are source files. -/
def sources (search : Search) : List FileRecord :=
  search.manifest.ofKind .source

/-- The files of a project that are searched as a whole. -/
def wholes (search : Search) : List FileRecord :=
  search.manifest.files.filter fun file => search.settings.accepts file.path

/-- The files that a scanner reads. -/
def inputsOf (search : Search) (scanner : Scanner) : List FileRecord :=
  match scanner.input with
  | .file => search.wholes
  | .source => search.sources

/-- The key under which the markers of a file are kept. -/
def markerKey (file : FileRecord) : Text :=
  "markers:" ++ file.path

/-- The key under which the findings of a scanner in a file are kept. -/
def findingKey (scanner : Scanner) (file : FileRecord) : Text :=
  scanner.identity ++ (":" : Text) ++ file.path

/-- The keys under which a search looks. -/
def keys (search : Search) : List Text :=
  search.sources.map markerKey ++
    search.scanners.flatMap fun scanner => (search.inputsOf scanner).map (findingKey scanner)

/-- What the markers of a file depend on, besides the file. -/
def markerSignature (search : Search) : Text :=
  "markers:" ++ Marker.className ++ (":" : Text) ++ search.host.version

/-- What the findings of a scanner in a file depend on, besides the file. -/
def findingSignature (search : Search) (scanner : Scanner) (fingerprint : Text) : Text :=
  Text.join ":" [scanner.identity, "1", search.host.version, fingerprint]

/-! ## Searching -/

/-- The candidates for the marker in a file. -/
def markersIn (search : Search) (file : FileRecord) : Searching (List Marker) := do
  let key := markerKey file
  match (← get).cache.markers key search.markerSignature file.hash with
  | some stored => return stored.map StoredMarker.marker
  | none =>
    let markers := ((← search.unitOf file).map Marker.candidates).getD []
    modify fun desk => { desk with
      cache := desk.cache.keepMarkers key search.markerSignature file.hash search.host.time markers }
    return markers

/-- What a scanner finds in a file that it reads. -/
def scan (search : Search) (scanner : Scanner) (file : FileRecord) : Searching (List Finding) := do
  match scanner.input with
  | .file =>
    match ← search.fileOf file with
    | none => return []
    | some whole => scanning (scanner.scanFile search.settings search.signal whole)
  | .source =>
    match ← search.unitOf file with
    | none => return []
    | some unit => scanning (scanner.scanUnit search.settings search.signal unit)

/-- The answer of a scanner for a file. -/
def answer (search : Search) (scanner : Scanner) (fingerprint : Text) (file : FileRecord) :
    Searching Answer := do
  let key := findingKey scanner file
  let signature := search.findingSignature scanner fingerprint
  match (← get).cache.findings key signature file.hash with
  | some stored => return ⟨stored.map StoredFinding.finding, true⟩
  | none =>
    let findings ← search.scan scanner file
    modify fun desk => { desk with
      cache := desk.cache.keepFindings key signature file.hash search.host.time findings }
    return ⟨findings, false⟩

/-- The answers of a scanner. -/
def answersOf (search : Search) (scanner : Scanner) : Searching (List Answer) := do
  match search.settings.fingerprint with
  | .error error => throw (.fingerprint error)
  | .ok fingerprint => (search.inputsOf scanner).mapM (search.answer scanner fingerprint)

/-- Search a project: first for markers, then with each scanner in turn.  What the cache keeps of
anything else is dropped. -/
def search (search : Search) : Searching Found := do
  let markers ← search.sources.mapM search.markersIn
  let answers ← search.scanners.mapM search.answersOf
  let found : Found := ⟨markers.flatten, answers.flatten⟩
  report found.log
  report ((← get).cache.pruneLog search.keys)
  modify fun desk => { desk with cache := desk.cache.prune search.keys }
  return found

end Search
end ClassHarvest.Project
