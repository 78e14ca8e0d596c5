import ClassHarvest.Project.Output
import ClassHarvest.Project.Search

/-!
# Runs over a project

A run reads the settings of a project, lists its files, searches them and writes what is generated.
A dry run does the same, but changes nothing.
-/

namespace ClassHarvest.Project

open Emission Pattern Scan Running

/-- What a run is asked for. -/
structure Request where
  /-- The project. -/
  path : Path
  /-- The output directory; by default the one that is configured. -/
  outputDirectory : Option Path := none
  /-- The name of the emission mode; by default the one that is configured. -/
  mode : Option Text := none
  /-- Options that override settings. -/
  options : Options := []
  /-- Whether nothing is to be changed. -/
  dry : Bool := false
  /-- The signal to cancel. -/
  signal : Signal := Signal.never
  /-- The scanners; by default those that are configured. -/
  scanners : Option (List Scanner) := none

/-- What a run gives. -/
structure Outcome where
  /-- What was generated. -/
  generation : Generation
  /-- The output directory. -/
  outputDirectory : Path
  /-- The files that were written. -/
  written : List Path
  /-- The files that were removed. -/
  removed : List Path
  /-- Whether nothing was to be changed. -/
  dry : Bool
  /-- How many answers of scanners were recalled. -/
  reused : Nat
  /-- How many answers of scanners were not recalled. -/
  computed : Nat
deriving Repr

namespace Running

/-- Take a value, or fail. -/
def orFail {ε α : Type} (failure : ε → Failure) : Except ε α → Running α
  | .ok value => return value
  | .error error => throw (failure error)

end Running

/-! ## Stages -/

/-- The scanners of a run: those that are given, else those that the project enables, all if it names
none. -/
def selectScanners (host : Host) (given : Option (List Scanner)) (settings : ProjectSettings) :
    Except DiscoveryError (List Scanner) :=
  match given with
  | some scanners => .ok scanners
  | none =>
    discover (if settings.enabled.isEmpty then none else some settings.enabled) host.plugins

/-- The manifest of the project in a directory, by a path as it was given. -/
def survey (given : Text) (root : Path) (excluded : List Text) (persist : Bool) :
    Running Manifest := do
  let (manifest, disk, log) ←
    orFail .manifest (Manifest.scan (← get).disk given root excluded persist)
  modify fun world => { world with disk }
  report log
  return manifest

/-- Search a project with the cache that is kept in it. -/
def searchProject (host : Host) (manifest : Manifest) (settings : RunSettings)
    (scanners : List Scanner) (signal : Signal) (persist : Bool) : Running Found := do
  let world ← get
  let location := (manifest.root.child Walk.stateDirectory).child "cache.json"
  let (cache, log) ← orFail .cache (ScanCache.openAt (some location) world.disk)
  report log
  let search : Search := { disk := world.disk, manifest, settings, scanners, signal, host }
  let desk : Desk := { cache, progress := (← get).progress }
  let (result, desk) := (search.search.run.run desk : Except Failure Found × Desk)
  modify fun world => { world with progress := desk.progress }
  let found ← orFail id result
  if persist then
    let _ ← onDisk .writing fun disk => desk.cache.persist disk
  return found

/-- What a run does before anything is generated. -/
structure Preparation where
  /-- The project. -/
  root : Path
  /-- The output directory that is configured. -/
  configured : Path
  /-- The settings. -/
  settings : RunSettings
  /-- The scanners. -/
  scanners : List Scanner
  /-- The manifest of the project. -/
  manifest : Manifest

/-- Read the settings of a project and list its files. -/
def prepare (host : Host) (request : Request) : Running Preparation := do
  let root := Path.resolve host.working request.path
  let (directory, project) ← orFail .settings (ProjectSettings.load (← get).disk root)
  let settings ← orFail .resolution (resolve project request.options request.mode)
  let scanners ← orFail .discovery (selectScanners host request.scanners project)
  let manifest ← survey root.text root project.excluded (!request.dry)
  let configured := directory.join (Path.ofText project.outputName)
  return { root, configured, settings, scanners, manifest }

/-! ## Runs -/

/-- What is reported of a generation. -/
def generationLog (generation : Generation) : Log :=
  match generation.classSet with
  | none =>
    [⟨.info, "No partial " ++ Marker.className ++ (" class found; nothing to generate" : Text)⟩]
  | some set =>
    [⟨.info, "Discovered " ++ Text.ofNat set.classes.length ++ " CSS classes for " ++
      set.marker.name⟩]

/-- Search a project and write what is generated. -/
def run (host : Host) (request : Request) : Running Outcome := do
  report [⟨.info, "Starting generation for " ++ (Path.resolve host.working request.path).text⟩]
  let prepared ← prepare host request
  report [⟨.debug, "Scanner discovered " ++ Text.ofNat prepared.manifest.files.length ++
    (" files" : Text)⟩]
  let found ← searchProject host prepared.manifest prepared.settings prepared.scanners
    request.signal (!request.dry)
  report (Marker.selectionLog found.markers)
  let emitter := Generation.emitterFor prepared.scanners prepared.settings.mode
  let generation :=
    Generation.finish (Marker.select found.markers) found.findings prepared.scanners emitter
  report (ClassSet.aggregationLog generation.classSet)
  report (generationLog generation)
  let directory := match request.outputDirectory with
    | none => prepared.configured
    | some directory => prepared.root.join directory
  let (written, removed) ←
    if request.dry then pure ([], [])
    else do
      let written ← Output.writeAll directory generation.artifacts
      let removed ← Output.removeStale directory generation.artifacts
      pure (written, removed)
  return {
    generation
    outputDirectory := directory
    written
    removed
    dry := request.dry
    reused := found.reused
    computed := found.computed }

/-- All class names of a project.  Nothing is changed. -/
def collect (host : Host) (request : Request) : Running (List Text) := do
  let prepared ← prepare host { request with dry := true }
  let found ← searchProject host prepared.manifest prepared.settings prepared.scanners
    request.signal false
  return ClassSet.union (found.findings.map (·.classes))

/-- What a project excludes by its configuration; nothing if that is unusable. -/
def configuredExclusions (disk : Disk) (root : Path) : Except SettingsError (List Text) :=
  match ProjectSettings.load disk root with
  | .ok (_, settings) => .ok settings.excluded
  | .error (.config _) => .ok []
  | .error error => .error error

/-- The manifest of a project by a path; what is excluded is configured, if it is not given. -/
def list (host : Host) (path : Path) (excluded : Option (List Text)) (persist : Bool) :
    Running Manifest := do
  let root := Path.resolve host.working path
  let disk := (← get).disk
  let excluded ← match excluded with
    | some lines => pure lines
    | none =>
      if disk.isDirectory root then orFail .settings (configuredExclusions disk root) else pure []
  survey path.text root excluded persist

end ClassHarvest.Project
