import ClassHarvest.Emission.Artifact
import ClassHarvest.Files.Disk
import ClassHarvest.Project.Failure

/-!
# The output directory

Generated files are written into the output directory, those that are there already with the same text
excepted.  Earlier generated files that are no longer generated are removed.
-/

namespace ClassHarvest.Project

open Emission Scan

/-- What a run changes: the disk, and what its scans keep account of. -/
structure World where
  /-- The files. -/
  disk : Disk
  /-- What the scans keep account of. -/
  progress : Progress := {}

/-- A step of a run. -/
abbrev Running := ExceptT Failure (StateM World)

namespace Running

/-- Report something. -/
def report (records : Log) : Running Unit :=
  modify fun world =>
    { world with progress := { world.progress with log := world.progress.log ++ records } }

/-- Do something with the disk that may fail. -/
def onDisk {ε α : Type} (failure : ε → Failure) (step : Disk → Disk × Except ε α) : Running α := do
  let world ← get
  let (disk, result) := step world.disk
  set { world with disk }
  match result with
  | .ok value => return value
  | .error error => throw (failure error)

end Running

namespace Output

open Running

/-- Whether a file exists that has the text of an artifact. -/
def isUpToDate (disk : Disk) (target : Path) (artifact : Artifact) : Except Failure Bool :=
  if disk.exists target then
    match disk.readText target with
    | .ok text => .ok (text = artifact.text)
    | .error error => .error (.reading error)
  else .ok false

/-- Write an artifact into a directory, unless it is there already.  The answer is the file that was
written. -/
def write (directory : Path) (artifact : Artifact) : Running (Option Path) := do
  let target := directory.child artifact.name
  match isUpToDate (← get).disk target artifact with
  | .error error => throw error
  | .ok true =>
    report [⟨.debug, target.text ++ (" is up to date" : Text)⟩]
    return none
  | .ok false =>
    onDisk (fun error => .writing (.access error)) fun disk => disk.ensureDirectory target.parent
    onDisk .writing fun disk => disk.writeText target artifact.text
    report [⟨.info, "Wrote " ++ target.text⟩]
    return some target

/-- Write artifacts into a directory.  The answer is the files that were written. -/
def writeAll (directory : Path) (artifacts : List Artifact) : Running (List Path) := do
  return (← artifacts.mapM (write directory)).filterMap id

/-- The files in a directory that have the names of generated files, but not those of some
artifacts. -/
def stale (disk : Disk) (directory : Path) (artifacts : List Artifact) : List Text :=
  let files := (disk.entries directory).filter fun (_, tree) => !tree.isDirectory
  (Text.sort (files.map (·.1))).filter fun name =>
    isArtifactName name && !(artifacts.map (·.name)).contains name

/-- Remove a file from a directory. -/
def removeFile (directory : Path) (name : Text) : Running Path := do
  let path := directory.child name
  modify fun world => { world with disk := world.disk.remove path }
  report [⟨.info, "Removed stale " ++ path.text⟩]
  return path

/-- Remove the generated files in a directory that are not among some artifacts.  The answer is the
files that were removed. -/
def removeStale (directory : Path) (artifacts : List Artifact) : Running (List Path) := do
  (stale (← get).disk directory artifacts).mapM (removeFile directory)

end Output
end ClassHarvest.Project
