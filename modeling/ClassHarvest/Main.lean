import ClassHarvest.CommandLine.Session
import Std.Time.Format

/-!
# The program

The program loads the files that a command line may be about, follows the command line, and writes what
has changed.
-/

open ClassHarvest ClassHarvest.CommandLine

namespace ClassHarvest.Program

/-! ## Loading -/

/-- What a path is called outside the program. -/
def fileName (path : Path) : String :=
  path.text.display

/-- The stamp of a time of change. -/
def stampOf (time : IO.FS.SystemTime) : Nat :=
  time.sec.toNat * 1000000000 + time.nsec.toNat

/-- Directories of which nothing is loaded; neither are linked ones. -/
def isPassedOver (name : Text) : Bool :=
  Walk.skippedDirectories.contains name && name ≠ Walk.stateDirectory

/-- What is at a path. -/
partial def loadTree (path : Path) : IO (Option Tree) := do
  let place := (← IO.currentDir) / fileName path
  if ← place.isDir then
    let mut entries : Dictionary Tree := []
    for entry in ← place.readDir do
      let name := Text.ofString entry.fileName
      let linked := (← entry.path.symlinkMetadata).type == .symlink
      if isPassedOver name || linked && (← entry.path.isDir) then
        entries := entries.put name (.directory [])
      else if let some tree ← loadTree (path.child name) then entries := entries.put name tree
    return some (.directory entries.sorted)
  else if ← place.pathExists then
    let bytes ← IO.FS.readBinFile place
    return some (.file ⟨bytes.toList, stampOf (← place.metadata).modified⟩)
  else return none

/-- The disk with what is at an absolute path. -/
def load (disk : Disk) (path : Path) : IO Disk := do
  match ← loadTree path.normal with
  | some tree => return { disk with top := disk.top.put path.normal.names tree }
  | none => return disk

/-- The disk with all that a command line may be about. -/
def loadFor (host : Project.Host) (arguments : Arguments) : IO Disk := do
  let root := Path.resolve host.working (Path.ofText arguments.path)
  let disk ← load ⟨.directory [], 0⟩ root
  let disk ← if disk.isDirectory root then pure disk else load disk (root.parent.child configFile)
  let output := match arguments.outputDirectory, ProjectSettings.load disk root with
    | some given, _ => root.join (Path.ofText given)
    | none, .ok (directory, settings) => directory.join (Path.ofText settings.outputName)
    | none, .error _ => root
  load disk output

/-! ## Writing -/

/-- Write what has changed at a path. -/
partial def update (path : Path) (before : Option Tree) (after : Tree) : IO Unit := do
  match after with
  | .file content =>
    let same := match before with
      | some (.file old) => old.bytes = content.bytes
      | _ => false
    if !same then IO.FS.writeBinFile (fileName path) ⟨content.bytes.toArray⟩
  | .directory entries =>
    let old := (before.map Tree.entries).getD []
    if !(before.any Tree.isDirectory) then IO.FS.createDirAll (fileName path)
    for (name, tree) in entries do
      update (path.child name) (old.get? name) tree
    for (name, _) in old do
      if (Dictionary.get? name entries).isNone then IO.FS.removeFile (fileName (path.child name))

/-! ## Sessions -/

/-- The time in words. -/
def timeText : IO Text := do
  let now := Std.Time.DateTime.ofTimestampWithZone (← Std.Time.Timestamp.now) .UTC
  return Text.ofString (now.format "uuuu-MM-dd'T'HH:mm:ss.SSSSSS'Z'")

/-- What a session finds around it. -/
def hostNow : IO Project.Host := do
  return {
    working := Path.ofText (Text.ofString (← IO.currentDir).toString)
    version := Project.currentVersion
    time := ← timeText }

/-- Print what a session left behind, and give its exit code. -/
def conclude (transcript : Transcript) : IO UInt32 := do
  IO.print transcript.output.display
  IO.eprint transcript.errors.display
  match transcript.ending with
  | .exit code => return UInt32.ofNat code
  | .failed failure =>
    IO.eprintln failure.message.display
    return UInt32.ofNat failureCode

end ClassHarvest.Program

open ClassHarvest.Program in
/-- Follow the command line. -/
def main (arguments : List String) : IO UInt32 := do
  let host ← hostNow
  let texts := arguments.map Text.ofString
  let disk ← match Arguments.ofTexts texts with
    | .ok arguments => loadFor host arguments
    | .error _ => pure ⟨.directory [], 0⟩
  let (after, transcript) := session host texts disk
  update ⟨[separator], []⟩ (some disk.top) after.top
  conclude transcript
