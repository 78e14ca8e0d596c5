import ClassHarvest.CommandLine.Arguments
import ClassHarvest.Project.Run
import ClassHarvest.Reporting

/-!
# Sessions

A session follows one command line: it prints to the standard output what was asked for, reports on the
standard error, and ends with an exit code, or with a failure that nobody expects.
-/

namespace ClassHarvest.CommandLine

open Emission Project

/-- How a session ends. -/
inductive Ending where
  /-- With an exit code. -/
  | exit (code : Nat)
  /-- With a failure that is not reported. -/
  | failed (failure : Failure)
deriving DecidableEq, Repr

/-- What a session leaves behind, besides files. -/
structure Transcript where
  /-- What was printed to the standard output. -/
  output : Text := []
  /-- What was printed to the standard error. -/
  errors : Text := []
  /-- How it ended. -/
  ending : Ending := .exit 0
deriving DecidableEq, Repr

/-- The exit code after a failure. -/
def failureCode : Nat := 1

/-- The exit code after arguments that make no sense. -/
def usageCode : Nat := 2

/-! ## Failures -/

/-- Whether an access failed because a path leads nowhere. -/
def isMissing (error : FileError) : Bool :=
  error.fault = .notFound || error.fault = .notDirectory

/-- What is said of a failure of a command; nothing of a failure that nobody expects. -/
def failureText? (command : Command) (failure : Failure) : Option Text :=
  let line : Text := failure.message ++ ("\n" : Text)
  let headed : Text := programName ++ (" " : Text) ++ command.name ++ (" failed: " : Text) ++ line
  match failure with
  | .manifest (.notFound _) | .manifest (.notDirectory _) => some line
  | .manifest (.ignoreFile (.access error)) | .settings (.file (.access error))
  | .reading (.access error) | .writing (.access error) =>
    if isMissing error then some line else none
  | .settings (.config _) | .resolution (.config _) => some headed
  | .discovery (.unknown _) | .discovery (.notLoaded ..) =>
    some (headed ++ ("Run with --verbose for more details.\n" : Text))
  | _ => none

/-! ## Commands -/

/-- A path as it is printed: as seen from the working directory, if it leads there. -/
def shownPath (host : Host) (path : Path) : Text :=
  (Path.relativeTo host.working path).text

/-- What is printed after a generation. -/
def generateOutput (host : Host) (outcome : Outcome) : Text :=
  let first : List Text :=
    if outcome.generation.classSet.isNone then
      [("No partial " : Text) ++ Marker.className ++ (" class found; nothing generated" : Text)]
    else if outcome.dry then
      outcome.generation.artifacts.flatMap fun artifact =>
        [("// " : Text) ++ artifact.name ++ (" (dry-run)" : Text), artifact.text]
    else if outcome.written.isEmpty then ["Generated sources already up to date"]
    else outcome.written.map fun path => ("Wrote " : Text) ++ shownPath host path
  linesText (first ++ outcome.removed.map fun path => ("Removed " : Text) ++ shownPath host path)

/-- What is printed after a listing. -/
def listOutput (classes : List Text) : Text :=
  linesText classes

/-- The request that a command line stands for. -/
def requestOf (arguments : Arguments) (options : Options) : Request where
  path := Path.ofText arguments.path
  outputDirectory := arguments.outputDirectory.map Path.ofText
  mode := arguments.mode
  options := options
  dry := arguments.dry

/-- Run a command. -/
def perform (host : Host) (command : Command) (request : Request) : Running Text :=
  match command with
  | .generate => return generateOutput host (← run host request)
  | .list => return listOutput (← collect host request)

/-- Say what is wrong with the arguments. -/
def refusal (part : Part) (message : Text) : Transcript where
  errors := part.usage ++ part.name ++ (": error: " : Text) ++ message ++ ("\n" : Text)
  ending := .exit usageCode

/-- Follow a command line. -/
def session (host : Host) (texts : List Text) (disk : Disk) : Disk × Transcript :=
  match Arguments.ofTexts texts with
  | .error (.help part) => (disk, { output := part.help })
  | .error (.refused part error) => (disk, refusal part error.message)
  | .ok arguments =>
    match Options.parse arguments.pairs with
    | .error error => (disk, refusal .program error.message)
    | .ok options =>
      let reporter : Reporter := ⟨Reporter.thresholdFor arguments.verbose arguments.trace, none⟩
      let (result, world) := ((perform host arguments.command (requestOf arguments options)).run.run
        { disk } : Except Failure Text × World)
      let errors := reporter.errorText world.progress.log
      match result with
      | .ok output => (world.disk, { output, errors })
      | .error failure =>
        match failureText? arguments.command failure with
        | some text =>
          (world.disk, { errors := errors ++ text, ending := .exit failureCode })
        | none => (world.disk, { errors, ending := .failed failure })

end ClassHarvest.CommandLine
