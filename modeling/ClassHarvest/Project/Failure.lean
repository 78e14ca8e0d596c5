import ClassHarvest.Cache.ScanCache
import ClassHarvest.Files.Manifest
import ClassHarvest.Scan.Discovery
import ClassHarvest.Settings.ProjectFile
import ClassHarvest.Settings.Run

/-!
# Failures of a run

A run over a project fails at the first thing that goes wrong.
-/

namespace ClassHarvest.Project

open CSharp Pattern Scan

/-- Why a run fails. -/
inductive Failure where
  /-- The settings of the project cannot be read. -/
  | settings (error : SettingsError)
  /-- There are no settings for the run. -/
  | resolution (error : ResolveError)
  /-- The scanners that are asked for are not there. -/
  | discovery (error : DiscoveryError)
  /-- There is no manifest of the project. -/
  | manifest (error : Manifest.ScanError)
  /-- The cache of scans cannot be opened. -/
  | cache (error : CacheError)
  /-- A string literal of a source file has no value. -/
  | literal (error : Literal.LiteralError)
  /-- The search of a text failed or was called off. -/
  | extraction (error : ExtractError)
  /-- A setting has no bytes. -/
  | fingerprint (error : Utf8.EncodeError)
  /-- An earlier generated file cannot be read. -/
  | reading (error : FileReadError)
  /-- A file cannot be written. -/
  | writing (error : FileWriteError)
deriving DecidableEq, Repr

/-- The wording of a failure. -/
def Failure.message : Failure → Text
  | .settings error => error.message
  | .resolution error => error.message
  | .discovery error => error.message
  | .manifest error => error.message
  | .cache error => error.message
  | .literal error => error.message
  | .extraction error => error.message
  | .fingerprint error => error.message
  | .reading error => error.message
  | .writing error => error.message

/-- What a run finds around it. -/
structure Host where
  /-- The working directory. -/
  working : Path
  /-- The version of the program. -/
  version : Text
  /-- The time, as it is written into caches. -/
  time : Text
  /-- The scanners that do not come with the program. -/
  plugins : List Plugin := []

/-- The version of the program. -/
def currentVersion : Text := "0.4.0"

end ClassHarvest.Project
