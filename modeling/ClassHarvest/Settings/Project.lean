import ClassHarvest.Settings.Options

/-!
# Settings of a project

What the configuration file of a project may say.  What it leaves out stays empty.
-/

namespace ClassHarvest

/-- The settings of a project. -/
structure ProjectSettings where
  /-- The class pattern. -/
  pattern : Option Text := none
  /-- The suffixes of files that are searched as a whole. -/
  extensions : List Text := []
  /-- The names of helper methods. -/
  helpers : List Text := []
  /-- The scanners to use; all if none is named. -/
  enabled : List Text := []
  /-- The name of the emission mode. -/
  mode : Option Text := none
  /-- The directory for generated files. -/
  outputDirectory : Option Text := none
  /-- What is left out of the project, as lines of an ignore file. -/
  excluded : List Text := []
  /-- Options, as the host could give them. -/
  options : Options := []
deriving DecidableEq, Repr

/-- The directory for generated files when none is configured. -/
def defaultOutputDirectory : Text := "Generated"

/-- The directory for generated files, which an empty setting leaves to the default. -/
def ProjectSettings.outputName (settings : ProjectSettings) : Text :=
  match settings.outputDirectory with
  | some name => if name.isEmpty then defaultOutputDirectory else name
  | none => defaultOutputDirectory

end ClassHarvest
