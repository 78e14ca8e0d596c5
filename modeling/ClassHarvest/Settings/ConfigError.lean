import ClassHarvest.Pattern.ClassPattern
import ClassHarvest.Settings.Mode

/-!
# Refusals of a configuration
-/

namespace ClassHarvest

open Pattern

/-- The name of the configuration file of a project. -/
def configFile : Text := ".cssjit.yml"

/-- Why a configuration is refused. -/
inductive ConfigError where
  /-- There is no mode of that name. -/
  | unknownMode (name : Text)
  /-- The class pattern is unusable. -/
  | pattern (error : PatternError)
  /-- An option on the command line is no pair of a key and a value. -/
  | noPair (option : Text)
  /-- The configuration file cannot be parsed. -/
  | unparsable
  /-- The configuration file holds something other than a mapping. -/
  | noMapping
deriving DecidableEq, Repr

/-- The wording of a refusal. -/
def ConfigError.message : ConfigError → Text
  | .unknownMode name =>
    "Unknown emit mode '" ++ name ++ "' (expected one of: " ++ Text.join ", " (Mode.all.map Mode.name)
      ++ ")"
  | .pattern error => error.message
  | .noPair option => "Expected KEY=VALUE, got '" ++ option ++ "'"
  | .unparsable => "Failed to parse " ++ configFile
  | .noMapping => configFile ++ " must contain a mapping at the root"

end ClassHarvest
