import ClassHarvest.Digest.Sha256
import ClassHarvest.Settings.Project
import ClassHarvest.Recognition
import ClassHarvest.Text.Utf8

/-!
# Settings of a run

The settings of one run come from options of the host, from the options and the settings of the
project, and from defaults, in this order.
-/

namespace ClassHarvest

open Pattern

/-- The settings of one run. -/
structure RunSettings where
  /-- What finds class lists in text. -/
  pattern : ClassPattern
  /-- The suffixes of files that are searched as a whole. -/
  extensions : List Text
  /-- The names of helper methods. -/
  helpers : List Text
  /-- How class names are emitted. -/
  mode : Mode
deriving DecidableEq

/-- The suffixes of files that are searched when none are configured. -/
def defaultExtensions : List Text := [".cshtml", ".razor"]

namespace RunSettings

/-- Whether a file is searched as a whole. -/
def accepts (settings : RunSettings) (path : Text) : Bool :=
  settings.extensions.any fun suffix => suffix.isSuffixOf path

/-- What the fingerprint is taken of: every setting that has an influence on scans, the suffixes and
the helpers kept apart by a null character. -/
def fingerprintParts (settings : RunSettings) : List Text :=
  settings.pattern.source :: settings.extensions ++ [[.ofNat 0]] ++ settings.helpers

/-- A digest of every setting that has an influence on scans.  A surrogate in one of them has no
digest. -/
def fingerprint (settings : RunSettings) : Except Utf8.EncodeError Text := do
  let parts ← settings.fingerprintParts.mapM Utf8.encode
  return Sha256.hexDigest (parts.flatMap (· ++ [0]))

end RunSettings

/-! ## Resolution -/

/-- Why there are no settings for a run. -/
inductive ResolveError where
  /-- The configuration is refused. -/
  | config (error : ConfigError)
  /-- The class pattern goes beyond all bounds. -/
  | pattern (error : PatternError)
deriving DecidableEq, Repr

/-- The wording of a refusal. -/
def ResolveError.message : ResolveError → Text
  | .config error => error.message
  | .pattern error => error.message

/-- Whether a pattern is refused because of what it says, and not because of a bound. -/
def isPatternFault : PatternError → Bool
  | .repetitionTooLarge | .characterTooLarge | .exclusiveFlags => false
  | _ => true

/-- The source of the class pattern. -/
def patternSource (project : ProjectSettings) (options : Options) : Text :=
  match options.first? Options.patternKeys with
  | some pattern => pattern
  | none =>
    match project.pattern with
    | some pattern => if pattern.isEmpty then defaultPattern else pattern
    | none => defaultPattern

/-- A list, or another one if it is empty. -/
def orDefault (xs default : List Text) : List Text :=
  if xs.isEmpty then default else xs

/-- The suffixes of files that are searched. -/
def extensionsOf (project : ProjectSettings) (options : Options) : List Text :=
  match options.first? Options.extensionKeys with
  | some filter => orDefault (splitExtensions filter) defaultExtensions
  | none => orDefault project.extensions defaultExtensions

/-- The name of the mode: what the caller names, else what the project names, else the default. -/
def modeName (project : ProjectSettings) (mode : Option Text) : Text :=
  let named (name : Option Text) : Option Text := name.filter fun name => !name.isEmpty
  (((named mode).or (named project.mode)).getD Mode.combined.name).strip.lower

/-- The class pattern of a run. -/
def resolvePattern (source : Text) : Except ResolveError ClassPattern :=
  match ClassPattern.compile source with
  | .ok pattern => .ok pattern
  | .error error =>
    if isPatternFault error then .error (.config (.pattern error)) else .error (.pattern error)

/-- The settings of a run.  Options of the host win over those of the project. -/
def resolve (project : ProjectSettings) (host : Options) (mode : Option Text) :
    Except ResolveError RunSettings := do
  let options := project.options.update host
  let pattern ← resolvePattern (patternSource project options)
  let name := modeName project mode
  match Mode.ofName? name with
  | none => throw (.config (.unknownMode name))
  | some mode =>
    return {
      pattern
      extensions := extensionsOf project options
      helpers := orDefault project.helpers defaultHelpers
      mode }

end ClassHarvest
