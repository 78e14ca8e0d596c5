import ClassHarvest.Dictionary
import ClassHarvest.Settings.ConfigError

/-!
# Options of the host

A build or a command line may override settings by options, which are pairs of a key and a value.
-/

namespace ClassHarvest

/-- Options by key. -/
abbrev Options := Dictionary Text

namespace Options

/-- The keys of a class pattern. -/
def patternKeys : List Text := ["pattern_override", "fileparsergenerator_razor_regex"]

/-- The keys of a filter of file names. -/
def extensionKeys : List Text := [
  "file_extension_filter", "fileparsergenerator_razor_file_extensions"]

/-- The option that a text `KEY=VALUE` stands for. -/
def parsePair (pair : Text) : Except ConfigError (Text × Text) :=
  match pair.cut? '=' with
  | none => .error (.noPair pair)
  | some (key, value) =>
    if key.isBlank then .error (.noPair pair) else .ok (key.strip, value)

/-- The options that some texts `KEY=VALUE` stand for; of equal keys the last counts. -/
def parse (pairs : List Text) : Except ConfigError Options := do
  return Dictionary.ofPairs (← pairs.mapM parsePair)

/-- The first value that is not blank among those of some keys. -/
def first? (options : Options) (keys : List Text) : Option Text :=
  keys.findSome? fun key => (options.get? key).filter fun value => !value.isBlank

end Options

/-- The suffixes that a filter of file names lists, with bars between. -/
def splitExtensions (filter : Text) : List Text :=
  ((filter.splitOn '|').map Text.strip).filter fun suffix => !suffix.isEmpty

end ClassHarvest
