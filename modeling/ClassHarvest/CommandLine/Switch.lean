import ClassHarvest.Reporting
import ClassHarvest.Settings.Mode

/-!
# Commands and switches

What may be said on the command line, and how it is described.  There are two commands; each has
switches of its own, and so has the program as a whole.
-/

namespace ClassHarvest.CommandLine

/-- A switch. -/
inductive Switch where
  /-- Show what may be said. -/
  | help
  /-- Report more. -/
  | verbose
  /-- Report everything. -/
  | trace
  /-- Override an option. -/
  | set
  /-- Name the output directory. -/
  | outputDirectory
  /-- Name the emission mode. -/
  | mode
  /-- Change nothing. -/
  | dryRun
deriving DecidableEq, Repr

namespace Switch

/-- How a switch is written. -/
def names : Switch → List Text
  | help => ["-h", "--help"]
  | verbose => ["-v", "--verbose"]
  | trace => ["--trace"]
  | set => ["--set"]
  | outputDirectory => ["--output-dir"]
  | mode => ["--mode"]
  | dryRun => ["--dry-run"]

/-- Whether a value belongs to a switch. -/
def takesValue : Switch → Bool
  | set | outputDirectory | mode => true
  | help | verbose | trace | dryRun => false

/-- The values that a switch may have; any, if none is listed. -/
def choices : Switch → List Text
  | mode => Mode.all.map Mode.name
  | _ => []

/-- A switch in a message. -/
def title (switch : Switch) : Text :=
  Text.join "/" switch.names

end Switch

/-- A command. -/
inductive Command where
  /-- Write what is generated. -/
  | generate
  /-- Print all class names. -/
  | list
deriving DecidableEq, Repr

namespace Command

/-- The name of a command. -/
def name : Command → Text
  | generate => "generate"
  | list => "list"

/-- All commands. -/
def all : List Command := [generate, list]

/-- The command with a name. -/
def ofName? (name : Text) : Option Command :=
  all.find? (·.name = name)

end Command

/-- A part of the command line with switches of its own: before the command, or behind it. -/
inductive Part where
  /-- The part before the command. -/
  | program
  /-- The part behind a command. -/
  | command (command : Command)
deriving DecidableEq, Repr

namespace Part

/-- Who reports what is wrong with a part. -/
def name : Part → Text
  | program => programName
  | command c => programName ++ (" " : Text) ++ c.name

/-- The switches of a part. -/
def switches : Part → List Switch
  | program => [.help, .verbose, .trace]
  | command .generate => [.help, .verbose, .set, .outputDirectory, .mode, .dryRun]
  | command .list => [.help, .verbose, .set]

/-- Every spelling of a switch of a part. -/
def spellings (part : Part) : List (Text × Switch) :=
  part.switches.flatMap fun switch => switch.names.map (·, switch)

end Part

/-! ## Descriptions -/

/-- Lines, each with its end. -/
def linesText (lines : List Text) : Text :=
  lines.flatMap fun line => line ++ ("\n" : Text)

/-- How a part of the command line is written. -/
def Part.usage : Part → Text
  | .program => linesText ["usage: cssjit [-h] [-v] [--trace] \x7bgenerate,list\x7d ..."]
  | .command .generate => linesText [
      "usage: cssjit generate [-h] [-v] [--set KEY=VALUE] [--output-dir OUTPUT_DIR]",
      "                       [--mode \x7bcombined,categories\x7d] [--dry-run]",
      "                       [path]"]
  | .command .list => linesText ["usage: cssjit list [-h] [-v] [--set KEY=VALUE] [path]"]

/-- What a part of the command line may say. -/
def Part.details : Part → Text
  | .program => linesText [
      "",
      "Collect CSS class names from C# and Razor sources and generate accessors.",
      "",
      "positional arguments:",
      "  \x7bgenerate,list\x7d",
      "    generate       Write the generated class-name sources for a project.",
      "    list           Print every discovered class name, one per line.",
      "",
      "options:",
      "  -h, --help       show this help message and exit",
      "  -v, --verbose    Increase log verbosity for troubleshooting.",
      "  --trace          Log every call site that did not yield a class name."]
  | .command .generate => linesText [
      "",
      "positional arguments:",
      "  path                  Path to the project root (defaults to current",
      "                        directory).",
      "",
      "options:",
      "  -h, --help            show this help message and exit",
      "  -v, --verbose         Increase log verbosity for troubleshooting.",
      "  --set KEY=VALUE       Override a host option such as pattern_override or",
      "                        file_extension_filter.",
      "  --output-dir OUTPUT_DIR",
      "                        Directory for generated sources (relative paths",
      "                        resolve against the project root).",
      "  --mode \x7bcombined,categories\x7d",
      "                        Emit one combined accessor or one accessor per scanner",
      "                        category.",
      "  --dry-run             Print the generated sources without writing them or",
      "                        any cache."]
  | .command .list => linesText [
      "",
      "positional arguments:",
      "  path             Path to the project root (defaults to current directory).",
      "",
      "options:",
      "  -h, --help       show this help message and exit",
      "  -v, --verbose    Increase log verbosity for troubleshooting.",
      "  --set KEY=VALUE  Override a host option such as pattern_override or",
      "                   file_extension_filter."]

/-- The help for a part of the command line. -/
def Part.help (part : Part) : Text :=
  part.usage ++ part.details

end ClassHarvest.CommandLine
