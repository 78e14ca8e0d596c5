import ClassHarvest.Scan.Scanner

/-!
# Discovery of scanners

Besides the scanners that come with the program there are plugins.  Those that are asked for are
used; of several with one name, up to letter case, the first.
-/

namespace ClassHarvest.Scan

/-- What a plugin turns out to be when it is used. -/
inductive Offer where
  /-- A scanner, or something that makes one. -/
  | scanner (scanner : Scanner)
  /-- Anything else. -/
  | unusable
deriving DecidableEq, Repr

/-- A plugin: a name, and what loading it gives, or why it cannot be loaded. -/
structure Plugin where
  /-- Its name. -/
  name : Text
  /-- What it offers. -/
  loaded : Except Text Offer

/-- Why there are no scanners. -/
inductive DiscoveryError where
  /-- A plugin cannot be loaded. -/
  | notLoaded (name reason : Text)
  /-- A plugin offers no scanner. -/
  | unusable
  /-- Some names that are asked for are those of no scanner. -/
  | unknown (names : List Text)
deriving DecidableEq, Repr

/-- The wording of a refusal. -/
def DiscoveryError.message : DiscoveryError → Text
  | .notLoaded name reason =>
    "Failed to load scanner entry point '" ++ name ++ "': " ++ reason
  | .unusable => "Scanner entry point must be a Scanner subclass or factory"
  | .unknown names => "Unknown scanners requested: " ++ Text.join ", " names

/-- The names that are asked for, in small letters; all scanners if there is no list. -/
abbrev Request := Option (List Text)

/-- Whether a scanner is asked for. -/
def asksFor (request : Request) (name : Text) : Bool :=
  request.all fun names => names.contains name

/-- The plugins to use, with their names in small letters, when some names are taken. -/
def usePlugins (request : Request) :
    List Text → List Plugin → Except DiscoveryError (List (Text × Scanner))
  | _, [] => .ok []
  | taken, plugin :: rest =>
    match plugin.loaded with
    | .error reason => .error (.notLoaded plugin.name reason)
    | .ok offer =>
      let name := plugin.name.lower
      if asksFor request name && !taken.contains name then
        match offer with
        | .unusable => .error .unusable
        | .scanner scanner =>
          (usePlugins request (name :: taken) rest).map ((name, scanner) :: ·)
      else usePlugins request taken rest

/-- The scanners to use: those that come with the program, then plugins. -/
def discover (enabled : Option (List Text)) (plugins : List Plugin) :
    Except DiscoveryError (List Scanner) := do
  let request : Request := enabled.map (·.map Text.lower)
  let own := Scanner.builtIn.map fun scanner => (scanner.category, scanner)
  let ownUsed := own.filter fun (name, _) => asksFor request name
  let others ← usePlugins request (ownUsed.map (·.1)) plugins
  let used := ownUsed ++ others
  let missing := (request.getD []).filter fun name => !(used.map (·.1)).contains name
  if missing.isEmpty then return used.map (·.2)
  else throw (.unknown (Text.sort (firstOccurrences missing)))

end ClassHarvest.Scan
