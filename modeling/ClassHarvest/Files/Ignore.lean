import ClassHarvest.Files.Glob

/-!
# Ignore rules

A line of an ignore file is a rule that leaves files or directories out, or takes them back in.  The
last rule that matches decides.
-/

namespace ClassHarvest

/-- The character between the parts of a path. -/
def separator : CodePoint := '/'

/-- One rule. -/
structure IgnoreRule where
  /-- The wildcard pattern. -/
  pattern : Text
  /-- Whether only directories are meant. -/
  directoryOnly : Bool := false
  /-- Whether the pattern is compared with the whole path, and not with the last name in it. -/
  anchored : Bool := false
  /-- Whether what matches is taken back in. -/
  negate : Bool := false
deriving DecidableEq, Repr

namespace IgnoreRule

/-- The rule of a line; a blank line and a comment have none. -/
def parse (line : Text) : Option IgnoreRule :=
  let text := line.strip
  if text.isEmpty || text.head?.any (·.val == 35) then none
  else
    let body := text.trimStart (·.val == 33)
    let pattern := body.trim (· == separator)
    if pattern.isEmpty then none
    else some {
      pattern
      directoryOnly := body.getLast? = some separator
      anchored := body.head? = some separator || pattern.any (· == separator)
      negate := text.head?.any (·.val == 33) }

/-- Whether a rule matches a path below the root. -/
def «matches» (rule : IgnoreRule) (path : Text) (isDirectory : Bool) : Bool :=
  (!rule.directoryOnly || isDirectory) &&
    Glob.matches rule.pattern (if rule.anchored then path else path.afterLast separator)

end IgnoreRule

/-- Rules in order. -/
abbrev IgnoreRules := List IgnoreRule

namespace IgnoreRules

/-- The rules of some lines. -/
def ofLines (lines : List Text) : IgnoreRules :=
  lines.filterMap IgnoreRule.parse

/-- Whether a path is left out. -/
def ignored (rules : IgnoreRules) (path : Text) (isDirectory : Bool) : Bool :=
  rules.foldl (fun verdict rule =>
    if rule.matches path isDirectory then !rule.negate else verdict) false

end IgnoreRules
end ClassHarvest
