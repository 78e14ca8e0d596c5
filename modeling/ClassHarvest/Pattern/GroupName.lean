import ClassHarvest.Text.Property

/-!
# Names of groups

Patterns may spell a named group `(?<name>…)`, a reference to it `\k<name>`, and may use one name
for several groups.  The reader knows only `(?P<name>…)` and `(?P=name)` and wants distinct names.
A pattern is therefore cut into pieces, and the groups among them are renamed: the first one of a
name keeps it, the `n`-th one is called `name__n`.
-/

namespace ClassHarvest.Pattern

/-- A piece of a pattern. -/
inductive Fragment where
  /-- The opening of a group with a name. -/
  | group (name : Text)
  /-- A reference to a group by its name. -/
  | reference (name : Text)
  /-- Anything else: an escape, or a single character. -/
  | verbatim (text : Text)
deriving DecidableEq, Repr

/-- A name between `<` and `>` at the beginning of a text, and what follows it. -/
def bracketedName? : Text → Option (Text × Text)
  | opening :: c :: rest =>
    if opening.val = 60 && (c.isAsciiLetter || c.val = 95) then
      match rest.dropWhile CodePoint.isWord with
      | closing :: after =>
        if closing.val = 62 then some (c :: rest.takeWhile CodePoint.isWord, after) else none
      | [] => none
    else none
  | _ => none

/-- A named group, in either spelling, at the beginning of a text, and what follows its name. -/
def groupOpening? : Text → Option (Text × Text)
  | a :: b :: rest =>
    if a.val = 40 && b.val = 63 then
      match rest with
      | c :: rest' => if c.val = 80 then bracketedName? rest' else bracketedName? rest
      | [] => none
    else none
  | _ => none

/-- A reference at the beginning of a text, and what follows it. -/
def referenceOpening? : Text → Option (Text × Text)
  | a :: b :: rest => if a.val = 92 && b.val = 107 then bracketedName? rest else none
  | _ => none

/-- The first piece of a text and what follows it. -/
def nextFragment : Text → Option (Fragment × Text)
  | [] => none
  | c :: rest =>
    match referenceOpening? (c :: rest), groupOpening? (c :: rest) with
    | some (name, after), _ => some (.reference name, after)
    | none, some (name, after) => some (.group name, after)
    | none, none =>
      match rest with
      | d :: rest' =>
        if c.val = 92 && d.val != 10 then some (.verbatim [c, d], rest')
        else some (.verbatim [c], rest)
      | [] => some (.verbatim [c], [])

/-- The pieces of a text, at most `bound` of them. -/
def fragmentsWithin : Nat → Text → List Fragment
  | 0, _ => []
  | bound + 1, t =>
    match nextFragment t with
    | none => []
    | some (fragment, rest) => fragment :: fragmentsWithin bound rest

/-- The pieces of a pattern. -/
def fragments (pattern : Text) : List Fragment :=
  fragmentsWithin pattern.length pattern

/-- The names that the groups of one name were given, for every name in order of appearance. -/
abbrev Aliases := List (Text × List Text)

namespace Aliases

/-- The names given to the groups of a name. -/
def of (aliases : Aliases) (name : Text) : List Text :=
  (aliases.lookup name).getD []

/-- One more group of a name. -/
def add (aliases : Aliases) (name given : Text) : Aliases :=
  if aliases.any (·.1 == name) then
    aliases.map fun (n, names) => if n = name then (n, names ++ [given]) else (n, names)
  else aliases ++ [(name, [given])]

/-- The name for the next group of a name. -/
def next (aliases : Aliases) (name : Text) : Text :=
  match (aliases.of name).length with
  | 0 => name
  | used + 1 => name ++ "__" ++ Text.ofNat (used + 2)

end Aliases

/-- Write the pieces in the spelling of the reader, with names given to the groups. -/
def renderFragments : Aliases → List Fragment → Text × Aliases
  | aliases, [] => ([], aliases)
  | aliases, .verbatim text :: rest =>
    let (written, all) := renderFragments aliases rest
    (text ++ written, all)
  | aliases, .reference name :: rest =>
    let (written, all) := renderFragments aliases rest
    ("(?P=" ++ name ++ ")" ++ written, all)
  | aliases, .group name :: rest =>
    let given := aliases.next name
    let (written, all) := renderFragments (aliases.add name given) rest
    ("(?P<" ++ given ++ ">" ++ written, all)

/-- A pattern in the spelling of the reader, and the names given to its groups. -/
def normalize (pattern : Text) : Text × Aliases :=
  renderFragments [] (fragments pattern)

end ClassHarvest.Pattern
