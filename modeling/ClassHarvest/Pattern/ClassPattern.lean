import ClassHarvest.Pattern.GroupName
import ClassHarvest.Pattern.Matcher
import ClassHarvest.Pattern.Reader

/-!
# Class patterns

A class pattern finds class lists in a text: each match gives what its group `value` captured.
-/

namespace ClassHarvest.Pattern

/-- The group that captures a class list. -/
def valueGroup : Text := "value"

/-- The pattern that is used when none is configured: `class="…"` and `cssclass="…"` in either kind
of quotes, and `CssClass("…")`. -/
def defaultPattern : Text :=
  "(?:(?:css)?class\\s*=\\s*(?P<quote>['\"])|(?P<call>CssClass\\s*\\(\\s*\"))" ++
    ("(?P<value>[^<]*?)" ++ ("(?(call)\"\\s*\\)|(?P=quote))" : Text))

/-- Class patterns disregard letter case and work line by line. -/
def classFlags : Flags := { ignoreCase := true, multiLine := true }

/-- Why a pattern is no class pattern. -/
inductive PatternError where
  /-- There is nothing but white space. -/
  | empty
  /-- The pattern is faulty. -/
  | invalid (pattern : Text) (reading : Text) (fault : Fault)
  /-- No group captures the class list. -/
  | noValueGroup (pattern : Text)
  /-- The number of a repetition is beyond all bounds. -/
  | repetitionTooLarge
  /-- The number of a character is beyond all bounds. -/
  | characterTooLarge
  /-- Flags at the start exclude each other. -/
  | exclusiveFlags
deriving DecidableEq, Repr

/-- The wording of a refusal. -/
def PatternError.message : PatternError → Text
  | .empty => "Class pattern is empty"
  | .invalid pattern reading fault =>
    "Invalid class pattern " ++ pattern.quoted ++ ": " ++ fault.message reading
  | .noValueGroup pattern =>
    "Class pattern " ++ pattern.quoted ++ " does not define a capture group named '" ++ valueGroup
      ++ "'"
  | .repetitionTooLarge => "the repetition number is too large"
  | .characterTooLarge => "Python int too large to convert to C int"
  | .exclusiveFlags => "ASCII and UNICODE flags are incompatible"

/-- A pattern that is ready for use. -/
structure ClassPattern where
  /-- The pattern as it was given. -/
  source : Text
  /-- What it denotes. -/
  program : Program
  /-- The names of the groups that capture class lists, in order. -/
  valueGroups : List Text
deriving DecidableEq

/-- Make a pattern ready for use. -/
def ClassPattern.compile (pattern : Text) : Except PatternError ClassPattern :=
  if pattern.isBlank then .error .empty
  else
    let (reading, aliases) := normalize pattern
    match Program.ofPattern reading classFlags with
    | .error (.fault fault) => .error (.invalid pattern reading fault)
    | .error .repetitionTooLarge => .error .repetitionTooLarge
    | .error .characterTooLarge => .error .characterTooLarge
    | .error .exclusiveFlags => .error .exclusiveFlags
    | .ok program =>
      match aliases.of valueGroup with
      | [] => .error (.noValueGroup pattern)
      | groups => .ok ⟨pattern, program, groups⟩

/-- What a group of a match captured: nothing if it took no part.  There may be no such group. -/
def Program.captured (program : Program) (text : Array CodePoint) (found : Match) (group : Text) :
    Option (Option Text) :=
  (program.names.lookup group).map fun index =>
    (found.marks.span? index).map fun (first, last) => (text.extract first last).toList

/-- Why a text cannot be searched. -/
inductive ExtractError where
  /-- A group that is asked for does not exist: its opening is part of something else. -/
  | noSuchGroup
  /-- The search was called off. -/
  | cancelled
deriving DecidableEq, Repr

/-- The wording of a refusal to search. -/
def ExtractError.message : ExtractError → Text
  | .noSuchGroup => "no such group"
  | .cancelled => "Class pattern scan cancelled"

/-- The first of the groups that took part in a match, and what it captured. -/
def firstCaptured (program : Program) (text : Array CodePoint) (found : Match) :
    List Text → Except ExtractError (Option Text)
  | [] => .ok none
  | group :: rest =>
    match program.captured text found group with
    | none => .error .noSuchGroup
    | some none => firstCaptured program text found rest
    | some (some value) => .ok (some value)

/-- The class list of a match, if it has one. -/
def ClassPattern.valueOf (pattern : ClassPattern) (text : Array CodePoint) (found : Match) :
    Except ExtractError (Option Text) :=
  firstCaptured pattern.program text found pattern.valueGroups

/-- The answers of a signal to cancel: `signal n` is what it says when it is asked after `n` earlier
questions. -/
abbrev Signal := Nat → Bool

/-- The signal that never cancels. -/
def Signal.never : Signal := fun _ => false

/-- The class lists of matches in order, and the number of questions asked.  The signal to cancel is
asked before each of them. -/
def valuesOf (pattern : ClassPattern) (text : Array CodePoint) (signal : Signal) :
    Nat → List Match → Except ExtractError (List Text × Nat)
  | asked, [] => .ok ([], asked)
  | asked, found :: rest =>
    if signal asked then .error .cancelled
    else
      match pattern.valueOf text found with
      | .error e => .error e
      | .ok value =>
        match valuesOf pattern text signal (asked + 1) rest with
        | .error e => .error e
        | .ok (values, asked) => .ok (value.toList ++ values, asked)

/-- All class lists in a text, from left to right, under a signal that was asked `asked` times
before; and how often it was asked after that. -/
def ClassPattern.extractUnder (pattern : ClassPattern) (signal : Signal) (asked : Nat)
    (text : Text) : Except ExtractError (List Text × Nat) :=
  let characters := text.toArray
  valuesOf pattern characters signal asked
    (pattern.program.regex.allMatches pattern.program.flags characters)

/-- All class lists in a text, from left to right. -/
def ClassPattern.extract (pattern : ClassPattern) (text : Text) :
    Except ExtractError (List Text) :=
  (pattern.extractUnder Signal.never 0 text).map (·.1)

end ClassHarvest.Pattern
