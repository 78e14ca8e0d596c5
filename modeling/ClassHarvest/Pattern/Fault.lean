import ClassHarvest.Text.Quoted

/-!
# Faults of a pattern

Why a pattern denotes no regular expression, and how that is worded.
-/

namespace ClassHarvest.Pattern

/-- Why a pattern cannot be read. -/
inductive Cause where
  /-- A backslash is the last character. -/
  | escapeAtEnd
  /-- An escape without meaning. -/
  | badEscape (escape : Text)
  /-- An escape with too few digits. -/
  | incompleteEscape (escape : Text)
  /-- An octal escape above 255. -/
  | octalEscape (escape : Text)
  /-- A character name without braces. -/
  | missingBrace
  /-- A name is missing; the text says which. -/
  | missingName (what : Text)
  /-- A name without its end. -/
  | unterminatedName (terminator : CodePoint)
  /-- No character has this name. -/
  | unknownCharacter (name : Text)
  /-- A character set without its end. -/
  | unterminatedSet
  /-- A range that does not run upwards between two characters. -/
  | badRange (first last : Text)
  /-- A group without its end. -/
  | unterminatedGroup
  /-- A comment without its end. -/
  | unterminatedComment
  /-- A closing parenthesis too much. -/
  | unbalanced
  /-- A quantifier without anything in front. -/
  | nothingToRepeat
  /-- A quantifier after a quantifier. -/
  | multipleRepeat
  /-- A least number above the greatest. -/
  | repeatOrder
  /-- The pattern ends inside a group's opening. -/
  | unexpectedEnd
  /-- An unknown kind of group. -/
  | unknownExtension (text : Text)
  /-- A group's name is no name. -/
  | badGroupName (name : Text)
  /-- No group has this name. -/
  | unknownGroup (name : Text)
  /-- A group's name is used again. -/
  | redefinition (name : Text) (new old : Nat)
  /-- A reference into a group from inside. -/
  | openGroup
  /-- A reference inside a look-behind to a group of the same look-behind. -/
  | groupOfLookBehind
  /-- Group zero in a condition. -/
  | badGroupNumber
  /-- No group has this number. -/
  | unknownGroupNumber (index : Nat)
  /-- A conditional with more than two branches. -/
  | tooManyBranches
  /-- Flags for the whole pattern that do not stand at its start. -/
  | lateFlags
  /-- The flag for bytes in a pattern for text. -/
  | localeFlag
  /-- Flags that exclude each other. -/
  | exclusiveFlags
  /-- What follows a flag is no letter. -/
  | missingFlagEnd
  /-- No flag after a minus sign. -/
  | missingFlag
  /-- No colon after the flags. -/
  | missingColon
  /-- A letter that is no flag. -/
  | unknownFlag
  /-- A flag for the whole pattern switched on inside. -/
  | globalFlagOn
  /-- A flag for the whole pattern switched off inside. -/
  | globalFlagOff
  /-- A flag that cannot be switched off. -/
  | classFlagOff
  /-- A flag switched both on and off. -/
  | flagOnAndOff
  /-- A look-behind of varying width. -/
  | lookBehindWidth
  /-- A look-behind that is too wide. -/
  | lookBehindTooWide
  /-- A repetition where repetitions are refused. -/
  | templateRepeat (greed : Text)
  /-- Groups are nested deeper than the reader follows. -/
  | tooDeep
deriving DecidableEq, Repr

/-- The wording of a cause. -/
def Cause.message : Cause → Text
  | .escapeAtEnd => "bad escape (end of pattern)"
  | .badEscape escape => "bad escape " ++ escape
  | .incompleteEscape escape => "incomplete escape " ++ escape
  | .octalEscape escape => "octal escape value " ++ escape ++ " outside of range 0-0o377"
  | .missingBrace => "missing \x7b"
  | .missingName what => "missing " ++ what
  | .unterminatedName terminator => "missing " ++ [terminator] ++ ", unterminated name"
  | .unknownCharacter name => "undefined character name " ++ name.quoted
  | .unterminatedSet => "unterminated character set"
  | .badRange first last => "bad character range " ++ first ++ "-" ++ last
  | .unterminatedGroup => "missing ), unterminated subpattern"
  | .unterminatedComment => "missing ), unterminated comment"
  | .unbalanced => "unbalanced parenthesis"
  | .nothingToRepeat => "nothing to repeat"
  | .multipleRepeat => "multiple repeat"
  | .repeatOrder => "min repeat greater than max repeat"
  | .unexpectedEnd => "unexpected end of pattern"
  | .unknownExtension text => "unknown extension ?" ++ text
  | .badGroupName name => "bad character in group name " ++ name.quoted
  | .unknownGroup name => "unknown group name " ++ name.quoted
  | .redefinition name new old =>
    "redefinition of group name " ++ name.quoted ++ " as group " ++ Text.ofNat new
      ++ "; was group " ++ Text.ofNat old
  | .openGroup => "cannot refer to an open group"
  | .groupOfLookBehind => "cannot refer to group defined in the same lookbehind subpattern"
  | .badGroupNumber => "bad group number"
  | .unknownGroupNumber index => "invalid group reference " ++ Text.ofNat index
  | .tooManyBranches => "conditional backref with more than two branches"
  | .lateFlags => "global flags not at the start of the expression"
  | .localeFlag => "bad inline flags: cannot use 'L' flag with a str pattern"
  | .exclusiveFlags => "bad inline flags: flags 'a', 'u' and 'L' are incompatible"
  | .missingFlagEnd => "missing -, : or )"
  | .missingFlag => "missing flag"
  | .missingColon => "missing :"
  | .unknownFlag => "unknown flag"
  | .globalFlagOn => "bad inline flags: cannot turn on global flag"
  | .globalFlagOff => "bad inline flags: cannot turn off global flag"
  | .classFlagOff => "bad inline flags: cannot turn off flags 'a', 'u' and 'L'"
  | .flagOnAndOff => "bad inline flags: flag turned on and off"
  | .lookBehindWidth => "look-behind requires fixed-width pattern"
  | .lookBehindTooWide => "looks too much behind"
  | .templateRepeat greed => "internal: unsupported template operator " ++ greed
  | .tooDeep => "nesting too deep"

/-- A cause and, for most causes, the place in the pattern. -/
structure Fault where
  /-- Why the pattern cannot be read. -/
  cause : Cause
  /-- The number of characters before the place. -/
  position : Option Nat
deriving DecidableEq, Repr

/-- The wording of a fault of a pattern: the cause, the place, and for a pattern of several lines
also line and column. -/
def Fault.message (pattern : Text) (fault : Fault) : Text :=
  match fault.position with
  | none => fault.cause.message
  | some position =>
    let before := pattern.take position
    let line := before.countP (·.val == 10) + 1
    let column := (before.reverse.takeWhile (·.val != 10)).length + 1
    fault.cause.message ++ " at position " ++ Text.ofNat position ++
      if pattern.any (·.val == 10) then
        " (line " ++ Text.ofNat line ++ ", column " ++ Text.ofNat column ++ ")"
      else []

/-- Why a pattern gives no regular expression. -/
inductive ReadError where
  /-- The pattern is faulty. -/
  | fault (fault : Fault)
  /-- The number of a repetition is beyond all bounds. -/
  | repetitionTooLarge
  /-- The number of a character is beyond all bounds. -/
  | characterTooLarge
  /-- Flags at the start exclude each other. -/
  | exclusiveFlags
deriving DecidableEq, Repr

end ClassHarvest.Pattern
