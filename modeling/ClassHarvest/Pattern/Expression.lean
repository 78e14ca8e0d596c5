import ClassHarvest.Text.Basic

/-!
# Regular expressions

The expressions that class patterns denote: tests of single characters, anchors, sequences,
alternatives, repetitions, groups, back-references, conditionals and assertions.
-/

namespace ClassHarvest.Pattern

/-- Settings that change what a character test or an anchor means. -/
structure Flags where
  /-- Letters match in either case. -/
  ignoreCase : Bool := false
  /-- `^` and `$` match at every line. -/
  multiLine : Bool := false
  /-- The dot matches a line feed too. -/
  dotAll : Bool := false
  /-- White space and comments in the pattern are skipped. -/
  verbose : Bool := false
  /-- Classes and letter case know ASCII only. -/
  asciiOnly : Bool := false
  /-- Repetitions are refused. -/
  template : Bool := false
deriving DecidableEq, Repr

/-- A named class of characters. -/
inductive CharClass where
  /-- Decimal digits. -/
  | digit
  /-- White space. -/
  | space
  /-- Letters, digits and the underscore. -/
  | word
deriving DecidableEq, Repr

/-- A member of a character set. -/
inductive SetItem where
  /-- One character. -/
  | one (c : CodePoint)
  /-- All characters from the first to the last. -/
  | range (first last : CodePoint)
  /-- A class, or all characters outside it. -/
  | named (cls : CharClass) (complement : Bool)
deriving DecidableEq, Repr

/-- A test of one character. -/
inductive CharTest where
  /-- One given character. -/
  | one (c : CodePoint)
  /-- Any character but a given one. -/
  | other (c : CodePoint)
  /-- A member of a set, or with `complement` any character outside it. -/
  | set (complement : Bool) (items : List SetItem)
  /-- The dot. -/
  | any
deriving DecidableEq, Repr

/-- A condition on a place in the text. -/
inductive Anchor where
  /-- `^` -/
  | lineStart
  /-- `$` -/
  | lineEnd
  /-- `\A` -/
  | textStart
  /-- `\Z` -/
  | textEnd
  /-- `\b`, or with `complement` `\B` -/
  | boundary (complement : Bool)
deriving DecidableEq, Repr

/-- How a repetition chooses its length. -/
inductive Greed where
  /-- As long as possible, shorter if the rest fails. -/
  | greedy
  /-- As short as possible, longer if the rest fails. -/
  | reluctant
  /-- As long as possible, and nothing else. -/
  | possessive
deriving DecidableEq, Repr

/-- Flags that a group switches on and off for its content. -/
structure FlagChange where
  /-- The flags switched on. -/
  on : Flags := {}
  /-- Whether Unicode classes are switched on. -/
  unicodeOn : Bool := false
  /-- The flags switched off. -/
  off : Flags := {}
deriving DecidableEq, Repr

/-- A regular expression. -/
inductive Regex where
  /-- The empty text. -/
  | empty
  /-- One character that passes a test. -/
  | char (test : CharTest)
  /-- No character, at a place that fulfils a condition. -/
  | anchor (condition : Anchor)
  /-- One expression after the other. -/
  | seq (first second : Regex)
  /-- One of two expressions, the first one preferred. -/
  | alt (first second : Regex)
  /-- An expression between `least` and `most` times; without `most` there is no upper limit. -/
  | «repeat» (greed : Greed) (least : Nat) (most : Option Nat) (body : Regex)
  /-- The group with a number; what it matches is kept. -/
  | capture (index : Nat) (body : Regex)
  /-- An expression under changed flags. -/
  | scoped (change : FlagChange) (body : Regex)
  /-- The text that a group matched last. -/
  | backReference (index : Nat)
  /-- One of two expressions, chosen by whether a group took part. -/
  | conditional (index : Nat) (yes no : Regex)
  /-- The expression matches from here, or with `complement` does not. -/
  | lookAhead (complement : Bool) (body : Regex)
  /-- The expression matches from `width` characters back, or with `complement` does not. -/
  | lookBehind (complement : Bool) (width : Nat) (body : Regex)
  /-- The first way in which an expression matches, and no other. -/
  | atomic (body : Regex)
deriving DecidableEq, Repr, Inhabited

namespace Regex

/-- The expressions of a list one after the other. -/
def sequence : List Regex → Regex
  | [] => .empty
  | [r] => r
  | r :: rest => .seq r (sequence rest)

/-- The first of a list of alternatives and, in order, the others. -/
def alternatives : List Regex → Regex
  | [] => .empty
  | [r] => r
  | r :: rest => .alt r (alternatives rest)

end Regex

/-- The flags of a group inside flags around it. -/
def Flags.change (flags : Flags) (change : FlagChange) : Flags where
  ignoreCase := (flags.ignoreCase || change.on.ignoreCase) && !change.off.ignoreCase
  multiLine := (flags.multiLine || change.on.multiLine) && !change.off.multiLine
  dotAll := (flags.dotAll || change.on.dotAll) && !change.off.dotAll
  verbose := (flags.verbose || change.on.verbose) && !change.off.verbose
  asciiOnly := if change.unicodeOn then false else flags.asciiOnly || change.on.asciiOnly
  template := flags.template

end ClassHarvest.Pattern
