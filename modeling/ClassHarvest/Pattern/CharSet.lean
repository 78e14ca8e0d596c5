import ClassHarvest.Pattern.Expression
import ClassHarvest.Text.Case

/-!
# Character tests

When a character passes a test.  Without regard to case two characters are the same if their lower
cases are, or if those are listed as variants of one capital letter.
-/

namespace ClassHarvest.Pattern

/-! ## Letter case -/

/-- Small letters that share their capital letter with other small letters. -/
def caseVariants : List (Nat × List Nat) := [
  (0x0069, [0x0131]), (0x0073, [0x017f]), (0x00b5, [0x03bc]), (0x0131, [0x0069]),
  (0x017f, [0x0073]), (0x0345, [0x03b9, 0x1fbe]), (0x0390, [0x1fd3]), (0x03b0, [0x1fe3]),
  (0x03b2, [0x03d0]), (0x03b5, [0x03f5]), (0x03b8, [0x03d1]), (0x03b9, [0x0345, 0x1fbe]),
  (0x03ba, [0x03f0]), (0x03bc, [0x00b5]), (0x03c0, [0x03d6]), (0x03c1, [0x03f1]),
  (0x03c2, [0x03c3]), (0x03c3, [0x03c2]), (0x03c6, [0x03d5]), (0x03d0, [0x03b2]),
  (0x03d1, [0x03b8]), (0x03d5, [0x03c6]), (0x03d6, [0x03c0]), (0x03f0, [0x03ba]),
  (0x03f1, [0x03c1]), (0x03f5, [0x03b5]), (0x0432, [0x1c80]), (0x0434, [0x1c81]),
  (0x043e, [0x1c82]), (0x0441, [0x1c83]), (0x0442, [0x1c84, 0x1c85]), (0x044a, [0x1c86]),
  (0x0463, [0x1c87]), (0x1c80, [0x0432]), (0x1c81, [0x0434]), (0x1c82, [0x043e]),
  (0x1c83, [0x0441]), (0x1c84, [0x0442, 0x1c85]), (0x1c85, [0x0442, 0x1c84]),
  (0x1c86, [0x044a]), (0x1c87, [0x0463]), (0x1c88, [0xa64b]), (0x1e61, [0x1e9b]),
  (0x1e9b, [0x1e61]), (0x1fbe, [0x0345, 0x03b9]), (0x1fd3, [0x0390]), (0x1fe3, [0x03b0]),
  (0xa64b, [0x1c88]), (0xfb05, [0xfb06]), (0xfb06, [0xfb05])]

/-- The other small letters with the same capital letter. -/
def variantsOf (c : CodePoint) : List Nat :=
  (caseVariants.lookup c.val).getD []

/-- The lower case under the flags. -/
def Flags.lower (flags : Flags) (c : CodePoint) : CodePoint :=
  if flags.asciiOnly then c.asciiLower else c.lower

/-- Whether a character is a letter with two cases under the flags. -/
def Flags.hasCase (flags : Flags) (c : CodePoint) : Bool :=
  if flags.asciiOnly then c.isAsciiLetter else c.hasCase

/-- Whether the lower case `small` of some character is the lower case of `c` or a variant of it. -/
def Flags.sameLetter (flags : Flags) (c small : CodePoint) : Bool :=
  let l := flags.lower c
  small == l || (!flags.asciiOnly && (variantsOf l).contains small.val)

/-! ## Classes -/

/-- Membership in a class under the flags. -/
def CharClass.has (cls : CharClass) (asciiOnly : Bool) (c : CodePoint) : Bool :=
  match cls, asciiOnly with
  | .digit, true => c.isAsciiDigit
  | .digit, false => c.isDecimal
  | .space, true => (9 ≤ c.val && c.val ≤ 13) || c.val == 32
  | .space, false => c.isSpace
  | .word, true => c.isAsciiAlnum || c.val == 95
  | .word, false => c.isWord

/-! ## Sets -/

/-- Whether a range holds a character with two cases.  A range that leaves the basic plane counts as
one. -/
def rangeHasCase (flags : Flags) (first last : CodePoint) : Bool :=
  last.val > 0xFFFF ||
    if flags.asciiOnly then
      (first.val ≤ 90 && 65 ≤ last.val) || (first.val ≤ 122 && 97 ≤ last.val)
    else
      CodePoint.lowerRanges.any (·.meets first.val last.val) ||
        CodePoint.upperRanges.any (·.meets first.val last.val)

/-- Whether letter case matters for a member of a set.  Characters outside the basic plane count as
letters here. -/
def SetItem.hasCase (flags : Flags) : SetItem → Bool
  | .one c => (flags.lower c).val > 0xFFFF || flags.hasCase c
  | .range first last => rangeHasCase flags first last
  | .named _ _ => false

/-- Membership of a character in one item, with regard to case. -/
def SetItem.has (flags : Flags) (c : CodePoint) : SetItem → Bool
  | .one d => c == d
  | .range first last => first.val ≤ c.val && c.val ≤ last.val
  | .named cls complement => cls.has flags.asciiOnly c != complement

/-- The characters of the basic plane in a range whose lower case is `small`, or a variant of it. -/
def rangeHasLetter (flags : Flags) (first last small : CodePoint) : Bool :=
  let among (l : CodePoint) : Bool :=
    let sources :=
      if flags.asciiOnly then
        if l.isAsciiLower then [l, l.asciiUpper] else if l.isAsciiUpper then [] else [l]
      else l.lowerSources
    sources.any fun c => first.val ≤ c.val && c.val ≤ last.val && c.val ≤ 0xFFFF
  among small || (!flags.asciiOnly && (variantsOf small).any fun n => among (.ofNat n))

/-- Membership in one item of a character whose lower case is `small`, without regard to case.
Outside the basic plane a single character is compared as it stands. -/
def SetItem.hasLetter (flags : Flags) (small : CodePoint) : SetItem → Bool
  | .one c => if (flags.lower c).val > 0xFFFF then small == c else flags.sameLetter c small
  | .range first last =>
    rangeHasLetter flags first last small ||
      (last.val > 0xFFFF &&
        ((first.val ≤ small.val && small.val ≤ last.val) ||
          (first.val ≤ small.upper.val && small.upper.val ≤ last.val)))
  | .named cls complement => cls.has flags.asciiOnly small != complement

/-- Membership in a set. -/
def setHas (flags : Flags) (items : List SetItem) (c : CodePoint) : Bool :=
  if flags.ignoreCase && items.any (·.hasCase flags) then
    items.any (·.hasLetter flags (flags.lower c))
  else items.any (·.has flags c)

/-! ## Tests -/

/-- Whether a character is the wanted one, under the flags. -/
def sameCharacter (flags : Flags) (wanted c : CodePoint) : Bool :=
  if flags.ignoreCase && flags.hasCase wanted then flags.sameLetter wanted (flags.lower c)
  else c == wanted

/-- Whether a character passes a test. -/
def CharTest.passes (flags : Flags) (c : CodePoint) : CharTest → Bool
  | .one d => sameCharacter flags d c
  | .other d => !sameCharacter flags d c
  | .set complement items => setHas flags items c != complement
  | .any => flags.dotAll || c.val != 10

end ClassHarvest.Pattern
