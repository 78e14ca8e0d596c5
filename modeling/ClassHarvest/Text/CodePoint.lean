/-!
# Code points

Text is handled as a sequence of code points.  A `Char` of the core library is a code point that is
not a surrogate; here surrogates are admitted too, because an escape in a C# string literal names a
UTF-16 unit and may leave half of a pair standing alone.
-/

namespace ClassHarvest

/-- A number below `0x110000`, surrogates included. -/
structure CodePoint where
  /-- The number itself. -/
  val : Nat
  /-- The code space ends at `0x10FFFF`. -/
  isLt : val < 0x110000
deriving DecidableEq

namespace CodePoint

theorem val_inj {c d : CodePoint} (same : c.val = d.val) : c = d := by
  cases c
  cases d
  exact (CodePoint.mk.injEq _ _ _ _).mpr same

instance : Repr CodePoint := ⟨fun c _ => repr c.val⟩

/-- The code point of a character. -/
def ofChar (c : Char) : CodePoint :=
  ⟨c.toNat, by
    have h := c.valid
    simp only [UInt32.isValidChar, Nat.isValidChar] at h
    show c.val.toNat < 0x110000
    omega⟩

instance : Coe Char CodePoint := ⟨ofChar⟩

instance : Inhabited CodePoint := ⟨⟨0, by decide⟩⟩

/-- The code point with a given number, if there is one. -/
def ofNat? (n : Nat) : Option CodePoint :=
  if h : n < 0x110000 then some ⟨n, h⟩ else none

/-- The code point with a given number; numbers outside the code space give U+0000. -/
def ofNat (n : Nat) : CodePoint :=
  (ofNat? n).getD default

theorem val_ofNat {n : Nat} (bound : n < 0x110000) : (ofNat n).val = n := by
  simp [ofNat, ofNat?, bound]

theorem ofNat_val (c : CodePoint) : ofNat c.val = c := by
  simp [ofNat, ofNat?, c.isLt]

/-- Surrogates of the first half of a UTF-16 pair. -/
def isHighSurrogate (c : CodePoint) : Bool :=
  0xD800 ≤ c.val && c.val ≤ 0xDBFF

/-- Surrogates of the second half of a UTF-16 pair. -/
def isLowSurrogate (c : CodePoint) : Bool :=
  0xDC00 ≤ c.val && c.val ≤ 0xDFFF

/-- A surrogate of either half. -/
def isSurrogate (c : CodePoint) : Bool :=
  0xD800 ≤ c.val && c.val ≤ 0xDFFF

/-- The code point that a high and a low surrogate stand for together. -/
def ofSurrogates (high low : CodePoint) : CodePoint :=
  ofNat (0x10000 + (high.val - 0xD800) * 0x400 + (low.val - 0xDC00))

/-- The character of a code point, if it is not a surrogate. -/
def toChar? (c : CodePoint) : Option Char :=
  if c.isSurrogate then none else some (Char.ofNat c.val)

/-- An ASCII code point as a character, and U+FFFF for every other one.  It serves to match a code
point against ASCII patterns. -/
def ascii (c : CodePoint) : Char :=
  if c.val < 128 then Char.ofNat c.val else '\uFFFF'

/-- A code point that is matched as an ASCII character is this character. -/
theorem eq_of_ascii_eq {c : CodePoint} {char : Char} (matched : c.ascii = char)
    (isAscii : char.toNat < 128) : c = char := by
  unfold ascii at matched
  split at matched
  · next small =>
      apply val_inj
      subst matched
      have valid : c.val.isValidChar := .inl (by omega)
      change c.val = (Char.ofNat c.val).toNat
      rw [Char.ofNat, dif_pos valid]
      rfl
  · subst matched
    exact absurd isAscii (by decide)

/-- A digit `0` to `9`. -/
def isAsciiDigit (c : CodePoint) : Bool :=
  48 ≤ c.val && c.val ≤ 57

/-- A letter `A` to `Z`. -/
def isAsciiUpper (c : CodePoint) : Bool :=
  65 ≤ c.val && c.val ≤ 90

/-- A letter `a` to `z`. -/
def isAsciiLower (c : CodePoint) : Bool :=
  97 ≤ c.val && c.val ≤ 122

/-- A letter `A` to `Z` or `a` to `z`. -/
def isAsciiLetter (c : CodePoint) : Bool :=
  c.isAsciiUpper || c.isAsciiLower

/-- An ASCII letter or digit. -/
def isAsciiAlnum (c : CodePoint) : Bool :=
  c.isAsciiLetter || c.isAsciiDigit

/-- The capital of a small ASCII letter; every other code point stays. -/
def asciiUpper (c : CodePoint) : CodePoint :=
  if c.isAsciiLower then ofNat (c.val - 32) else c

/-- The small letter of an ASCII capital; every other code point stays. -/
def asciiLower (c : CodePoint) : CodePoint :=
  if c.isAsciiUpper then ofNat (c.val + 32) else c

/-- The value of a hexadecimal digit. -/
def hexValue? (c : CodePoint) : Option Nat :=
  if c.isAsciiDigit then some (c.val - 48)
  else if 97 ≤ c.val && c.val ≤ 102 then some (c.val - 87)
  else if 65 ≤ c.val && c.val ≤ 70 then some (c.val - 55)
  else none

/-- A hexadecimal digit in either case. -/
def isHexDigit (c : CodePoint) : Bool :=
  c.hexValue?.isSome

/-- A digit `0` to `7`. -/
def isOctalDigit (c : CodePoint) : Bool :=
  48 ≤ c.val && c.val ≤ 55

/-- The small hexadecimal digit of a value below sixteen. -/
def hexDigit (n : Nat) : CodePoint :=
  if n < 10 then ofNat (48 + n) else ofNat (87 + n)

/-- White space: the separators of Unicode and the control characters that separate words, lines
and records. -/
def isSpace (c : CodePoint) : Bool :=
  let n := c.val
  (9 ≤ n && n ≤ 13) || (28 ≤ n && n ≤ 32) || n == 0x85 || n == 0xA0 || n == 0x1680 ||
    (0x2000 ≤ n && n ≤ 0x200A) || n == 0x2028 || n == 0x2029 || n == 0x202F || n == 0x205F ||
    n == 0x3000

end CodePoint
end ClassHarvest
