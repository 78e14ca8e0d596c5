import ClassHarvest.Text.Basic

/-!
# Binary floating point

A number of 64 bits is a sign, a whole significand below `2 ^ 53` and a power of two.  Sums and
products are the exact values rounded to the nearest number, a tie going to the even significand.
-/

namespace ClassHarvest

/-- A floating-point number. -/
inductive Binary64 where
  /-- The number `significand * 2 ^ exponent`, negated if `negative` holds. -/
  | finite (negative : Bool) (significand : Nat) (exponent : Int)
  /-- Infinity of either sign. -/
  | infinite (negative : Bool)
  /-- No number. -/
  | nan
deriving DecidableEq, Repr

namespace Binary64

/-- The least exponent. -/
def minExponent : Int := -1074

/-- The greatest exponent. -/
def maxExponent : Int := 971

/-- One more than the greatest significand. -/
def significandLimit : Nat := 0x20000000000000

/-- Zero of either sign. -/
def zero (negative : Bool) : Binary64 :=
  .finite negative 0 minExponent

/-! ## Rounding -/

/-- The whole number nearest to a quotient, the even one if two are equally near. -/
def nearest (numerator denominator : Nat) : Nat :=
  let quotient := numerator / denominator
  let twice := 2 * (numerator % denominator)
  if twice < denominator then quotient
  else if denominator < twice then quotient + 1
  else if quotient % 2 = 0 then quotient
  else quotient + 1

/-- A quotient divided by a power of two, as a numerator and a denominator. -/
def scaled (numerator denominator : Nat) (exponent : Int) : Nat × Nat :=
  if exponent < 0 then (numerator * Nat.pow 2 exponent.natAbs, denominator)
  else (numerator, denominator * Nat.pow 2 exponent.natAbs)

/-- An exponent with which a quotient has a significand of no more than 53 binary digits, and of
exactly so many if the exponent is not the least. -/
def exponentFor (numerator denominator : Nat) : Int :=
  let guess : Int := (numerator.log2 : Int) - denominator.log2 - 53
  let (n, d) := scaled numerator denominator guess
  let exponent := if d * significandLimit ≤ n then guess + 1 else guess
  if exponent < minExponent then minExponent else exponent

/-- The number nearest to a quotient with a positive denominator. -/
def ofRatio (negative : Bool) (numerator denominator : Nat) : Binary64 :=
  if numerator = 0 then zero negative
  else
    let exponent := exponentFor numerator denominator
    let (n, d) := scaled numerator denominator exponent
    let significand := nearest n d
    let (significand, exponent) :=
      if significand = significandLimit then (significandLimit / 2, exponent + 1)
      else (significand, exponent)
    if significand = 0 then zero negative
    else if maxExponent < exponent then .infinite negative
    else .finite negative significand exponent

/-- The number nearest to `significand * 10 ^ exponent`. -/
def ofDecimal (negative : Bool) (significand : Nat) (exponent : Int) : Binary64 :=
  let digits : Int := (Nat.toDigits 10 significand).length
  if significand = 0 || digits + exponent < -330 then zero negative
  else if 330 < digits + exponent then .infinite negative
  else if exponent < 0 then ofRatio negative significand (Nat.pow 10 exponent.natAbs)
  else ofRatio negative (significand * Nat.pow 10 exponent.natAbs) 1

/-- The number nearest to a whole number. -/
def ofInt (n : Int) : Binary64 :=
  ofRatio (n < 0) n.natAbs 1

/-! ## Arithmetic -/

/-- The other sign. -/
def neg : Binary64 → Binary64
  | .finite negative significand exponent => .finite (!negative) significand exponent
  | .infinite negative => .infinite (!negative)
  | .nan => .nan

/-- The number nearest to `n * 2 ^ exponent`; `negative` is the sign of zero. -/
def ofScaled (negative : Bool) (n : Int) (exponent : Int) : Binary64 :=
  let negative := if n = 0 then negative else n < 0
  let (numerator, denominator) := scaled n.natAbs 1 (-exponent)
  ofRatio negative numerator denominator

/-- A significand with its sign. -/
def signed (negative : Bool) (significand : Nat) : Int :=
  if negative then -(significand : Int) else significand

/-- Sum. -/
def add : Binary64 → Binary64 → Binary64
  | .finite a m p, .finite b n q =>
    let low := min p q
    let scale (n : Int) (exponent : Int) : Int := n * (Nat.pow 2 (exponent - low).natAbs : Nat)
    ofScaled (a && b) (scale (signed a m) p + scale (signed b n) q) low
  | .infinite a, .infinite b => if a = b then .infinite a else .nan
  | .infinite a, .finite .. => .infinite a
  | .finite .., .infinite b => .infinite b
  | .nan, _ | _, .nan => .nan

/-- Product. -/
def mul : Binary64 → Binary64 → Binary64
  | .finite a m p, .finite b n q => ofScaled (a != b) (signed (a != b) (m * n)) (p + q)
  | .infinite a, .infinite b => .infinite (a != b)
  | .infinite a, .finite b n _ | .finite b n _, .infinite a =>
    if n = 0 then .nan else .infinite (a != b)
  | .nan, _ | _, .nan => .nan

/-- Whether a number is the whole number one. -/
def isOne : Binary64 → Bool
  | .finite negative significand exponent =>
    !negative && exponent ≤ 0 && significand = Nat.pow 2 exponent.natAbs
  | _ => false

/-- Whether a number is zero. -/
def isZero : Binary64 → Bool
  | .finite _ significand _ => significand = 0
  | _ => false

end Binary64
end ClassHarvest
