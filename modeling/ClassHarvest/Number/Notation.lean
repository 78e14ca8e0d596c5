import ClassHarvest.Number.Binary64
import ClassHarvest.Number.Numeral

/-!
# Notation of floating-point numbers

A number may be written with a point, with an exponent, or as a word for infinity or for no number.
-/

namespace ClassHarvest.Binary64

/-- The words for infinity. -/
def infinityWords : List Text := ["inf", "infinity"]

/-- The words for no number. -/
def nanWords : List Text := ["nan"]

/-- Decimal digits of any script at the beginning of a text, as ASCII digits, and the rest. -/
def digits (t : Text) : Text × Text :=
  let ds := t.takeWhile CodePoint.isDecimal
  (ds.map fun c => .ofNat (48 + c.decimalValue?.getD 0), t.drop ds.length)

/-- The exponent that a text consists of, zero if it is empty. -/
def exponent? (t : Text) : Option Int :=
  match t with
  | [] => some 0
  | c :: rest =>
    if c.asciiLower.val = 101 then
      let (negative, body) := Numeral.splitSign rest
      let (ds, rest) := digits body
      if ds.isEmpty || !rest.isEmpty then none
      else
        let value : Int := Text.decimalValue ds
        some (if negative then -value else value)
    else none

/-- The number that a text without a sign is the writing of. -/
def ofUnsigned? (negative : Bool) (t : Text) : Option Binary64 := do
  let word := t.map CodePoint.asciiLower
  if infinityWords.contains word then return .infinite negative
  if nanWords.contains word then return .nan
  let (whole, rest) := digits t
  let (fraction, rest) := match rest with
    | c :: after => if c.val = 46 then digits after else ([], rest)
    | [] => ([], [])
  if whole.isEmpty && fraction.isEmpty then none
  let power ← exponent? rest
  return ofDecimal negative (Text.decimalValue (whole ++ fraction)) (power - fraction.length)

/-- The number that a text is the writing of, white space around it. -/
def ofText? (t : Text) : Option Binary64 :=
  let (negative, body) := Numeral.splitSign t.strip
  ofUnsigned? negative body

/-- Whether a number is a given whole number. -/
def equalsInt (x : Binary64) (n : Int) : Bool :=
  match x with
  | .finite negative significand exponent =>
    let value := signed negative significand
    let power : Int := Nat.pow 2 exponent.natAbs
    if exponent < 0 then value = n * power else value * power = n
  | _ => false

end ClassHarvest.Binary64
