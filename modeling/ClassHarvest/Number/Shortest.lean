import ClassHarvest.Number.Binary64

/-!
# The text of a floating-point number

A number is written with the fewest decimal digits that read back as the same number, and with those
nearest to it.  It is written positionally from `0.0001` to below `10 ^ 16`, and with an exponent
otherwise; a whole number written positionally ends in `.0`.
-/

namespace ClassHarvest.Binary64

/-! ## Digits -/

/-- The numbers that round to `significand * 2 ^ exponent` lie between two bounds.  The number and the
bounds are given as multiples of `2 ^ (exponent - 2)`. -/
structure Neighbourhood where
  /-- The lower bound. -/
  low : Nat
  /-- The number itself. -/
  centre : Nat
  /-- The upper bound. -/
  high : Nat
  /-- Whether the bounds round to the number. -/
  closed : Bool

/-- The neighbourhood of a number.  Below a power of two the numbers are closer together. -/
def neighbourhood (significand : Nat) (exponent : Int) : Neighbourhood :=
  let step := if significand = significandLimit / 2 && minExponent < exponent then 1 else 2
  ⟨4 * significand - step, 4 * significand, 4 * significand + 2, significand % 2 = 0⟩

/-- Whether `n / d` lies between the bounds of a neighbourhood. -/
def Neighbourhood.admits (around : Neighbourhood) (n d : Nat) : Bool :=
  if around.closed then around.low * d ≤ n && n ≤ around.high * d
  else around.low * d < n && n < around.high * d

/-- A decimal number `digits * 10 ^ exponent`. -/
structure Decimal where
  /-- The digits as a number. -/
  digits : Nat
  /-- The power of ten. -/
  exponent : Int
deriving DecidableEq, Repr

/-- The decimal number next to a number on the grid of the multiples of a power of ten, if one reads
back as that number.  The upper neighbour is taken if it is nearer, or as near and even. -/
def onGrid? (around : Neighbourhood) (exponent power : Int) : Option Decimal :=
  -- The number is `centre * n / d` in units of the grid.
  let (n, d) : Nat × Nat :=
    if power < 0 then (Nat.pow 10 power.natAbs, 1) else (1, Nat.pow 10 power.natAbs)
  let (n, d) : Nat × Nat :=
    if exponent < 2 then (n, d * Nat.pow 2 (exponent - 2).natAbs)
    else (n * Nat.pow 2 (exponent - 2).natAbs, d)
  let below := around.centre * n / d
  let above := below + 1
  let twice := 2 * (around.centre * n % d)
  let fits (k : Nat) : Bool := around.admits (k * d) n
  match fits below, fits above with
  | true, true =>
    if twice < d || (twice = d && below % 2 = 0) then some ⟨below, power⟩ else some ⟨above, power⟩
  | true, false => some ⟨below, power⟩
  | false, true => some ⟨above, power⟩
  | false, false => none

/-- The power of ten that is just above a positive number. -/
def magnitude (significand : Nat) (exponent : Int) : Int :=
  if exponent < 0 then
    let whole := significand / Nat.pow 2 exponent.natAbs
    if whole = 0 then
      -- Multiply by a power of ten that certainly makes the number whole.
      let shift := exponent.natAbs
      ((Nat.toDigits 10 (significand * Nat.pow 10 shift / Nat.pow 2 exponent.natAbs)).length : Int) - shift
    else (Nat.toDigits 10 whole).length
  else (Nat.toDigits 10 (significand * Nat.pow 2 exponent.natAbs)).length

/-- The decimal number with the fewest digits that reads back as a positive number. -/
def shortest (significand : Nat) (exponent : Int) : Decimal :=
  let around := neighbourhood significand exponent
  let top := magnitude significand exponent
  ((List.range 17).findSome? fun (k : Nat) => onGrid? around exponent (top - (k + 1))).getD
    ⟨significand, exponent⟩

/-! ## Layout -/

/-- Zeros. -/
def zeros (n : Int) : Text :=
  List.replicate n.toNat ('0' : CodePoint)

/-- Digits with a point after the first `point` of them, or after zeros in front of them. -/
def positional (digits : Text) (point : Int) : Text :=
  if point ≤ 0 then "0." ++ zeros (-point) ++ digits
  else if point < digits.length then
    digits.take point.toNat ++ ('.' : CodePoint) :: digits.drop point.toNat
  else digits ++ zeros (point - digits.length) ++ (".0" : Text)

/-- An exponent of at least two digits with its sign. -/
def exponentText (exponent : Int) : Text :=
  let digits := Text.ofNat exponent.natAbs
  (if exponent < 0 then Text.ofString "e-" else Text.ofString "e+") ++ zeros (2 - digits.length)
    ++ digits

/-- Digits with a point after the first one if there are more, and an exponent. -/
def scientific (digits : Text) (exponent : Int) : Text :=
  match digits with
  | [] => exponentText exponent
  | [digit] => digit :: exponentText exponent
  | digit :: more => digit :: ('.' : CodePoint) :: more ++ exponentText exponent

/-- The text of a decimal number. -/
def Decimal.text (d : Decimal) : Text :=
  let all := Text.ofNat d.digits
  let point : Int := all.length + d.exponent
  let digits := all.trimEnd (· = ('0' : CodePoint))
  if -4 < point && point ≤ 16 then positional digits point else scientific digits (point - 1)

/-- The text of a number, with given names for infinity and for no number. -/
def text (infinity none : Text) : Binary64 → Text
  | .finite negative significand exponent =>
    let magnitude : Text :=
      if significand = 0 then "0.0" else (shortest significand exponent).text
    if negative then ('-' : CodePoint) :: magnitude else magnitude
  | .infinite negative => if negative then ('-' : CodePoint) :: infinity else infinity
  | .nan => none

end ClassHarvest.Binary64
