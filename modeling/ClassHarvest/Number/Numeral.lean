import ClassHarvest.Text.Property

/-!
# Numerals

Whole numbers to a base are read from their digits, and written in decimal.  Both go only up to a number
of decimal digits; a base that is a power of two has no limit.
-/

namespace ClassHarvest.Numeral

/-- The greatest number of digits. -/
def maxDigits : Nat := 4300

/-- What is said of a number that has too many digits. -/
def limitMessage (detail : Text) : Text :=
  "Exceeds the limit (" ++ Text.ofNat maxDigits ++ " digits) for integer string conversion" ++ detail
    ++ "; use sys.set_int_max_str_digits() to increase the limit"

/-- The wording of the refusal to read a numeral of so many digits. -/
def readMessage (digits : Nat) : Text :=
  limitMessage (": value has " ++ Text.ofNat digits ++ " digits")

/-- The wording of the refusal to write a number. -/
def writeMessage : Text :=
  limitMessage []

/-! ## Reading -/

/-- Why a text is not read as a whole number. -/
inductive Fault where
  /-- It is none. -/
  | malformed
  /-- It has too many digits. -/
  | tooManyDigits (digits : Nat)
deriving DecidableEq, Repr

/-- The value of a digit: a decimal digit of any script, or a letter from ten on. -/
def digitValue? (c : CodePoint) : Option Nat :=
  match c.decimalValue? with
  | some value => some value
  | none => if c.isAsciiLetter then some (c.asciiLower.val - 87) else none

/-- Whether a character is a digit to a base. -/
def isDigitTo (base : Nat) (c : CodePoint) : Bool :=
  (digitValue? c).any (· < base)

/-- The letter that may stand behind a zero in front of a numeral to a base. -/
def baseLetter? : Nat → Option Char
  | 2 => some 'b'
  | 8 => some 'o'
  | 16 => some 'x'
  | _ => none

/-- A text without the zero and the letter that tell the base. -/
def withoutBaseMark (base : Nat) (t : Text) : Text :=
  match baseLetter? base, t with
  | some letter, zero :: c :: rest =>
    if zero.val = 48 && c.asciiLower = (letter : CodePoint) then rest else t
  | _, _ => t

/-- Whether a text has a minus sign in front, and what follows the sign. -/
def splitSign (t : Text) : Bool × Text :=
  match t with
  | c :: rest => if c.val = 45 then (true, rest) else if c.val = 43 then (false, rest) else (false, t)
  | [] => (false, [])

/-- The whole number to a base that a text is the writing of, white space around it. -/
def read (base : Nat) (t : Text) : Except Fault Int :=
  let (negative, body) := splitSign t.strip
  let body := withoutBaseMark base body
  let digits := body.takeWhile (isDigitTo base)
  if base = 10 && maxDigits < digits.length then .error (.tooManyDigits digits.length)
  else if digits.isEmpty || digits.length ≠ body.length then .error .malformed
  else
    let value : Nat := digits.foldl (fun n c => n * base + (digitValue? c).getD 0) 0
    .ok (if negative then -(value : Int) else value)

/-! ## Writing -/

/-- The decimal digits of a number, if they are not too many. -/
def write? (n : Int) : Option Text :=
  if n.natAbs < Nat.pow 10 maxDigits then some (Text.ofInt n) else none

end ClassHarvest.Numeral
