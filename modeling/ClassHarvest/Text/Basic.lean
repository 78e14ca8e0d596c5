import ClassHarvest.Text.CodePoint

/-!
# Text

A text is a list of code points.  This module holds the operations on texts that the other modules
share: trimming, cutting, joining, line handling and the writing of numbers.
-/

namespace ClassHarvest

/-- A sequence of code points. -/
abbrev Text := List CodePoint

namespace Text

/-- The text of a string. -/
def ofString (s : String) : Text :=
  s.toList.map CodePoint.ofChar

instance : Coe String Text := ⟨ofString⟩

/-- The string of a text that holds no surrogate. -/
def toString? (t : Text) : Option String :=
  (t.mapM CodePoint.toChar?).map String.ofList

/-- The string of a text, with U+FFFD for every surrogate. -/
def display (t : Text) : String :=
  String.ofList (t.map fun c => c.toChar?.getD '\uFFFD')

/-- Whether a surrogate occurs in a text. -/
def hasSurrogate (t : Text) : Bool :=
  t.any CodePoint.isSurrogate

/-! ## Trimming -/

/-- Cut the longest beginning that satisfies `p`. -/
def trimStart (t : Text) (p : CodePoint → Bool) : Text :=
  t.dropWhile p

/-- Cut the longest end that satisfies `p`. -/
def trimEnd (t : Text) (p : CodePoint → Bool) : Text :=
  (t.reverse.dropWhile p).reverse

/-- Cut what satisfies `p` at both ends. -/
def trim (t : Text) (p : CodePoint → Bool) : Text :=
  (t.trimStart p).trimEnd p

/-- Cut white space at both ends. -/
def strip (t : Text) : Text :=
  t.trim CodePoint.isSpace

/-- A text of white space only, the empty one included. -/
def isBlank (t : Text) : Bool :=
  t.all CodePoint.isSpace

/-! ## Cutting and joining -/

/-- The pieces between the occurrences of a separator; there is always one more than occurrences. -/
def splitOn (separator : CodePoint) : Text → List Text
  | [] => [[]]
  | c :: rest =>
    if c = separator then [] :: splitOn separator rest
    else
      match splitOn separator rest with
      | piece :: pieces => (c :: piece) :: pieces
      | [] => [[c]]

/-- The texts in order with a separator between neighbours. -/
def join (separator : Text) : List Text → Text
  | [] => []
  | [t] => t
  | t :: rest => t ++ separator ++ join separator rest

/-- What stands before the first occurrence of `separator` and what after it, if there is one. -/
def cut? (separator : CodePoint) (t : Text) : Option (Text × Text) :=
  match t.span (· != separator) with
  | (_, []) => none
  | (before, _ :: after) => some (before, after)

/-- What follows the last occurrence of `separator`, and the whole text if there is none. -/
def afterLast (separator : CodePoint) (t : Text) : Text :=
  (t.reverse.takeWhile (· != separator)).reverse

/-- The text with white space left out. -/
def withoutSpace (t : Text) : Text :=
  t.filter fun c => !c.isSpace

/-- Every occurrence of `old` replaced by `new`, from the left; an empty `old` occurs nowhere. -/
def replace (old new : Text) (t : Text) : Text :=
  go t.length t
where
  /-- Replace in a text that is no longer than the bound. -/
  go : Nat → Text → Text
    | 0, rest => rest
    | _ + 1, [] => []
    | bound + 1, c :: rest =>
      if !old.isEmpty && old.isPrefixOf (c :: rest) then
        new ++ go bound ((c :: rest).drop old.length)
      else c :: go bound rest

/-- Whether `part` occurs in a text. -/
def contains (part : Text) : Text → Bool
  | [] => part.isEmpty
  | c :: rest => part.isPrefixOf (c :: rest) || contains part rest

/-- Pad on the right with spaces to a width. -/
def padEnd (width : Nat) (t : Text) : Text :=
  t ++ List.replicate (width - t.length) (' ' : CodePoint)

/-! ## Lines -/

/-- CR LF and CR become LF. -/
def universalNewlines : Text → Text
  | [] => []
  | c :: rest =>
    if c.val = 13 then
      match rest with
      | d :: rest' =>
        if d.val = 10 then ('\n' : CodePoint) :: universalNewlines rest'
        else ('\n' : CodePoint) :: universalNewlines (d :: rest')
      | [] => [('\n' : CodePoint)]
    else c :: universalNewlines rest

/-- The characters that end a line of a list of lines. -/
def isLineEnd (c : CodePoint) : Bool :=
  let n := c.val
  (10 ≤ n && n ≤ 13) || (28 ≤ n && n ≤ 30) || n == 0x85 || n == 0x2028 || n == 0x2029

/-- The lines of a text without their ends; CR LF is one end, and no line follows the last end. -/
def lines (t : Text) : List Text :=
  go [] t
where
  /-- Collect the current line in reverse. -/
  go (current : Text) : Text → List Text
    | [] => if current.isEmpty then [] else [current.reverse]
    | c :: rest =>
      if c.val = 13 then
        match rest with
        | d :: rest' =>
          if d.val = 10 then current.reverse :: go [] rest'
          else current.reverse :: go [] (d :: rest')
        | [] => [current.reverse]
      else if isLineEnd c then current.reverse :: go [] rest
      else go (c :: current) rest

/-! ## Numbers -/

/-- The decimal digits of a number. -/
def ofNat (n : Nat) : Text :=
  ofString (Nat.repr n)

/-- The decimal digits of an integer, with `-` in front of a negative one. -/
def ofInt : Int → Text
  | .ofNat n => ofNat n
  | .negSucc n => ('-' : CodePoint) :: ofNat (n + 1)

/-- The last `width` hexadecimal digits of a number, in small letters. -/
def hex (width n : Nat) : Text :=
  (List.range width).map fun i => CodePoint.hexDigit (n / Nat.pow 16 (width - 1 - i) % 16)

/-- The value of a sequence of hexadecimal digits. -/
def hexValue (t : Text) : Nat :=
  t.foldl (fun n c => n * 16 + (c.hexValue?.getD 0)) 0

/-- The value of a sequence of ASCII digits. -/
def decimalValue (t : Text) : Nat :=
  t.foldl (fun n c => n * 10 + (c.val - 48)) 0

/-- The value of a sequence of octal digits. -/
def octalValue (t : Text) : Nat :=
  t.foldl (fun n c => n * 8 + (c.val - 48)) 0

/-! ## Order -/

/-- The order of texts by their code points, a beginning before its continuations. -/
def le : Text → Text → Bool
  | [], _ => true
  | _ :: _, [] => false
  | a :: s, b :: t => if a.val < b.val then true else if b.val < a.val then false else le s t

/-- The texts in increasing order. -/
def sort (ts : List Text) : List Text :=
  ts.mergeSort le

end Text

/-- The members of a list without those that occurred before, in order of first occurrence. -/
def firstOccurrences {α : Type} [DecidableEq α] (xs : List α) : List α :=
  (xs.foldl (fun seen x => if x ∈ seen then seen else x :: seen) []).reverse

end ClassHarvest
