import ClassHarvest.Yaml.Cursor

/-!
# Scalars

The text of a scalar may stand plainly, between quotes or as a block of lines.  In the first two a line
end counts as a space, and further line ends after it count as themselves.
-/

namespace ClassHarvest.Yaml

open Lexing

/-! ## Line ends inside scalars -/

/-- The text of a line end and of the line ends after it. -/
def foldedBreaks (first : CodePoint) (more : Text) : Text :=
  if first ≠ ('\n' : CodePoint) then first :: more
  else if more.isEmpty then [(' ' : CodePoint)]
  else more

/-- The line ends at a place between quotes, with the white space around them passed over. -/
def quotedBreaks : Nat → Lexing Text
  | 0 => return []
  | bound + 1 => do
    expect (!isDocumentMark (← rest))
    skipWhile isSpaceOrTab
    match ← lineBreak? with
    | some c => return c :: (← quotedBreaks bound)
    | none => return []

/-! ## Quoted scalars -/

/-- The character that an escape of one character stands for. -/
def simpleEscape? (c : CodePoint) : Option CodePoint :=
  match c.ascii with
  | '0' => some (.ofNat 0)
  | 'a' => some (.ofNat 7)
  | 'b' => some (.ofNat 8)
  | 't' | '\t' => some (.ofNat 9)
  | 'n' => some (.ofNat 10)
  | 'v' => some (.ofNat 11)
  | 'f' => some (.ofNat 12)
  | 'r' => some (.ofNat 13)
  | 'e' => some (.ofNat 27)
  | ' ' => some (.ofNat 32)
  | '"' => some (.ofNat 34)
  | '\\' => some (.ofNat 92)
  | '/' => some (.ofNat 47)
  | 'N' => some (.ofNat 0x85)
  | '_' => some (.ofNat 0xA0)
  | 'L' => some (.ofNat 0x2028)
  | 'P' => some (.ofNat 0x2029)
  | _ => none

/-- The number of digits of an escape that gives the number of a character. -/
def escapeDigits? (c : CodePoint) : Option Nat :=
  match c.ascii with
  | 'x' => some 2
  | 'u' => some 4
  | 'U' => some 8
  | _ => none

/-- The code point with a number that an escape gives. -/
def escapedCodePoint (n : Nat) : Lexing CodePoint :=
  if 0x80000000 ≤ n then throw .greatCodePoint
  else
    match CodePoint.ofNat? n with
    | some c => return c
    | none => throw .noCodePoint

/-- What an escape stands for, behind its backslash. -/
def escape : Lexing Text := do
  match ← rest with
  | [] => fail
  | c :: after =>
    match simpleEscape? c, escapeDigits? c with
    | some d, _ =>
      skip 1
      return [d]
    | none, some count =>
      let digits := after.take count
      expect (digits.length = count && digits.all CodePoint.isHexDigit)
      let d ← escapedCodePoint (Text.hexValue digits)
      skip (count + 1)
      return [d]
    | none, none =>
      expect (isBreak c)
      let _ ← lineBreak?
      quotedBreaks after.length

/-- Characters that stand for themselves between quotes of either kind. -/
def isQuotedChar (c : CodePoint) : Bool :=
  !(isOneOf "'\"\\" c || isSpaceOrTab c || isBreak c)

/-- The text at a place between quotes up to white space or the closing quote. -/
def quotedRun (double : Bool) : Nat → Lexing Text
  | 0 => return []
  | bound + 1 => do
    let plain ← takeWhile isQuotedChar
    match ← rest with
    | [] => return plain
    | c :: after =>
      if c.val = 39 && !double && after.head?.any (·.val = 39) then
        skip 2
        return plain ++ c :: (← quotedRun double bound)
      else if (c.val = 39 && double) || (isOneOf "\"\\" c && !double) then
        skip 1
        return plain ++ c :: (← quotedRun double bound)
      else if c.val = 92 then
        skip 1
        let escaped ← escape
        return plain ++ escaped ++ (← quotedRun double bound)
      else return plain

/-- What the white space at a place between quotes stands for. -/
def quotedSpace : Lexing Text := do
  let spaces ← takeWhile isSpaceOrTab
  expect (!(← rest).isEmpty)
  match ← lineBreak? with
  | none => return spaces
  | some first => return foldedBreaks first (← quotedBreaks (← rest).length.succ)

/-- The text at a place between quotes, with the closing quote passed over. -/
def quotedRest (double : Bool) (quote : CodePoint) : Nat → Lexing Text
  | 0 => fail
  | bound + 1 => do
    let run ← quotedRun double (← rest).length.succ
    if (← peek?) = some quote then
      skip 1
      return run
    else
      let space ← quotedSpace
      return run ++ space ++ (← quotedRest double quote bound)

/-- The scalar whose opening quote is next. -/
def quotedScalar (double : Bool) : Lexing Text := do
  let quote : CodePoint := if double then '"' else '\''
  skip 1
  quotedRest double quote (← rest).length.succ

/-! ## Plain scalars -/

/-- How many characters of a text stand for themselves in a plain scalar. -/
def plainLength (inFlow : Bool) : Text → Nat
  | [] => 0
  | c :: rest =>
    let ends := isSpaceOrTab c || isBreak c ||
      (c.val = 58 && (atBlank rest || (inFlow && rest.head?.any (isOneOf ",[]\x7b\x7d")))) ||
      (inFlow && isOneOf ",?[]\x7b\x7d" c)
    if ends then 0 else plainLength inFlow rest + 1

/-- The line ends at a place in a plain scalar, with spaces passed over; none if the document begins or
ends there. -/
def plainBreaks : Nat → Lexing (Option Text)
  | 0 => return some []
  | bound + 1 => do
    if isDocumentMark (← rest) then return none
    skipWhile isSpace
    match ← lineBreak? with
    | some c => return (← plainBreaks bound).map (c :: ·)
    | none => return some []

/-- What the white space at a place in a plain scalar stands for, and whether a line ends in it. -/
def plainSpace : Lexing (Text × Bool) := do
  let spaces ← takeWhile isSpace
  match ← lineBreak? with
  | none => return (spaces, false)
  | some first =>
    match ← plainBreaks (← rest).length.succ with
    | none => return ([], true)
    | some more => return (foldedBreaks first more, true)

/-- The text of a plain scalar from a place on, and whether a line end follows it.  In a block a line
that is indented less than the bound ends the scalar. -/
def plainRest (inFlow : Bool) (indent : Nat) (space : Text) (lineEnded : Bool) :
    Nat → Lexing (Text × Bool)
  | 0 => return ([], lineEnded)
  | bound + 1 => do
    let t ← rest
    let length := plainLength inFlow t
    if t.head?.any (isOneOf "#") || length = 0 then return ([], lineEnded)
    skip length
    let piece := space ++ t.take length
    let (space, lineEnded) ← plainSpace
    let stop := space.isEmpty || (← peek?).any (isOneOf "#") || (!inFlow && (← column) < indent)
    if stop then return (piece, lineEnded)
    else
      let (more, lineEnded) ← plainRest inFlow indent space lineEnded bound
      return (piece ++ more, lineEnded)

/-- A plain scalar, and whether a line end follows it. -/
def plainScalar (inFlow : Bool) (indent : Nat) : Lexing (Text × Bool) := do
  plainRest inFlow indent [] false (← rest).length.succ

/-! ## Block scalars -/

/-- What becomes of the line ends at the end of a block. -/
inductive Chomping where
  /-- One is kept. -/
  | clip
  /-- None is kept. -/
  | strip
  /-- All are kept. -/
  | keep
deriving DecidableEq, Repr

/-- The chomping that an indicator asks for. -/
def chompingOf? (c : CodePoint) : Option Chomping :=
  if c.val = 43 then some .keep else if c.val = 45 then some .strip else none

/-- The indicators of a block: its chomping, and its indentation if that is given. -/
def blockHeader : Lexing (Chomping × Option Nat) := do
  let chomping? : Lexing (Option Chomping) := do
    match (← peek?).bind chompingOf? with
    | some chomping =>
      skip 1
      return some chomping
    | none => return none
  let indent? : Lexing (Option Nat) := do
    match (← peek?).filter CodePoint.isAsciiDigit with
    | some digit =>
      expect (digit.val ≠ 48)
      skip 1
      return some (digit.val - 48)
    | none => return none
  let first ← chomping?
  let indent ← indent?
  let second ← if first.isNone && indent.isSome then chomping? else pure none
  expect (atSpace (← rest))
  return ((first.or second).getD .clip, indent)

/-- The empty lines at a place in a block, and the greatest indentation seen on them or after. -/
def blockLead : Nat → Lexing (Text × Nat)
  | 0 => return ([], 0)
  | bound + 1 => do
    skipWhile isSpace
    let column ← column
    match ← lineBreak? with
    | some c =>
      let (more, deepest) ← blockLead bound
      return (c :: more, max column deepest)
    | none => return ([], column)

/-- Go past spaces up to a column. -/
def skipIndent (indent : Nat) : Lexing Unit := do
  let spaces := (← rest).takeWhile isSpace
  skip (min spaces.length (indent - (← column)))

/-- The empty lines at a place in a block of known indentation. -/
def blockBreaks (indent : Nat) : Nat → Lexing Text
  | 0 => return []
  | bound + 1 => do
    skipIndent indent
    match ← lineBreak? with
    | some c => return c :: (← blockBreaks indent bound)
    | none => return []

/-- The lines of a block from a place on; `breaks` are the empty lines before it, and `last` is the end
of the line before those. -/
def blockLines (folded : Bool) (chomping : Chomping) (indent : Nat) (last breaks : Text) :
    Nat → Lexing Text
  | 0 => return []
  | bound + 1 => do
    let t ← rest
    if (← column) = indent && !t.isEmpty then
      let textual := !t.head?.any isSpaceOrTab
      let line ← takeWhile fun c => !isBreak c
      let last := (← lineBreak?).toList
      let after ← blockBreaks indent (← rest).length.succ
      let following ← rest
      let goesOn := (← column) = indent && !following.isEmpty
      let joins := folded && textual && last = ("\n" : Text) && !following.head?.any isSpaceOrTab
      let joint : Text :=
        if !goesOn then []
        else if !joins then last
        else if after.isEmpty then [(' ' : CodePoint)]
        else []
      return breaks ++ line ++ joint ++ (← blockLines folded chomping indent last after bound)
    else
      match chomping with
      | .strip => return []
      | .clip => return last
      | .keep => return last ++ breaks

/-- The block scalar whose indicator is next, inside something of a given indentation. -/
def blockScalar (folded : Bool) (parentIndent : Nat) : Lexing Text := do
  skip 1
  let (chomping, indent?) ← blockHeader
  skipLine
  let least := max parentIndent 1
  let bound := (← rest).length.succ
  match indent? with
  | none =>
    let (breaks, deepest) ← blockLead bound
    blockLines folded chomping (max least deepest) [] breaks bound
  | some indent =>
    let indent := least + indent - 1
    let breaks ← blockBreaks indent bound
    blockLines folded chomping indent [] breaks bound

end ClassHarvest.Yaml
