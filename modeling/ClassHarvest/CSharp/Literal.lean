import ClassHarvest.Text.Basic

/-!
# String literals of C#

`decode` gives the text that a string literal denotes: a regular one with escapes, a verbatim one in
which a quote is doubled, or a raw one between three or more quotes.  `encode` writes a text as a
regular literal.
-/

namespace ClassHarvest.CSharp.Literal

/-! ## Writing -/

/-- The letter that escapes a character, if there is one. -/
def escapeLetter? (c : CodePoint) : Option CodePoint :=
  match c.val with
  | 92 => some '\\'
  | 34 => some '"'
  | 0 => some '0'
  | 7 => some 'a'
  | 8 => some 'b'
  | 12 => some 'f'
  | 10 => some 'n'
  | 13 => some 'r'
  | 9 => some 't'
  | 11 => some 'v'
  | _ => none

/-- Characters beyond ASCII that end a line of source text. -/
def isLineSeparator (c : CodePoint) : Bool :=
  c.val == 0x85 || c.val == 0x2028 || c.val == 0x2029

/-- A character as it stands in a regular literal. -/
def encodePoint (c : CodePoint) : Text :=
  match escapeLetter? c with
  | some letter => [('\\' : CodePoint), letter]
  | none =>
    if c.val < 0x20 || isLineSeparator c then "\\u" ++ Text.hex 4 c.val else [c]

/-- A text as a regular literal. -/
def encode (t : Text) : Text :=
  ('"' : CodePoint) :: t.flatMap encodePoint ++ [('"' : CodePoint)]

/-! ## Reading -/

/-- Why a literal has no text. -/
inductive LiteralError where
  /-- An escape names a number that is beyond all bounds. -/
  | characterTooLarge
deriving DecidableEq, Repr

/-- The wording of a refusal. -/
def LiteralError.message : LiteralError → Text
  | .characterTooLarge => "Python int too large to convert to C int"

/-- The character that a letter escapes; a letter without meaning escapes itself. -/
def escaped (letter : CodePoint) : CodePoint :=
  match letter.ascii with
  | '0' => .ofNat 0
  | 'a' => .ofNat 7
  | 'b' => .ofNat 8
  | 'e' => .ofNat 27
  | 'f' => .ofNat 12
  | 'n' => .ofNat 10
  | 'r' => .ofNat 13
  | 't' => .ofNat 9
  | 'v' => .ofNat 11
  | _ => letter

/-- The least and the greatest number of hexadecimal digits behind a letter. -/
def digitCount? (letter : CodePoint) : Option (Nat × Nat) :=
  match letter.ascii with
  | 'u' => some (4, 4)
  | 'U' => some (8, 8)
  | 'x' => some (1, 4)
  | _ => none

/-- The digits of a numeric escape, of which the letter and what follows it are known. -/
def digits? (letter : CodePoint) (rest : Text) : Option Text :=
  match digitCount? letter with
  | none => none
  | some (least, most) =>
    let digits := (rest.take most).takeWhile CodePoint.isHexDigit
    if digits.length < least then none else some digits

/-- The text of a numeric escape.  A number outside the code space leaves the escape as it stands,
one of more than 31 bits is refused. -/
def numeric (letter : CodePoint) (digits : Text) : Except LiteralError Text :=
  let n := Text.hexValue digits
  if 0x80000000 ≤ n then .error .characterTooLarge
  else
    match CodePoint.ofNat? n with
    | some c => .ok [c]
    | none => .ok (('\\' : CodePoint) :: letter :: digits)

/-- The text of the first `bound` characters and escapes between the quotes of a regular literal. -/
def unescapeWithin : Nat → Text → Except LiteralError Text
  | 0, _ => .ok []
  | _ + 1, [] => .ok []
  | bound + 1, c :: rest =>
    if c.val = 92 then
      match rest with
      | [] => .ok [c]
      | letter :: after =>
        match digits? letter after with
        | some digits => do
          let value ← numeric letter digits
          return value ++ (← unescapeWithin bound (after.drop digits.length))
        | none => do return escaped letter :: (← unescapeWithin bound after)
    else do return c :: (← unescapeWithin bound rest)

/-- The text between the quotes of a regular literal. -/
def unescape (body : Text) : Except LiteralError Text :=
  unescapeWithin body.length body

/-- The text between the quotes of a verbatim literal: a doubled quote is a quote. -/
def undouble : Text → Text
  | [] => []
  | [c] => [c]
  | c :: d :: rest =>
    if c.val = 34 && d.val = 34 then c :: undouble rest else c :: undouble (d :: rest)

/-- A line of a raw literal without the indentation of its last line. -/
def unindent (indent line : Text) : Text :=
  if indent.isPrefixOf line then line.drop indent.length else line

/-- The text between the quotes of a raw literal.  Over several lines the first and the last line do
not count, and the indentation of the last one is cut from the others. -/
def dedent (body : Text) : Text :=
  if body.any (·.val == 10) then
    let lines := (body.splitOn '\n').map (·.trimEnd (·.val == 13))
    Text.join [('\n' : CodePoint)] (((lines.drop 1).dropLast).map (unindent (lines.getLastD [])))
  else body

/-- The text of a raw literal, if it is one. -/
def decodeRaw (t : Text) : Option Text :=
  let quotes := (t.takeWhile (·.val == 34)).length
  if quotes < 3 || t.length < 2 * quotes ||
      !(List.replicate quotes ('"' : CodePoint)).isSuffixOf t then
    none
  else some (dedent ((t.drop quotes).take (t.length - 2 * quotes)))

/-- A literal without the suffix for UTF-8. -/
def withoutSuffix (t : Text) : Text :=
  match t.reverse with
  | last :: letter :: before =>
    if last.val = 56 && (letter.val = 117 || letter.val = 85) then before.reverse else t
  | _ => t

/-- Whether a text begins with a quote. -/
def startsQuoted (t : Text) : Bool :=
  t.head?.any (·.val == 34)

/-- Whether a text ends with a quote. -/
def endsQuoted (t : Text) : Bool :=
  t.getLast?.any (·.val == 34)

/-- The text that a string literal denotes, or nothing if the text is no string literal. -/
def decode (text : Text) : Except LiteralError (Option Text) :=
  let t := withoutSuffix text.strip
  if (t.take 3).length = 3 && (t.take 3).all (·.val == 34) then .ok (decodeRaw t)
  else if t.head?.any (·.val == 64) && startsQuoted (t.drop 1) && endsQuoted t && 3 ≤ t.length then
    .ok (some (undouble ((t.drop 2).dropLast)))
  else if startsQuoted t && endsQuoted t && 2 ≤ t.length then
    (unescape ((t.drop 1).dropLast)).map some
  else .ok none

end ClassHarvest.CSharp.Literal
