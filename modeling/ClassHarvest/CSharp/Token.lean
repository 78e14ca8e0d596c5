import ClassHarvest.Text.Identifier

/-!
# Tokens of C#

A source text is cut into words, literals, signs and conditional directives.  White space, comments
and the other directives separate tokens and are dropped.  An interpolated string is one token that
holds the tokens of each of its holes.
-/

namespace ClassHarvest.CSharp

/-- Where a token stands: its first character, the one after its last, and its line. -/
structure Place where
  /-- The number of characters before it. -/
  start : Nat
  /-- The number of characters up to its end. -/
  stop : Nat
  /-- The line of its first character; lines are counted from one. -/
  line : Nat
deriving DecidableEq, Repr

/-- A token of a source text. -/
inductive Token where
  /-- An identifier or a keyword. -/
  | word (place : Place) (text : Text)
  /-- A number. -/
  | number (place : Place)
  /-- A character literal. -/
  | character (place : Place)
  /-- A string literal: regular, verbatim or raw. -/
  | string (place : Place)
  /-- An interpolated string, with the tokens of each hole. -/
  | interpolated (place : Place) (holes : List (List Token))
  /-- An operator or a punctuation mark. -/
  | sign (place : Place) (text : String)
  /-- A directive for conditional compilation; a condition is part of it. -/
  | directive (place : Place) (name : String)
deriving Repr

namespace Token

/-- Where a token stands. -/
def place : Token → Place
  | .word place _ | .number place | .character place | .string place | .interpolated place _
  | .sign place _ | .directive place _ => place

/-- Whether a token is a given sign. -/
def isSign (text : String) : Token → Bool
  | .sign _ t => t == text
  | _ => false

/-- Whether a token is a given word. -/
def isWord (text : Text) : Token → Bool
  | .word _ t => t == text
  | _ => false

/-- Whether a token is a given directive. -/
def isDirective (name : String) : Token → Bool
  | .directive _ n => n == name
  | _ => false

end Token

/-! ## Cursors -/

/-- What is left of a source text, with the place where it begins. -/
structure Cursor where
  /-- What is left. -/
  rest : Text
  /-- The number of characters before it. -/
  position : Nat := 0
  /-- The line of its first character. -/
  line : Nat := 1

namespace Cursor

/-- Move on by some characters. -/
def advance (cursor : Cursor) (count : Nat) : Cursor where
  rest := cursor.rest.drop count
  position := cursor.position + count
  line := cursor.line + (cursor.rest.take count).countP (·.val == 10)

/-- The place of the next `count` characters. -/
def place (cursor : Cursor) (count : Nat) : Place :=
  ⟨cursor.position, cursor.position + count, cursor.line⟩

/-- The place from here to a later cursor. -/
def placeTo (cursor later : Cursor) : Place :=
  ⟨cursor.position, later.position, cursor.line⟩

end Cursor

/-! ## What separates tokens -/

/-- White space between tokens. -/
def isBlankChar (c : CodePoint) : Bool :=
  (9 ≤ c.val && c.val ≤ 13) || c.val == 32 || c.val == 0xA0 || c.val == 0xFEFF || c.val == 0x3000

/-- A character that ends a line. -/
def endsLine (c : CodePoint) : Bool :=
  c.val == 10 || c.val == 13

/-- The number of characters up to the end of the line. -/
def lineLength (t : Text) : Nat :=
  (t.takeWhile (!endsLine ·)).length

/-- The number of characters of a text up to and with `*/`, if it occurs. -/
def commentLength? : Text → Option Nat
  | [] => none
  | [_] => none
  | c :: d :: rest =>
    if c.val = 42 && d.val = 47 then some 2 else (commentLength? (d :: rest)).map (· + 1)

/-- The word of a directive behind `#`, and the number of characters up to its end. -/
def directiveWord (t : Text) : Text × Nat :=
  let blank := t.takeWhile fun c => c.val == 32 || c.val == 9
  let word := (t.drop blank.length).takeWhile CodePoint.isAsciiLetter
  (word, blank.length + word.length)

/-- Directives that stand wherever a comment may stand. -/
def looseDirectives : List Text :=
  ["region", "endregion", "line", "pragma", "nullable", "error", "warning", "define", "undef"]

/-- The number of characters that separate tokens at the beginning of a text: a white-space
character, a comment or a directive that is no conditional.  A comment that does not end is an
error. -/
def separatorLength? (first : Bool) (t : Text) : Option Nat :=
  match t with
  | [] => some 0
  | c :: rest =>
    if isBlankChar c then some 1
    else if c.val = 47 then
      match rest with
      | d :: body =>
        if d.val = 47 then some (lineLength t)
        else if d.val = 42 then (commentLength? body).map (· + 2)
        else some 0
      | [] => some 0
    else if c.val = 35 then
      if first && rest.head?.any (·.val == 33) then some (lineLength t)
      else if looseDirectives.contains (directiveWord rest).1 then some (lineLength t)
      else some 0
    else some 0

/-! ## Simple tokens -/

/-- The length of a word at the beginning of a text: an identifier, with `@` in front or not. -/
def wordLength : Text → Nat
  | [] => 0
  | c :: rest =>
    let body := if c.val = 64 then rest else c :: rest
    let extra := if c.val = 64 then 1 else 0
    match body with
    | d :: more =>
      if Bounds.has CodePoint.nameStartBounds d.val then
        extra + 1 + (more.takeWhile fun e => Bounds.has CodePoint.namePartBounds e.val).length
      else 0
    | [] => 0

/-- The length of a run of digits with underscores between. -/
def digitsLength (isDigit : CodePoint → Bool) (t : Text) : Nat :=
  (t.takeWhile fun c => isDigit c || c.val == 95).length

/-- The length of a suffix of letters out of a given set. -/
def suffixLength (letters : List Char) (t : Text) : Nat :=
  (t.takeWhile fun c => letters.contains c.asciiLower.ascii).length

/-- The length of an exponent at the beginning of a text. -/
def exponentLength (t : Text) : Nat :=
  match t with
  | c :: rest =>
    if c.asciiLower.val = 101 then
      let sign := if rest.head?.any (fun d => d.val == 43 || d.val == 45) then 1 else 0
      let digits := digitsLength CodePoint.isAsciiDigit (rest.drop sign)
      if (rest.drop sign).head?.any CodePoint.isAsciiDigit then 1 + sign + digits else 0
    else 0
  | [] => 0

/-- The length of a number at the beginning of a text. -/
def numberLength (t : Text) : Nat :=
  let radix := (t.drop 1).head?.map CodePoint.asciiLower
  let prefixed (isDigit : CodePoint → Bool) : Nat :=
    let digits := digitsLength isDigit (t.drop 2)
    2 + digits + suffixLength ['u', 'l'] (t.drop (2 + digits))
  if t.head?.any (·.val == 48) && radix.any (·.val == 120) then prefixed CodePoint.isHexDigit
  else if t.head?.any (·.val == 48) && radix.any (·.val == 98) then
    prefixed fun c => c.val == 48 || c.val == 49
  else
    let whole := digitsLength CodePoint.isAsciiDigit t
    let after := t.drop whole
    let fraction :=
      match after with
      | dot :: d :: _ =>
        if dot.val = 46 && d.isAsciiDigit then
          1 + digitsLength CodePoint.isAsciiDigit (after.drop 1)
        else 0
      | _ => 0
    let exponent := exponentLength (after.drop fraction)
    let length := whole + fraction + exponent
    length + suffixLength ['u', 'l', 'f', 'd', 'm'] (t.drop length)

/-- The length of a regular string or character literal behind its opening quote, up to and with the
closing one. -/
def quotedLength? (quote : CodePoint) : Text → Option Nat
  | [] => none
  | c :: rest =>
    if c = quote then some 1
    else if c.val = 10 then none
    else if c.val = 92 then
      match rest with
      | _ :: rest' => (quotedLength? quote rest').map (· + 2)
      | [] => none
    else (quotedLength? quote rest).map (· + 1)

/-- The length of a verbatim string literal behind its opening quote. -/
def verbatimLength? : Text → Option Nat
  | [] => none
  | [c] => if c.val = 34 then some 1 else none
  | c :: d :: rest =>
    if c.val = 34 then if d.val = 34 then (verbatimLength? rest).map (· + 2) else some 1
    else (verbatimLength? (d :: rest)).map (· + 1)

/-- The number of times that a text begins with a character. -/
def runLength (c : CodePoint) (t : Text) : Nat :=
  (t.takeWhile (· == c)).length

/-- The length of a raw string literal behind its `quotes` opening quotes. -/
def rawLength? (quotes : Nat) : Text → Option Nat
  | [] => none
  | c :: rest =>
    if quotes ≤ runLength '"' (c :: rest) then some quotes
    else (rawLength? quotes rest).map (· + 1)

/-- The length of the suffix of a string literal. -/
def encodingLength : Text → Nat
  | c :: d :: _ => if c.asciiLower.val = 117 && d.val = 56 then 2 else 0
  | _ => 0

/-- The length of a string literal at the beginning of a text that begins with a quote, or with `@`
and a quote. -/
def stringLength? (t : Text) : Option Nat := do
  let body ←
    if t.head?.any (·.val == 64) then (verbatimLength? (t.drop 2)).map (· + 2)
    else
      let quotes := runLength '"' t
      if 3 ≤ quotes then (rawLength? quotes (t.drop quotes)).map (· + quotes)
      else (quotedLength? '"' (t.drop 1)).map (· + 1)
  return body + encodingLength (t.drop body)

/-- The length of a character literal at the beginning of a text: one character or escape. -/
def characterLength? (t : Text) : Option Nat :=
  match t.drop 1 with
  | c :: _ =>
    if c.val = 39 then none
    else
      match quotedLength? '\'' (t.drop 1) with
      | some n => if n = 2 || c.val = 92 then some (n + 1) else none
      | none => none
  | [] => none

/-- Operators and punctuation marks, longer ones before their beginnings.  A closing angle bracket
always stands alone, since two of them may close two lists of type arguments. -/
def signs : List String := [
  "??=", "<<=", "=>", "==", "!=", "&&", "||", "??", "++", "--", "->", "::", "..", "+=", "-=", "*=",
  "/=", "%=", "&=", "|=", "^=", "<<", "<=", "(", ")", "[", "]", "\x7b", "\x7d", ";", ",", ".", ":",
  "?", "<", ">", "=", "+", "-", "*", "/", "%", "&", "|", "^", "!", "~"]

/-- The sign at the beginning of a text. -/
def signAt? (t : Text) : Option String :=
  signs.find? fun s => (Text.ofString s).isPrefixOf t

/-! ## Interpolated strings -/

/-- How an interpolated string is written. -/
structure Interpolation where
  /-- The number of characters of its opening. -/
  opening : Nat
  /-- The number of braces that open a hole. -/
  braces : Nat
  /-- The number of quotes around it. -/
  quotes : Nat
  /-- Whether it is verbatim. -/
  verbatim : Bool

/-- The interpolated string that a text begins with, if it does. -/
def interpolationAt? (t : Text) : Option Interpolation :=
  let dollars := runLength '$' t
  let quotes := runLength '"' (t.drop dollars)
  if 0 < dollars && 3 ≤ quotes then some ⟨dollars + quotes, dollars, quotes, false⟩
  else if dollars = 1 && 0 < quotes then some ⟨2, 1, 1, false⟩
  else
    match t.map (·.val) with
    | 36 :: 64 :: 34 :: _ | 64 :: 36 :: 34 :: _ => some ⟨3, 1, 1, true⟩
    | _ => none

/-- What comes next inside an interpolated string. -/
inductive Content where
  /-- Some characters of text. -/
  | text (count : Nat)
  /-- A hole, which opens with some braces. -/
  | hole
  /-- The end of the string. -/
  | close
  /-- The string does not end. -/
  | broken

/-- What comes next inside an interpolated string of some kind. -/
def Interpolation.next (kind : Interpolation) (t : Text) : Content :=
  match t with
  | [] => .broken
  | c :: _ =>
    if c.val = 34 then
      let run := runLength '"' t
      if 3 ≤ kind.quotes then if kind.quotes ≤ run then .close else .text run
      else if kind.verbatim && 2 ≤ run then .text 2
      else .close
    else if c.val = 0x7B then
      let run := runLength c t
      if 3 ≤ kind.quotes then
        if run < kind.braces then .text run
        else if run = kind.braces then .hole
        else .text (run - kind.braces)
      else if 2 ≤ run then .text 2
      else .hole
    else if kind.quotes = 1 && !kind.verbatim then
      if c.val = 10 then .broken else if c.val = 92 then .text 2 else .text 1
    else .text 1

/-- The text of a hole that has been read so far decides where it ends: the brackets that are open,
and the conditionals that wait for their colon. -/
structure HoleDepth where
  /-- Brackets of any kind that are open. -/
  brackets : Nat := 0
  /-- Question marks outside of brackets without their colon. -/
  questions : Nat := 0

/-- The depth after a sign; `next` is what follows it. -/
def HoleDepth.after (depth : HoleDepth) (sign : String) (next : Text) : HoleDepth :=
  if ["(", "[", "\x7b"].contains sign then { depth with brackets := depth.brackets + 1 }
  else if [")", "]", "\x7d"].contains sign then { depth with brackets := depth.brackets - 1 }
  else if sign == "?" && depth.brackets = 0 &&
      !next.head?.any (fun c => c.val == 46 || c.val == 91) then
    { depth with questions := depth.questions + 1 }
  else if sign == ":" && depth.brackets = 0 then { depth with questions := depth.questions - 1 }
  else depth

/-! ## Cutting a text into tokens -/

/-- The directive behind `#` at the beginning of a text, and its length; a condition belongs to it. -/
def directiveAt? (t : Text) : Option (String × Nat) :=
  let (word, length) := directiveWord (t.drop 1)
  if word = ("if" : Text) then some ("if", lineLength t)
  else if word = ("elif" : Text) then some ("elif", lineLength t)
  else if word = ("else" : Text) then some ("else", length + 1)
  else if word = ("endif" : Text) then some ("endif", length + 1)
  else none

/-- The token at the beginning of a text that is neither blank nor an interpolated string, and its
length. -/
def simpleToken? (cursor : Cursor) : Option (Token × Nat) :=
  let t := cursor.rest
  match t with
  | [] => none
  | c :: rest =>
    let second := rest.head?.map (·.val)
    if c.val = 34 || (c.val = 64 && second = some 34) then
      (stringLength? t).map fun n => (.string (cursor.place n), n)
    else if c.val = 39 then
      (characterLength? t).map fun n => (.character (cursor.place n), n)
    else if c.val = 35 then
      (directiveAt? t).map fun (name, n) => (.directive (cursor.place n) name, n)
    else if c.isAsciiDigit || (c.val = 46 && rest.head?.any CodePoint.isAsciiDigit) then
      let n := numberLength t
      some (.number (cursor.place n), n)
    else
      match wordLength t with
      | 0 => (signAt? t).map fun s => (.sign (cursor.place s.length) s, s.length)
      | n => some (.word (cursor.place n) (t.take n), n)

mutual

/-- The tokens from a place on, which are added to those already read.  Inside a hole they go on to
the colon or brace that ends it, otherwise to the end of the text. -/
def tokensFrom (bound : Nat) (hole : Option HoleDepth) (cursor : Cursor) (read : List Token) :
    Option (List Token × Cursor) :=
  match bound with
  | 0 => none
  | bound + 1 =>
    match cursor.rest with
    | [] => if hole.isNone then some (read.reverse, cursor) else none
    | c :: _ =>
      match separatorLength? (cursor.position == 0) cursor.rest with
      | none => none
      | some (n + 1) => tokensFrom bound hole (cursor.advance (n + 1)) read
      | some 0 =>
        let ends : Bool :=
          match hole with
          | none => false
          | some depth =>
            depth.brackets = 0 &&
              (c.val == 0x7D || (c.val == 58 && depth.questions = 0 &&
                !(cursor.rest.drop 1).head?.any (·.val == 58)))
        if ends then some (read.reverse, cursor)
        else
          match interpolationAt? cursor.rest with
          | some kind =>
            match holesFrom bound kind (cursor.advance kind.opening) [] with
            | none => none
            | some (holes, after) =>
              tokensFrom bound hole after (.interpolated (cursor.placeTo after) holes :: read)
          | none =>
            match simpleToken? cursor with
            | none => none
            | some (token, n) =>
              let after := cursor.advance n
              let hole :=
                match hole, token with
                | some depth, .sign _ text => some (depth.after text after.rest)
                | hole, _ => hole
              tokensFrom bound hole after (token :: read)

/-- The holes of an interpolated string from a place inside it on, which are added to those already
read, and what follows the string. -/
def holesFrom (bound : Nat) (kind : Interpolation) (cursor : Cursor) (holes : List (List Token)) :
    Option (List (List Token) × Cursor) :=
  match bound with
  | 0 => none
  | bound + 1 =>
    match kind.next cursor.rest with
    | .broken => none
    | .close =>
      let after := cursor.advance kind.quotes
      some (holes.reverse, after.advance (encodingLength after.rest))
    | .text n => holesFrom bound kind (cursor.advance n) holes
    | .hole =>
      match tokensFrom bound (some {}) (cursor.advance kind.braces) [] with
      | none => none
      | some (tokens, after) =>
        let format := after.rest.takeWhile fun c => c.val != 0x7D && c.val != 34
        let closing := after.advance format.length
        if kind.braces ≤ runLength (.ofNat 0x7D) closing.rest then
          holesFrom bound kind (closing.advance kind.braces) (tokens :: holes)
        else none

end

/-- The tokens of a source text, if it can be cut into tokens. -/
def tokens (source : Text) : Option (List Token) :=
  (tokensFrom (2 * source.length + 2) none { rest := source } []).map (·.1)

end ClassHarvest.CSharp
