import ClassHarvest.Json.Value
import ClassHarvest.Number.Numeral

/-!
# Reading JSON

A document is one value with white space around it.  Strings hold no control characters, and two
escapes for the halves of a UTF-16 pair make one character.  `NaN` and `Infinity` are admitted as
numbers.  Of several members of an object with the same name the last counts.
-/

namespace ClassHarvest.Json

/-! ## Faults -/

/-- What may be wrong at a place of a document. -/
inductive Flaw where
  /-- The document begins with a byte order mark. -/
  | byteOrderMark
  /-- There is no value. -/
  | noValue
  /-- There is no name of a member. -/
  | noName
  /-- There is no colon after a name. -/
  | noColon
  /-- There is neither a comma nor a closing bracket. -/
  | noComma
  /-- Something follows the value. -/
  | extra
  /-- A string does not end. -/
  | openString
  /-- A string holds a control character. -/
  | control
  /-- A backslash is followed by a character that is no escape. -/
  | escape
  /-- An escape for a UTF-16 unit lacks digits. -/
  | unitEscape
deriving DecidableEq, Repr

/-- The wording of a flaw. -/
def Flaw.message : Flaw → Text
  | .byteOrderMark => "Unexpected UTF-8 BOM (decode using utf-8-sig)"
  | .noValue => "Expecting value"
  | .noName => "Expecting property name enclosed in double quotes"
  | .noColon => "Expecting ':' delimiter"
  | .noComma => "Expecting ',' delimiter"
  | .extra => "Extra data"
  | .openString => "Unterminated string starting at"
  | .control => "Invalid control character at"
  | .escape => "Invalid \\escape: "
  | .unitEscape => "Invalid \\uXXXX escape"

/-- Why a document is refused while it is read; a place is the text from there on. -/
inductive Fault where
  /-- There is a flaw at a place. -/
  | flawed (flaw : Flaw) (place : Text)
  /-- A whole number has too many digits. -/
  | tooManyDigits (digits : Nat)
deriving DecidableEq, Repr

/-- Why a document is refused. -/
inductive ReadError where
  /-- There is a flaw behind some text. -/
  | flawed (flaw : Flaw) (before : Text)
  /-- A whole number has too many digits. -/
  | tooManyDigits (digits : Nat)
deriving DecidableEq, Repr

/-- The wording of a refusal.  Lines and columns are counted from one. -/
def ReadError.message : ReadError → Text
  | .flawed flaw before =>
    let line := before.count ('\n' : CodePoint) + 1
    let column := (before.afterLast '\n').length + 1
    flaw.message ++ ": line " ++ Text.ofNat line ++ " column " ++ Text.ofNat column ++ " (char " ++
      Text.ofNat before.length ++ ")"
  | .tooManyDigits digits => Numeral.readMessage digits

/-- What is read at the beginning of a text, and the rest of the text. -/
abbrev Reading (α : Type) := Except Fault (α × Text)

/-! ## Strings -/

/-- The characters that may stand between values. -/
def isBlank (c : CodePoint) : Bool :=
  c.val = 32 || c.val = 9 || c.val = 10 || c.val = 13

/-- A text without the white space that it begins with. -/
def skipBlank (t : Text) : Text :=
  t.dropWhile isBlank

/-- The character that a backslash and another character stand for. -/
def simpleEscape? (c : CodePoint) : Option CodePoint :=
  match c.ascii with
  | '"' | '\\' | '/' => some c
  | 'b' => some (.ofNat 8)
  | 'f' => some (.ofNat 12)
  | 'n' => some (.ofNat 10)
  | 'r' => some (.ofNat 13)
  | 't' => some (.ofNat 9)
  | _ => none

/-- The unit whose four digits a text begins with; something must follow them. -/
def unit? : Text → Option (CodePoint × Text)
  | a :: b :: c :: d :: next :: rest =>
    if [a, b, c, d].all CodePoint.isHexDigit then
      some (.ofNat (Text.hexValue [a, b, c, d]), next :: rest)
    else none
  | _ => none

/-- The characters of a string up to its closing quote, escapes for UTF-16 units one by one.  `start`
is the text from the opening quote on. -/
def readUnits (start : Text) : Nat → Text → Reading Text
  | 0, _ | _, [] => .error (.flawed .openString start)
  | bound + 1, c :: rest =>
    let further (d : CodePoint) (rest : Text) : Reading Text :=
      (readUnits start bound rest).map fun (t, rest) => (d :: t, rest)
    if c.val = 34 then .ok ([], rest)
    else if c.val < 32 then .error (.flawed .control (c :: rest))
    else if c.val = 92 then
      match rest with
      | [] => .error (.flawed .openString start)
      | e :: after =>
        if e.val = 117 then
          match unit? after with
          | some (d, rest) => further d rest
          | none => .error (.flawed .unitEscape rest)
        else
          match simpleEscape? e with
          | some d => further d after
          | none => .error (.flawed .escape (c :: rest))
    else further c rest

/-- A text in which the two halves of a UTF-16 pair have become one character. -/
def joinSurrogates : Text → Text
  | c :: d :: rest =>
    if c.isHighSurrogate && d.isLowSurrogate then .ofSurrogates c d :: joinSurrogates rest
    else c :: joinSurrogates (d :: rest)
  | t => t

/-- The string whose opening quote a text begins with. -/
def readString (t : Text) : Reading Text :=
  (readUnits t t.length (t.drop 1)).map fun (t, rest) => (joinSurrogates t, rest)

/-! ## Numbers -/

/-- A sequence of digits at the beginning of a text. -/
def digits (t : Text) : Text × Text :=
  t.span CodePoint.isAsciiDigit

/-- The digits before the point; a zero stands alone. -/
def wholeDigits? (t : Text) : Option (Text × Text) :=
  match t with
  | [] => none
  | c :: rest =>
    if c.val = 48 then some ([c], rest)
    else if c.isAsciiDigit then some (digits t)
    else none

/-- The digits after a point, if there is one with digits. -/
def fraction? (t : Text) : Option (Text × Text) :=
  match t with
  | c :: rest =>
    if c.val = 46 && rest.head?.any CodePoint.isAsciiDigit then some (digits rest) else none
  | [] => none

/-- An exponent, if there is one with digits. -/
def exponent? (t : Text) : Option (Int × Text) :=
  match t with
  | c :: rest =>
    if c.asciiLower.val = 101 then
      let (negative, rest) := match rest with
        | d :: after =>
          if d.val = 45 then (true, after) else if d.val = 43 then (false, after) else (false, rest)
        | [] => (false, rest)
      let (ds, rest) := digits rest
      if ds.isEmpty then none
      else some (if negative then -(Text.decimalValue ds : Int) else Text.decimalValue ds, rest)
    else none
  | [] => none

/-- A number without its sign; `place` is the text from its beginning on. -/
def readNumber (place : Text) (negative : Bool) (t : Text) : Reading Value :=
  match wholeDigits? t with
  | none => .error (.flawed .noValue place)
  | some (whole, rest) =>
    let fraction := fraction? rest
    let rest := (fraction.map (·.2)).getD rest
    let exponent := exponent? rest
    let rest := (exponent.map (·.2)).getD rest
    if fraction.isNone && exponent.isNone then
      if Numeral.maxDigits < whole.length then .error (.tooManyDigits whole.length)
      else
        let n : Int := Text.decimalValue whole
        .ok (.int (if negative then -n else n), rest)
    else
      let more := (fraction.map (·.1)).getD []
      let power := (exponent.map (·.1)).getD 0 - more.length
      .ok (.float (.ofDecimal negative (Text.decimalValue (whole ++ more)) power), rest)

/-! ## Values -/

/-- The words that stand for values. -/
def words : List (Text × Value) := [
  ("null", .null), ("true", .bool true), ("false", .bool false), ("NaN", .float .nan),
  ("Infinity", .float (.infinite false)), ("-Infinity", .float (.infinite true))]

/-- The value of the word that a text begins with. -/
def word? (t : Text) : Option (Value × Text) :=
  words.findSome? fun (word, value) =>
    if word.isPrefixOf t then some (value, t.drop word.length) else none

/-- A value that is neither an array nor an object. -/
def readScalar (t : Text) : Reading Value :=
  match t with
  | [] => .error (.flawed .noValue t)
  | c :: rest =>
    if c.val = 34 then (readString t).map fun (s, rest) => (.string s, rest)
    else
      match word? t with
      | some found => .ok found
      | none => if c.val = 45 then readNumber t true rest else readNumber t false t

/-- The name of a member with the colon behind it. -/
def readName (t : Text) : Except Fault (Text × Text) :=
  if t.head?.any (·.val = 34) then do
    let (name, rest) ← readString t
    match skipBlank rest with
    | c :: after =>
      if c.val = 58 then return (name, skipBlank after) else throw (.flawed .noColon (c :: after))
    | [] => throw (.flawed .noColon [])
  else .error (.flawed .noName t)

mutual

/-- A value at the beginning of a text that is shorter than the bound. -/
def readValue : Nat → Text → Except Fault (Value × Text)
  | 0, t => .error (.flawed .noValue t)
  | bound + 1, t =>
    match t with
    | [] => .error (.flawed .noValue t)
    | c :: rest =>
      if c.val = 91 then
        match skipBlank rest with
        | d :: after =>
          if d.val = 93 then .ok (.array [], after)
          else (readItems bound (d :: after)).map fun (items, rest) => (.array items, rest)
        | [] => .error (.flawed .noValue [])
      else if c.val = 123 then
        match skipBlank rest with
        | d :: after =>
          if d.val = 125 then .ok (.object [], after)
          else (readMembers bound (d :: after)).map fun (members, rest) =>
            (.object (Dictionary.ofPairs members), rest)
        | [] => .error (.flawed .noName [])
      else readScalar t

/-- The items of an array and its closing bracket. -/
def readItems : Nat → Text → Except Fault (List Value × Text)
  | 0, t => .error (.flawed .noValue t)
  | bound + 1, t => do
    let (item, rest) ← readValue bound t
    match skipBlank rest with
    | c :: after =>
      if c.val = 93 then return ([item], after)
      else if c.val = 44 then
        let (items, rest) ← readItems bound (skipBlank after)
        return (item :: items, rest)
      else throw (.flawed .noComma (c :: after))
    | [] => throw (.flawed .noComma [])

/-- The members of an object and its closing bracket. -/
def readMembers : Nat → Text → Except Fault (List (Text × Value) × Text)
  | 0, t => .error (.flawed .noName t)
  | bound + 1, t => do
    let (name, rest) ← readName t
    let (value, rest) ← readValue bound rest
    match skipBlank rest with
    | c :: after =>
      if c.val = 125 then return ([(name, value)], after)
      else if c.val = 44 then
        let (members, rest) ← readMembers bound (skipBlank after)
        return ((name, value) :: members, rest)
      else throw (.flawed .noComma (c :: after))
    | [] => throw (.flawed .noComma [])

end

/-- The value of a document. -/
def readDocument (t : Text) : Except Fault Value := do
  if t.head?.any (·.val = 0xFEFF) then throw (.flawed .byteOrderMark t)
  let (value, rest) ← readValue (2 * t.length + 2) (skipBlank t)
  match skipBlank rest with
  | [] => return value
  | place => throw (.flawed .extra place)

/-- The value of a document, or why it is refused. -/
def read (t : Text) : Except ReadError Value :=
  (readDocument t).mapError fun fault =>
    match fault with
    | .flawed flaw place => .flawed flaw (t.take (t.length - place.length))
    | .tooManyDigits digits => .tooManyDigits digits

end ClassHarvest.Json
