import ClassHarvest.Json.Value
import ClassHarvest.Number.Numeral
import ClassHarvest.Number.Shortest

/-!
# Writing JSON

A document is written in ASCII with one item or member on a line.  Lines are indented by two spaces for
each array or object around them, and the members of an object are in the order of their names.
-/

namespace ClassHarvest.Json

/-! ## Strings -/

/-- The escape of a number below `2 ^ 16`. -/
def unitEscape (n : Nat) : Text :=
  "\\u" ++ Text.hex 4 n

/-- The two surrogates that stand for a code point above `U+FFFF`. -/
def surrogates (c : CodePoint) : Nat × Nat :=
  (0xD800 + (c.val - 0x10000) / 0x400, 0xDC00 + (c.val - 0x10000) % 0x400)

/-- A code point as it stands inside a string. -/
def escaped (c : CodePoint) : Text :=
  match c.val with
  | 34 => "\\\""
  | 92 => "\\\\"
  | 8 => "\\b"
  | 9 => "\\t"
  | 10 => "\\n"
  | 12 => "\\f"
  | 13 => "\\r"
  | n =>
    if 32 ≤ n && n ≤ 126 then [c]
    else if n < 0x10000 then unitEscape n
    else unitEscape (surrogates c).1 ++ unitEscape (surrogates c).2

/-- A string in quotes. -/
def quoted (t : Text) : Text :=
  ('"' : CodePoint) :: t.flatMap escaped ++ [('"' : CodePoint)]

/-! ## Values -/

/-- The start of a line at a depth. -/
def lineStart (depth : Nat) : Text :=
  ('\n' : CodePoint) :: List.replicate (2 * depth) (' ' : CodePoint)

/-- Texts between brackets, each on a line of its own; nothing stands between brackets without
texts. -/
def enclose (opening closing : CodePoint) (depth : Nat) (texts : List Text) : Text :=
  if texts.isEmpty then [opening, closing]
  else
    opening :: lineStart (depth + 1) ++
      Text.join ((',' : CodePoint) :: lineStart (depth + 1)) texts ++ lineStart depth ++ [closing]

/-- A member of an object whose value is already written. -/
def memberText (member : Text × Text) : Text :=
  quoted member.1 ++ (": " : Text) ++ member.2

/-- The texts of the values of an object put together in the order of their names. -/
def encloseMembers (depth : Nat) (members : Dictionary Text) : Text :=
  enclose '\x7b' '\x7d' depth (members.sorted.map memberText)

mutual

/-- A value at a depth. -/
def Value.render (depth : Nat) : Value → Text
  | .null => "null"
  | .bool value => if value then "true" else "false"
  | .int value => Text.ofInt value
  | .float value => value.text "Infinity" "NaN"
  | .string value => quoted value
  | .array items => enclose '[' ']' depth (renderItems (depth + 1) items)
  | .object members => encloseMembers depth (renderMembers (depth + 1) members)

/-- The items of an array. -/
def renderItems (depth : Nat) : List Value → List Text
  | [] => []
  | item :: rest => item.render depth :: renderItems depth rest

/-- The members of an object. -/
def renderMembers (depth : Nat) : List (Text × Value) → Dictionary Text
  | [] => []
  | (name, value) :: rest => (name, value.render depth) :: renderMembers depth rest

end

/-- The document that holds a value. -/
def write (value : Value) : Text :=
  value.render 0

mutual

/-- Whether no whole number in a value has too many digits to be written. -/
def Value.isWritable : Value → Bool
  | .int value => (Numeral.write? value).isSome
  | .array items => areWritable items
  | .object members => areWritableMembers members
  | _ => true

/-- Whether no whole number in some items has too many digits. -/
def areWritable : List Value → Bool
  | [] => true
  | item :: rest => item.isWritable && areWritable rest

/-- Whether no whole number in the values of some members has too many digits. -/
def areWritableMembers : List (Text × Value) → Bool
  | [] => true
  | (_, value) :: rest => value.isWritable && areWritableMembers rest

end

end ClassHarvest.Json
