import ClassHarvest.Yaml.Cursor
import ClassHarvest.Yaml.Timestamp

/-!
# Tags

A tag says what kind of value a node stands for.  A plain scalar without a tag has one by its form.
-/

namespace ClassHarvest.Yaml

/-- The kind of value that a node stands for. -/
inductive Tag where
  /-- Nothing. -/
  | null
  /-- A truth value. -/
  | bool
  /-- A whole number. -/
  | int
  /-- A number with a point. -/
  | float
  /-- Bytes. -/
  | binary
  /-- A date, or a date and time. -/
  | timestamp
  /-- A text. -/
  | str
  /-- A sequence. -/
  | seq
  /-- A mapping. -/
  | map
  /-- A set. -/
  | set
  /-- Pairs in order, each with its own key. -/
  | omap
  /-- Pairs in order. -/
  | pairs
  /-- The key under which the entries of other mappings are taken over. -/
  | merge
  /-- The key of the value that a mapping stands for as a scalar. -/
  | value
  /-- Any other kind. -/
  | other
deriving DecidableEq, Repr

namespace Tag

/-- The beginning of the tags of the format itself. -/
def coreStart : Text := "tag:yaml.org,2002:"

/-- The tags of the format itself, by what follows their beginning. -/
def coreTags : List (Text × Tag) := [
  ("null", .null), ("bool", .bool), ("int", .int), ("float", .float), ("binary", .binary),
  ("timestamp", .timestamp), ("str", .str), ("seq", .seq), ("map", .map), ("set", .set),
  ("omap", .omap), ("pairs", .pairs), ("merge", .merge), ("value", .value)]

/-- The tag with a text. -/
def ofText (t : Text) : Tag :=
  ((coreTags.find? fun (name, _) => t = coreStart ++ name).map (·.2)).getD .other

/-! ## The forms of plain scalars -/

/-- A digit or an underscore. -/
def isDigitOrUnderscore (c : CodePoint) : Bool :=
  c.isAsciiDigit || c.val = 95

/-- A text without the sign that it begins with. -/
def withoutSign (t : Text) : Text :=
  match t with
  | c :: rest => if c.val = 43 || c.val = 45 then rest else t
  | [] => []

/-- A text that is not empty and consists of characters that satisfy a test. -/
def isRun (p : CodePoint → Bool) (t : Text) : Bool :=
  !t.isEmpty && t.all p

/-- Digits with underscores, the first character a digit. -/
def isDigits (t : Text) : Bool :=
  t.head?.any CodePoint.isAsciiDigit && t.all isDigitOrUnderscore

/-- A part of a number to the base sixty: one digit, or two below `60`. -/
def isSixtieth : Text → Bool
  | [c] => c.isAsciiDigit
  | [c, d] => 48 ≤ c.val && c.val ≤ 53 && d.isAsciiDigit
  | _ => false

/-- The form of a whole number. -/
def isInt (t : Text) : Bool :=
  let body := withoutSign t
  match body with
  | [] => false
  | c :: rest =>
    if c.val = 48 then
      rest.isEmpty || isRun (fun d => d.isOctalDigit || d.val = 95) rest ||
        (rest.head?.any (·.val = 98) && isRun (isOneOf "01_") (rest.drop 1)) ||
        (rest.head?.any (·.val = 120) && isRun (fun d => d.isHexDigit || d.val = 95) (rest.drop 1))
    else
      match Text.splitOn (':' : CodePoint) body with
      | first :: more => isDigits first && more.all isSixtieth
      | [] => false

/-- Nothing, or an exponent with its sign. -/
def isExponent : Text → Bool
  | [] => true
  | c :: d :: rest => isOneOf "eE" c && isOneOf "+-" d && isRun CodePoint.isAsciiDigit rest
  | _ => false

/-- The form of a number with a point. -/
def isFloat (t : Text) : Bool :=
  let body := withoutSign t
  let whole := body.takeWhile fun c => c.val ≠ 46
  match body.dropWhile fun c => c.val ≠ 46 with
  | [] => false
  | _ :: after =>
    let fraction := after.takeWhile isDigitOrUnderscore
    let rest := after.drop fraction.length
    let unsigned := body.length = t.length
    if whole.isEmpty then
      (unsigned && isDigits fraction && isExponent rest) ||
        (["inf", "Inf", "INF"].map Text.ofString).contains after ||
        (unsigned && (["nan", "NaN", "NAN"].map Text.ofString).contains after)
    else
      match Text.splitOn (':' : CodePoint) whole with
      | [first] => isDigits first && isExponent rest
      | first :: more => isDigits first && more.all isSixtieth && rest.isEmpty
      | [] => false

/-- The words for truth values. -/
def truthWords : List Text := [
  "yes", "Yes", "YES", "no", "No", "NO", "true", "True", "TRUE", "false", "False", "FALSE",
  "on", "On", "ON", "off", "Off", "OFF"]

/-- The words for nothing. -/
def nullWords : List Text := ["~", "null", "Null", "NULL", ""]

/-- The form of a date, or of a date and time. -/
def isTimestamp (t : Text) : Bool :=
  (TimeParts.ofText? t).any TimeParts.isFull

/-- A text without the line break at its end, if something stands before that. -/
def withoutLastBreak (t : Text) : Text :=
  if t.getLast?.any (·.val = 10) && 1 < t.length then t.dropLast else t

/-- The tag of a scalar by its form; one line break behind that does not matter. -/
def ofForm (written : Text) : Tag :=
  let t := withoutLastBreak written
  if truthWords.contains t then .bool
  else if isFloat t then .float
  else if isInt t then .int
  else if t = ("<<" : Text) then .merge
  else if nullWords.contains t then .null
  else if isTimestamp t then .timestamp
  else if t = ("=" : Text) then .value
  else .str

end Tag
end ClassHarvest.Yaml
