import ClassHarvest.CSharp.Grammar.Phrase

/-!
# Names and types

A name is an identifier, which may have type arguments and be qualified.  A type is a name, a
keyword, a tuple or a function pointer, with marks for nullable types, pointers and arrays.
-/

namespace ClassHarvest.CSharp.Grammar

/-! ## Identifiers -/

/-- The keywords that name a type. -/
def typeKeywords : List Text := [
  "bool", "byte", "char", "decimal", "double", "float", "int", "long", "object", "sbyte", "short",
  "string", "uint", "ulong", "ushort", "void"]

/-- The words that are never identifiers. -/
def keywords : List Text := typeKeywords ++ ([
  "abstract", "as", "base", "break", "case", "catch", "checked", "class", "const", "continue",
  "default", "delegate", "do", "else", "enum", "event", "explicit", "extern", "false", "finally",
  "fixed", "for", "foreach", "goto", "if", "implicit", "in", "interface", "internal", "is", "lock",
  "namespace", "new", "null", "operator", "out", "override", "params", "private", "protected",
  "public", "readonly", "ref", "return", "sealed", "sizeof", "stackalloc", "static", "struct",
  "switch", "this", "throw", "true", "try", "typeof", "unchecked", "unsafe", "using", "virtual",
  "volatile", "while"] : List String).map Text.ofString

/-- Whether a token is an identifier. -/
def isIdentifier : Token → Bool
  | .word _ text => !keywords.contains text
  | _ => false

/-- Whether a token is a word of any kind. -/
def isAnyWord : Token → Bool
  | .word .. => true
  | _ => false

/-- Whether a token is one of some words. -/
def isOneOf (texts : List Text) : Token → Bool
  | .word _ text => texts.contains text
  | _ => false

/-- Whether a token is one of some signs. -/
def isSignOf (texts : List String) : Token → Bool
  | .sign _ text => texts.contains text
  | _ => false

/-- Read an identifier. -/
def identifier : Rule Span := do
  let token ← accept isIdentifier
  return ⟨token.place.start, token.place.stop⟩

/-! ## Names -/

/-- Type arguments between angle brackets, or commas alone. -/
def typeArguments (rules : Rules) (value : Bool) : Rule Unit := do
  sign "<"
  if ← (seesSign "," <||> seesSign ">") then discard (many (sign ","))
  else discard (commaSeparated (rules (.type value)))
  sign ">"

/-- An identifier with or without type arguments. -/
def simpleName (rules : Rules) (value : Bool) : Rule Unit := do
  discard identifier
  discard (attempt (typeArguments rules value))

/-- A name that may be qualified. -/
def qualifiedName (rules : Rules) (value : Bool) : Rule Unit := do
  if ← seesAt 1 (Token.isSign "::") then
    discard identifier
    sign "::"
  simpleName rules value
  discard (many (sign "." *> simpleName rules value))

/-! ## Types -/

/-- A part of a tuple type. -/
def tuplePart (rules : Rules) (value : Bool) : Rule Unit := do
  discard (rules (.type value))
  discard (attempt identifier)

/-- A tuple type. -/
def tupleType (rules : Rules) (value : Bool) : Rule Unit := do
  sign "("
  let parts ← commaSeparated (tuplePart rules value)
  demand (2 ≤ parts.length)
  sign ")"

/-- A function pointer type. -/
def functionPointer (rules : Rules) : Rule Unit := do
  word "delegate"
  sign "*"
  unless ← skipWord "managed" do
    if ← skipWord "unmanaged" then
      discard (attempt (sign "[" *> commaSeparated identifier <* sign "]"))
  sign "<"
  discard (commaSeparated do
    discard (many (accept (isOneOf ["ref", "out", "in", "readonly"])))
    rules (.type false))
  sign ">"

/-- Whether the next word only modifies the type behind it. -/
def seesScoped : Rule Bool := do
  return (← seesWord "scoped") && ((← seesAt 1 (Token.isWord "ref")) ||
    ((← seesAt 1 isAnyWord) && (← seesAt 2 fun t => isAnyWord t || t.isSign "<")))

/-- A type without the marks at its end. -/
def plainType (rules : Rules) (value : Bool) : Rule Unit := do
  if ← seesScoped then
    discard next
    discard (rules (.type value))
  else if ← skipWord "ref" then
    discard (skipWord "readonly")
    discard (rules (.type value))
  else if ← seesWord "delegate" then functionPointer rules
  else if ← seesSign "(" then tupleType rules value
  else if ← sees (isOneOf typeKeywords) then discard next
  else qualifiedName rules value

/-- Signs that cannot begin an expression, so that a question mark before one of them belongs to a
type. -/
def endsOperand : Token → Bool :=
  isSignOf [")", "]", "\x7d", ",", ";", ">", "=", "==", "!=", "&&", "||", "?", "??", ":", "=>"]

/-- A mark at the end of a type: nullable, pointer or array. -/
def typeMark (value : Bool) : Rule Unit := do
  if ← seesSign "?" then
    discard next
    let array := (← seesSign "[") && (← seesAt 1 (isSignOf ["]", ","]))
    demand (!value || array || (← peek).isNone || (← sees endsOperand))
  else if ← seesSign "*" then
    discard next
    demand (!value || (← sees (isSignOf [")", "]", ",", ">", "*", "["])))
  else
    sign "["
    discard (many (sign ","))
    sign "]"

/-- A type. -/
def typePhrase (rules : Rules) (value : Bool) : Rule Phrase :=
  phrase .other do
    plainType rules value
    discard (many (typeMark value))
    return []

end ClassHarvest.CSharp.Grammar
