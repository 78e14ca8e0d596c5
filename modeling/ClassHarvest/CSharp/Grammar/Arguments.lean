import ClassHarvest.CSharp.Grammar.Names

/-!
# Arguments, parameters and attributes
-/

namespace ClassHarvest.CSharp.Grammar

/-! ## Arguments -/

/-- A variable that an argument declares. -/
def declaredVariable (rules : Rules) : Rule Phrase :=
  phrase .other do
    discard (rules (.type false))
    discard identifier
    demand (← sees (isSignOf [",", ")", "]"]))
    return []

/-- The form of an argument with a value of some shape. -/
def formOf : Shape → ArgumentForm
  | .string => .string
  | .literal => .literal
  | _ => .expression

/-- An argument and the nodes in it.  What counts is its value: a name and a word that passes it by
reference are left out.  The words for the instance itself do not count as values; there the name
counts, or else the argument as a whole. -/
def argument (rules : Rules) : Rule (ArgumentSpan × List Node) := do
  let (start, _) ← here
  let name ← attempt (identifier <* sign ":")
  discard (attempt (accept (isOneOf ["ref", "out", "in"])))
  let value ← declaredVariable rules <|> rules.expression
  let span ←
    if value.shape = .self then
      match name with
      | some name => pure name
      | none => spanFrom start
    else pure value.span
  return (⟨formOf value.shape, span⟩, value.nodes)

/-- Arguments between parentheses, and the nodes in them. -/
def arguments (rules : Rules) : Rule (List ArgumentSpan × List Node) := do
  sign "("
  let values ← (commaSeparated (argument rules) <|> pure [])
  sign ")"
  return (values.map (·.1), values.flatMap (·.2))

/-- Arguments between square brackets. -/
def indices (rules : Rules) : Rule (List Node) := do
  sign "["
  let values ← commaSeparated (argument rules)
  sign "]"
  return values.flatMap (·.2)

/-! ## Parameters -/

/-- A parameter; in a lambda expression its type may be left out. -/
def parameter (rules : Rules) (lambda : Bool) : Rule (List Node) := do
  let attributes ← rules.nodesOfMany .attributes
  if ← skipWord "__arglist" then return attributes
  discard (many (accept (isOneOf ["this", "ref", "out", "in", "params", "readonly"])))
  let typed : Rule Span := rules (.type false) *> identifier
  discard (if lambda then typed <|> identifier else typed)
  if ← skipSign "=" then return attributes ++ (← rules.value)
  else return attributes

/-- Parameters between an opening and a closing sign. -/
def parametersBetween (rules : Rules) (lambda : Bool) (opening closing : String) :
    Rule (List Node) := do
  sign opening
  let nodes ← (commaSeparated (parameter rules lambda) <|> pure [])
  sign closing
  return nodes.flatten

/-- Parameters between parentheses. -/
def parameters (rules : Rules) (lambda : Bool) : Rule (List Node) :=
  parametersBetween rules lambda "(" ")"

/-- A type parameter. -/
def typeParameter (rules : Rules) : Rule (List Node) := do
  let attributes ← rules.nodesOfMany .attributes
  discard (attempt (accept (isOneOf ["in", "out"])))
  discard identifier
  return attributes

/-- Type parameters between angle brackets. -/
def typeParameters (rules : Rules) : Rule (List Node) := do
  sign "<"
  let nodes ← commaSeparated (typeParameter rules)
  sign ">"
  return nodes.flatten

/-- A condition on a type parameter. -/
def constraint (rules : Rules) : Rule Unit := do
  if ← sees (isOneOf ["class", "struct"]) then
    discard next
    discard (skipSign "?")
  else if ← skipWord "new" then sign "(" *> sign ")"
  else if ← (seesWord "allows" <&&> seesAt 1 (Token.isWord "ref")) then
    word "allows" *> word "ref" *> word "struct"
  else if ← seesWord "default" then discard next
  else discard (rules (.type false))

/-- The conditions on a type parameter. -/
def constraints (rules : Rules) : Rule Unit := do
  word "where"
  discard identifier
  sign ":"
  discard (commaSeparated (constraint rules))

/-! ## Attributes -/

/-- An attribute: its arguments are expressions, but it is no invocation. -/
def attributeUse (rules : Rules) : Rule (List Node) := do
  qualifiedName rules true
  if ← seesSign "(" then return (← arguments rules).2
  else return []

/-- An attribute list, which may name its target. -/
def attributesPhrase (rules : Rules) : Rule Phrase :=
  phrase .other do
    sign "["
    discard (attempt (accept isAnyWord <* sign ":"))
    let nodes ← commaEnded (attributeUse rules)
    demand (!nodes.isEmpty)
    sign "]"
    return nodes.flatten

end ClassHarvest.CSharp.Grammar
