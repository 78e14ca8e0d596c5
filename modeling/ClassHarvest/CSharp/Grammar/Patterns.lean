import ClassHarvest.CSharp.Grammar.Arguments

/-!
# Patterns

A pattern tests a value: by its type, by a constant, by its parts or by a combination of those.
-/

namespace ClassHarvest.CSharp.Grammar

/-- Words that go on with a pattern and so do not name a variable. -/
def patternWords : List Text := ["and", "or", "when", "not"]

/-- A variable that a pattern binds. -/
def patternVariable : Rule Unit :=
  discard (accept fun token => isIdentifier token && !isOneOf patternWords token)

/-- The variables that a pattern with `var` binds. -/
def designation : List Token → Rule Unit
  | [] => failure
  | _ :: bound => do
    if ← skipSign "(" then
      discard (commaSeparated (designation bound))
      sign ")"
    else discard identifier

/-- The property that a part of a pattern tests, in front of a colon. -/
def testedProperty : Rule Unit := do
  discard identifier
  discard (many (sign "." *> identifier))
  sign ":"

/-- A part of a pattern: a pattern, which may say what it tests. -/
def subpattern (rules : Rules) : Rule (List Node) := do
  discard (attempt testedProperty)
  rules.nodes .pattern

/-- Parts of a pattern between two signs; a comma may follow the last. -/
def subpatterns (rules : Rules) (opening closing : String) : Rule (List Node) := do
  sign opening
  let parts ← commaEnded (subpattern rules)
  sign closing
  return parts.flatten

/-- Parts by position, parts by property and a variable, of which something must be there. -/
def recursivePattern (rules : Rules) : Rule (List Node) := do
  let before ← lastStop
  let positions ← (subpatterns rules "(" ")" <|> pure [])
  let properties ← (subpatterns rules "\x7b" "\x7d" <|> pure [])
  discard (attempt patternVariable)
  demand ((← lastStop) ≠ before)
  return positions ++ properties

/-- A constant. -/
def constantPattern (rules : Rules) : Rule (List Node) :=
  rules.nodes (.expression 11 false)

/-- A pattern without combinations. -/
def simplePattern (rules : Rules) : Rule (List Node) := do
  if ← (seesWord "var" <&&> seesAt 1 fun t => isIdentifier t || t.isSign "(") then
    discard next
    designation (← get).rest
    return []
  else if ← sees (isSignOf ["<", ">"]) then
    discard next
    discard (skipSign "=")
    constantPattern rules
  else if ← skipSign "<=" then constantPattern rules
  else if ← skipSign ".." then rules.nodes .pattern <|> pure []
  else if ← seesSign "[" then
    let nodes ← subpatterns rules "[" "]"
    discard (attempt patternVariable)
    return nodes
  else
    furthest [
      sign "(" *> rules.nodes .pattern <* sign ")",
      recursivePattern rules,
      rules (.type true) *> recursivePattern rules,
      constantPattern rules,
      rules.nodes (.type true)]

/-- A pattern that may be negated. -/
def negatedPattern (rules : Rules) : Rule (List Node) := do
  if ← (seesWord "not" <&&> seesAt 1 fun t => !t.isSign "=>" && !t.isSign ":") then
    discard (many (word "not"))
  simplePattern rules

/-- A pattern. -/
def patternPhrase (rules : Rules) : Rule Phrase :=
  phrase .other do
    let first ← negatedPattern rules
    let more ← many (accept (isOneOf ["and", "or"]) *> negatedPattern rules)
    return first ++ more.flatten

end ClassHarvest.CSharp.Grammar
