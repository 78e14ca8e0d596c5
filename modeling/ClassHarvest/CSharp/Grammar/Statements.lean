import ClassHarvest.CSharp.Grammar.Expressions

/-!
# Statements
-/

namespace ClassHarvest.CSharp.Grammar

/-! ## Variables and local functions -/

/-- Variables bound together, in parentheses. -/
def variableTuple : List Token → Rule Unit
  | [] => failure
  | _ :: bound => do
    sign "("
    discard (commaSeparated (discard identifier <|> variableTuple bound))
    sign ")"

/-- A variable, with its size in brackets or not, and its value or not. -/
def declarator (rules : Rules) : Rule (List Node) := do
  discard identifier
  let size ← if ← seesSign "[" then indices rules else pure []
  if ← skipSign "=" then return size ++ (← rules.value)
  else return size

/-- Variables that take a value apart. -/
def deconstruction (rules : Rules) : Rule (List Node) := do
  word "var"
  variableTuple (← get).rest
  sign "="
  rules.value

/-- Variables of one type. -/
def variableList (rules : Rules) : Rule (List Node) := do
  if ← (seesWord "var" <&&> seesAt 1 (Token.isSign "(")) then deconstruction rules
  else
    discard (rules (.type false))
    return (← commaSeparated (declarator rules)).flatten

/-- A body: a block, an expression behind an arrow, or none. -/
def body (rules : Rules) : Rule (List Node) := do
  if ← skipSign "=>" then rules.value <* sign ";"
  else if ← skipSign ";" then return []
  else rules.nodes .block

/-- Words that modify a declaration. -/
def modifierWords : List Text := [
  "abstract", "async", "const", "extern", "file", "fixed", "internal", "new", "override", "partial",
  "private", "protected", "public", "readonly", "required", "sealed", "static", "unsafe", "virtual",
  "volatile"]

/-- The modifiers that are not keywords. -/
def contextualModifiers : List Text := ["async", "file", "partial", "required"]

/-- A modifier in front of a declaration. -/
def modifier : Rule Span := do
  let token ← accept (isOneOf modifierWords)
  if isOneOf contextualModifiers token then
    demand (← sees fun t => isAnyWord t || t.isSign "(")
  return ⟨token.place.start, token.place.stop⟩

/-- A function inside a body. -/
def localFunction (rules : Rules) : Rule (List Node) := do
  let attributes ← rules.nodesOfMany .attributes
  discard (many modifier)
  discard (rules (.type false))
  discard identifier
  let types ← if ← seesSign "<" then typeParameters rules else pure []
  let parameters ← parameters rules false
  discard (many (constraints rules))
  return attributes ++ types ++ parameters ++ (← body rules)

/-- A declaration of variables. -/
def localVariables (rules : Rules) : Rule (List Node) := do
  let attributes ← rules.nodesOfMany .attributes
  if ← (seesWord "await" <&&> seesAt 1 (Token.isWord "using")) then skip 2
  else discard (skipWord "using")
  discard (many modifier)
  let nodes ← variableList rules
  sign ";"
  return attributes ++ nodes

/-! ## Statements with a keyword -/

/-- A value in parentheses. -/
def condition (rules : Rules) : Rule (List Node) :=
  sign "(" *> rules.value <* sign ")"

/-- A conditional statement. -/
def ifStatement (rules : Rules) : Rule (List Node) := do
  word "if"
  let test ← condition rules
  let first ← rules.nodes .statement
  if ← skipWord "else" then return test ++ first ++ (← rules.nodes .statement)
  else return test ++ first

/-- A loop that counts. -/
def forStatement (rules : Rules) : Rule (List Node) := do
  word "for"
  sign "("
  let list : Rule (List Node) := do
    return (← (commaSeparated rules.value <|> pure [])).flatten
  let start ← (variableList rules <* sign ";") <|> (list <* sign ";")
  let test ← (rules.value <|> pure []) <* sign ";"
  let step ← list <* sign ")"
  return start ++ test ++ step ++ (← rules.nodes .statement)

/-- What a loop over a collection binds. -/
def loopVariable (rules : Rules) : Rule (List Node) :=
  let tuple : Rule Unit := do
    word "var"
    variableTuple (← get).rest
  ((tuple <|> discard (rules (.type false) *> identifier)) *> word "in" *> pure []) <|>
    (rules.nodes (.expression 12 false) <* word "in")

/-- A loop over a collection. -/
def foreachStatement (rules : Rules) : Rule (List Node) := do
  discard (skipWord "await")
  word "foreach"
  sign "("
  let left ← loopVariable rules
  let source ← rules.value
  sign ")"
  return left ++ source ++ (← rules.nodes .statement)

/-- A loop that tests at its end. -/
def doStatement (rules : Rules) : Rule (List Node) := do
  word "do"
  let inner ← rules.nodes .statement
  word "while"
  let test ← condition rules
  sign ";"
  return inner ++ test

/-- A label in a switch statement. -/
def switchLabel (rules : Rules) : Rule (List Node) := do
  if ← skipWord "default" then
    sign ":"
    return []
  else
    word "case"
    let pattern ← rules.nodes .pattern
    let guard ← if ← skipWord "when" then rules.value else pure []
    sign ":"
    return pattern ++ guard

/-- A section of a switch statement. -/
def switchSection (rules : Rules) : Rule (List Node) := do
  let first ← switchLabel rules
  let labels ← many (switchLabel rules)
  return first ++ labels.flatten ++ (← rules.nodesOfMany .statement)

/-- A switch statement. -/
def switchStatement (rules : Rules) : Rule (List Node) := do
  word "switch"
  let subject ← (parenthesized rules)
  sign "\x7b"
  let sections ← many (switchSection rules)
  sign "\x7d"
  return subject.nodes ++ sections.flatten

/-- What a handler catches, in parentheses. -/
def caught (rules : Rules) : Rule Unit := do
  sign "("
  discard (rules (.type false))
  discard (attempt identifier)
  sign ")"

/-- A handler. -/
def catchClause (rules : Rules) : Rule (List Node) := do
  word "catch"
  if ← seesSign "(" then caught rules
  let filter ← if ← skipWord "when" then condition rules else pure []
  return filter ++ (← rules.nodes .block)

/-- A statement with handlers. -/
def tryStatement (rules : Rules) : Rule (List Node) := do
  word "try"
  let inner ← rules.nodes .block
  let handlers ← many (catchClause rules)
  let last ← if ← skipWord "finally" then rules.nodes .block else pure []
  return inner ++ handlers.flatten ++ last

/-- A statement that holds a resource. -/
def usingStatement (rules : Rules) : Rule (List Node) := do
  discard (skipWord "await")
  word "using"
  sign "("
  let held ← (variableList rules <* sign ")") <|> (rules.value <* sign ")")
  return held ++ (← rules.nodes .statement)

/-- A statement that pins a variable. -/
def fixedStatement (rules : Rules) : Rule (List Node) := do
  word "fixed"
  sign "("
  let held ← variableList rules
  sign ")"
  return held ++ (← rules.nodes .statement)

/-- A jump to a label. -/
def gotoStatement (rules : Rules) : Rule (List Node) := do
  word "goto"
  let target ←
    if ← skipWord "case" then rules.value
    else if ← skipWord "default" then pure []
    else identifier *> pure []
  sign ";"
  return target

/-- A keyword with a value or none, up to the semicolon. -/
def keywordStatement (rules : Rules) : Rule (List Node) := do
  discard next
  (rules.value <|> pure []) <* sign ";"

/-- A statement that gives an element of a sequence, or its end. -/
def yieldStatement (rules : Rules) : Rule (List Node) := do
  word "yield"
  if ← skipWord "break" then sign ";" *> pure []
  else word "return" *> rules.value <* sign ";"

/-- An expression as a statement. -/
def expressionStatement (rules : Rules) : Rule (List Node) := do
  let value ← rules.expression
  demand (value.shape = .effect)
  sign ";"
  return value.nodes

/-- A statement that begins with no keyword. -/
def plainStatement (rules : Rules) : Rule (List Node) := do
  if ← (sees isIdentifier <&&> seesAt 1 (Token.isSign ":")) then
    skip 2
    rules.nodes .statement
  else localVariables rules <|> localFunction rules <|> expressionStatement rules

/-- A statement that begins with a word. -/
def wordStatement (rules : Rules) (text : Text) : Rule (List Node) := do
  let is (s : Text) : Bool := text = s
  if is "if" then ifStatement rules
  else if is "for" then forStatement rules
  else if is "foreach" then foreachStatement rules
  else if is "while" then
    discard next
    return (← condition rules) ++ (← rules.nodes .statement)
  else if is "do" then doStatement rules
  else if is "switch" then switchStatement rules
  else if is "try" then tryStatement rules
  else if is "lock" then
    discard next
    return (← condition rules) ++ (← rules.nodes .statement)
  else if is "using" then usingStatement rules <|> plainStatement rules
  else if is "fixed" then fixedStatement rules
  else if is "goto" then gotoStatement rules
  else if is "return" || is "throw" then keywordStatement rules
  else if is "break" || is "continue" then next *> sign ";" *> pure []
  else if (is "checked" || is "unchecked" || is "unsafe") && (← seesAt 1 (Token.isSign "\x7b")) then
    next *> rules.nodes .block
  else if is "yield" && (← seesAt 1 (isOneOf ["return", "break"])) then yieldStatement rules
  else if is "await" && (← seesAt 1 (Token.isWord "foreach")) then foreachStatement rules
  else if is "await" && (← seesAt 1 (Token.isWord "using")) && (← seesAt 2 (Token.isSign "(")) then
    usingStatement rules
  else plainStatement rules

/-- A statement. -/
def statementPhrase (rules : Rules) : Rule Phrase :=
  phrase .other do
    match ← peek with
    | some (.sign _ "\x7b") => rules.nodes .block
    | some (.sign _ ";") => next *> pure []
    | some (.word _ text) => wordStatement rules text
    | some (.directive _ _) =>
      return [← conditional (rules.nodesOfMany .statement)]
    | _ => plainStatement rules

/-- Statements between braces. -/
def blockPhrase (rules : Rules) : Rule Phrase :=
  phrase .other do
    sign "\x7b"
    let nodes ← rules.nodesOfMany .statement
    sign "\x7d"
    return nodes

end ClassHarvest.CSharp.Grammar
