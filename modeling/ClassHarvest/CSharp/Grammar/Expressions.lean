import ClassHarvest.CSharp.Grammar.Arguments

/-!
# Expressions

An expression is an operand with operators behind it.  Operators have levels: the right operand of
one holds only operators that bind more tightly.  Invocations become nodes; of all other expressions
only the nodes within them are kept.
-/

namespace ClassHarvest.CSharp.Grammar

/-! ## Operators -/

/-- The operator at the beginning of some tokens, and the number of tokens that it takes: closing
angle brackets that touch each other or an equals sign are one operator. -/
def operator? : List Token → Option (String × Nat)
  | .sign place ">" :: rest => some (angle place.stop rest ">" 1)
  | .sign _ text :: _ => some (text, 1)
  | _ => none
where
  /-- Go on with an operator that begins with an angle bracket and reaches up to `stop`. -/
  angle (stop : Nat) (rest : List Token) (text : String) (count : Nat) : String × Nat :=
    match rest with
    | .sign place more :: rest =>
      if place.start = stop && more == ">" && count < 3 then
        angle place.stop rest (text ++ more) (count + 1)
      else if place.start = stop && more == "=" then (text ++ more, count + 1)
      else (text, count)
    | _ => (text, count)

/-- The level of an operator between two operands. -/
def binaryLevel? (operator : String) : Option Nat :=
  match operator with
  | "??" => some 3
  | "||" => some 4
  | "&&" => some 5
  | "|" => some 6
  | "^" => some 7
  | "&" => some 8
  | "==" | "!=" => some 9
  | "<" | ">" | "<=" | ">=" => some 10
  | "<<" | ">>" | ">>>" => some 11
  | "+" | "-" => some 12
  | "*" | "/" | "%" => some 13
  | ".." => some 16
  | _ => none

/-- The operators that assign. -/
def assigningOperators : List String := [
  "=", "+=", "-=", "*=", "/=", "%=", "&=", "|=", "^=", "<<=", ">>=", ">>>=", "??="]

/-- The operators in front of an operand. -/
def unaryOperators : List String := ["+", "-", "!", "~", "&", "*", "++", "--", "^"]

/-- Words that stand between operands or clauses, so that no operand begins with them. -/
def joiningWords : List Text := [
  "is", "as", "switch", "with", "and", "or", "when", "in", "where", "select", "group", "into", "join",
  "on", "equals", "by", "orderby", "ascending", "descending", "let"]

/-- Whether an operand that is no operator application may begin with a token. -/
def beginsOperand : Token → Bool
  | .word _ text => !joiningWords.contains text
  | .number _ | .character _ | .string _ | .interpolated .. => true
  | .sign _ text => ["(", "[", "!", "~"].contains text
  | .directive .. => false

/-- Whether an expression of some shape may be assigned to. -/
def assignable : Shape → Bool
  | .member .. | .place | .self => true
  | _ => false

/-- What is invoked by an expression with some phrase in front of the arguments. -/
def calleeOf (phrase : Phrase) : Callee :=
  match phrase.shape with
  | .member target name => .member target name
  | _ => .other phrase.span

/-! ## Lambda expressions -/

/-- The tokens behind the brackets that are open at the beginning of some tokens. -/
def afterBrackets : Nat → List Token → List Token
  | _, [] => []
  | depth, token :: rest =>
    if isSignOf ["(", "[", "\x7b"] token then afterBrackets (depth + 1) rest
    else if isSignOf [")", "]", "\x7d"] token then
      if depth ≤ 1 then rest else afterBrackets (depth - 1) rest
    else afterBrackets depth rest

/-- Whether parentheses and an arrow come next. -/
def seesParametersAndArrow : Rule Bool := do
  let reading ← get
  return reading.rest.head?.any (Token.isSign "(") &&
    (afterBrackets 0 reading.rest).head?.any (Token.isSign "=>")

/-- A word in front of a lambda expression or an anonymous method. -/
def lambdaModifier : Rule Unit := do
  discard (accept (isOneOf ["async", "static"]))
  demand (!(← seesSign "=>"))

/-- The parameters of a lambda expression, with its type in front or not. -/
def lambdaParameters (rules : Rules) : Rule (List Node) := do
  if ← (sees isIdentifier <&&> seesAt 1 (Token.isSign "=>")) then
    discard next
    return []
  else if ← seesParametersAndArrow then parameters rules true
  else
    discard (rules (.type true))
    demand (← seesParametersAndArrow)
    parameters rules true

/-- A lambda expression. -/
def lambdaPhrase (rules : Rules) : Rule Phrase :=
  phrase .other do
    let attributes ← rules.nodesOfMany .attributes
    discard (many lambdaModifier)
    let parameters ← lambdaParameters rules
    sign "=>"
    let body ← rules.nodes .block <|> rules.value
    return attributes ++ parameters ++ body

/-- An anonymous method. -/
def anonymousMethod (rules : Rules) : Rule Phrase :=
  phrase .other do
    discard (many lambdaModifier)
    word "delegate"
    let nodes ← if ← seesSign "(" then parameters rules false else pure []
    return nodes ++ (← rules.nodes .block)

/-! ## Queries -/

/-- The variable of a query clause, with its type or not, up to `in`. -/
def rangeVariable (rules : Rules) : Rule Unit :=
  (identifier *> word "in") <|> (rules (.type false) *> identifier *> word "in")

/-- A clause that begins a query. -/
def fromClause (rules : Rules) : Rule (List Node) := do
  word "from"
  rangeVariable rules
  rules.value

/-- An expression by which a query orders. -/
def ordering (rules : Rules) : Rule (List Node) := do
  let nodes ← rules.value
  discard (attempt (accept (isOneOf ["ascending", "descending"])))
  return nodes

/-- A clause of a query. -/
def queryClause (rules : Rules) : Rule (List Node) := do
  if ← seesWord "from" then fromClause rules
  else if ← skipWord "let" then
    discard identifier
    sign "="
    rules.value
  else if ← skipWord "where" then rules.value
  else if ← skipWord "join" then
    rangeVariable rules
    let source ← rules.value
    word "on"
    let left ← rules.value
    word "equals"
    let right ← rules.value
    discard (attempt (word "into" *> identifier))
    return source ++ left ++ right
  else if ← skipWord "orderby" then return (← commaSeparated (ordering rules)).flatten
  else if ← skipWord "select" then rules.value
  else if ← skipWord "group" then
    let element ← rules.value
    word "by"
    return element ++ (← rules.value)
  else
    word "into"
    discard identifier
    return []

/-- A query. -/
def queryPhrase (rules : Rules) : Rule Phrase :=
  phrase .other do
    let first ← fromClause rules
    let clauses ← many (queryClause rules)
    demand (!clauses.isEmpty)
    return first ++ clauses.flatten

/-! ## Creations -/

/-- Values between braces; a comma may follow the last. -/
def initializer (rules : Rules) : Rule (List Node) := do
  sign "\x7b"
  let values ← commaEnded rules.value
  sign "\x7d"
  return values.flatten

/-- The sizes of an array between square brackets, or commas alone. -/
def arraySizes (rules : Rules) : Rule (List Node) := do
  sign "["
  let nodes ← (commaSeparated rules.value <|> pure [])
  discard (many (sign ","))
  sign "]"
  return nodes.flatten

/-- A creation of an object or an array. -/
def creation (rules : Rules) : Rule Phrase :=
  shaped do
    word "new"
    let implicit : Rule (Shape × List Node) := do
      let (_, nodes) ← arguments rules
      return (.other, nodes ++ (← initializer rules <|> pure []))
    let explicit : Rule (Shape × List Node) := do
      plainType rules true
      discard (many (accept (isSignOf ["?", "*"])))
      if ← seesSign "[" then
        let sizes ← many (arraySizes rules)
        return (.other, sizes.flatten ++ (← initializer rules <|> pure []))
      else if ← seesSign "(" then
        let (_, nodes) ← arguments rules
        return (.effect, nodes ++ (← initializer rules <|> pure []))
      else return (.effect, ← initializer rules)
    if ← seesSign "(" then implicit <|> explicit
    else if ← skipSign "[" then
      discard (many (sign ","))
      sign "]"
      return (.other, ← initializer rules)
    else if ← seesSign "\x7b" then return (.other, ← initializer rules)
    else explicit

/-- An array on the stack. -/
def stackCreation (rules : Rules) : Rule Phrase :=
  phrase .other do
    word "stackalloc"
    if ← seesSign "[" then pure () else
      plainType rules true
      discard (many (accept (isSignOf ["?", "*"])))
    let sizes ← many (arraySizes rules)
    return sizes.flatten ++ (← initializer rules <|> pure [])

/-! ## Other operands -/

/-- An expression of one token. -/
def token (shape : Shape) : Rule Phrase :=
  phrase shape (next *> pure [])

/-- The hole of an interpolated string: an expression, with its width or not. -/
def hole (rules : Rules) (tokens : List Token) : Option (List Node) :=
  let rule : Rule (List Node) := do
    let nodes ← rules.value
    if ← skipSign "," then return nodes ++ (← rules.value)
    else return nodes
  match rule.run ⟨tokens, 0⟩ with
  | some (nodes, reading) => if reading.rest.isEmpty then some nodes else none
  | none => none

/-- An interpolated string with some holes. -/
def interpolation (rules : Rules) (holes : List (List Token)) : Rule Phrase :=
  phrase .other do
    discard next
    match holes.mapM (hole rules) with
    | some nodes => return nodes.flatten
    | none => failure

/-- A cast, with the operands that are admitted. -/
def cast (rules : Rules) (lambda : Bool) (admitted : Token → Bool) : Rule Phrase :=
  phrase .other do
    sign "("
    discard (rules (.type true))
    sign ")"
    demand (← sees admitted)
    rules.nodes (.expression 17 lambda)

/-- An expression in parentheses, or a tuple. -/
def parenthesized (rules : Rules) : Rule Phrase :=
  let one : Rule Phrase := phrase .effect (sign "(" *> rules.value <* sign ")")
  let several : Rule Phrase := phrase .place do
    sign "("
    let parts ← commaSeparated (argument rules)
    demand (2 ≤ parts.length)
    sign ")"
    return parts.flatMap (·.2)
  one <|> several

/-- Values between square brackets. -/
def collection (rules : Rules) : Rule Phrase :=
  phrase .place do
    sign "["
    let values ← commaEnded (argument rules)
    sign "]"
    return values.flatMap (·.2)

/-- A keyword with a type in parentheses. -/
def keywordOfType (rules : Rules) : Rule Phrase :=
  phrase .other do
    discard next
    sign "("
    discard (rules (.type false))
    sign ")"
    return []

/-- A keyword with an expression in parentheses, and a type behind the expression or not. -/
def keywordOfValue (rules : Rules) : Rule Phrase :=
  phrase .other do
    discard next
    sign "("
    let nodes ← rules.value
    if ← skipSign "," then discard (rules (.type false))
    sign ")"
    return nodes

/-- Whether a name with type arguments may stand in front of a token.  Otherwise the angle brackets
in it are comparisons. -/
def followsTypeArguments : Token → Bool
  | .word _ text => joiningWords.contains text
  | .sign .. | .directive .. => true
  | _ => false

/-- A name, which may have type arguments. -/
def genericName (rules : Rules) : Rule Unit := do
  discard identifier
  discard (attempt do
    typeArguments rules true
    demand ((← peek).all followsTypeArguments))

/-- A name as an expression. -/
def namePhrase (rules : Rules) : Rule Phrase :=
  phrase .place do
    if ← seesAt 1 (Token.isSign "::") then
      discard identifier
      sign "::"
    genericName rules
    return []

/-- An expression that begins with a word. -/
def wordPhrase (rules : Rules) (text : Text) : Rule Phrase := do
  if (["true", "false", "null"] : List Text).contains text then token .literal
  else if (["this", "base"] : List Text).contains text then token .self
  else if text = ("new" : Text) then creation rules
  else if text = ("stackalloc" : Text) then stackCreation rules
  else if (["typeof", "sizeof"] : List Text).contains text then keywordOfType rules
  else if text = ("default" : Text) then
    if ← seesAt 1 (Token.isSign "(") then keywordOfType rules else token .other
  else if (["checked", "unchecked", "__makeref", "__reftype", "__refvalue"] : List Text).contains text
    then keywordOfValue rules
  else if typeKeywords.contains text then
    demand (← seesAt 1 (Token.isSign "."))
    token .other
  else if text = ("from" : Text) then queryPhrase rules <|> namePhrase rules
  else if text = ("delegate" : Text) then anonymousMethod rules
  else if (["async", "static"] : List Text).contains text then
    anonymousMethod rules <|> namePhrase rules
  else namePhrase rules

/-- An operand without operators around it. -/
def primary (rules : Rules) (lambda : Bool) : Rule Phrase := do
  match ← peek with
  | some (.number _) | some (.character _) => token .literal
  | some (.string _) => token .string
  | some (.interpolated _ holes) => interpolation rules holes
  | some (.word _ text) => wordPhrase rules text
  | some (.directive _ _) =>
    phrase .other do
      return [← conditional (rules.value <|> pure [])]
  | some (.sign _ "(") =>
    cast rules lambda beginsOperand <|> parenthesized rules <|>
      cast rules lambda fun t => isSignOf unaryOperators t || t.isSign ".."
  | some (.sign _ "[") => collection rules
  | some (.sign _ "\x7b") => phrase .other (initializer rules)
  | _ => failure

/-! ## What follows an operand -/

/-- The operand with one more member access, invocation, index or mark behind it. -/
def link (rules : Rules) (left : Phrase) : Rule Phrase := do
  let extend (shape : Shape) (nodes : List Node) : Rule Phrase := do
    return ⟨← spanFrom left.span.start, left.line, shape, nodes⟩
  if ← sees (isSignOf [".", "->"]) then
    discard next
    let (start, _) ← here
    genericName rules
    extend (.member left.span (← spanFrom start)) left.nodes
  else if ← seesSign "(" then
    let (kept, nodes) ← arguments rules
    extend .effect [.invocation left.line (calleeOf left) kept (left.nodes ++ nodes)]
  else if ← seesSign "[" then
    let nodes ← indices rules
    extend .place (left.nodes ++ nodes)
  else
    discard (accept (isSignOf ["++", "--", "!"]))
    extend .effect left.nodes

/-- The operand with all that is chained to it, at most one link for each token of a list. -/
def chain (rules : Rules) : List Token → Phrase → Rule Phrase
  | [], left => return left
  | _ :: bound, left => do
    match ← attempt (link rules left) with
    | none => return left
    | some longer => chain rules bound longer

/-- The operand with all that is chained to it. -/
def chained (rules : Rules) (left : Phrase) : Rule Phrase := do
  chain rules (← get).rest left

/-- An assignment to an operand, if it can be assigned to. -/
def assigned (rules : Rules) (left : Phrase) : Rule Phrase := do
  match operator? (← get).rest with
  | some (text, count) =>
    if assignable left.shape && assigningOperators.contains text then
      skip count
      let nodes ← rules.value
      return ⟨← spanFrom left.span.start, left.line, .effect, left.nodes ++ nodes⟩
    else return left
  | none => return left

/-! ## Operands with operators in front -/

/-- An operator in front of an operand. -/
def unary (rules : Rules) (lambda : Bool) : Rule Phrase :=
  phrase .effect (next *> rules.nodes (.expression 17 lambda))

/-- Whether the next word awaits an operand. -/
def seesAwait : Rule Bool :=
  seesWord "await" <&&> seesAt 1 beginsOperand

/-- An operand: with an operator in front, or with a chain behind it and an assignment to it. -/
def operand (rules : Rules) (lambda : Bool) : Rule Phrase := do
  match ← peek with
  | some (.sign _ text) =>
    if unaryOperators.contains text then
      return ← unary rules lambda
    else if text == ".." then
      return ← phrase .other (next *> (rules.nodes (.expression 17 lambda) <|> pure []))
  | _ => pure ()
  if ← seesAwait then phrase .effect (next *> rules.nodes (.expression 17 lambda))
  else if ← seesWord "throw" then phrase .other (next *> rules.nodes (.expression 0 lambda))
  else if ← seesWord "ref" then phrase .other (next *> rules.nodes (.expression 0 lambda))
  else
    let simple : Rule Phrase := do
      assigned rules (← chained rules (← primary rules lambda))
    if lambda && (← sees fun t => isAnyWord t || isSignOf ["(", "["] t) then
      lambdaPhrase rules <|> simple
    else simple

/-! ## Operators between operands -/

/-- Access to a member or an element of something that may be null. -/
def conditionalAccess (rules : Rules) (left : Phrase) : Rule Phrase := do
  sign "?"
  let nodes ← if ← skipSign "." then genericName rules *> pure [] else indices rules
  chained rules ⟨← spanFrom left.span.start, left.line, .other, left.nodes ++ nodes⟩

/-- The two alternatives of a conditional expression. -/
def alternatives (rules : Rules) (lambda : Bool) : Rule (List Node) := do
  sign "?"
  let first ← rules.value
  sign ":"
  let second ← rules.nodes (.expression 2 lambda)
  return first ++ second

/-- Whether a question mark begins an access: a dot follows, or a bracket that touches it. -/
def seesAccess : Rule Bool := do
  match (← get).rest with
  | .sign place "?" :: .sign behind text :: _ =>
    return text == "." || (text == "[" && place.stop = behind.start)
  | _ => return false

/-- An arm of a switch expression. -/
def switchArm (rules : Rules) : Rule (List Node) := do
  let pattern ← rules.nodes .pattern
  let guard ← if ← skipWord "when" then rules.nodes (.expression 0 false) else pure []
  sign "=>"
  return pattern ++ guard ++ (← rules.value)

/-- What stands behind a left operand that a word extends. -/
def wordOperation (rules : Rules) (level : Nat) : Rule (List Node) := do
  if ← seesWord "is" then
    demand (level ≤ 10)
    discard next
    rules.nodes .pattern
  else if ← seesWord "as" then
    demand (level ≤ 10)
    discard next
    rules.nodes (.type true)
  else if ← seesWord "switch" then
    demand (level ≤ 15)
    discard next
    sign "\x7b"
    let arms ← commaEnded (switchArm rules)
    sign "\x7d"
    return arms.flatten
  else
    demand (level ≤ 14)
    word "with"
    initializer rules

/-- What stands behind a left operand that an operator extends. -/
def signOperation (rules : Rules) (level : Nat) (lambda : Bool) (text : String) (count : Nat) :
    Rule (List Node) := do
  match binaryLevel? text with
  | none => failure
  | some own =>
    demand (level ≤ own)
    skip count
    if text == ".." then rules.nodes (.expression 17 lambda) <|> pure []
    else rules.nodes (.expression (if text == "??" then own else own + 1) lambda)

/-- A left operand with one operator and its right operand. -/
def extended (rules : Rules) (level : Nat) (lambda : Bool) (left : Phrase) : Rule Phrase := do
  let close (nodes : List Node) : Rule Phrase := do
    return ⟨← spanFrom left.span.start, left.line, .other, left.nodes ++ nodes⟩
  match operator? (← get).rest with
  | some ("?", _) =>
    demand (level ≤ 2)
    if ← seesAccess then conditionalAccess rules left else close (← alternatives rules lambda)
  | some (text, count) => close (← signOperation rules level lambda text count)
  | none => close (← wordOperation rules level)

/-- A left operand with all operators behind it, at most one for each token of a list. -/
def climb (rules : Rules) (level : Nat) (lambda : Bool) : List Token → Phrase → Rule Phrase
  | [], left => return left
  | _ :: bound, left => do
    match ← attempt (extended rules level lambda left) with
    | none => return left
    | some longer => climb rules level lambda bound longer

/-- An expression whose operators bind at least as tightly as a level. -/
def expressionPhrase (rules : Rules) (level : Nat) (lambda : Bool) : Rule Phrase := do
  let left ← operand rules lambda
  climb rules level lambda (← get).rest left

end ClassHarvest.CSharp.Grammar
