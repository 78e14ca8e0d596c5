import ClassHarvest.CSharp.Grammar.Statements

/-!
# Declarations

Namespaces, types and their members.  A class and a namespace become nodes; of every other
declaration only the nodes within it are kept.
-/

namespace ClassHarvest.CSharp.Grammar

/-! ## Directives for names -/

/-- A directive that brings names into scope. -/
def usingDirective (rules : Rules) : Rule (List Node) := do
  discard (skipWord "global")
  word "using"
  let aliasing : Rule Unit := do
    discard (skipWord "unsafe")
    discard identifier
    sign "="
    discard (rules (.type false))
  let plain : Rule Unit := do
    discard (skipWord "static")
    discard (skipWord "unsafe")
    qualifiedName rules false
  (aliasing <|> plain) *> sign ";"
  return []

/-- A directive that names another assembly. -/
def externAlias : Rule (List Node) := do
  word "extern"
  word "alias"
  discard identifier
  sign ";"
  return []

/-! ## Bodies of types and namespaces -/

/-- Declarations between braces. -/
def declarations (rules : Rules) : Rule (List Node) := do
  sign "\x7b"
  let nodes ← rules.nodesOfMany .declaration
  sign "\x7d"
  return nodes

/-- The name of a namespace. -/
def namespaceName (rules : Rules) : Rule Span := do
  word "namespace"
  let (start, _) ← here
  qualifiedName rules false
  spanFrom start

/-- A namespace with a body. -/
def namespaceDeclaration (rules : Rules) : Rule (List Node) := do
  let name ← namespaceName rules
  let nodes ← declarations rules
  discard (skipSign ";")
  return [.namespaceBlock name nodes]

/-- A namespace for all that follows. -/
def namespaceHeader (rules : Rules) : Rule (List Node) := do
  let name ← namespaceName rules
  sign ";"
  return [.namespaceHeader name]

/-! ## Types -/

/-- A type that another one derives from, with arguments for its constructor or not. -/
def baseType (rules : Rules) : Rule (List Node) := do
  discard (rules (.type false))
  if ← seesSign "(" then return (← arguments rules).2
  else return []

/-- The parts of the head of a type behind its name: type parameters, parameters, bases and
conditions. -/
def headPart (rules : Rules) : Rule (List Node) := do
  if ← seesSign "<" then typeParameters rules
  else if ← seesSign "(" then parameters rules false
  else if ← skipSign ":" then return (← commaSeparated (baseType rules)).flatten
  else
    constraints rules
    return []

/-- The rest of a type behind its name. -/
def typeRest (rules : Rules) : Rule (List Node) := do
  let head ← many (headPart rules)
  if ← skipSign ";" then return head.flatten
  else
    let nodes ← declarations rules
    discard (skipSign ";")
    return head.flatten ++ nodes

/-- A member of an enumeration, with the comma behind it. -/
def enumMember (rules : Rules) : Rule (List Node) := do
  let attributes ← rules.nodesOfMany .attributes
  discard identifier
  let value ← if ← skipSign "=" then rules.value else pure []
  unless ← skipSign "," do
    demand (← sees fun t => t.isSign "\x7d" || t matches .directive ..)
  return attributes ++ value

/-- The members of an enumeration, which may stand under conditional directives. -/
def enumMembers (rules : Rules) : List Token → Rule (List Node)
  | [] => return []
  | _ :: bound => do
    let members ← many do
      if ← sees (Token.isDirective "if") then return [← conditional (enumMembers rules bound)]
      else enumMember rules
    return members.flatten

/-- An enumeration behind its keyword. -/
def enumRest (rules : Rules) : Rule (List Node) := do
  discard identifier
  if ← skipSign ":" then discard (rules (.type false))
  sign "\x7b"
  let members ← enumMembers rules (← get).rest
  sign "\x7d"
  discard (skipSign ";")
  return members

/-- A delegate behind its keyword. -/
def delegateRest (rules : Rules) : Rule (List Node) := do
  discard (rules (.type false))
  discard identifier
  let types ← if ← seesSign "<" then typeParameters rules else pure []
  let nodes ← parameters rules false
  discard (many (constraints rules))
  sign ";"
  return types ++ nodes

/-! ## Members -/

/-- An accessor of a property or an event. -/
def accessor (rules : Rules) : Rule (List Node) := do
  let attributes ← rules.nodesOfMany .attributes
  discard (many (accept (isOneOf modifierWords)))
  discard identifier
  return attributes ++ (← body rules)

/-- The accessors of a property or an event. -/
def accessors (rules : Rules) : Rule (List Node) := do
  sign "\x7b"
  let nodes ← many (accessor rules)
  sign "\x7d"
  return nodes.flatten

/-- A property behind its name: accessors with a value or not, or an expression. -/
def propertyRest (rules : Rules) : Rule (List Node) := do
  if ← skipSign "=>" then rules.value <* sign ";"
  else
    let nodes ← accessors rules
    if ← skipSign "=" then
      let value ← rules.value
      sign ";"
      return nodes ++ value
    else return nodes

/-- An event: variables, or a name with accessors. -/
def eventRest (rules : Rules) : Rule (List Node) := do
  word "event"
  let named : Rule (List Node) := do
    discard (rules (.type false))
    qualifiedName rules false
    accessors rules
  (variableList rules <* sign ";") <|> named

/-- A constructor: parameters, a call of another constructor or none, and a body. -/
def constructorRest (rules : Rules) : Rule (List Node) := do
  discard identifier
  let nodes ← parameters rules false
  let chain ←
    if ← skipSign ":" then
      discard (accept (isOneOf ["base", "this"]))
      pure (← arguments rules).2
    else pure []
  return nodes ++ chain ++ (← body rules)

/-- A destructor. -/
def destructorRest (rules : Rules) : Rule (List Node) := do
  sign "~"
  discard identifier
  sign "("
  sign ")"
  body rules

/-- The operators that may be declared, with `true` and `false`. -/
def declaredOperator : Rule Unit := do
  discard (skipWord "checked")
  if ← sees (isOneOf ["true", "false"]) then discard next
  else
    match operator? (← get).rest with
    | some (_, count) => skip count
    | none => failure

/-- A qualification of a member's name by the interface that it implements. -/
def interfaceName (rules : Rules) : Rule Unit :=
  simpleName rules false *> discard (accept (isSignOf [".", "::"]))

/-- A conversion between types. -/
def conversionRest (rules : Rules) : Rule (List Node) := do
  discard (accept (isOneOf ["implicit", "explicit"]))
  discard (many (interfaceName rules))
  word "operator"
  discard (skipWord "checked")
  discard (rules (.type false))
  let nodes ← parameters rules false
  return nodes ++ (← body rules)

/-- A member behind its type: an operator, an indexer, a method or a property. -/
def memberRest (rules : Rules) : Rule (List Node) := do
  discard (many (interfaceName rules))
  if ← skipWord "operator" then
    declaredOperator
    let nodes ← parameters rules false
    return nodes ++ (← body rules)
  else if ← skipWord "this" then
    let nodes ← parametersBetween rules false "[" "]"
    return nodes ++ (← propertyRest rules)
  else
    discard identifier
    if ← (seesSign "(" <||> seesSign "<") then
      let types ← if ← seesSign "<" then typeParameters rules else pure []
      let nodes ← parameters rules false
      discard (many (constraints rules))
      return types ++ nodes ++ (← body rules)
    else propertyRest rules

/-- A member that begins with its type. -/
def typedMember (rules : Rules) : Rule (List Node) :=
  (rules (.type false) *> memberRest rules) <|> (variableList rules <* sign ";")

/-- Whether a record comes next. -/
def seesRecord : Rule Bool :=
  seesWord "record" <&&> seesAt 1 fun t => isIdentifier t || isOneOf ["class", "struct"] t

/-- A type behind its attributes and modifiers. -/
def declaredType (rules : Rules) (line : Nat) (modifiers : List Span) (attributes : List Node) :
    Rule (List Node) := do
  if ← skipWord "class" then
    let name ← identifier
    let nodes ← typeRest rules
    return [.classDeclaration line name modifiers (attributes ++ nodes)]
  else
    let nodes ←
      if ← sees (isOneOf ["struct", "interface"]) then
        next *> identifier *> typeRest rules
      else if ← seesRecord then
        discard next
        discard (attempt (accept (isOneOf ["class", "struct"])))
        identifier *> typeRest rules
      else if ← skipWord "enum" then enumRest rules
      else
        word "delegate"
        delegateRest rules
    return attributes ++ nodes

/-- A member that is no type, behind its attributes and modifiers. -/
def declaredMember (rules : Rules) : Rule (List Node) := do
  if ← seesWord "event" then eventRest rules
  else if ← seesSign "~" then destructorRest rules
  else if ← sees (isOneOf ["implicit", "explicit"]) then conversionRest rules
  else constructorRest rules <|> typedMember rules

/-- The modifiers of a declaration. -/
def modifiers : Rule (List Span) := do
  let before ← many modifier
  if ← (seesWord "ref" <&&> seesAt 1 (isOneOf ["partial", "struct"])) then
    discard next
    return before ++ (← many modifier)
  else return before

/-- A type with attributes and modifiers. -/
def typeDeclaration (rules : Rules) : Rule (List Node) := do
  let (_, line) ← here
  let attributes ← rules.nodesOfMany .attributes
  declaredType rules line (← modifiers) attributes

/-- A member that is no type, with attributes and modifiers. -/
def memberDeclaration (rules : Rules) : Rule (List Node) := do
  let attributes ← rules.nodesOfMany .attributes
  discard modifiers
  return attributes ++ (← declaredMember rules)

/-- A declaration. -/
def declarationPhrase (rules : Rules) : Rule Phrase :=
  phrase .other do
    if ← sees (Token.isDirective "if") then
      return [← conditional (rules.nodesOfMany .declaration)]
    else if ← seesWord "namespace" then namespaceDeclaration rules
    else if ← (seesWord "using" <||> seesAt 1 (Token.isWord "using")) then usingDirective rules
    else if ← (seesWord "extern" <&&> seesAt 1 (Token.isWord "alias")) then externAlias
    else typeDeclaration rules <|> memberDeclaration rules

/-! ## Source texts -/

/-- Attributes of the assembly or the module as a whole. -/
def globalAttributes (rules : Rules) : Rule (List Node) := do
  demand (← seesSign "[")
  demand (← seesAt 1 (isOneOf ["assembly", "module"]))
  demand (← seesAt 2 (Token.isSign ":"))
  rules.nodes .attributes

/-- An item of a source text: a directive, a namespace, a type or a statement. -/
def item (rules : Rules) : List Token → Rule (List Node)
  | [] => failure
  | _ :: bound => do
    if ← sees (Token.isDirective "if") then
      return [← conditional (return (← many (item rules bound)).flatten)]
    else
      externAlias <|> usingDirective rules <|> namespaceDeclaration rules <|> namespaceHeader rules <|>
        globalAttributes rules <|> typeDeclaration rules <|> rules.nodes .statement

/-- A source text as a whole. -/
def sourceText (rules : Rules) : Rule (List Node) := do
  return (← many (item rules (← get).rest)).flatten

end ClassHarvest.CSharp.Grammar
