import ClassHarvest.CSharp.Tree

/-!
# Phrases

A phrase is a stretch of tokens that a rule of the grammar accepts.  A rule reads tokens from the
front and gives the phrase, or refuses.  Rules refer to each other through a family indexed by
goals, so that each part of the grammar can stand in a module of its own.
-/

namespace ClassHarvest.CSharp.Grammar

/-! ## What rules give -/

/-- What a phrase may be used for. -/
inductive Shape where
  /-- A string literal. -/
  | string
  /-- Any other literal. -/
  | literal
  /-- The instance itself, or its base. -/
  | self
  /-- A member access, with what stands left and right of its last dot. -/
  | member (target name : Span)
  /-- Any other expression that may be assigned to. -/
  | place
  /-- An expression that may stand as a statement. -/
  | effect
  /-- Anything else. -/
  | other
deriving DecidableEq, Repr

/-- A stretch of tokens that a rule accepts. -/
structure Phrase where
  /-- Where it stands. -/
  span : Span
  /-- The line of its first token. -/
  line : Nat
  /-- What it may be used for. -/
  shape : Shape
  /-- The nodes in it. -/
  nodes : List Node
deriving Repr

/-- What rules are asked for. -/
inductive Goal where
  /-- An expression whose operators bind at least as tightly as a level; lambda expressions may be
  excluded. -/
  | expression (level : Nat) (lambda : Bool)
  /-- A type.  Where a value could be meant, a question mark belongs to it only if nothing follows
  that could be an alternative. -/
  | type (value : Bool)
  /-- A pattern. -/
  | pattern
  /-- A statement between braces. -/
  | block
  /-- A statement. -/
  | statement
  /-- A member of a type or namespace. -/
  | declaration
  /-- An attribute list. -/
  | attributes
deriving DecidableEq, Repr

/-! ## Readings -/

/-- What is left to read, and where the token before it ends. -/
structure Reading where
  /-- The tokens that are left. -/
  rest : List Token
  /-- The end of the last token that was read. -/
  stop : Nat

/-- A rule reads tokens and gives a value, or refuses. -/
abbrev Rule (α : Type) := StateT Reading Option α

/-- A rule for each goal. -/
abbrev Rules := Goal → Rule Phrase

/-- The next token. -/
def peek : Rule (Option Token) := do
  return (← get).rest.head?

/-- The token after some others. -/
def peekAt (n : Nat) : Rule (Option Token) := do
  return (← get).rest[n]?

/-- Read a token. -/
def next : Rule Token := do
  match (← get).rest with
  | [] => failure
  | token :: rest =>
    set (Reading.mk rest token.place.stop)
    return token

/-- Read a number of tokens. -/
def skip : Nat → Rule Unit
  | 0 => return ()
  | n + 1 => next *> skip n

/-- Read a token that satisfies a test. -/
def accept (test : Token → Bool) : Rule Token := do
  let token ← next
  if test token then return token else failure

/-- Read a sign. -/
def sign (text : String) : Rule Unit := do
  discard (accept (Token.isSign text))

/-- Read a given word. -/
def word (text : Text) : Rule Unit := do
  discard (accept (Token.isWord text))

/-- Whether the next token satisfies a test. -/
def sees (test : Token → Bool) : Rule Bool := do
  return (← peek).any test

/-- Whether the next token is a sign. -/
def seesSign (text : String) : Rule Bool :=
  sees (Token.isSign text)

/-- Whether the next token is a given word. -/
def seesWord (text : Text) : Rule Bool :=
  sees (Token.isWord text)

/-- Whether the token after some others satisfies a test. -/
def seesAt (n : Nat) (test : Token → Bool) : Rule Bool := do
  return (← peekAt n).any test

/-- Read a sign if it is there, and say whether it was. -/
def skipSign (text : String) : Rule Bool := do
  if ← seesSign text then
    discard next
    return true
  else return false

/-- Read a word if it is there, and say whether it was. -/
def skipWord (text : Text) : Rule Bool := do
  if ← seesWord text then
    discard next
    return true
  else return false

/-- Refuse unless a condition holds. -/
def demand (condition : Bool) : Rule Unit :=
  if condition then return () else failure

/-- Apply a rule if it does not refuse. -/
def attempt {α : Type} (rule : Rule α) : Rule (Option α) :=
  (some <$> rule) <|> pure none

/-- Apply the rule that reads furthest; of several the first. -/
def furthest {α : Type} (rules : List (Rule α)) : Rule α := fun reading =>
  rules.foldl (fun best rule =>
    match best, rule.run reading with
    | some (_, old), some (value, new) => if old.stop < new.stop then some (value, new) else best
    | none, found => found
    | some _, none => best) none

/-- Apply a rule as often as it does not refuse, but at most once for each token of a list. -/
def repeatedly {α : Type} (rule : Rule α) : List Token → Rule (List α)
  | [] => return []
  | _ :: bound => do
    match ← attempt rule with
    | none => return []
    | some value => return value :: (← repeatedly rule bound)

/-- Apply a rule as often as it does not refuse. -/
def many {α : Type} (rule : Rule α) : Rule (List α) := do
  repeatedly rule (← get).rest

/-- Apply a rule one or more times, with commas between. -/
def commaSeparated {α : Type} (rule : Rule α) : Rule (List α) := do
  let first ← rule
  let more ← many (sign "," *> rule)
  return first :: more

/-- Apply a rule any number of times, with commas between; a comma may follow the last. -/
def commaEnded {α : Type} (rule : Rule α) : Rule (List α) := do
  let values ← (commaSeparated rule <|> pure [])
  unless values.isEmpty do discard (skipSign ",")
  return values

/-- The beginning of the next token and its line. -/
def here : Rule (Nat × Nat) := do
  match ← peek with
  | some token => return (token.place.start, token.place.line)
  | none => failure

/-- The end of the last token. -/
def lastStop : Rule Nat := do
  return (← get).stop

/-- The stretch from a place to the end of the last token. -/
def spanFrom (start : Nat) : Rule Span := do
  return ⟨start, ← lastStop⟩

/-- Read a phrase with some rule for its nodes, and give it a shape. -/
def phrase (shape : Shape) (rule : Rule (List Node)) : Rule Phrase := do
  let (start, line) ← here
  let nodes ← rule
  return ⟨← spanFrom start, line, shape, nodes⟩

/-- Read a phrase with some rule for its shape and its nodes. -/
def shaped (rule : Rule (Shape × List Node)) : Rule Phrase := do
  let (start, line) ← here
  let (shape, nodes) ← rule
  return ⟨← spanFrom start, line, shape, nodes⟩

/-- The part of a conditional directive that follows its condition, up to its end.  What the
directive governs is read by a rule; an alternative is a conditional within. -/
def branches (rule : Rule (List Node)) : List Token → Rule (List Node)
  | [] => failure
  | _ :: bound => do
    let nodes ← rule
    if ← sees (Token.isDirective "elif") then
      discard next
      return nodes ++ [.conditional (← branches rule bound)]
    else if ← sees (Token.isDirective "else") then
      discard next
      return nodes ++ [.conditional (← rule)]
    else return nodes

/-- A conditional directive that governs what a rule reads. -/
def conditional (rule : Rule (List Node)) : Rule Node := do
  discard (accept (Token.isDirective "if"))
  let nodes ← branches rule (← get).rest
  discard (accept (Token.isDirective "endif"))
  return .conditional nodes

/-- The nodes of a phrase for a goal. -/
def Rules.nodes (rules : Rules) (goal : Goal) : Rule (List Node) := do
  return (← rules goal).nodes

/-- The nodes of as many phrases for a goal as there are. -/
def Rules.nodesOfMany (rules : Rules) (goal : Goal) : Rule (List Node) := do
  return (← many (rules goal)).flatMap Phrase.nodes

/-- An expression with operators of every level. -/
def Rules.expression (rules : Rules) : Rule Phrase :=
  rules (.expression 0 true)

/-- The nodes of an expression with operators of every level. -/
def Rules.value (rules : Rules) : Rule (List Node) :=
  rules.nodes (.expression 0 true)

end ClassHarvest.CSharp.Grammar
