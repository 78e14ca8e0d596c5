import ClassHarvest.CSharp.Grammar.Declarations
import ClassHarvest.CSharp.Grammar.Patterns

/-!
# Parsing of C#

The rules of the grammar refer to each other only up to a depth; a source text is parsed with a depth
that no text of its length reaches.
-/

namespace ClassHarvest.CSharp

open Grammar

/-- The rules of the grammar, nested up to a depth. -/
def rules : Nat → Rules
  | 0 => fun _ => failure
  | depth + 1 => fun goal =>
    match goal with
    | .expression level lambda => expressionPhrase (rules depth) level lambda
    | .type value => typePhrase (rules depth) value
    | .pattern => patternPhrase (rules depth)
    | .block => blockPhrase (rules depth)
    | .statement => statementPhrase (rules depth)
    | .declaration => declarationPhrase (rules depth)
    | .attributes => attributesPhrase (rules depth)

/-- The nodes of the syntax tree of a source text, if its syntax is in order. -/
def parse? (source : Text) : Option (List Node) := do
  let tokens ← tokens source
  let (nodes, reading) ← (sourceText (rules (8 * source.length + 8))).run ⟨tokens, 0⟩
  if reading.rest.isEmpty then return nodes else none

end ClassHarvest.CSharp
