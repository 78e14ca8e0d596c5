import ClassHarvest.CSharp.Token

/-!
# Syntax trees of C#

Of the syntax of a source text only a little is kept: the invocations with their arguments, the
classes with their modifiers, and the namespaces, each with what it encloses, in the order of the
text.  Texts are not copied into the tree; a span says where they stand.
-/

namespace ClassHarvest.CSharp

/-- A stretch of a source text, from its first character to the one after its last. -/
structure Span where
  /-- The number of characters before it. -/
  start : Nat
  /-- The number of characters up to its end. -/
  stop : Nat
deriving DecidableEq, Repr

/-- The text of a stretch. -/
def Span.text (span : Span) (source : Array CodePoint) : Text :=
  (source.extract span.start span.stop).toList

/-- What an invocation invokes. -/
inductive Callee where
  /-- A member of something: what stands left of the last dot, and what right of it. -/
  | member (target name : Span)
  /-- Any other expression. -/
  | other (text : Span)
deriving DecidableEq, Repr

/-- What an argument is, by its form alone. -/
inductive ArgumentForm where
  /-- A string literal of any kind. -/
  | string
  /-- Any other literal. -/
  | literal
  /-- Any other expression. -/
  | expression
deriving DecidableEq, Repr

/-- An argument of an invocation. -/
structure ArgumentSpan where
  /-- Its form. -/
  form : ArgumentForm
  /-- Where its value stands. -/
  span : Span
deriving DecidableEq, Repr

/-- A node of a syntax tree. -/
inductive Node where
  /-- An invocation, which begins on a line; what it encloses are its callee and its arguments. -/
  | invocation (line : Nat) (callee : Callee) (arguments : List ArgumentSpan)
      (children : List Node)
  /-- A class, which begins on a line, with its name and modifiers. -/
  | classDeclaration (line : Nat) (name : Span) (modifiers : List Span) (children : List Node)
  /-- A namespace with its body. -/
  | namespaceBlock (name : Span) (children : List Node)
  /-- A namespace for all that follows it. -/
  | namespaceHeader (name : Span)
  /-- A conditional directive with what it governs. -/
  | conditional (children : List Node)
deriving Repr

/-- What a node encloses. -/
def Node.children : Node → List Node
  | .invocation _ _ _ children | .classDeclaration _ _ _ children | .namespaceBlock _ children
  | .conditional children => children
  | .namespaceHeader _ => []

end ClassHarvest.CSharp
