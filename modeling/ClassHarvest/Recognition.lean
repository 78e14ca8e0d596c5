import ClassHarvest.CSharp.SourceUnit
import ClassHarvest.Text.Case

/-!
# Recognition of calls that declare classes

Three shapes of calls supply class names, told apart by name and number of arguments:

* a call of an attribute builder, `builder.AddAttribute(seq, "class", "a b")`;
* a call with markup, `builder.AddMarkupContent(seq, "<div class=\"a\">")`;
* a call of a helper, `CssClass("a b")` or `Styles.CssClass("a b")`.

Only literals are read: a call with anything else in the place of its class names supplies none.
-/

namespace ClassHarvest

open CSharp

/-- The shapes of calls that declare classes. -/
inductive CallShape where
  /-- An attribute builder that is given a class attribute. -/
  | attribute
  /-- Markup as a string literal. -/
  | markup
  /-- A helper that is given class names. -/
  | helper
deriving DecidableEq, Repr

/-- The helpers that are known when none are configured. -/
def defaultHelpers : List Text := ["CssClass"]

/-- The methods that build attributes. -/
def attributeBuilders : List Text := ["AddAttribute"]

/-- The methods that take markup. -/
def markupBuilders : List Text := ["AddMarkupContent"]

/-- The attributes that hold class names, in small letters. -/
def classAttributes : List Text := ["class", "cssclass"]

namespace CSharp.Call

/-- The text of the argument at a place, if it is a string literal. -/
def stringArgument? (call : Call) (place : Nat) : Option Text :=
  call.arguments[place]?.bind Argument.stringValue?

/-! ## Shapes -/

/-- Whether a call builds a class attribute. -/
def isAttribute (call : Call) : Bool :=
  call.memberAccess && attributeBuilders.contains call.name && call.arguments.length == 3 &&
    (call.stringArgument? 1).any fun name => classAttributes.contains name.lower

/-- Whether a call takes markup as a literal. -/
def isMarkup (call : Call) : Bool :=
  call.memberAccess && markupBuilders.contains call.name && call.arguments.length == 2 &&
    (call.stringArgument? 1).isSome

/-- Whether a call gives a literal to one of some helpers. -/
def isHelper (helpers : List Text) (call : Call) : Bool :=
  helpers.contains call.name && call.arguments.length == 1 && (call.stringArgument? 0).isSome

/-- The shape of a call; the first that fits counts. -/
def shape? (helpers : List Text) (call : Call) : Option CallShape :=
  if call.isAttribute then some .attribute
  else if call.isMarkup then some .markup
  else if call.isHelper helpers then some .helper
  else none

/-! ## Literals -/

/-- The class attribute that a call supplies: its third argument, or its only one. -/
def attributeLiteral? (call : Call) : Option Text :=
  call.stringArgument? (if call.arguments.length = 1 then 0 else 2)

/-- The markup that a call supplies: its second argument. -/
def markupLiteral? (call : Call) : Option Text :=
  call.stringArgument? 1

/-- The class names that a call of a helper supplies: its first argument. -/
def helperLiteral? (call : Call) : Option Text :=
  call.stringArgument? 0

variable {m : Type → Type} [Monad m]

/-- The class names that are found in the markup of a call, if it has markup. -/
def markupLiterals? (find : Text → m (List Text)) (call : Call) : m (Option (List Text)) :=
  match call.markupLiteral? with
  | none => return none
  | some markup => return some (← find markup)

/-- The class names that a call supplies, if it supplies any. -/
def literals? (find : Text → m (List Text)) (helpers : List Text) (call : Call) :
    m (Option (List Text)) :=
  match call.shape? helpers with
  | some .attribute => return call.attributeLiteral?.map ([·])
  | some .markup => call.markupLiterals? find
  | some .helper => return call.helperLiteral?.map ([·])
  | none => return none

end CSharp.Call
end ClassHarvest
