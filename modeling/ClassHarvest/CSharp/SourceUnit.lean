import ClassHarvest.CSharp.Literal
import ClassHarvest.CSharp.Parse

/-!
# Source units

Of a source text two things matter: which methods it calls with which arguments, and which classes it
declares.  Both are listed in the order in which the syntax tree has them, a node before what it
encloses.
-/

namespace ClassHarvest.CSharp

/-- An argument of a call. -/
structure Argument where
  /-- What it is by its form. -/
  form : ArgumentForm
  /-- Its text in the source. -/
  text : Text
  /-- The text that a string literal denotes, or the text of another literal. -/
  value : Option Text
deriving DecidableEq, Repr

/-- The text that an argument denotes if it is a string literal. -/
def Argument.stringValue? (argument : Argument) : Option Text :=
  match argument.form with
  | .string => argument.value
  | _ => none

/-- A call of a method. -/
structure Call where
  /-- What is called. -/
  name : Text
  /-- Its arguments in order. -/
  arguments : List Argument
  /-- Whether a member of something is called. -/
  memberAccess : Bool
  /-- The text of what it is a member of. -/
  target : Option Text
  /-- The file in which it stands. -/
  path : Text
  /-- The line on which it begins. -/
  line : Nat
deriving DecidableEq, Repr

/-- A declaration of a class. -/
structure Declaration where
  /-- The name of the class. -/
  name : Text
  /-- The namespace around it. -/
  «namespace» : Text
  /-- Its modifiers in order. -/
  modifiers : List Text
  /-- The source text from its first to its last modifier. -/
  modifierText : Text
  /-- The file in which it stands. -/
  path : Text
  /-- The line on which it begins. -/
  line : Nat
deriving DecidableEq, Repr

/-- What is known of one source file. -/
structure SourceUnit where
  /-- The file. -/
  path : Text
  /-- The digest of its content. -/
  hash : Text
  /-- The calls in it. -/
  calls : List Call
  /-- The classes that it declares. -/
  declarations : List Declaration
deriving DecidableEq, Repr

/-! ## Namespaces -/

/-- A namespace within another; an absent one adds nothing. -/
def joinNamespace (outer inner : Text) : Text :=
  if outer.isEmpty then inner
  else if inner.isEmpty then outer
  else outer ++ ('.' : CodePoint) :: inner

/-- The nodes that a node in some namespace encloses, each with its own namespace.  A namespace header
counts for itself and for all that follow it, until the next header takes its place. -/
def inScope (nameOf : Span → Text) (outer : Text) : Text → List Node → List (Node × Text)
  | _, [] => []
  | current, node :: rest =>
    match node with
    | .namespaceHeader name =>
      let joined := joinNamespace outer (nameOf name)
      (node, joined) :: inScope nameOf outer joined rest
    | .namespaceBlock name _ =>
      (node, joinNamespace current (nameOf name)) :: inScope nameOf outer current rest
    | _ => (node, current) :: inScope nameOf outer current rest

/-- What a node in some namespace encloses. -/
def enclosed (nameOf : Span → Text) (entry : Node × Text) : List (Node × Text) :=
  inScope nameOf entry.2 entry.2 entry.1.children

/-! ## Walking a tree -/

/-- The size of the nodes that wait for a visit. -/
noncomputable def pendingSize : List (Node × Text) → Nat
  | [] => 0
  | entry :: rest => sizeOf entry.1 + pendingSize rest

theorem pendingSize_append (xs ys : List (Node × Text)) :
    pendingSize (xs ++ ys) = pendingSize xs + pendingSize ys := by
  induction xs with
  | nil => simp [pendingSize]
  | cons entry rest ih => simp only [List.cons_append, pendingSize, ih, Nat.add_assoc]

theorem pendingSize_inScope_le (nameOf : Span → Text) (outer current : Text) (nodes : List Node) :
    pendingSize (inScope nameOf outer current nodes) ≤ sizeOf nodes := by
  induction nodes generalizing current with
  | nil => simp [inScope, pendingSize]
  | cons node rest ih =>
    cases node <;>
    · simp only [inScope, pendingSize, List.cons.sizeOf_spec] at ih ⊢
      exact Nat.le_trans (Nat.add_le_add_left (ih _) _) (by omega)

theorem pendingSize_enclosed_lt (nameOf : Span → Text) (entry : Node × Text) :
    pendingSize (enclosed nameOf entry) < sizeOf entry.1 := by
  refine Nat.lt_of_le_of_lt (pendingSize_inScope_le nameOf _ _ _) ?_
  obtain ⟨node, outer⟩ := entry
  show sizeOf node.children < sizeOf node
  cases node with
  | namespaceHeader name =>
    have : 0 < sizeOf name := by cases name; rw [Span.mk.sizeOf_spec]; omega
    simpa [Node.children] using this
  | _ => simp [Node.children]; try omega

/-- The nodes that wait, each followed by all that it encloses, from left to right.  The walk keeps
its own stack, since syntax trees may be deep. -/
def visit (nameOf : Span → Text) : List (Node × Text) → List (Node × Text)
  | [] => []
  | entry :: pending => entry :: visit nameOf (enclosed nameOf entry ++ pending)
termination_by pending => pendingSize pending
decreasing_by
  rw [pendingSize_append]
  simp only [pendingSize]
  exact Nat.add_lt_add_right (pendingSize_enclosed_lt nameOf entry) _

/-! ## Calls and declarations -/

/-- The argument at a place in a source text. -/
def Argument.ofSpan (source : Array CodePoint) (argument : ArgumentSpan) :
    Except Literal.LiteralError Argument := do
  let text := argument.span.text source
  match argument.form with
  | .expression => return ⟨.expression, text, none⟩
  | .literal => return ⟨.literal, text, some text⟩
  | .string =>
    match ← Literal.decode text with
    | some value => return ⟨.string, text, some value⟩
    | none => return ⟨.expression, text, none⟩

/-- The call that an invocation makes. -/
def Call.ofInvocation (source : Array CodePoint) (path : Text) (line : Nat) (callee : Callee)
    (arguments : List ArgumentSpan) : Except Literal.LiteralError Call := do
  let arguments ← arguments.mapM (Argument.ofSpan source)
  match callee with
  | .member target name =>
    return ⟨name.text source, arguments, true, some (target.text source), path, line⟩
  | .other text => return ⟨text.text source, arguments, false, none, path, line⟩

/-- The stretch from the beginning of the first span to the end of the last. -/
def coveringText (source : Array CodePoint) (spans : List Span) : Text :=
  match spans.head?, spans.getLast? with
  | some first, some last => Span.text ⟨first.start, last.stop⟩ source
  | _, _ => []

/-- The call of a node, if it is an invocation. -/
def callOf (source : Array CodePoint) (path : Text) (entry : Node × Text) :
    Except Literal.LiteralError (Option Call) :=
  match entry.1 with
  | .invocation line callee arguments _ =>
    (Call.ofInvocation source path line callee arguments).map some
  | _ => .ok none

/-- The declaration of a node, if it is a class. -/
def declarationOf (source : Array CodePoint) (path : Text) (entry : Node × Text) :
    Option Declaration :=
  match entry.1 with
  | .classDeclaration line name modifiers _ =>
    some ⟨name.text source, entry.2, modifiers.map (Span.text · source),
      coveringText source modifiers, path, line⟩
  | _ => none

/-- What is known of a source file with some syntax tree. -/
def SourceUnit.ofNodes (path hash : Text) (source : Array CodePoint) (nodes : List Node) :
    Except Literal.LiteralError SourceUnit := do
  let nameOf (span : Span) : Text := (span.text source).withoutSpace
  let entries := visit nameOf (inScope nameOf [] [] nodes)
  let calls ← entries.mapM (callOf source path)
  return ⟨path, hash, calls.filterMap id, entries.filterMap (declarationOf source path)⟩

/-- What is known of a source file.  Of one whose syntax is not in order nothing is known. -/
def SourceUnit.read (path hash source : Text) : Except Literal.LiteralError SourceUnit :=
  SourceUnit.ofNodes path hash source.toArray ((parse? source).getD [])

end ClassHarvest.CSharp
