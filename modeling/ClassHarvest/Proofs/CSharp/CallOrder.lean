import ClassHarvest.CSharp.Parse
import ClassHarvest.Proofs.CSharp.Laying.Declarations

/-!
# The order of calls

The calls of a source unit are those of the invocations in its text, in the order of the walk.  Of two
invocations whose arguments begin one behind the other the first is listed first, unless it stands in
the callee of the second: a chain of calls is listed from its last call to its first.
-/

namespace ClassHarvest.CSharp

open Grammar

/-! ## The layout of source texts -/

instance orderly_rules (depth : Nat) : Orderly (rules depth) := by
  induction depth with
  | zero => exact ⟨fun _ => lays_failure⟩
  | succ depth ih =>
      constructor
      intro goal
      cases goal with
      | expression level lambda => exact lays_of_standing (x := expressionPhrase _ level lambda)
      | type value => exact lays_typePhrase
      | pattern => exact lays_patternPhrase
      | block => exact lays_blockPhrase
      | statement => exact lays_statementPhrase
      | declaration => exact lays_declarationPhrase
      | attributes => exact lays_attributesPhrase

/-- The tree of a source text is laid out along the text. -/
theorem exists_laid {source : Text} {nodes : List Node} (parsed : parse? source = some nodes) :
    ∃ hi, Laid 0 nodes hi := by
  obtain ⟨found, cut, parsed⟩ := Option.bind_eq_some_iff.mp parsed
  obtain ⟨⟨_, after⟩, runs, parsed⟩ := Option.bind_eq_some_iff.mp parsed
  dsimp only at parsed
  split at parsed
  · cases parsed
    obtain ⟨hi, ordered⟩ := ordered_tokens cut
    have laying : Lays (sourceText (rules (8 * source.length + 8))) [] := lays_sourceText
    obtain ⟨read, takes, bears⟩ := laying.reads runs
    have whole : found = read ++ after.rest := takes.rest
    rw [whole] at ordered
    obtain ⟨mid, own, -⟩ := Ordered.append_iff.mp ordered
    exact ⟨mid, bears (.nil (Nat.le_refl _)) own⟩
  · cases parsed

/-! ## Calls -/

/-- The call that an invocation makes. -/
def Invocation.call (source : Array CodePoint) (path : Text) (invocation : Invocation) :
    Except Literal.LiteralError Call :=
  Call.ofInvocation source path invocation.line invocation.callee invocation.arguments

/-- The invocations in a source text, in the order of the walk through its tree. -/
def invocationsOf (source : Text) : List Invocation :=
  (entriesOf source).filterMap (·.1.invocation?)

theorem callOf_eq (source : Array CodePoint) (path : Text) (entry : Node × Text) :
    callOf source path entry =
      match entry.1.invocation? with
      | some invocation => (invocation.call source path).map some
      | none => .ok none := by
  obtain ⟨node, space⟩ := entry
  cases node <;> rfl

/-- Nodes that are no invocations call nothing. -/
theorem mapM_callOf (source : Array CodePoint) (path : Text) (entries : List (Node × Text)) :
    (entries.mapM (callOf source path)).map (List.filterMap id) =
      (entries.filterMap (·.1.invocation?)).mapM (Invocation.call source path) := by
  induction entries with
  | nil => rfl
  | cons entry entries ih =>
      rw [List.mapM_cons, List.filterMap_cons, callOf_eq]
      cases entry.1.invocation? with
      | none =>
          dsimp only
          rw [← ih]
          cases entries.mapM (callOf source path) <;> rfl
      | some invocation =>
          dsimp only
          rw [List.mapM_cons, ← ih]
          cases invocation.call source path with
          | error error => rfl
          | ok call => cases entries.mapM (callOf source path) <;> rfl

theorem listed_invocationsOf (source : Text) : ∃ hi, Listed 0 hi (invocationsOf source) := by
  cases parsed : parse? source with
  | none =>
      refine ⟨0, ?_⟩
      rw [invocationsOf, entriesOf, parsed]
      simpa [inScope, visit] using Listed.nil
  | some nodes =>
      obtain ⟨hi, laid⟩ := exists_laid parsed
      refine ⟨hi, ?_⟩
      rw [invocationsOf, entriesOf, parsed]
      exact laid.listed _ (map_fst_inScope _ _ _)

end ClassHarvest.CSharp
