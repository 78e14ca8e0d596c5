import ClassHarvest.Proofs.CSharp.Reading
import ClassHarvest.Proofs.CSharp.Units
import ClassHarvest.Scan.Scanner

/-!
# Calls without literals

A call with no literal among its arguments gives a scanner nothing to find.  A source text is read
as a unit with one class when it has one class in a namespace and otherwise only such calls.
-/

namespace ClassHarvest.CSharp

/-! ## Nodes -/

/-- A call that has no literal among its arguments, nor has any call inside it. -/
inductive Node.IsSilent : Node → Prop
  /-- The arguments are expressions, and what they enclose is silent. -/
  | invocation {line : Nat} {callee : Callee} {arguments : List ArgumentSpan} {children : List Node}
      (plain : ∀ argument ∈ arguments, argument.form = .expression)
      (inside : ∀ node ∈ children, node.IsSilent) :
      IsSilent (.invocation line callee arguments children)

theorem Node.IsSilent.children {node : Node} (silent : node.IsSilent) :
    ∀ child ∈ node.children, child.IsSilent := by
  cases silent with
  | invocation _ inside => exact inside

theorem Node.isSilent_singleton {line : Nat} {callee : Callee} {arguments : List ArgumentSpan}
    {children : List Node} (plain : ∀ argument ∈ arguments, argument.form = .expression)
    (inside : ∀ node ∈ children, node.IsSilent) :
    ∀ node ∈ [Node.invocation line callee arguments children], node.IsSilent := by
  rw [List.forall_mem_singleton]
  exact .invocation plain inside

/-! ## Reading silent nodes -/

namespace Grammar

/-- A rule reads phrases of silent nodes from some tokens on, up to where it refuses. -/
def Silently (rule : Rule Phrase) (tokens rest : List Token) : Prop :=
  ∀ stop, ∃ phrases after, (∀ node ∈ phrases.flatMap Phrase.nodes, node.IsSilent) ∧
    Repeats rule ⟨tokens, stop⟩ phrases ⟨rest, after⟩

namespace Silently

variable {rule : Rule Phrase} {tokens middle rest : List Token}

theorem stop (refuses : ∀ stop, rule.run ⟨rest, stop⟩ = none) : Silently rule rest rest :=
  fun stop => ⟨[], stop, List.forall_mem_nil _, .stop (refuses stop)⟩

theorem more
    (reads : ∀ stop, ∃ read after, (∀ node ∈ read.nodes, node.IsSilent) ∧
      rule.run ⟨tokens, stop⟩ = some (read, ⟨middle, after⟩))
    (shorter : middle.length < tokens.length) (behind : Silently rule middle rest) :
    Silently rule tokens rest := by
  intro stop
  obtain ⟨read, later, silent, runs⟩ := reads stop
  obtain ⟨phrases, after, silent', repeats⟩ := behind later
  refine ⟨read :: phrases, after, ?_, .more runs shorter repeats⟩
  rw [List.flatMap_cons, List.forall_mem_append]
  exact ⟨silent, silent'⟩

end Silently
end Grammar

/-! ## Walking through silent nodes -/

variable {nameOf : Span → Text} {source : Array CodePoint} {path : Text}

/-- The nodes that wait for a visit are silent. -/
def AllSilent (entries : List (Node × Text)) : Prop :=
  ∀ entry ∈ entries, entry.1.IsSilent

theorem allSilent_inScope {nodes : List Node} (silent : ∀ node ∈ nodes, node.IsSilent)
    (outer current : Text) : AllSilent (inScope nameOf outer current nodes) := by
  induction nodes with
  | nil =>
      intro entry mem
      cases mem
  | cons node nodes ih =>
      have behind := ih fun other mem => silent other (List.mem_cons_of_mem _ mem)
      cases silent node List.mem_cons_self with
      | invocation plain inside =>
          intro entry mem
          rcases List.mem_cons.mp mem with rfl | mem
          · exact .invocation plain inside
          · exact behind entry mem

theorem allSilent_visit {pending : List (Node × Text)} (silent : AllSilent pending) :
    AllSilent (visit nameOf pending) := by
  induction pending using visit.induct nameOf with
  | case1 =>
      rw [visit]
      exact silent
  | case2 entry pending ih =>
      have isSilent := silent entry List.mem_cons_self
      rw [visit]
      intro other mem
      rcases List.mem_cons.mp mem with rfl | mem
      · exact isSilent
      · refine ih (fun next isNext => ?_) other mem
        rcases List.mem_append.mp isNext with inside | waits
        · exact allSilent_inScope isSilent.children _ _ next inside
        · exact silent next (List.mem_cons_of_mem entry waits)

/-! ## Calls -/

/-- A call has no literal among its arguments. -/
def Call.IsSilent (call : Call) : Prop :=
  ∀ argument ∈ call.arguments, argument.form = .expression

theorem Call.IsSilent.stringArgument? {call : Call} (silent : call.IsSilent) (place : Nat) :
    call.stringArgument? place = none := by
  unfold Call.stringArgument?
  cases isArgument : call.arguments[place]? with
  | none => rfl
  | some argument =>
      rw [Option.bind_some, Argument.stringValue?,
        silent argument (List.mem_of_getElem? isArgument)]

theorem mapM_ofSpan_silent {arguments : List ArgumentSpan}
    (plain : ∀ argument ∈ arguments, argument.form = .expression) :
    arguments.mapM (Argument.ofSpan source) =
      .ok (arguments.map fun argument => ⟨.expression, argument.span.text source, none⟩) := by
  induction arguments with
  | nil => rfl
  | cons argument arguments ih =>
      have first : Argument.ofSpan source argument =
          .ok ⟨.expression, argument.span.text source, none⟩ := by
        unfold Argument.ofSpan
        rw [plain argument List.mem_cons_self]
        rfl
      rw [List.mapM_cons, first, ih fun other mem => plain other (List.mem_cons_of_mem _ mem)]
      rfl

/-- A silent node declares no class and is read as a silent call. -/
theorem exists_callOf_silent {entry : Node × Text} (silent : entry.1.IsSilent) :
    declarationOf source path entry = none ∧
      ∃ call : Call, callOf source path entry = .ok (some call) ∧ call.IsSilent := by
  obtain ⟨node, space⟩ := entry
  cases silent with
  | @invocation line callee arguments children plain inside =>
      have forms : ∀ argument ∈ arguments.map fun argument =>
          (⟨.expression, argument.span.text source, none⟩ : Argument),
          argument.form = .expression := by
        rw [List.forall_mem_map]
        exact fun _ _ => rfl
      refine ⟨rfl, ?_⟩
      unfold callOf Call.ofInvocation
      simp only [mapM_ofSpan_silent plain]
      cases callee with
      | member target name => exact ⟨_, rfl, forms⟩
      | other text => exact ⟨_, rfl, forms⟩

theorem exists_calls_silent {entries : List (Node × Text)} (silent : AllSilent entries) :
    entries.filterMap (declarationOf source path) = [] ∧
      ∃ calls, entries.mapM (callOf source path) = .ok calls ∧
        ∀ call ∈ calls.filterMap id, call.IsSilent := by
  induction entries with
  | nil => exact ⟨rfl, [], rfl, List.forall_mem_nil _⟩
  | cons entry entries ih =>
      obtain ⟨noDeclaration, call, isCall, quiet⟩ :=
        @exists_callOf_silent source path entry (silent entry List.mem_cons_self)
      obtain ⟨noOther, calls, areCalls, allQuiet⟩ :=
        ih fun other mem => silent other (List.mem_cons_of_mem _ mem)
      refine ⟨?_, some call :: calls, ?_, ?_⟩
      · rw [List.filterMap_cons, noDeclaration, noOther]
      · rw [List.mapM_cons, isCall, areCalls]
        rfl
      · change ∀ other ∈ call :: calls.filterMap id, other.IsSilent
        exact List.forall_mem_cons.mpr ⟨quiet, allQuiet⟩

/-! ## Units -/

/-- A text with one class in a namespace, in which otherwise only silent nodes are. -/
theorem SourceUnit.exists_read {text : Text} {space own : Span} {line : Nat} {spans : List Span}
    {nodes : List Node}
    (parsed : parse? text = some [.namespaceBlock space [.classDeclaration line own spans nodes]])
    (silent : ∀ node ∈ nodes, node.IsSilent) (path hash : Text) :
    ∃ unit, SourceUnit.read path hash text = .ok unit ∧
      unit.declarations = [⟨own.text text.toArray, (space.text text.toArray).withoutSpace,
        spans.map (Span.text · text.toArray), coveringText text.toArray spans, path, line⟩] ∧
      ∀ call ∈ unit.calls, call.IsSilent := by
  let nameOf (span : Span) : Text := (span.text text.toArray).withoutSpace
  let inside := visit nameOf (inScope nameOf (nameOf space) (nameOf space) nodes)
  have entries : entriesOf text =
      (.namespaceBlock space [.classDeclaration line own spans nodes], nameOf space) ::
        (.classDeclaration line own spans nodes, nameOf space) :: inside := by
    rw [entriesOf, parsed]
    simp [visit, enclosed, inScope, Node.children, joinNamespace]
    exact ⟨rfl, rfl⟩
  have quiet : AllSilent inside := allSilent_visit (allSilent_inScope silent _ _)
  obtain ⟨noDeclaration, calls, areCalls, allQuiet⟩ :=
    @exists_calls_silent text.toArray path inside quiet
  rw [SourceUnit.read_eq, entries, List.mapM_cons, List.mapM_cons, areCalls]
  refine ⟨_, rfl, ?_, allQuiet⟩
  change _ :: inside.filterMap _ = _
  rw [noDeclaration]

end ClassHarvest.CSharp

/-! ## Scanners -/

namespace ClassHarvest.Scan.Scanner

open CSharp Pattern

/-- No scanner reads a silent call: each asks for a literal somewhere among the arguments. -/
theorem matches_silent {call : Call} (silent : call.IsSilent) (scanner : Scanner)
    (settings : RunSettings) : scanner.matches settings call = false := by
  have noLiteral := silent.stringArgument?
  cases subject : scanner.subject <;>
    simp [Scanner.matches, subject, Call.isAttribute, Call.isMarkup, Call.isHelper, noLiteral]

/-- In a unit with silent calls alone a scanner finds nothing, and reports nothing. -/
theorem scanUnit_silent {unit : SourceUnit} (silent : ∀ call ∈ unit.calls, call.IsSilent)
    (scanner : Scanner) (settings : RunSettings) (signal : Signal) :
    scanner.scanUnit settings signal unit = pure [] := by
  have nothing : ∀ calls : List Call, (∀ call ∈ calls, call.IsSilent) →
      calls.mapM (scanner.scanCall settings signal unit) = pure (calls.map fun _ => none) := by
    intro calls silent
    induction calls with
    | nil => rfl
    | cons call calls ih =>
        have first : scanner.scanCall settings signal unit call = pure none := by
          rw [scanCall, matches_silent (silent call List.mem_cons_self)]
          rfl
        rw [List.mapM_cons, first, ih fun other mem => silent other (List.mem_cons_of_mem _ mem)]
        rfl
  rw [scanUnit, nothing _ silent, pure_bind, List.filterMap_map]
  exact congrArg pure (List.filterMap_eq_nil_iff.mpr fun _ _ => rfl)

end ClassHarvest.Scan.Scanner
