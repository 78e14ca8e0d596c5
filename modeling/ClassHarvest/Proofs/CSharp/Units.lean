import ClassHarvest.CSharp.SourceUnit

/-!
# The characters of source units

The names, namespaces and modifiers of the classes in a source unit consist of characters of the
source text and of dots, and calls and declarations bear the path of the unit.
-/

namespace ClassHarvest.CSharp

variable {P : CodePoint → Prop}

theorem mem_of_mem_text {span : Span} {source : Array CodePoint} {c : CodePoint}
    (mem : c ∈ span.text source) : c ∈ source.toList := by
  unfold Span.text at mem
  rw [Array.toList_extract, List.extract_eq_take_drop] at mem
  exact List.mem_of_mem_drop (List.mem_of_mem_take mem)

/-- A stretch of a text is found by its length and by what stands before it. -/
theorem Span.text_append {front t behind : Text} {span : Span} (starts : span.start = front.length)
    (stops : span.stop = front.length + t.length) :
    span.text (front ++ t ++ behind).toArray = t := by
  rw [Span.text, starts, stops, Array.toList_extract, List.extract_eq_take_drop]
  simp

theorem coveringText_append {front t behind : Text} {spans : List Span}
    (starts : spans.head?.map (·.start) = some front.length)
    (stops : spans.getLast?.map (·.stop) = some (front.length + t.length)) :
    coveringText (front ++ t ++ behind).toArray spans = t := by
  obtain ⟨first, isFirst, starts⟩ := Option.map_eq_some_iff.mp starts
  obtain ⟨last, isLast, stops⟩ := Option.map_eq_some_iff.mp stops
  rw [coveringText, isFirst, isLast]
  exact Span.text_append starts stops

theorem of_mem_joinNamespace (dot : P '.') {outer inner : Text} (ofOuter : ∀ c ∈ outer, P c)
    (ofInner : ∀ c ∈ inner, P c) : ∀ c ∈ joinNamespace outer inner, P c := by
  unfold joinNamespace
  intro c mem
  split at mem
  · exact ofInner c mem
  split at mem
  · exact ofOuter c mem
  · rcases List.mem_append.mp mem with mem | mem
    · exact ofOuter c mem
    · rcases List.mem_cons.mp mem with rfl | mem
      · exact dot
      · exact ofInner c mem

/-! ## Namespaces on the walk through a tree -/

/-- The namespaces of nodes have only characters of some kind. -/
def NamespacesAll (P : CodePoint → Prop) (entries : List (Node × Text)) : Prop :=
  ∀ entry ∈ entries, ∀ c ∈ entry.2, P c

section

variable {nameOf : Span → Text}

theorem namespacesAll_inScope (dot : P '.') (names : ∀ span, ∀ c ∈ nameOf span, P c)
    {outer current : Text} (ofOuter : ∀ c ∈ outer, P c) (ofCurrent : ∀ c ∈ current, P c)
    (nodes : List Node) : NamespacesAll P (inScope nameOf outer current nodes) := by
  induction nodes generalizing current with
  | nil =>
      intro entry mem
      cases mem
  | cons node rest ih =>
      intro entry mem
      cases node with
      | namespaceHeader name =>
          have joined := of_mem_joinNamespace dot ofOuter (names name)
          rcases List.mem_cons.mp mem with rfl | mem
          · exact joined
          · exact ih joined entry mem
      | namespaceBlock name children =>
          rcases List.mem_cons.mp mem with rfl | mem
          · exact of_mem_joinNamespace dot ofCurrent (names name)
          · exact ih ofCurrent entry mem
      | _ =>
          rcases List.mem_cons.mp mem with rfl | mem
          · exact ofCurrent
          · exact ih ofCurrent entry mem

theorem namespacesAll_visit (dot : P '.') (names : ∀ span, ∀ c ∈ nameOf span, P c)
    (pending : List (Node × Text)) (all : NamespacesAll P pending) :
    NamespacesAll P (visit nameOf pending) := by
  induction pending using visit.induct nameOf with
  | case1 =>
      rw [visit]
      exact all
  | case2 entry pending ih =>
      rw [visit]
      have ofEntry : ∀ c ∈ entry.2, P c := all entry List.mem_cons_self
      intro other mem
      rcases List.mem_cons.mp mem with rfl | mem
      · exact ofEntry
      · apply ih _ other mem
        intro next isNext
        rcases List.mem_append.mp isNext with inside | waits
        · exact namespacesAll_inScope dot names ofEntry ofEntry _ next inside
        · exact all next (List.mem_cons_of_mem entry waits)

end

/-! ## Declarations -/

/-- The texts of a declaration have only characters of some kind. -/
structure Declaration.All (P : CodePoint → Prop) (declaration : Declaration) : Prop where
  name : ∀ c ∈ declaration.name, P c
  «namespace» : ∀ c ∈ declaration.namespace, P c
  modifierText : ∀ c ∈ declaration.modifierText, P c

theorem declarationOf_all {source : Array CodePoint} (chars : ∀ c ∈ source.toList, P c)
    {path : Text} {entry : Node × Text} (space : ∀ c ∈ entry.2, P c) {declaration : Declaration}
    (declared : declarationOf source path entry = some declaration) :
    declaration.All P ∧ declaration.path = path := by
  unfold declarationOf at declared
  split at declared
  · cases declared
    constructor
    · constructor
      · intro c mem
        exact chars c (mem_of_mem_text mem)
      · exact space
      · intro c mem
        unfold coveringText at mem
        split at mem
        · exact chars c (mem_of_mem_text mem)
        · cases mem
    · rfl
  · cases declared

/-- The nodes of a source text with their namespaces, in the order in which they are visited. -/
def entriesOf (source : Text) : List (Node × Text) :=
  let nameOf (span : Span) : Text := (span.text source.toArray).withoutSpace
  visit nameOf (inScope nameOf [] [] ((parse? source).getD []))

theorem SourceUnit.read_eq (path hash source : Text) :
    SourceUnit.read path hash source =
      ((entriesOf source).mapM (callOf source.toArray path)).map fun calls =>
        ⟨path, hash, calls.filterMap id,
          (entriesOf source).filterMap (declarationOf source.toArray path)⟩ := by
  unfold SourceUnit.read SourceUnit.ofNodes
  change ((entriesOf source).mapM (callOf source.toArray path) >>= fun calls => .ok _) = _
  cases (entriesOf source).mapM (callOf source.toArray path) <;> rfl

theorem SourceUnit.read_eq_ok {path hash source : Text} {unit : SourceUnit}
    (read : SourceUnit.read path hash source = .ok unit) :
    unit.path = path ∧
      unit.declarations = (entriesOf source).filterMap (declarationOf source.toArray path) := by
  rw [SourceUnit.read_eq] at read
  cases calls : (entriesOf source).mapM (callOf source.toArray path) with
  | error error =>
      rw [calls] at read
      cases read
  | ok calls' =>
      rw [calls] at read
      cases read
      exact ⟨rfl, rfl⟩

theorem namespacesAll_entriesOf (dot : P '.') {source : Text} (chars : ∀ c ∈ source, P c) :
    NamespacesAll P (entriesOf source) := by
  have names (span : Span) : ∀ c ∈ (span.text source.toArray).withoutSpace, P c := by
    intro c mem
    have inSource := mem_of_mem_text (List.mem_filter.mp mem).1
    exact chars c (by simpa using inSource)
  apply namespacesAll_visit dot names
  apply namespacesAll_inScope dot names <;> simp

/-- The declarations of a source unit. -/
theorem SourceUnit.declarations_all (dot : P '.') {path hash source : Text} {unit : SourceUnit}
    (chars : ∀ c ∈ source, P c) (read : SourceUnit.read path hash source = .ok unit) :
    ∀ declaration ∈ unit.declarations, declaration.All P ∧ declaration.path = path := by
  intro declaration mem
  rw [(SourceUnit.read_eq_ok read).2] at mem
  obtain ⟨entry, isEntry, declared⟩ := List.mem_filterMap.mp mem
  have inSource : ∀ c ∈ source.toArray.toList, P c := by simpa using chars
  exact declarationOf_all inSource (namespacesAll_entriesOf dot chars entry isEntry) declared

end ClassHarvest.CSharp
