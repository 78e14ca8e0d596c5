import ClassHarvest.Proofs.CSharp.Units

/-!
# Invocations in order

A syntax tree is laid out along the text: what stands in the callee of an invocation, what stands in
its arguments and what follows it stand one behind the other.  The walk through such a tree lists an
invocation in front of those in its callee, and otherwise follows the text.
-/

namespace ClassHarvest.CSharp

/-! ## Invocations -/

/-- An invocation in a source text. -/
structure Invocation where
  /-- The line on which it begins. -/
  line : Nat
  /-- What it invokes. -/
  callee : Callee
  /-- Its arguments in order. -/
  arguments : List ArgumentSpan

/-- The invocation that a node is, if it is one. -/
def Node.invocation? : Node → Option Invocation
  | .invocation line callee arguments _ => some ⟨line, callee, arguments⟩
  | _ => none

/-- Where a callee stands as a whole. -/
def Callee.span : Callee → Span
  | .member target name => ⟨target.start, name.stop⟩
  | .other text => text

/-- A stretch stands within another. -/
def Span.Within (inner outer : Span) : Prop :=
  outer.start ≤ inner.start ∧ inner.stop ≤ outer.stop

/-! ## Nodes along the text -/

/-- Nodes are laid out between two places, one behind the other. -/
inductive Laid : Nat → List Node → Nat → Prop
  /-- No node stands there. -/
  | nil {lo hi : Nat} (le : lo ≤ hi) : Laid lo [] hi
  /-- An invocation stands there: first its callee, then its arguments. -/
  | invocation {lo mid hi line : Nat} {callee : Callee} {arguments : List ArgumentSpan}
      {before inside rest : List Node} (begins : lo ≤ callee.span.start)
      (wide : callee.span.start < callee.span.stop)
      (ofCallee : Laid callee.span.start before callee.span.stop)
      (closes : callee.span.stop < mid) (ofArguments : Laid callee.span.stop inside mid)
      (behind : Laid mid rest hi) :
      Laid lo (.invocation line callee arguments (before ++ inside) :: rest) hi
  /-- Another node stands there, with what it encloses. -/
  | plain {lo mid hi : Nat} {node : Node} {rest : List Node} (plain : node.invocation? = none)
      (inside : Laid lo node.children mid) (behind : Laid mid rest hi) : Laid lo (node :: rest) hi

namespace Laid

variable {lo lo' mid hi hi' : Nat} {xs ys : List Node}

theorem le (laid : Laid lo xs hi) : lo ≤ hi := by
  induction laid with
  | nil le => exact le
  | invocation begins wide _ closes _ _ _ _ behind => omega
  | plain _ _ _ inside behind => omega

theorem mono (laid : Laid lo xs hi) (low : lo' ≤ lo) (high : hi ≤ hi') : Laid lo' xs hi' := by
  induction laid generalizing lo' hi' with
  | nil le => exact .nil (by omega)
  | invocation begins wide ofCallee closes ofArguments _ _ _ behind =>
      have first := Nat.le_trans low begins
      exact .invocation first wide ofCallee closes ofArguments (behind (Nat.le_refl _) high)
  | plain plain _ _ inside behind =>
      exact .plain plain (inside low (Nat.le_refl _)) (behind (Nat.le_refl _) high)

theorem append (first : Laid lo xs mid) (second : Laid mid ys hi) : Laid lo (xs ++ ys) hi := by
  induction first with
  | nil le => exact second.mono le (Nat.le_refl _)
  | invocation begins wide ofCallee closes ofArguments _ _ _ behind =>
      exact .invocation begins wide ofCallee closes ofArguments (behind second)
  | plain plain inside _ _ behind => exact .plain plain inside (behind second)

theorem append_iff : Laid lo (xs ++ ys) hi ↔ ∃ mid, Laid lo xs mid ∧ Laid mid ys hi := by
  constructor
  · intro laid
    induction xs generalizing lo with
    | nil => exact ⟨lo, .nil (Nat.le_refl _), laid⟩
    | cons node xs ih =>
        rw [List.cons_append] at laid
        cases laid with
        | invocation begins wide ofCallee closes ofArguments behind =>
            obtain ⟨mid, first, second⟩ := ih behind
            exact ⟨mid, .invocation begins wide ofCallee closes ofArguments first, second⟩
        | plain plain inside behind =>
            obtain ⟨mid, first, second⟩ := ih behind
            exact ⟨mid, .plain plain inside first, second⟩
  · rintro ⟨mid, first, second⟩
    exact first.append second

end Laid

/-! ## The walk through a tree -/

section

variable {nameOf : Span → Text}

theorem visit_append (xs ys : List (Node × Text)) :
    visit nameOf (xs ++ ys) = visit nameOf xs ++ visit nameOf ys := by
  induction xs using visit.induct nameOf with
  | case1 => rw [visit, List.nil_append, List.nil_append]
  | case2 entry pending ih =>
      rw [List.cons_append, visit, ← List.append_assoc, ih, visit, List.cons_append]

theorem map_fst_inScope (outer current : Text) (nodes : List Node) :
    (inScope nameOf outer current nodes).map (·.1) = nodes := by
  induction nodes generalizing current with
  | nil => rfl
  | cons node rest ih => cases node <;> simp [inScope, ih]

theorem map_fst_enclosed (entry : Node × Text) :
    (enclosed nameOf entry).map (·.1) = entry.1.children :=
  map_fst_inScope _ _ _

/-- The invocations that a walk comes to, in its order. -/
def invocationsIn (nameOf : Span → Text) (pending : List (Node × Text)) : List Invocation :=
  (visit nameOf pending).filterMap (·.1.invocation?)

theorem invocationsIn_append (xs ys : List (Node × Text)) :
    invocationsIn nameOf (xs ++ ys) = invocationsIn nameOf xs ++ invocationsIn nameOf ys := by
  rw [invocationsIn, visit_append, List.filterMap_append, invocationsIn, invocationsIn]

theorem invocationsIn_cons (entry : Node × Text) (pending : List (Node × Text)) :
    invocationsIn nameOf (entry :: pending) =
      entry.1.invocation?.toList ++ invocationsIn nameOf (enclosed nameOf entry) ++
        invocationsIn nameOf pending := by
  rw [List.append_assoc, ← invocationsIn_append, invocationsIn, visit, List.filterMap_cons]
  cases entry.1.invocation? <;> rfl

end

/-! ## Lists of invocations -/

/-- Of two invocations the second stands in the callee of the first or begins behind it. -/
def Invocation.Leads (first second : Invocation) : Prop :=
  second.callee.span.Within first.callee.span ∨ first.callee.span.stop ≤ second.callee.span.start

/-- Invocations whose callees stand between two places, where each leads those behind it. -/
structure Listed (lo hi : Nat) (found : List Invocation) : Prop where
  pairwise : found.Pairwise Invocation.Leads
  begins : ∀ invocation ∈ found, lo ≤ invocation.callee.span.start
  wide : ∀ invocation ∈ found, invocation.callee.span.start < invocation.callee.span.stop
  ends : ∀ invocation ∈ found, invocation.callee.span.stop < hi

namespace Listed

variable {lo mid hi : Nat} {xs ys : List Invocation}

theorem nil : Listed lo hi [] :=
  ⟨.nil, List.forall_mem_nil _, List.forall_mem_nil _, List.forall_mem_nil _⟩

theorem append (first : Listed lo mid xs) (second : Listed mid hi ys) (low : lo ≤ mid)
    (high : mid ≤ hi) : Listed lo hi (xs ++ ys) := by
  constructor
  · refine List.pairwise_append.mpr ⟨first.pairwise, second.pairwise, fun x isX y isY => .inr ?_⟩
    exact Nat.le_trans (Nat.le_of_lt (first.ends x isX)) (second.begins y isY)
  · rw [List.forall_mem_append]
    exact ⟨first.begins, fun y isY => Nat.le_trans low (second.begins y isY)⟩
  · rw [List.forall_mem_append]
    exact ⟨first.wide, second.wide⟩
  · rw [List.forall_mem_append]
    exact ⟨fun x isX => Nat.lt_of_lt_of_le (first.ends x isX) high, second.ends⟩

/-- Behind an invocation come those in its callee and then those in its arguments. -/
theorem invocation {own : Invocation} (begins : lo ≤ own.callee.span.start)
    (wide : own.callee.span.start < own.callee.span.stop) (closes : own.callee.span.stop < hi)
    (ofCallee : Listed own.callee.span.start own.callee.span.stop xs)
    (ofArguments : Listed own.callee.span.stop hi ys) : Listed lo hi (own :: (xs ++ ys)) := by
  have inside := ofCallee.append ofArguments (Nat.le_of_lt wide) (Nat.le_of_lt closes)
  constructor
  · refine List.pairwise_cons.mpr ⟨?_, inside.pairwise⟩
    rw [List.forall_mem_append]
    constructor
    · intro x isX
      exact .inl ⟨ofCallee.begins x isX, Nat.le_of_lt (ofCallee.ends x isX)⟩
    · intro y isY
      exact .inr (ofArguments.begins y isY)
  · rw [List.forall_mem_cons]
    exact ⟨begins, fun x isX => Nat.le_trans begins (inside.begins x isX)⟩
  · rw [List.forall_mem_cons]
    exact ⟨wide, inside.wide⟩
  · rw [List.forall_mem_cons]
    exact ⟨closes, inside.ends⟩

/-- Of two invocations whose callees end in some order, the one that ends first is listed first
unless it stands in the callee of the other. -/
theorem lt_iff (listed : Listed lo hi xs) {i j : Nat} {first second : Invocation}
    (isFirst : xs[i]? = some first) (isSecond : xs[j]? = some second)
    (apart : first.callee.span.stop < second.callee.span.stop) :
    i < j ↔ ¬ first.callee.span.Within second.callee.span := by
  obtain ⟨below, rfl⟩ := List.getElem?_eq_some_iff.mp isFirst
  obtain ⟨below', rfl⟩ := List.getElem?_eq_some_iff.mp isSecond
  have pairs := List.pairwise_iff_getElem.mp listed.pairwise
  have wide := listed.wide xs[i] (List.getElem_mem below)
  have wide' := listed.wide xs[j] (List.getElem_mem below')
  rcases Nat.lt_trichotomy i j with before | rfl | behind
  · refine iff_of_true before fun within => ?_
    rcases pairs i j below below' before with inside | after
    · exact Nat.not_le_of_lt apart inside.2
    · have := within.1
      omega
  · exact absurd apart (Nat.lt_irrefl _)
  · refine iff_of_false (Nat.not_lt_of_gt behind) (not_not_intro ?_)
    rcases pairs j i below' below behind with inside | after
    · exact inside
    · omega

end Listed

/-- The walk lists the invocations of a tree that is laid out along the text. -/
theorem Laid.listed {nameOf : Span → Text} {lo hi : Nat} {nodes : List Node}
    (laid : Laid lo nodes hi) (pending : List (Node × Text)) (same : pending.map (·.1) = nodes) :
    Listed lo hi (invocationsIn nameOf pending) := by
  induction laid generalizing pending with
  | nil =>
      cases List.map_eq_nil_iff.mp same
      rw [invocationsIn, visit]
      exact .nil
  | @invocation lo mid hi line callee arguments before inside rest begins wide _ closes _ behind
      ihCallee ihArguments ihBehind =>
      obtain ⟨entry, later, rfl, isNode, isRest⟩ := List.map_eq_cons_iff.mp same
      have children : (enclosed nameOf entry).map (·.1) = before ++ inside := by
        rw [map_fst_enclosed, isNode, Node.children]
      obtain ⟨front, back, isEnclosed, isBefore, isInside⟩ := List.map_eq_append_iff.mp children
      have own : Listed lo mid (⟨line, callee, arguments⟩ :: (invocationsIn nameOf front ++
          invocationsIn nameOf back)) :=
        .invocation begins wide closes (ihCallee front isBefore) (ihArguments back isInside)
      rw [invocationsIn_cons, isEnclosed, invocationsIn_append, isNode]
      exact own.append (ihBehind later isRest) (by omega) behind.le
  | plain plain inside behind ihInside ihBehind =>
      obtain ⟨entry, later, rfl, rfl, isRest⟩ := List.map_eq_cons_iff.mp same
      have own := ihInside (enclosed nameOf entry) (map_fst_enclosed entry)
      rw [invocationsIn_cons, plain, Option.toList_none, List.nil_append]
      exact own.append (ihBehind later isRest) inside.le behind.le

end ClassHarvest.CSharp
