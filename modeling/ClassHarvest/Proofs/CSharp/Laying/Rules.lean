import ClassHarvest.Proofs.CSharp.Nesting
import ClassHarvest.Proofs.CSharp.Order
import ClassHarvest.Proofs.CSharp.Reading

/-!
# Rules lay out nodes

A rule reads tokens from the front, and the nodes of what it gives stand in the tokens that it
reads, in their order.  Both are classes of rules with an instance for every way to build a rule, so
that they are found for a rule of the grammar along its text.
-/

namespace ClassHarvest.CSharp.Grammar

variable {α β γ : Type}

/-! ## What a rule reads -/

/-- Between two readings some tokens are read. -/
structure Takes (reading : Reading) (read : List Token) (after : Reading) : Prop where
  rest : reading.rest = read ++ after.rest
  stop : after.stop = (read.getLast?.map (·.place.stop)).getD reading.stop

theorem Takes.refl (reading : Reading) : Takes reading [] reading :=
  ⟨rfl, rfl⟩

theorem Takes.trans {first second third : Reading} {read more : List Token}
    (begins : Takes first read second) (goesOn : Takes second more third) :
    Takes first (read ++ more) third := by
  constructor
  · rw [begins.rest, goesOn.rest, List.append_assoc]
  · rw [goesOn.stop, begins.stop, List.getLast?_append]
    cases more.getLast? <;> rfl

/-- A rule reads tokens that are related to what it gives. -/
def Reads (P : α → List Token → Prop) (rule : Rule α) : Prop :=
  ∀ ⦃reading value after⦄, rule.run reading = some (value, after) →
    ∃ read, Takes reading read after ∧ P value read

namespace Reads

variable {P Q : α → List Token → Prop} {R : β → List Token → Prop} {rule other : Rule α}

theorem mono (reads : Reads P rule) (weaker : ∀ value read, P value read → Q value read) :
    Reads Q rule := by
  intro reading value after runs
  obtain ⟨read, takes, holds⟩ := reads runs
  exact ⟨read, takes, weaker value read holds⟩

/-- What is read is determined, so that two relations to it hold of the same tokens. -/
theorem and (first : Reads P rule) (second : Reads Q rule) :
    Reads (fun value read => P value read ∧ Q value read) rule := by
  intro reading value after runs
  obtain ⟨read, takes, holds⟩ := first runs
  obtain ⟨read', takes', holds'⟩ := second runs
  have same : read = read' := List.append_cancel_right (takes.rest.symm.trans takes'.rest)
  exact ⟨read, takes, holds, same ▸ holds'⟩

theorem pure {value : α} (holds : P value []) : Reads P (pure value : Rule α) := by
  intro reading _ _ runs
  cases runs
  exact ⟨[], .refl reading, holds⟩

theorem bind {next : α → Rule β} (first : Reads P rule)
    (second : ∀ value, Reads (fun result more => ∀ read, P value read → R result (read ++ more))
      (next value)) : Reads R (rule >>= next) := by
  intro reading result after runs
  rw [run_bind] at runs
  obtain ⟨⟨value, later⟩, begins, goesOn⟩ := Option.bind_eq_some_iff.mp runs
  obtain ⟨read, takes, holds⟩ := first begins
  obtain ⟨more, takes', holds'⟩ := second value goesOn
  exact ⟨read ++ more, takes.trans takes', holds' read holds⟩

theorem failure : Reads P (failure : Rule α) := by
  intro _ _ _ runs
  cases runs

theorem orElse (first : Reads P rule) (second : Reads P other) : Reads P (rule <|> other) := by
  intro reading _ _ runs
  rw [run_orElse, Option.or_eq_some_iff] at runs
  rcases runs with runs | ⟨-, runs⟩
  · exact first runs
  · exact second runs

theorem next : Reads (fun token read => read = [token]) next := by
  intro reading token after runs
  obtain ⟨_ | ⟨first, rest⟩, stop⟩ := reading
  · cases runs
  · cases runs
    exact ⟨[_], ⟨rfl, rfl⟩, rfl⟩

/-- The rule that reads furthest is one of the rules. -/
theorem furthest {rules : List (Rule α)} (all : ∀ rule ∈ rules, Reads P rule) :
    Reads P (furthest rules) := by
  intro reading value after runs
  have holds := List.foldlRecOn (motive := fun best => ∀ found, best = some found →
      ∃ read, Takes reading read found.2 ∧ P found.1 read) rules
    (fun best rule => match best, rule.run reading with
      | some (_, old), some (value, new) => if old.stop < new.stop then some (value, new) else best
      | none, found => found
      | some _, none => best) (b := none) nofun ?_
  · exact holds _ runs
  intro best holds rule isRule found isFound
  split at isFound
  · split at isFound
    · cases isFound
      exact all rule isRule ‹_›
    · exact holds found isFound
  · exact all rule isRule isFound
  · exact holds found isFound

end Reads

/-! ## Rules that read from the front -/

/-- A rule reads from the front. -/
class Forward (rule : Rule α) : Prop where
  reads : Reads (fun _ _ => True) rule

/-- A rule reads from the front, and at least one token. -/
class Advances (rule : Rule α) : Prop where
  reads : Reads (fun _ read => read ≠ []) rule

section

variable {x y : Rule α} {z : Rule β} {f : α → Rule β}

theorem Forward.bind [first : Forward x] (second : ∀ value, Forward (f value)) :
    Forward (x >>= f) :=
  ⟨first.reads.bind fun value => (second value).reads.mono fun _ _ _ _ _ => trivial⟩

instance forward_pure (value : α) : Forward (pure value : Rule α) :=
  ⟨.pure trivial⟩

instance forward_bind [Forward x] [second : ∀ value, Forward (f value)] : Forward (x >>= f) :=
  .bind second

instance forward_failure : Forward (failure : Rule α) :=
  ⟨.failure⟩

instance forward_orElse [first : Forward x] [second : Forward y] : Forward (x <|> y) :=
  ⟨first.reads.orElse second.reads⟩

instance forward_ite {c : Prop} [Decidable c] [Forward x] [Forward y] :
    Forward (if c then x else y) := by
  split <;> assumption

instance forward_map {g : α → β} [Forward x] : Forward (g <$> x) := by
  rw [map_eq_pure_bind]
  infer_instance

instance forward_discard [Forward x] : Forward (discard x : Rule Unit) :=
  forward_map

instance forward_seqRight [Forward x] [Forward z] : Forward (x *> z) :=
  inferInstanceAs (Forward (x >>= fun _ => z))

instance forward_seqLeft [Forward x] [Forward z] : Forward (x <* z) :=
  inferInstanceAs (Forward (x >>= fun value => z >>= fun _ => pure value))

instance forward_get : Forward (get : Rule Reading) := by
  constructor
  intro reading _ _ runs
  cases runs
  exact ⟨[], .refl reading, trivial⟩

instance (priority := low) forward_of_advances [advances : Advances x] : Forward x :=
  ⟨advances.reads.mono fun _ _ _ => trivial⟩

instance advances_next : Advances next := by
  refine ⟨Reads.next.mono fun token read same => ?_⟩
  rw [same]
  exact List.cons_ne_nil _ _

instance advances_bind [first : Advances x] [second : ∀ value, Forward (f value)] :
    Advances (x >>= f) :=
  ⟨first.reads.bind fun value => (second value).reads.mono fun _ _ _ _ some =>
    List.append_ne_nil_of_left_ne_nil some _⟩

instance (priority := low) advances_bind_later [first : Forward x]
    [second : ∀ value, Advances (f value)] : Advances (x >>= f) :=
  ⟨first.reads.bind fun value => (second value).reads.mono fun _ _ some _ _ =>
    List.append_ne_nil_of_right_ne_nil _ some⟩

instance advances_failure : Advances (failure : Rule α) :=
  ⟨.failure⟩

instance advances_orElse [first : Advances x] [second : Advances y] : Advances (x <|> y) :=
  ⟨first.reads.orElse second.reads⟩

instance advances_ite {c : Prop} [Decidable c] [Advances x] [Advances y] :
    Advances (if c then x else y) := by
  split <;> assumption

instance advances_discard [Advances x] : Advances (discard x : Rule Unit) := by
  change Advances ((fun _ => ()) <$> x)
  rw [map_eq_pure_bind]
  infer_instance

instance advances_seqRight [Advances x] [Forward z] : Advances (x *> z) :=
  inferInstanceAs (Advances (x >>= fun _ => z))

instance advances_seqLeft [Advances x] [Forward z] : Advances (x <* z) :=
  inferInstanceAs (Advances (x >>= fun value => z >>= fun _ => pure value))

end

/-! ## The tokens in front -/

section

variable {x : Rule α}

instance forward_peek : Forward peek := by
  unfold peek
  infer_instance

instance forward_peekAt (n : Nat) : Forward (peekAt n) := by
  unfold peekAt
  infer_instance

instance forward_skip (n : Nat) : Forward (skip n) := by
  induction n with
  | zero => exact forward_pure ()
  | succ n ih => exact forward_seqRight

theorem advances_skip {n : Nat} (pos : 0 < n) : Advances (skip n) := by
  cases n with
  | zero => exact absurd pos (Nat.lt_irrefl 0)
  | succ n => exact advances_seqRight

instance advances_accept (test : Token → Bool) : Advances (accept test) := by
  unfold accept
  infer_instance

instance advances_sign (text : String) : Advances (sign text) := by
  unfold sign
  infer_instance

instance advances_word (text : Text) : Advances (word text) := by
  unfold word
  infer_instance

instance forward_sees (test : Token → Bool) : Forward (sees test) := by
  unfold sees
  infer_instance

instance forward_seesSign (text : String) : Forward (seesSign text) := by
  unfold seesSign
  infer_instance

instance forward_seesWord (text : Text) : Forward (seesWord text) := by
  unfold seesWord
  infer_instance

instance forward_seesAt (n : Nat) (test : Token → Bool) : Forward (seesAt n test) := by
  unfold seesAt
  infer_instance

instance forward_skipSign (text : String) : Forward (skipSign text) := by
  unfold skipSign
  infer_instance

instance forward_skipWord (text : Text) : Forward (skipWord text) := by
  unfold skipWord
  infer_instance

instance forward_demand (condition : Bool) : Forward (demand condition) := by
  unfold demand
  infer_instance

instance forward_and (first second : Rule Bool) [Forward first] [Forward second] :
    Forward (first <&&> second) := by
  refine .bind (x := first) fun holds => ?_
  cases holds with
  | false => exact forward_pure false
  | true => assumption

instance forward_or (first second : Rule Bool) [Forward first] [Forward second] :
    Forward (first <||> second) := by
  refine .bind (x := first) fun holds => ?_
  cases holds with
  | false => assumption
  | true => exact forward_pure true

instance forward_attempt [Forward x] : Forward (attempt x) := by
  unfold attempt
  infer_instance

instance forward_repeatedly [Forward x] (bound : List Token) : Forward (repeatedly x bound) := by
  induction bound with
  | nil => exact forward_pure []
  | cons _ bound ih =>
      unfold repeatedly
      refine .bind fun found => ?_
      cases found <;> infer_instance

instance forward_many [Forward x] : Forward (many x) := by
  unfold many
  infer_instance

instance forward_commaSeparated [Forward x] : Forward (commaSeparated x) := by
  unfold commaSeparated
  infer_instance

instance advances_commaSeparated [Advances x] : Advances (commaSeparated x) := by
  unfold commaSeparated
  infer_instance

instance forward_commaEnded [Forward x] : Forward (commaEnded x) := by
  unfold commaEnded
  infer_instance

instance forward_here : Forward here := by
  unfold here
  refine .bind fun found => ?_
  cases found <;> infer_instance

instance forward_lastStop : Forward lastStop := by
  unfold lastStop
  infer_instance

instance forward_spanFrom (start : Nat) : Forward (spanFrom start) := by
  unfold spanFrom
  infer_instance

end

/-! ## Values with nodes -/

/-- Values with nodes in them. -/
class HasNodes (α : Type) where
  /-- The nodes in a value. -/
  nodes : α → List Node

open HasNodes (nodes)

instance hasNodes_node : HasNodes Node := ⟨fun node => [node]⟩

instance hasNodes_phrase : HasNodes Phrase := ⟨Phrase.nodes⟩

instance hasNodes_option [HasNodes α] : HasNodes (Option α) := ⟨fun found => found.elim [] nodes⟩

instance hasNodes_pair [HasNodes β] : HasNodes (α × β) := ⟨fun pair => nodes pair.2⟩

instance hasNodes_list [HasNodes α] : HasNodes (List α) := ⟨List.flatMap nodes⟩

instance (priority := 2000) hasNodes_nodes : HasNodes (List Node) := ⟨fun nodes => nodes⟩

instance (priority := 2000) hasNodes_lists : HasNodes (List (List Node)) := ⟨List.flatten⟩

/-- The nodes in a list of values are those of its values in order. -/
class ListsNodes (α : Type) [HasNodes α] [HasNodes (List α)] : Prop where
  nil : nodes ([] : List α) = []
  cons : ∀ (value : α) (values : List α), nodes (value :: values) = nodes value ++ nodes values

instance listsNodes_list [HasNodes α] : ListsNodes α := ⟨rfl, fun _ _ => rfl⟩

instance listsNodes_lists : ListsNodes (List Node) := ⟨rfl, fun _ _ => rfl⟩

/-! ## Rules that lay out their nodes -/

/-- Where nodes end and some tokens begin, other nodes take their place: they reach from where the
nodes begin to where the tokens end. -/
def Bears (front nodes : List Node) (read : List Token) : Prop :=
  ∀ ⦃lo mid hi : Nat⦄, Laid lo front mid → Ordered mid read hi → Laid lo nodes hi

namespace Bears

variable {front middle behind : List Node} {read more : List Token}

theorem skip (front : List Node) (read : List Token) : Bears front front read :=
  fun _ _ _ laid ordered => laid.mono (Nat.le_refl _) ordered.le

theorem trans (first : Bears front middle read) (second : Bears middle behind more) :
    Bears front behind (read ++ more) := by
  intro lo mid hi laid ordered
  obtain ⟨mid', before, after⟩ := Ordered.append_iff.mp ordered
  exact second (first laid before) after

theorem append (own : Bears [] middle read) : Bears front (front ++ middle) read := by
  intro lo mid hi laid ordered
  exact laid.append (own (.nil (Nat.le_refl _)) ordered)

end Bears

/-- A rule goes on with nodes: the nodes of what it gives are those and then what stands in the
tokens that it reads. -/
class Lays [HasNodes α] (rule : Rule α) (front : List Node) : Prop where
  reads : Reads (fun value read => Bears front (nodes value) read) rule

section

variable [HasNodes α] [HasNodes β] {x y : Rule α} {z : Rule β} {f : α → Rule β} {w : Rule γ}
  {front : List Node}

namespace Lays

theorem pure {value : α} (same : nodes value = front) : Lays (pure value) front := by
  refine ⟨.pure ?_⟩
  rw [same]
  exact .skip front []

/-- What has no nodes is passed over. -/
theorem pass {f : γ → Rule β} [first : Forward w] (second : ∀ value, Lays (f value) front) :
    Lays (w >>= f) front :=
  ⟨first.reads.bind fun value => (second value).reads.mono fun _ _ bears read _ =>
    (Bears.skip front read).trans bears⟩

/-- The nodes of what comes first are kept. -/
theorem keep [first : Lays x []] (second : ∀ value, Lays (f value) (front ++ nodes value)) :
    Lays (x >>= f) front :=
  ⟨first.reads.bind fun value => (second value).reads.mono fun _ _ bears _ own =>
    own.append.trans bears⟩

end Lays

instance lays_pure (front : List Node) : Lays (pure front) front :=
  .pure rfl

instance lays_pure_snd (value : γ) (front : List Node) : Lays (pure (value, front)) front :=
  .pure rfl

instance lays_pure_node (node : Node) : Lays (pure [node]) (nodes node) :=
  .pure rfl

instance (priority := 2000) lays_pure_bind {value : γ} {f : γ → Rule β} [Lays (f value) front] :
    Lays (pure value >>= f) front := by
  rwa [pure_bind]

instance (priority := 2000) lays_bind_first [Lays x []]
    [second : ∀ value, Lays (f value) (nodes value)] : Lays (x >>= f) [] :=
  .keep second

instance lays_bind [Lays x []] [second : ∀ value, Lays (f value) (front ++ nodes value)] :
    Lays (x >>= f) front :=
  .keep second

instance (priority := low) lays_bind_later {f : γ → Rule β} [Forward w]
    [second : ∀ value, Lays (f value) front] : Lays (w >>= f) front :=
  .pass second

instance lays_failure : Lays (failure : Rule α) front :=
  ⟨.failure⟩

instance lays_orElse [first : Lays x front] [second : Lays y front] : Lays (x <|> y) front :=
  ⟨first.reads.orElse second.reads⟩

instance lays_ite {c : Prop} [Decidable c] [Lays x front] [Lays y front] :
    Lays (if c then x else y) front := by
  split <;> assumption

instance lays_seqRight [Forward w] [Lays z front] : Lays (w *> z) front :=
  inferInstanceAs (Lays (w >>= fun _ => z) front)

instance lays_seqLeft [first : Lays x front] [second : Forward w] : Lays (x <* w) front := by
  refine ⟨first.reads.bind fun value => second.reads.bind fun _ => .pure ?_⟩
  intro read _ more bears
  rw [List.append_nil]
  exact bears.trans (.skip _ _)

instance lays_attempt [lays : Lays x []] : Lays (attempt x) [] := by
  constructor
  unfold attempt
  refine .orElse ?_ (.pure (.skip _ _))
  rw [map_eq_pure_bind]
  refine lays.reads.bind fun value => .pure fun read bears => ?_
  rwa [List.append_nil]

instance (priority := low) forward_of_lays [lays : Lays x []] : Forward x :=
  ⟨lays.reads.mono fun _ _ _ => trivial⟩

end

/-! ## Lists of values -/

section

variable [HasNodes α] [HasNodes (List α)] [ListsNodes α] {x : Rule α}

instance lays_pure_nil : Lays (pure ([] : List α)) [] :=
  .pure ListsNodes.nil

instance lays_repeatedly [Lays x []] (bound : List Token) : Lays (repeatedly x bound) [] := by
  induction bound with
  | nil => exact lays_pure_nil
  | cons _ bound ih =>
      unfold repeatedly
      refine .keep fun found => ?_
      cases found with
      | none => exact lays_pure_nil
      | some value => exact .keep fun values => .pure (ListsNodes.cons value values)

instance lays_many [Lays x []] : Lays (many x) [] := by
  unfold many
  infer_instance

instance lays_commaSeparated [Lays x []] : Lays (commaSeparated x) [] := by
  unfold commaSeparated
  exact .keep fun first => .keep fun more => .pure (ListsNodes.cons first more)

instance lays_commaEnded [Lays x []] : Lays (commaEnded x) [] := by
  unfold commaEnded
  refine .keep fun values => ?_
  have same : Lays (pure values) (nodes values) := .pure rfl
  change Lays _ (nodes values)
  dsimp only
  infer_instance

end

/-- Each of several rules lays out its nodes. -/
class AllLay [HasNodes α] (rules : List (Rule α)) : Prop where
  all : ∀ rule ∈ rules, Lays rule []

section

variable [HasNodes α] {rule : Rule α} {rules : List (Rule α)}

instance allLay_nil : AllLay ([] : List (Rule α)) :=
  ⟨List.forall_mem_nil _⟩

instance allLay_cons [first : Lays rule []] [others : AllLay rules] : AllLay (rule :: rules) :=
  ⟨List.forall_mem_cons.mpr ⟨first, others.all⟩⟩

instance lays_furthest [lays : AllLay rules] : Lays (furthest rules) [] :=
  ⟨.furthest fun rule isRule => (lays.all rule isRule).reads⟩

end

/-! ## Nodes around others -/

/-- A node that is no invocation may be put around nodes. -/
theorem lays_around {node : Node} (plain : node.invocation? = none) (front : List Node) :
    Lays (pure (front ++ [node])) (front ++ node.children) := by
  refine ⟨.pure fun lo mid hi laid ordered => ?_⟩
  obtain ⟨between, before, inside⟩ := Laid.append_iff.mp laid
  exact before.append (.plain plain inside (.nil ordered.le))

instance lays_pure_conditional (inside : List Node) :
    Lays (pure [Node.conditional inside]) inside :=
  lays_around rfl []

instance lays_pure_directive (inside : List Node) : Lays (pure (Node.conditional inside)) inside :=
  ⟨.pure fun _ _ _ laid ordered => .plain rfl laid (.nil ordered.le)⟩

instance lays_pure_append_conditional (front inside : List Node) :
    Lays (pure (front ++ [Node.conditional inside])) (front ++ inside) :=
  lays_around rfl front

instance lays_pure_namespaceBlock (name : Span) (inside : List Node) :
    Lays (pure [Node.namespaceBlock name inside]) inside :=
  lays_around rfl []

instance lays_pure_namespaceHeader (name : Span) : Lays (pure [Node.namespaceHeader name]) [] :=
  lays_around rfl []

instance lays_pure_classDeclaration (line : Nat) (name : Span) (modifiers : List Span)
    (inside : List Node) : Lays (pure [Node.classDeclaration line name modifiers inside]) inside :=
  lays_around rfl []

section

variable {rule : Rule (List Node)} [Lays rule []]

instance lays_branches (bound : List Token) : Lays (branches rule bound) [] := by
  induction bound with
  | nil => exact lays_failure
  | cons _ bound ih =>
      unfold branches
      infer_instance

instance lays_conditional : Lays (conditional rule) [] := by
  unfold conditional
  infer_instance

instance advances_conditional : Advances (conditional rule) := by
  unfold conditional
  infer_instance

end

end ClassHarvest.CSharp.Grammar
