import ClassHarvest.CSharp.Grammar.Expressions
import ClassHarvest.Proofs.CSharp.Laying.Rules

/-!
# Phrases stand in their tokens

A phrase stands between the first and the last of the tokens that its rule reads, with its nodes in
it.  A rule that goes on with a phrase gives one that reaches from where the phrase begins to the
last token that the rule reads.
-/

namespace ClassHarvest.CSharp.Grammar

open HasNodes (nodes)

variable {α : Type}

/-! ## Shapes -/

/-- A shape that is no member access. -/
class Shape.Plain (shape : Shape) : Prop where
  notMember : ∀ target name, shape ≠ .member target name

instance plain_string : Shape.Plain .string := ⟨nofun⟩

instance plain_literal : Shape.Plain .literal := ⟨nofun⟩

instance plain_self : Shape.Plain .self := ⟨nofun⟩

instance plain_place : Shape.Plain .place := ⟨nofun⟩

instance plain_effect : Shape.Plain .effect := ⟨nofun⟩

instance plain_other : Shape.Plain .other := ⟨nofun⟩

/-- What is invoked by an expression that is no member access is the expression as a whole. -/
theorem span_calleeOf {phrase : Phrase} [plain : phrase.shape.Plain] :
    (calleeOf phrase).span = phrase.span := by
  unfold calleeOf
  split
  · rename_i target name isMember
    exact absurd isMember (plain.notMember target name)
  · rfl

/-- A rule gives plain shapes. -/
class ShapesPlainly (rule : Rule (Shape × List Node)) : Prop where
  plain : ∀ ⦃reading value after⦄, rule.run reading = some (value, after) → value.1.Plain

section

variable {x y : Rule (Shape × List Node)} {z : Rule α} {f : α → Rule (Shape × List Node)}

instance shapesPlainly_pure {shape : Shape} {inside : List Node} [plain : shape.Plain] :
    ShapesPlainly (pure (shape, inside)) := by
  constructor
  intro _ _ _ runs
  cases runs
  exact plain

instance shapesPlainly_bind [second : ∀ value, ShapesPlainly (f value)] :
    ShapesPlainly (z >>= f) := by
  constructor
  intro _ _ _ runs
  obtain ⟨found, -, goesOn⟩ := Option.bind_eq_some_iff.mp runs
  exact (second found.1).plain goesOn

instance shapesPlainly_orElse [first : ShapesPlainly x] [second : ShapesPlainly y] :
    ShapesPlainly (x <|> y) := by
  constructor
  intro _ _ _ runs
  rw [run_orElse, Option.or_eq_some_iff] at runs
  rcases runs with runs | ⟨-, runs⟩
  · exact first.plain runs
  · exact second.plain runs

instance shapesPlainly_ite {c : Prop} [Decidable c] [ShapesPlainly x] [ShapesPlainly y] :
    ShapesPlainly (if c then x else y) := by
  split <;> assumption

end

/-! ## Phrases -/

/-- A phrase stands between two places, with its nodes in it. -/
structure Phrase.Stands (phrase : Phrase) (lo hi : Nat) : Prop where
  begins : lo ≤ phrase.span.start
  wide : phrase.span.start < phrase.span.stop
  ends : phrase.span.stop ≤ hi
  nodes : Laid phrase.span.start phrase.nodes phrase.span.stop
  callee : (calleeOf phrase).span = phrase.span

theorem Phrase.Stands.mono {phrase : Phrase} {lo lo' hi hi' : Nat} (stands : phrase.Stands lo hi)
    (low : lo' ≤ lo) (high : hi ≤ hi') : phrase.Stands lo' hi' where
  begins := Nat.le_trans low stands.begins
  wide := stands.wide
  ends := Nat.le_trans stands.ends high
  nodes := stands.nodes
  callee := stands.callee

/-- A rule gives phrases that stand in the tokens that it reads. -/
class Standing (rule : Rule Phrase) : Prop where
  reads : Reads (fun phrase read => ∀ ⦃lo hi : Nat⦄, Ordered lo read hi → phrase.Stands lo hi) rule

section

variable {shape : Shape} {x : Rule (Shape × List Node)} {y : Rule (List Node)}

theorem exists_run_shaped {reading after : Reading} {found : Phrase}
    (runs : (shaped x).run reading = some (found, after)) :
    ∃ first rest shape nodes, reading.rest = first :: rest ∧
      x.run reading = some ((shape, nodes), after) ∧
      found = ⟨⟨first.place.start, after.stop⟩, first.place.line, shape, nodes⟩ := by
  obtain ⟨_ | ⟨first, rest⟩, stop⟩ := reading
  · cases runs
  · obtain ⟨⟨⟨shape, nodes⟩, later⟩, own, runs⟩ := Option.bind_eq_some_iff.mp runs
    cases runs
    exact ⟨first, rest, shape, nodes, rfl, own, rfl⟩

theorem phrase_eq_shaped (shape : Shape) (rule : Rule (List Node)) :
    phrase shape rule = shaped (do return (shape, ← rule)) := by
  simp [phrase, shaped]

instance lays_shaped [lays : Lays x []] : Lays (shaped x) [] := by
  constructor
  intro reading found after runs
  obtain ⟨first, rest, shape, nodes, -, own, rfl⟩ := exists_run_shaped runs
  exact lays.reads own

/-- The first token that is read is the one at which the phrase begins. -/
instance standing_shaped [lays : Lays x []] [advances : Advances x] [plain : ShapesPlainly x] :
    Standing (shaped x) := by
  constructor
  intro reading found after runs
  obtain ⟨first, rest, shape, nodes, isFirst, own, rfl⟩ := exists_run_shaped runs
  obtain ⟨read, takes, bears, some⟩ := (lays.reads.and advances.reads) own
  refine ⟨read, takes, fun lo hi ordered => ?_⟩
  obtain ⟨token, read, rfl⟩ := List.exists_cons_of_ne_nil some
  obtain ⟨rfl, -⟩ := List.cons.inj (isFirst.symm.trans takes.rest)
  obtain ⟨begins, last, isLast, wide, ends, tight⟩ := ordered.tight
  have stops : after.stop = last.place.stop := by
    rw [takes.stop, isLast]
    rfl
  have shapes := plain.plain own
  rw [stops]
  exact ⟨begins, wide, ends, bears (.nil (Nat.le_refl _)) tight, span_calleeOf⟩

instance lays_phrase [Lays y []] : Lays (phrase shape y) [] := by
  rw [phrase_eq_shaped]
  infer_instance

instance standing_phrase [Lays y []] [Advances y] [shape.Plain] : Standing (phrase shape y) := by
  rw [phrase_eq_shaped]
  infer_instance

end

section

variable {x y : Rule Phrase} {z : Rule α} {f : α → Rule Phrase}

instance standing_failure : Standing failure :=
  ⟨.failure⟩

instance standing_orElse [first : Standing x] [second : Standing y] : Standing (x <|> y) :=
  ⟨first.reads.orElse second.reads⟩

instance standing_ite {c : Prop} [Decidable c] [Standing x] [Standing y] :
    Standing (if c then x else y) := by
  split <;> assumption

theorem Standing.pass [first : Forward z] (second : ∀ value, Standing (f value)) :
    Standing (z >>= f) := by
  refine ⟨first.reads.bind fun value => (second value).reads.mono ?_⟩
  intro found more stands read _ lo hi ordered
  obtain ⟨mid, before, behind⟩ := Ordered.append_iff.mp ordered
  exact (stands behind).mono before.le (Nat.le_refl _)

instance standing_bind [Forward z] [second : ∀ value, Standing (f value)] : Standing (z >>= f) :=
  .pass second

instance (priority := low) lays_of_standing [standing : Standing x] : Lays x [] := by
  refine ⟨standing.reads.mono fun found read stands lo mid hi laid ordered => ?_⟩
  have own := stands ordered
  exact own.nodes.mono (Nat.le_trans laid.le own.begins) own.ends

end

/-! ## Phrases that go on -/

/-- A rule goes on with a phrase: what it gives stands where the phrase and the tokens behind it
do. -/
def Continues (left : Phrase) (rule : Rule Phrase) : Prop :=
  Reads (fun longer read => ∀ ⦃lo mid hi : Nat⦄, left.Stands lo mid → Ordered mid read hi →
    longer.Stands lo hi) rule

theorem standing_then {x : Rule Phrase} {f : Phrase → Rule Phrase} [first : Standing x]
    (second : ∀ left, Continues left (f left)) : Standing (x >>= f) := by
  refine ⟨first.reads.bind fun left => (second left).mono ?_⟩
  intro longer more goesOn read stands lo hi ordered
  obtain ⟨mid, own, behind⟩ := Ordered.append_iff.mp ordered
  exact goesOn (stands own) behind

namespace Continues

variable {left : Phrase} {x y : Rule Phrase} {z : Rule α}

theorem pure (left : Phrase) : Continues left (pure left) :=
  Reads.pure fun _ _ _ stands ordered => stands.mono (Nat.le_refl _) ordered.le

theorem ite {c : Prop} [Decidable c] (first : Continues left x) (second : Continues left y) :
    Continues left (if c then x else y) := by
  split <;> assumption

theorem pass {f : α → Rule Phrase} [first : Forward z]
    (second : ∀ value, Continues left (f value)) : Continues left (z >>= f) := by
  refine first.reads.bind fun value => (second value).mono ?_
  intro longer more goesOn read _ lo mid hi isLeft ordered
  obtain ⟨mid', skipped, behind⟩ := Ordered.append_iff.mp ordered
  exact goesOn (isLeft.mono (Nat.le_refl _) skipped.le) behind

theorem bind {f : Phrase → Rule Phrase} (first : Continues left x)
    (second : ∀ longer, Continues longer (f longer)) : Continues left (x >>= f) := by
  refine Reads.bind first fun longer => (second longer).mono ?_
  intro final more goesOn read stands lo mid hi isLeft ordered
  obtain ⟨mid', own, behind⟩ := Ordered.append_iff.mp ordered
  exact goesOn (stands isLeft own) behind

/-- A rule that refuses leaves the phrase as it is. -/
theorem step {f : Phrase → Rule Phrase} (first : Continues left x)
    (second : ∀ longer, Continues longer (f longer)) :
    Continues left (do
      match ← attempt x with
      | none => return left
      | some longer => f longer) := by
  intro reading final after runs
  rw [run_bind, run_attempt] at runs
  cases own : x.run reading with
  | none =>
      rw [own] at runs
      exact Continues.pure left runs
  | some found =>
      rw [own] at runs
      apply Continues.bind first second
      rw [run_bind, own]
      exact runs

/-- A phrase is extended up to the last token that a rule reads. -/
theorem extend {f : α → Nat → Phrase} (advances : Advances z)
    (spans : ∀ value stop, (f value stop).span = ⟨left.span.start, stop⟩)
    (callees : ∀ value stop, (calleeOf (f value stop)).span = ⟨left.span.start, stop⟩)
    (reads : Reads (fun value read => ∀ ⦃lo mid hi⦄, left.Stands lo mid → Ordered mid read hi →
      mid < hi → ∀ stop, Laid left.span.start (f value stop).nodes hi) z) :
    Continues left (do
      let value ← z
      return f value (← lastStop)) := by
  intro reading longer after runs
  obtain ⟨⟨value, later⟩, own, runs⟩ := Option.bind_eq_some_iff.mp runs
  cases runs
  obtain ⟨read, takes, some, laid⟩ := (advances.reads.and reads) own
  refine ⟨read, takes, fun lo mid hi isLeft ordered => ?_⟩
  obtain ⟨token, read, rfl⟩ := List.exists_cons_of_ne_nil some
  obtain ⟨begins, last, isLast, wide, ends, tight⟩ := ordered.tight
  have stops : after.stop = last.place.stop := by
    rw [takes.stop, isLast]
    rfl
  rw [← stops] at wide ends tight
  have further : left.span.stop < after.stop := by
    have := isLeft.ends
    omega
  constructor <;> rw [spans]
  · exact isLeft.begins
  · exact Nat.lt_trans isLeft.wide further
  · exact ends
  · exact laid isLeft (tight.mono_left begins) (by omega) _
  · exact callees _ _

/-- A phrase is extended by what a rule lays out behind it. -/
theorem close {y : Rule (List Node)} {shape : Shape} [shape.Plain] [lays : Lays y []]
    [advances : Advances y] :
    Continues left (do
      let nodes ← y
      return ⟨← spanFrom left.span.start, left.line, shape, left.nodes ++ nodes⟩) := by
  refine .extend (f := fun nodes stop =>
    ⟨⟨left.span.start, stop⟩, left.line, shape, left.nodes ++ nodes⟩) advances (fun _ _ => rfl)
    (fun _ _ => span_calleeOf) ?_
  refine lays.reads.mono fun nodes read bears lo mid hi isLeft ordered _ _ => ?_
  exact isLeft.nodes.append (bears (.nil isLeft.ends) ordered)

end Continues
end ClassHarvest.CSharp.Grammar
