import ClassHarvest.CSharp.Parse

/-!
# Running rules

What a rule of the grammar gives when it is run on some tokens.  Every way to build rules has an
equation that runs it, so that a rule is followed on given tokens by rewriting; `Repeats` records
how often a rule is applied before it refuses.
-/

namespace ClassHarvest.CSharp.Grammar

variable {α β : Type} {rule : Rule α} {reading after : Reading} {token : Token}
  {rest : List Token} {stop : Nat}

/-! ## Building rules -/

theorem run_bind (rule : Rule α) (next : α → Rule β) (reading : Reading) :
    (rule >>= next).run reading =
      (rule.run reading).bind fun read => (next read.1).run read.2 :=
  rfl

theorem run_pure (value : α) (reading : Reading) :
    (pure value : Rule α).run reading = some (value, reading) :=
  rfl

theorem run_map (f : α → β) (rule : Rule α) (reading : Reading) :
    (f <$> rule).run reading = (rule.run reading).map fun read => (f read.1, read.2) := by
  change (rule.run reading).bind _ = _
  cases rule.run reading <;> rfl

@[simp]
theorem run_discard (rule : Rule α) (reading : Reading) :
    (discard rule : Rule Unit).run reading =
      (rule.run reading).map fun read => ((), read.2) :=
  run_map _ _ _

@[simp]
theorem run_seqRight (rule : Rule α) (next : Rule β) (reading : Reading) :
    (rule *> next).run reading = (rule.run reading).bind fun read => next.run read.2 :=
  rfl

@[simp]
theorem run_seqLeft (rule : Rule α) (next : Rule β) (reading : Reading) :
    (rule <* next).run reading = (rule.run reading).bind fun read =>
      (next.run read.2).map fun later => (read.1, later.2) := by
  change (rule.run reading).bind (fun read => (next.run read.2).bind fun _ => _) = _
  cases rule.run reading with
  | none => rfl
  | some read =>
      rw [Option.bind_some, Option.bind_some]
      cases next.run read.2 <;> rfl

@[simp]
theorem run_failure (reading : Reading) : (failure : Rule α).run reading = none :=
  rfl

@[simp]
theorem run_orElse (rule other : Rule α) (reading : Reading) :
    (rule <|> other).run reading = (rule.run reading).or (other.run reading) := by
  change (rule.run reading <|> other.run reading) = _
  cases rule.run reading <;> rfl

@[simp]
theorem run_get (reading : Reading) : (get : Rule Reading).run reading = some (reading, reading) :=
  rfl

@[simp]
theorem run_ite (condition : Prop) [Decidable condition] (rule other : Rule α)
    (reading : Reading) :
    (if condition then rule else other).run reading =
      if condition then rule.run reading else other.run reading := by
  split <;> rfl

@[simp]
theorem run_and (first second : Rule Bool) :
    (first <&&> second).run reading = (first.run reading).bind fun read =>
      if read.1 then second.run read.2 else some (false, read.2) := by
  change (first.run reading).bind _ = _
  congr 1
  funext read
  obtain ⟨holds, later⟩ := read
  cases holds <;> rfl

@[simp]
theorem run_or (first second : Rule Bool) :
    (first <||> second).run reading = (first.run reading).bind fun read =>
      if read.1 then some (true, read.2) else second.run read.2 := by
  change (first.run reading).bind _ = _
  congr 1
  funext read
  obtain ⟨holds, later⟩ := read
  cases holds <;> rfl

@[simp]
theorem run_demand (condition : Bool) :
    (demand condition).run reading = if condition then some ((), reading) else none := by
  rw [demand, run_ite]
  rfl

@[simp]
theorem run_attempt (rule : Rule α) :
    (attempt rule).run reading =
      ((rule.run reading).map fun read => (some read.1, read.2)).or (some (none, reading)) := by
  rw [attempt, run_orElse, run_map, run_pure]

/-! ## Tokens -/

@[simp]
theorem run_next : next.run ⟨token :: rest, stop⟩ = some (token, ⟨rest, token.place.stop⟩) :=
  rfl

@[simp]
theorem run_peek : peek.run reading = some (reading.rest.head?, reading) :=
  rfl

@[simp]
theorem run_accept (test : Token → Bool) :
    (accept test).run ⟨token :: rest, stop⟩ =
      if test token then some (token, ⟨rest, token.place.stop⟩) else none := by
  rw [accept, run_bind, run_next, Option.bind_some, run_ite, run_pure, run_failure]

@[simp]
theorem run_sign (text : String) :
    (sign text).run ⟨token :: rest, stop⟩ =
      if token.isSign text then some ((), ⟨rest, token.place.stop⟩) else none := by
  rw [sign, run_discard, run_accept]
  split <;> rfl

@[simp]
theorem run_word (text : Text) :
    (word text).run ⟨token :: rest, stop⟩ =
      if token.isWord text then some ((), ⟨rest, token.place.stop⟩) else none := by
  rw [word, run_discard, run_accept]
  split <;> rfl

@[simp]
theorem run_word_nil (text : Text) : (word text).run ⟨[], stop⟩ = none :=
  rfl

@[simp]
theorem run_sees (test : Token → Bool) :
    (sees test).run reading = some (reading.rest.head?.any test, reading) :=
  rfl

@[simp]
theorem run_seesSign (text : String) :
    (seesSign text).run reading = some (reading.rest.head?.any (Token.isSign text), reading) :=
  rfl

@[simp]
theorem run_seesWord (text : Text) :
    (seesWord text).run reading = some (reading.rest.head?.any (Token.isWord text), reading) :=
  rfl

@[simp]
theorem run_seesAt (n : Nat) (test : Token → Bool) :
    (seesAt n test).run reading = some (reading.rest[n]?.any test, reading) :=
  rfl

@[simp]
theorem run_skipSign (text : String) :
    (skipSign text).run ⟨token :: rest, stop⟩ =
      if token.isSign text then some (true, ⟨rest, token.place.stop⟩)
      else some (false, ⟨token :: rest, stop⟩) := by
  rw [skipSign, run_bind, run_seesSign, Option.bind_some, run_ite]
  rfl

/-- What is not there is not skipped. -/
theorem run_skipSign_of_not {text : String}
    (other : rest.head?.any (Token.isSign text) = false) :
    (skipSign text).run ⟨rest, stop⟩ = some (false, ⟨rest, stop⟩) := by
  cases rest with
  | nil => rfl
  | cons token rest => simpa using other

@[simp]
theorem run_skipWord (text : Text) :
    (skipWord text).run ⟨token :: rest, stop⟩ =
      if token.isWord text then some (true, ⟨rest, token.place.stop⟩)
      else some (false, ⟨token :: rest, stop⟩) := by
  rw [skipWord, run_bind, run_seesWord, Option.bind_some, run_ite]
  rfl

@[simp]
theorem run_skipWord_nil (text : Text) :
    (skipWord text).run ⟨[], stop⟩ = some (false, ⟨[], stop⟩) :=
  rfl

@[simp]
theorem run_here : here.run ⟨token :: rest, stop⟩ =
    some ((token.place.start, token.place.line), ⟨token :: rest, stop⟩) :=
  rfl

@[simp]
theorem run_here_nil : here.run ⟨[], stop⟩ = none :=
  rfl

@[simp]
theorem run_spanFrom (start : Nat) :
    (spanFrom start).run reading = some (⟨start, reading.stop⟩, reading) :=
  rfl

@[simp]
theorem run_identifier :
    identifier.run ⟨token :: rest, stop⟩ =
      if isIdentifier token then
        some (⟨token.place.start, token.place.stop⟩, ⟨rest, token.place.stop⟩)
      else none := by
  rw [identifier, run_bind, run_accept]
  split <;> rfl

/-! ## Nodes of phrases -/

@[simp]
theorem run_nodes {grammar : Rules} (goal : Goal) :
    (grammar.nodes goal).run reading =
      ((grammar goal).run reading).map fun read => (read.1.nodes, read.2) := by
  rw [Rules.nodes, run_bind]
  cases (grammar goal).run reading <;> rfl

@[simp]
theorem run_value {grammar : Rules} :
    grammar.value.run reading =
      ((grammar (.expression 0 true)).run reading).map fun read => (read.1.nodes, read.2) :=
  run_nodes _

/-! ## Repetition -/

/-- The applications of a rule one after another, until it refuses. -/
inductive Repeats (rule : Rule α) : Reading → List α → Reading → Prop
  /-- The rule refuses. -/
  | stop {reading : Reading} (refuses : rule.run reading = none) : Repeats rule reading [] reading
  /-- The rule reads at least one token. -/
  | more {reading later after : Reading} {value : α} {values : List α}
      (reads : rule.run reading = some (value, later))
      (shorter : later.rest.length < reading.rest.length)
      (behind : Repeats rule later values after) : Repeats rule reading (value :: values) after

/-- Every application reads a token, so that a list with as many tokens is bound enough. -/
theorem Repeats.run_repeatedly {values : List α} (repeats : Repeats rule reading values after)
    {bound : List Token} (enough : reading.rest.length ≤ bound.length) :
    (repeatedly rule bound).run reading = some (values, after) := by
  induction repeats generalizing bound with
  | @stop reading refuses =>
      cases bound with
      | nil => rfl
      | cons token bound =>
          rw [repeatedly, run_bind, run_attempt, refuses]
          rfl
  | @more reading later after value values reads shorter _ ih =>
      cases bound with
      | nil =>
          rw [List.length_nil] at enough
          omega
      | cons token bound =>
          rw [List.length_cons] at enough
          have behind := @ih bound (by omega)
          rw [repeatedly, run_bind, run_attempt, reads]
          simp [behind]

theorem Repeats.run_many {values : List α} (repeats : Repeats rule reading values after) :
    (many rule).run reading = some (values, after) := by
  rw [many, run_bind, run_get, Option.bind_some]
  exact repeats.run_repeatedly (Nat.le_refl _)

theorem run_many_of_refuses (refuses : rule.run reading = none) :
    (many rule).run reading = some ([], reading) :=
  (Repeats.stop refuses).run_many

end ClassHarvest.CSharp.Grammar
