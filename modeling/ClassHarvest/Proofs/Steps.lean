import Mathlib.Data.List.Basic

/-!
# Steps that may fail

A step changes a state and gives a value, or fails and leaves a state behind.  `Ensures` says of a
step from a given state what holds of its value and the state after it, and what holds of the state
after a failure.
-/

namespace ClassHarvest

variable {ε σ α β : Type}

/-- The step, taken from a state, gives a value and a state with one property, or fails with a state
that has the other. -/
def Ensures (step : ExceptT ε (StateM σ) α) (state : σ) (given : α → σ → Prop)
    (failed : σ → Prop) : Prop :=
  match step.run.run state with
  | (.ok value, after) => given value after
  | (.error _, after) => failed after

namespace Ensures

variable {step : ExceptT ε (StateM σ) α} {next : α → ExceptT ε (StateM σ) β} {state : σ}
  {given : α → σ → Prop} {failed : σ → Prop}

/-! ## What is known of a run -/

theorem of_eq_ok (ensures : Ensures step state given failed) {value : α} {after : σ}
    (run : step.run.run state = (.ok value, after)) : given value after := by
  unfold Ensures at ensures
  rw [run] at ensures
  exact ensures

theorem of_eq_error (ensures : Ensures step state given failed) {error : ε} {after : σ}
    (run : step.run.run state = (.error error, after)) : failed after := by
  unfold Ensures at ensures
  rw [run] at ensures
  exact ensures

/-- What holds of all states after a step holds however the step ends. -/
theorem after {invariant : σ → Prop} (ensures : Ensures step state (fun _ => invariant) invariant) :
    invariant (step.run.run state).2 := by
  unfold Ensures at ensures
  split at ensures
  · next run => rw [run]; exact ensures
  · next run => rw [run]; exact ensures

theorem mono {given' : α → σ → Prop} {failed' : σ → Prop}
    (ensures : Ensures step state given failed) (weaker : ∀ value after, given value after →
      given' value after) (weaker' : ∀ after, failed after → failed' after) :
    Ensures step state given' failed' := by
  unfold Ensures at ensures ⊢
  split at ensures
  · exact weaker _ _ ensures
  · exact weaker' _ ensures

theorem mapFailed {failed' : σ → Prop} (ensures : Ensures step state given failed)
    (weaker : ∀ after, failed after → failed' after) : Ensures step state given failed' :=
  ensures.mono (fun _ _ holds => holds) weaker

theorem always (step : ExceptT ε (StateM σ) α) (state : σ) :
    Ensures step state (fun _ _ => True) fun _ => True := by
  unfold Ensures
  split <;> trivial

/-- A step gives what it gives. -/
theorem runs (step : ExceptT ε (StateM σ) α) (state : σ) :
    Ensures step state (fun value after => step.run.run state = (.ok value, after))
      fun after => ∃ error, step.run.run state = (.error error, after) := by
  unfold Ensures
  split
  · next run => exact run
  · next run => exact ⟨_, run⟩

/-- Two things are known of a step. -/
theorem and {given' : α → σ → Prop} {failed' : σ → Prop}
    (ensures : Ensures step state given failed) (others : Ensures step state given' failed') :
    Ensures step state (fun value after => given value after ∧ given' value after)
      fun after => failed after ∧ failed' after := by
  unfold Ensures at ensures others ⊢
  generalize StateT.run step.run state = result at ensures others ⊢
  obtain ⟨outcome, after⟩ := result
  cases outcome with
  | error error => exact ⟨ensures, others⟩
  | ok value => exact ⟨ensures, others⟩

/-! ## Sequences -/

theorem pure {value : α} (holds : given value state) :
    Ensures (Pure.pure value : ExceptT ε (StateM σ) α) state given failed :=
  holds

theorem throw {error : ε} (holds : failed state) :
    Ensures (MonadExcept.throw error : ExceptT ε (StateM σ) α) state given failed :=
  holds

theorem bind {middle : α → σ → Prop} {given : β → σ → Prop}
    (first : Ensures step state middle failed)
    (second : ∀ value after, middle value after → Ensures (next value) after given failed) :
    Ensures (step >>= next) state given failed := by
  unfold Ensures at first ⊢
  rw [ExceptT.run_bind, StateT.run_bind]
  generalize StateT.run step.run state = result at first ⊢
  obtain ⟨outcome, after⟩ := result
  cases outcome with
  | error error => exact first
  | ok value => exact second value after first

theorem get_bind {next : σ → ExceptT ε (StateM σ) β} {given : β → σ → Prop}
    (rest : Ensures (next state) state given failed) :
    Ensures (get >>= next) state given failed :=
  rest

theorem modify_bind {f : σ → σ} {next : Unit → ExceptT ε (StateM σ) β} {given : β → σ → Prop}
    (rest : Ensures (next ()) (f state) given failed) :
    Ensures (modify f >>= next) state given failed :=
  rest

theorem of_modify {f : σ → σ} {given : Unit → σ → Prop} (holds : given () (f state)) :
    Ensures (modify f : ExceptT ε (StateM σ) Unit) state given failed :=
  holds

/-- Steps of a list, in which each has what it needs of those before it. -/
theorem mapM {f : α → ExceptT ε (StateM σ) β} {xs : List α}
    (invariant : List α → List β → σ → Prop)
    (start : invariant [] [] state)
    (each : ∀ before x after, xs = before ++ x :: after → ∀ ys state, invariant before ys state →
      Ensures (f x) state (fun y => invariant (before ++ [x]) (ys ++ [y])) failed) :
    Ensures (xs.mapM f) state (fun ys => invariant xs ys) failed := by
  have rest (before xs' : List α) (whole : xs = before ++ xs') (ys : List β) (state : σ)
      (holds : invariant before ys state) :
      Ensures (xs'.mapM f) state (fun ys' => invariant xs (ys ++ ys')) failed := by
    induction xs' generalizing before ys state with
    | nil =>
        rw [List.mapM_nil]
        apply pure
        rw [whole, List.append_nil, List.append_nil]
        exact holds
    | cons x xs' ih =>
        rw [List.mapM_cons]
        apply bind (each before x xs' whole ys state holds)
        intro y middle holds'
        have tail := ih (before ++ [x]) (by rw [whole]; simp) (ys ++ [y]) middle holds'
        apply bind tail
        intro ys' after holds''
        apply pure
        rw [List.append_assoc, List.singleton_append] at holds''
        exact holds''
  exact (rest [] xs rfl [] state start).mono (fun ys after holds => by simpa using holds)
    fun _ holds => holds

end Ensures

/-! ## What is known of a failure -/

/-- If the step fails, then its failure and the state after it have a property. -/
def Fails (step : ExceptT ε (StateM σ) α) (state : σ) (failed : ε → σ → Prop) : Prop :=
  match step.run.run state with
  | (.ok _, _) => True
  | (.error error, after) => failed error after

namespace Fails

variable {step : ExceptT ε (StateM σ) α} {next : α → ExceptT ε (StateM σ) β} {state : σ}
  {failed : ε → σ → Prop}

theorem of_eq_error (fails : Fails step state failed) {error : ε} {after : σ}
    (run : step.run.run state = (.error error, after)) : failed error after := by
  unfold Fails at fails
  rw [run] at fails
  exact fails

theorem of_ensures {given : α → σ → Prop} {refused : σ → Prop}
    (ensures : Ensures step state given refused)
    (weaker : ∀ error after, refused after → failed error after) : Fails step state failed := by
  unfold Fails
  split
  · trivial
  · next run => exact weaker _ _ (ensures.of_eq_error run)

theorem mono {failed' : ε → σ → Prop} (fails : Fails step state failed)
    (weaker : ∀ error after, failed error after → failed' error after) :
    Fails step state failed' := by
  unfold Fails
  split
  · trivial
  · next run => exact weaker _ _ (fails.of_eq_error run)

/-- Two things are known of a failure. -/
theorem and {failed' : ε → σ → Prop} (fails : Fails step state failed)
    (others : Fails step state failed') :
    Fails step state fun error after => failed error after ∧ failed' error after := by
  unfold Fails
  split
  · trivial
  · next run => exact ⟨fails.of_eq_error run, others.of_eq_error run⟩

theorem pure {value : α} : Fails (Pure.pure value : ExceptT ε (StateM σ) α) state failed :=
  trivial

theorem throw {error : ε} (holds : failed error state) :
    Fails (MonadExcept.throw error : ExceptT ε (StateM σ) α) state failed :=
  holds

theorem bind {middle : α → σ → Prop} {refused : σ → Prop}
    (ensures : Ensures step state middle refused) (first : Fails step state failed)
    (second : ∀ value after, middle value after → Fails (next value) after failed) :
    Fails (step >>= next) state failed := by
  unfold Fails at first ⊢
  unfold Ensures at ensures
  rw [ExceptT.run_bind, StateT.run_bind]
  generalize StateT.run step.run state = result at ensures first ⊢
  obtain ⟨outcome, after⟩ := result
  cases outcome with
  | error error => exact first
  | ok value => exact second value after ensures

theorem get_bind {next : σ → ExceptT ε (StateM σ) β} (rest : Fails (next state) state failed) :
    Fails (get >>= next) state failed :=
  rest

theorem modify_bind {f : σ → σ} {next : Unit → ExceptT ε (StateM σ) β}
    (rest : Fails (next ()) (f state) failed) : Fails (modify f >>= next) state failed :=
  rest

theorem mapM {f : α → ExceptT ε (StateM σ) β} {xs : List α}
    (each : ∀ x state, Fails (f x) state failed) : Fails (xs.mapM f) state failed := by
  induction xs generalizing state with
  | nil =>
      rw [List.mapM_nil]
      exact pure
  | cons x xs ih =>
      rw [List.mapM_cons]
      apply bind (Ensures.always (f x) state) (each x state)
      intro y after _
      apply bind (Ensures.always (xs.mapM f) after) ih
      intro ys after _
      exact pure

end Fails
end ClassHarvest
