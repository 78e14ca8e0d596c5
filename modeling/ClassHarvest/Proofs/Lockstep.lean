import ClassHarvest.Proofs.Steps

/-!
# Steps that go together

Two steps go together if they give the same, and leave states that are related as those were from
which they were taken.  The first of them may stop before that, with a failure that is expected of it.

Steps that do not do the same may still run in parallel: they give values that agree, and one of them may
take further steps that the other has no need of.
-/

namespace ClassHarvest

variable {ε σ α β γ δ : Type}

/-- Taken from related states, both steps end in the same way and leave related states, unless the first
stops with a failure that is expected. -/
def Lockstep (related : σ → σ → Prop) (stops : ε → Prop) (step other : ExceptT ε (StateM σ) α) :
    Prop :=
  ∀ state state', related state state' →
    (∃ error, (step.run.run state).1 = .error error ∧ stops error) ∨
      (step.run.run state).1 = (other.run.run state').1 ∧
        related (step.run.run state).2 (other.run.run state').2

namespace Lockstep

variable {related : σ → σ → Prop} {stops : ε → Prop} {step other : ExceptT ε (StateM σ) α}
  {next next' : α → ExceptT ε (StateM σ) β}

/-- A step goes together with itself. -/
theorem refl (stops : ε → Prop) (step : ExceptT ε (StateM σ) α) : Lockstep Eq stops step step := by
  rintro state _ rfl
  exact Or.inr ⟨rfl, rfl⟩

theorem pure (value : α) :
    Lockstep related stops (Pure.pure value : ExceptT ε (StateM σ) α) (Pure.pure value) :=
  fun _ _ same => Or.inr ⟨rfl, same⟩

theorem throw (error : ε) :
    Lockstep related stops (MonadExcept.throw error : ExceptT ε (StateM σ) α)
      (MonadExcept.throw error) :=
  fun _ _ same => Or.inr ⟨rfl, same⟩

theorem stop {error : ε} (expected : stops error) :
    Lockstep related stops (MonadExcept.throw error : ExceptT ε (StateM σ) α) other :=
  fun _ _ _ => Or.inl ⟨error, rfl, expected⟩

theorem bind (first : Lockstep related stops step other)
    (second : ∀ value, Lockstep related stops (next value) (next' value)) :
    Lockstep related stops (step >>= next) (other >>= next') := by
  intro state state' same
  have start := first state state' same
  rw [ExceptT.run_bind, ExceptT.run_bind, StateT.run_bind, StateT.run_bind]
  generalize StateT.run step.run state = result at start ⊢
  generalize StateT.run other.run state' = result' at start ⊢
  obtain ⟨outcome, after⟩ := result
  obtain ⟨outcome', after'⟩ := result'
  rcases start with ⟨error, isError, expected⟩ | ⟨isOutcome, same'⟩
  · change outcome = .error error at isError
    subst isError
    exact Or.inl ⟨error, rfl, expected⟩
  · change outcome = outcome' at isOutcome
    subst isOutcome
    cases outcome with
    | error error => exact Or.inr ⟨rfl, same'⟩
    | ok value => exact second value after after' same'

theorem get_bind {next next' : σ → ExceptT ε (StateM σ) β}
    (rest : ∀ state state', related state state' →
      Lockstep related stops (next state) (next' state')) :
    Lockstep related stops (get >>= next) (get >>= next') :=
  fun state state' same => rest state state' same state state' same

theorem modify {f f' : σ → σ} (each : ∀ state state', related state state' →
      related (f state) (f' state')) :
    Lockstep related stops (modify f : ExceptT ε (StateM σ) Unit) (modify f') :=
  fun state state' same => Or.inr ⟨rfl, each state state' same⟩

/-- Steps of two lists go together if those at the same elements do. -/
theorem mapM {f f' : α → ExceptT ε (StateM σ) β} {xs : List α}
    (each : ∀ x ∈ xs, Lockstep related stops (f x) (f' x)) :
    Lockstep related stops (xs.mapM f) (xs.mapM f') := by
  induction xs with
  | nil =>
      rw [List.mapM_nil, List.mapM_nil]
      exact pure []
  | cons x xs ih =>
      rw [List.mapM_cons, List.mapM_cons]
      apply bind (each x List.mem_cons_self)
      intro y
      apply bind (ih fun z mem => each z (List.mem_cons_of_mem _ mem))
      exact fun ys => pure (y :: ys)

/-! ## What is known of two runs -/

/-- From one state, both steps do the same, unless the first stops. -/
theorem run_eq (together : Lockstep Eq stops step other) (state : σ) :
    (∃ error, (step.run.run state).1 = .error error ∧ stops error) ∨
      step.run.run state = other.run.run state := by
  rcases together state state rfl with stopped | ⟨outcome, after⟩
  · exact Or.inl stopped
  · exact Or.inr (Prod.ext outcome after)

/-- If the first step gives something, so does the other. -/
theorem of_eq_ok (together : Lockstep related stops step other) {state state' after : σ}
    (same : related state state') {value : α} (run : step.run.run state = (.ok value, after)) :
    ∃ after', other.run.run state' = (.ok value, after') ∧ related after after' := by
  have both := together state state' same
  rw [run] at both
  rcases both with ⟨error, isError, _⟩ | ⟨outcome, same'⟩
  · cases isError
  · exact ⟨(other.run.run state').2, Prod.ext outcome.symm rfl, same'⟩

end Lockstep

/-! ## Steps that agree -/

/-- Taken from states that are related one way, both steps give values that agree and leave states that
are related the other way, or both fail with the same. -/
def Parallel (before : σ → σ → Prop) (agree : α → β → Prop) (after : σ → σ → Prop)
    (step : ExceptT ε (StateM σ) α) (other : ExceptT ε (StateM σ) β) : Prop :=
  ∀ state state', before state state' →
    (∃ value value' next next', step.run.run state = (.ok value, next) ∧
      other.run.run state' = (.ok value', next') ∧ agree value value' ∧ after next next') ∨
    ∃ error next next', step.run.run state = (.error error, next) ∧
      other.run.run state' = (.error error, next')

/-- Steps that go together run in parallel. -/
theorem Lockstep.parallel {related : σ → σ → Prop} {step other : ExceptT ε (StateM σ) α}
    (together : Lockstep related (fun _ => False) step other) :
    Parallel related Eq related step other := by
  intro state state' same
  have both := together state state' same
  rcases ran : step.run.run state with ⟨outcome, after⟩
  rcases ran' : other.run.run state' with ⟨outcome', after'⟩
  rw [ran, ran'] at both
  rcases both with ⟨_, _, unexpected⟩ | ⟨isOutcome, same'⟩
  · exact unexpected.elim
  · dsimp only at isOutcome same'
    subst isOutcome
    cases outcome with
    | ok value => exact Or.inl ⟨value, value, after, after', rfl, rfl, rfl, same'⟩
    | error error => exact Or.inr ⟨error, after, after', rfl, rfl⟩

namespace Parallel

variable {before middle after : σ → σ → Prop} {agree : α → β → Prop} {agree' : γ → δ → Prop}
  {step : ExceptT ε (StateM σ) α} {other : ExceptT ε (StateM σ) β}
  {next : α → ExceptT ε (StateM σ) γ} {next' : β → ExceptT ε (StateM σ) δ}

theorem pure {value : α} {value' : β} (agrees : agree value value') :
    Parallel before agree before (Pure.pure value : ExceptT ε (StateM σ) α) (Pure.pure value') :=
  fun state state' same => Or.inl ⟨value, value', state, state', rfl, rfl, agrees, same⟩

theorem throw (error : ε) :
    Parallel before agree after (MonadExcept.throw error : ExceptT ε (StateM σ) α)
      (MonadExcept.throw error) :=
  fun state state' _ => Or.inr ⟨error, state, state', rfl, rfl⟩

theorem modify {f f' : σ → σ} (each : ∀ state state', before state state' →
      after (f state) (f' state')) :
    Parallel before Eq after (modify f : ExceptT ε (StateM σ) Unit) (modify f') :=
  fun state state' same =>
    Or.inl ⟨(), (), f state, f' state', rfl, rfl, rfl, each state state' same⟩

theorem get_bind {next : σ → ExceptT ε (StateM σ) γ} {next' : σ → ExceptT ε (StateM σ) δ}
    (rest : ∀ state state', before state state' →
      Parallel before agree' after (next state) (next' state')) :
    Parallel before agree' after (get >>= next) (get >>= next') :=
  fun state state' same => rest state state' same state state' same

theorem bind (first : Parallel before agree middle step other)
    (second : ∀ value value', agree value value' →
      Parallel middle agree' after (next value) (next' value')) :
    Parallel before agree' after (step >>= next) (other >>= next') := by
  intro state state' same
  rw [ExceptT.run_bind, ExceptT.run_bind, StateT.run_bind, StateT.run_bind]
  rcases first state state' same with
    ⟨value, value', between, between', ran, ran', agrees, same'⟩ | ⟨error, between, between', ran, ran'⟩
  · rw [ran, ran']
    exact second value value' agrees between between' same'
  · rw [ran, ran']
    exact Or.inr ⟨error, between, between', rfl, rfl⟩

theorem mono {weaker : α → β → Prop} (parallel : Parallel before agree after step other)
    (weakens : ∀ value value', agree value value' → weaker value value') :
    Parallel before weaker after step other := by
  intro state state' same
  rcases parallel state state' same with ⟨value, value', next, next', ran, ran', agrees, same'⟩ | failed
  · exact Or.inl ⟨value, value', next, next', ran, ran', weakens value value' agrees, same'⟩
  · exact Or.inr failed

/-- What the first step gives need not agree with anything, if the other has no need of it. -/
theorem skip_bind {needless : α → Prop} {other : ExceptT ε (StateM σ) δ}
    (first : ∀ state state', before state state' →
      Ensures step state (fun value next => needless value ∧ middle next state') fun _ => False)
    (rest : ∀ value, needless value → Parallel middle agree' after (next value) other) :
    Parallel before agree' after (step >>= next) other := by
  intro state state' same
  have start := first state state' same
  unfold Ensures at start
  rw [ExceptT.run_bind, StateT.run_bind]
  split at start
  · next value between ran =>
      rw [ran]
      exact rest value start.1 between state' start.2
  · exact start.elim

/-- Steps of a list run in parallel with those of the elements that pass a test, if there is nothing in
what the others give. -/
theorem mapM_filter {f f' : α → ExceptT ε (StateM σ) β} {content : β → List γ} {p : α → Bool}
    {xs : List α}
    (kept : ∀ x ∈ xs, p x = true →
      Parallel before (fun y y' => content y = content y') before (f x) (f' x))
    (dropped : ∀ x ∈ xs, p x = false → ∀ state state', before state state' →
      Ensures (f x) state (fun y next => content y = [] ∧ before next state') fun _ => False) :
    Parallel before (fun ys ys' => ys.flatMap content = ys'.flatMap content) before (xs.mapM f)
      ((xs.filter p).mapM f') := by
  induction xs with
  | nil =>
      rw [List.filter_nil, List.mapM_nil, List.mapM_nil]
      exact pure rfl
  | cons x xs ih =>
      rw [List.forall_mem_cons] at kept dropped
      have rest := ih kept.2 dropped.2
      rw [List.mapM_cons]
      by_cases passes : p x = true
      · rw [List.filter_cons_of_pos passes, List.mapM_cons]
        apply bind (kept.1 passes)
        intro y y' same
        apply bind rest
        intro ys ys' same'
        apply pure
        rw [List.flatMap_cons, List.flatMap_cons, same, same']
      · rw [List.filter_cons_of_neg passes]
        apply skip_bind (dropped.1 (Bool.eq_false_iff.mpr passes))
        intro y nothing
        rw [← bind_pure ((xs.filter p).mapM f')]
        apply bind rest
        intro ys ys' same'
        apply pure
        rw [List.flatMap_cons, nothing, List.nil_append, same']

theorem mapM {f f' : α → ExceptT ε (StateM σ) β} {content : β → List γ} {xs : List α}
    (each : ∀ x ∈ xs, Parallel before (fun y y' => content y = content y') before (f x) (f' x)) :
    Parallel before (fun ys ys' => ys.flatMap content = ys'.flatMap content) before (xs.mapM f)
      (xs.mapM f') := by
  have filtered := mapM_filter (p := fun _ => true) (fun x mem _ => each x mem) fun _ _ fails => nomatch fails
  rwa [List.filter_true] at filtered

end Parallel
end ClassHarvest
