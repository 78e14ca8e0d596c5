import ClassHarvest.Proofs.CSharp.Laying.Names

/-!
# Expressions stand in their tokens

Of an expression the whole phrase counts, since what stands in front of the arguments of an
invocation becomes its callee.
-/

namespace ClassHarvest.CSharp.Grammar

-- The size of an instance grows with the length of the rule that it is for.
set_option synthInstance.maxSize 100000

variable {rules : Rules} [Orderly rules] {lambda : Bool} {level : Nat}

/-! ## Lambda expressions -/

instance forward_seesParametersAndArrow : Forward seesParametersAndArrow := by
  unfold seesParametersAndArrow
  infer_instance

instance forward_lambdaModifier : Forward lambdaModifier := by
  unfold lambdaModifier
  infer_instance

instance lays_lambdaParameters : Lays (lambdaParameters rules) [] := by
  unfold lambdaParameters
  infer_instance

instance standing_lambdaPhrase : Standing (lambdaPhrase rules) := by
  unfold lambdaPhrase
  infer_instance

instance standing_anonymousMethod : Standing (anonymousMethod rules) := by
  unfold anonymousMethod
  infer_instance

/-! ## Queries -/

instance forward_rangeVariable : Forward (rangeVariable rules) := by
  unfold rangeVariable
  infer_instance

instance lays_fromClause : Lays (fromClause rules) [] := by
  unfold fromClause
  infer_instance

instance advances_fromClause : Advances (fromClause rules) := by
  unfold fromClause
  infer_instance

instance lays_ordering : Lays (ordering rules) [] := by
  unfold ordering
  infer_instance

instance lays_queryClause : Lays (queryClause rules) [] := by
  unfold queryClause
  infer_instance

instance standing_queryPhrase : Standing (queryPhrase rules) := by
  unfold queryPhrase
  infer_instance

/-! ## Creations -/

instance lays_initializer : Lays (initializer rules) [] := by
  unfold initializer
  infer_instance

instance advances_initializer : Advances (initializer rules) := by
  unfold initializer
  infer_instance

instance lays_arraySizes : Lays (arraySizes rules) [] := by
  unfold arraySizes
  infer_instance

instance standing_creation : Standing (creation rules) := by
  unfold creation
  infer_instance

instance standing_stackCreation : Standing (stackCreation rules) := by
  unfold stackCreation
  infer_instance

/-! ## Interpolated strings -/

/-- The nodes of a hole stand in its tokens. -/
theorem laid_hole {tokens : List Token} {inside : List Node} {lo hi : Nat}
    (isHole : hole rules tokens = some inside) (ordered : Ordered lo tokens hi) :
    Laid lo inside hi := by
  have lays : Lays (do
      let nodes ← rules.value
      if ← skipSign "," then return nodes ++ (← rules.value)
      else return nodes) [] := inferInstance
  unfold hole at isHole
  dsimp only at isHole
  split at isHole
  · rename_i found reading runs
    split at isHole
    · rename_i atEnd
      cases isHole
      obtain ⟨read, takes, bears⟩ := lays.reads runs
      have all : tokens = read ++ reading.rest := takes.rest
      rw [all, List.isEmpty_iff.mp atEnd, List.append_nil] at ordered
      exact bears (.nil (Nat.le_refl _)) ordered
    · cases isHole
  · cases isHole

theorem laid_holes {holes : List (List Token)} {inside : List (List Node)} {lo hi : Nat}
    (areHoles : holes.mapM (hole rules) = some inside) (ordered : HolesOrdered lo holes hi) :
    Laid lo inside.flatten hi := by
  induction holes generalizing lo inside with
  | nil =>
      cases ordered with
      | nil le =>
          cases areHoles
          exact .nil le
  | cons tokens holes ih =>
      cases ordered with
      | cons first behind =>
          rw [List.mapM_cons] at areHoles
          obtain ⟨nodes, isHole, areHoles⟩ := Option.bind_eq_some_iff.mp areHoles
          obtain ⟨others, areOthers, same⟩ := Option.bind_eq_some_iff.mp areHoles
          cases same
          exact (laid_hole isHole first).append (ih areOthers behind)

/-- An interpolated string stands in the token that comes next, if its holes are those of the
token. -/
theorem stands_interpolation {reading after : Reading} {place : Place} {holes : List (List Token)}
    {rest : List Token} {found : Phrase} (isNext : reading.rest = .interpolated place holes :: rest)
    (runs : (interpolation rules holes).run reading = some (found, after)) :
    ∃ read, Takes reading read after ∧
      ∀ ⦃lo hi : Nat⦄, Ordered lo read hi → found.Stands lo hi := by
  obtain ⟨tokens, stop⟩ := reading
  subst isNext
  cases areHoles : holes.mapM (hole rules) with
  | none =>
      simp only [interpolation, phrase, areHoles] at runs
      cases runs
  | some inside =>
      simp only [interpolation, phrase, areHoles] at runs
      cases runs
      refine ⟨[_], ⟨rfl, rfl⟩, fun lo hi ordered => ?_⟩
      cases ordered with
      | cons begins wide ofHoles behind =>
          exact ⟨begins, wide, behind.le, laid_holes areHoles ofHoles, rfl⟩

/-! ## Other operands -/

instance standing_token {shape : Shape} [shape.Plain] : Standing (token shape) := by
  unfold token
  infer_instance

instance standing_cast {admitted : Token → Bool} :
    Standing (cast rules lambda admitted) := by
  unfold cast
  infer_instance

instance standing_parenthesized : Standing (parenthesized rules) := by
  unfold parenthesized
  infer_instance

instance standing_collection : Standing (collection rules) := by
  unfold collection
  infer_instance

instance standing_keywordOfType : Standing (keywordOfType rules) := by
  unfold keywordOfType
  infer_instance

instance standing_keywordOfValue : Standing (keywordOfValue rules) := by
  unfold keywordOfValue
  infer_instance

instance advances_genericName : Advances (genericName rules) := by
  unfold genericName
  infer_instance

instance standing_namePhrase : Standing (namePhrase rules) := by
  unfold namePhrase
  infer_instance

instance standing_wordPhrase {text : Text} : Standing (wordPhrase rules text) := by
  unfold wordPhrase
  infer_instance

/-- Every operand but an interpolated string is found whatever token comes next. -/
instance standing_primary : Standing (primary rules lambda) := by
  constructor
  intro reading found after runs
  rw [primary, run_bind, run_peek, Option.bind_some] at runs
  dsimp only at runs
  split at runs
  · exact Standing.reads runs
  · exact Standing.reads runs
  · exact Standing.reads runs
  · rename_i place holes isNext
    obtain ⟨rest, isNext⟩ := List.head?_eq_some_iff.mp isNext
    exact stands_interpolation isNext runs
  · exact Standing.reads runs
  · have directive : Standing (phrase .other do
        return [← conditional (rules.value <|> pure [])]) := inferInstance
    exact directive.reads runs
  · exact Standing.reads runs
  · exact Standing.reads runs
  · exact Standing.reads runs
  · cases runs

/-! ## What follows an operand -/

theorem continues_member (left : Phrase) (start : Nat) : Continues left (do
    genericName rules
    let name ← spanFrom start
    return ⟨← spanFrom left.span.start, left.line, .member left.span name, left.nodes⟩) := by
  refine .extend (z := genericName rules) (f := fun _ stop =>
    ⟨⟨left.span.start, stop⟩, left.line, .member left.span ⟨start, stop⟩, left.nodes⟩)
    inferInstance (fun _ _ => rfl) (fun _ _ => rfl) ?_
  refine Forward.reads.mono fun _ _ _ lo mid hi isLeft _ apart _ => ?_
  exact isLeft.nodes.mono (Nat.le_refl _) (Nat.le_trans isLeft.ends (Nat.le_of_lt apart))

/-- The callee of an invocation is the operand, and its nodes stand in front of those in the
arguments. -/
theorem continues_invocation (left : Phrase) : Continues left (do
    let (kept, inside) ← arguments rules
    return ⟨← spanFrom left.span.start, left.line, .effect,
      [.invocation left.line (calleeOf left) kept (left.nodes ++ inside)]⟩) := by
  refine .extend (z := arguments rules) (f := fun found stop =>
    ⟨⟨left.span.start, stop⟩, left.line, .effect,
      [.invocation left.line (calleeOf left) found.1 (left.nodes ++ found.2)]⟩)
    inferInstance (fun _ _ => rfl) (fun _ _ => rfl) ?_
  have lays : Lays (arguments rules) [] := inferInstance
  refine lays.reads.mono fun found read bears lo mid hi isLeft ordered apart _ => ?_
  have inside : Laid left.span.stop found.2 hi := bears (.nil isLeft.ends) ordered
  have begins := congrArg Span.start isLeft.callee
  refine .invocation (Nat.le_of_eq begins.symm) ?_ ?_ ?_ ?_ (.nil (Nat.le_refl hi)) <;>
    rw [isLeft.callee]
  · exact isLeft.wide
  · exact isLeft.nodes
  · exact Nat.lt_of_le_of_lt isLeft.ends apart
  · exact inside

theorem continues_mark (left : Phrase) : Continues left (do
    discard (accept (isSignOf ["++", "--", "!"]))
    return ⟨← spanFrom left.span.start, left.line, .effect, left.nodes⟩) := by
  refine .extend (z := discard (accept (isSignOf ["++", "--", "!"]))) (f := fun _ stop =>
    ⟨⟨left.span.start, stop⟩, left.line, .effect, left.nodes⟩)
    inferInstance (fun _ _ => rfl) (fun _ _ => rfl) ?_
  refine Forward.reads.mono fun _ _ _ lo mid hi isLeft _ apart _ => ?_
  exact isLeft.nodes.mono (Nat.le_refl _) (Nat.le_trans isLeft.ends (Nat.le_of_lt apart))

theorem continues_link (left : Phrase) : Continues left (link rules left) := by
  unfold link
  refine .pass fun isMember => .ite ?_ (.pass fun isInvocation => .ite ?_
    (.pass fun isIndex => .ite ?_ ?_))
  · exact .pass fun _ => .pass fun place => continues_member left place.1
  · exact continues_invocation left
  · exact .close
  · exact continues_mark left

theorem continues_chain (bound : List Token) (left : Phrase) :
    Continues left (chain rules bound left) := by
  induction bound generalizing left with
  | nil => exact .pure left
  | cons _ bound ih => exact .step (continues_link left) ih

theorem continues_chained (left : Phrase) : Continues left (chained rules left) :=
  .pass fun reading => continues_chain reading.rest left

/-! ## Operators -/

theorem le_angle (stop : Nat) (rest : List Token) (text : String) (count : Nat) :
    count ≤ (operator?.angle stop rest text count).2 := by
  fun_induction operator?.angle stop rest text count <;> omega

theorem operator?_pos {tokens : List Token} {text : String} {count : Nat}
    (isOperator : operator? tokens = some (text, count)) : 0 < count := by
  unfold operator? at isOperator
  split at isOperator
  · rename_i place rest
    have more := le_angle place.stop rest ">" 1
    rw [Option.some.inj isOperator] at more
    exact more
  · cases isOperator
    exact Nat.one_pos
  · cases isOperator

theorem continues_assigned (left : Phrase) : Continues left (assigned rules left) := by
  unfold assigned
  refine .pass fun reading => ?_
  split
  · rename_i text count isOperator
    have advances := advances_skip (operator?_pos isOperator)
    refine .ite ?_ (.pure left)
    rw [← bind_assoc]
    exact .close
  · exact .pure left

instance standing_unary : Standing (unary rules lambda) := by
  unfold unary
  infer_instance

instance forward_seesAwait : Forward seesAwait := by
  unfold seesAwait
  infer_instance

instance standing_operand : Standing (operand rules lambda) := by
  have simple : Standing (do assigned rules (← chained rules (← primary rules lambda))) :=
    standing_then fun left => .bind (continues_chained left) continues_assigned
  unfold operand
  refine .pass fun seen => ?_
  split <;>
  · dsimp only
    infer_instance

instance forward_seesAccess : Forward seesAccess := by
  unfold seesAccess
  refine .bind fun reading => ?_
  split <;> infer_instance

theorem continues_conditionalAccess (left : Phrase) :
    Continues left (conditionalAccess rules left) := by
  have access (y : Rule (List Node)) [Lays y []] [Advances y] : Continues left (do
      let nodes ← y
      chained rules
        ⟨← spanFrom left.span.start, left.line, .other, left.nodes ++ nodes⟩) := by
    have closed : Continues left (do
        let nodes ← y
        return ⟨← spanFrom left.span.start, left.line, .other, left.nodes ++ nodes⟩) := .close
    have chained (phrase : Phrase) : Continues phrase (chained rules phrase) :=
      continues_chained phrase
    simpa only [bind_assoc, pure_bind] using closed.bind chained
  unfold conditionalAccess
  refine .pass fun _ => .pass fun isMember => .ite ?_ ?_
  · exact access (genericName rules *> pure [])
  · exact access (indices rules)

instance lays_alternatives : Lays (alternatives rules lambda) [] := by
  unfold alternatives
  infer_instance

instance advances_alternatives : Advances (alternatives rules lambda) := by
  unfold alternatives
  infer_instance

instance lays_switchArm : Lays (switchArm rules) [] := by
  unfold switchArm
  infer_instance

instance lays_wordOperation : Lays (wordOperation rules level) [] := by
  unfold wordOperation
  infer_instance

instance advances_wordOperation : Advances (wordOperation rules level) := by
  unfold wordOperation
  infer_instance

section

variable {text : String} {count : Nat}

instance lays_signOperation : Lays (signOperation rules level lambda text count) [] := by
  unfold signOperation
  split <;> infer_instance

theorem advances_signOperation (pos : 0 < count) :
    Advances (signOperation rules level lambda text count) := by
  have advances := advances_skip pos
  unfold signOperation
  split <;> infer_instance

end

theorem continues_extended (level : Nat) (lambda : Bool) (left : Phrase) :
    Continues left (extended rules level lambda left) := by
  unfold extended
  refine .pass fun reading => ?_
  split
  · exact .pass fun _ => .pass fun isAccess => .ite (continues_conditionalAccess left) .close
  · rename_i text count _ isOperator
    have advances : Advances (signOperation rules level lambda text count) :=
      advances_signOperation (operator?_pos isOperator)
    exact .close
  · exact .close

theorem continues_climb (level : Nat) (lambda : Bool) (bound : List Token) (left : Phrase) :
    Continues left (climb rules level lambda bound left) := by
  induction bound generalizing left with
  | nil => exact .pure left
  | cons _ bound ih => exact .step (continues_extended level lambda left) ih

instance standing_expressionPhrase : Standing (expressionPhrase rules level lambda) :=
  standing_then fun left => .pass fun reading => continues_climb level lambda reading.rest left

end ClassHarvest.CSharp.Grammar
