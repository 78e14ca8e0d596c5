import ClassHarvest.Proofs.CSharp.Calls
import ClassHarvest.Proofs.CSharp.Silence

/-!
# Reading statements

A statement that declares a variable, calls something or returns a value is read with the nodes of
its expression, and a block with those of its statements.
-/

namespace ClassHarvest.CSharp.Grammar

variable {rest tokens behind : List Token} {stop after d : Nat} {place p q : Place} {name : Text}
  {nodes : List Node} {read : Phrase}

/-! ## Modifiers -/

theorem run_noModifiers {token : Token} (other : isOneOf modifierWords token = false) :
    (many modifier).run ⟨token :: rest, stop⟩ = some ([], ⟨token :: rest, stop⟩) :=
  run_many_of_refuses (by simp [modifier, other])

/-! ## Statements -/

/-- A statement that begins with no word of its own. -/
theorem run_statement_word (plain : name ∉ statementWords)
    (reads : (plainStatement (rules d)).run ⟨.word p name :: rest, stop⟩ =
      some (nodes, ⟨behind, after⟩)) :
    (rules (d + 1) .statement).run ⟨.word p name :: rest, stop⟩ =
      some (⟨⟨p.start, after⟩, p.line, .other, nodes⟩, ⟨behind, after⟩) := by
  simp only [statementWords, List.mem_cons, List.not_mem_nil, or_false, not_or] at plain
  change (statementPhrase (rules d)).run _ = _
  simp [statementPhrase, phrase, wordStatement, plain, reads]

/-- The declaration of a variable whose type is that of its value. -/
theorem run_statement_variable {v n e : Place} (notKeyword : name ∉ keywords)
    (values : (rules (d + 1) (.expression 0 true)).run ⟨tokens, e.stop⟩ =
      some (read, ⟨.sign q ";" :: rest, after⟩)) :
    (rules (d + 2) .statement).run ⟨.word v "var" :: .word n name :: .sign e "=" :: tokens, stop⟩ =
      some (⟨⟨v.start, q.stop⟩, v.line, .other, read.nodes⟩, ⟨rest, q.stop⟩) := by
  have noAttributes : ((rules (d + 1)).nodesOfMany .attributes).run
      ⟨.word v "var" :: .word n name :: .sign e "=" :: tokens, stop⟩ = some ([], _) :=
    run_noAttributes rfl
  have noModifiers : (many modifier).run
      ⟨.word v "var" :: .word n name :: .sign e "=" :: tokens, stop⟩ = some ([], _) :=
    run_noModifiers rfl
  obtain ⟨found, type⟩ : ∃ found, (rules (d + 1) (.type false)).run
      ⟨.word v "var" :: .word n name :: .sign e "=" :: tokens, stop⟩ =
      some (found, ⟨.word n name :: .sign e "=" :: tokens, v.stop⟩) :=
    exists_run_type_word (by decide) (by decide)
  have first : (declarator (rules (d + 1))).run ⟨.word n name :: .sign e "=" :: tokens, v.stop⟩ =
      some (read.nodes, ⟨.sign q ";" :: rest, after⟩) := by
    simp [declarator, notKeyword, values]
  have noMore : (many (sign "," *> declarator (rules (d + 1)))).run ⟨.sign q ";" :: rest, after⟩ =
      some ([], _) :=
    run_many_of_refuses (by simp)
  have list : (variableList (rules (d + 1))).run
      ⟨.word v "var" :: .word n name :: .sign e "=" :: tokens, stop⟩ =
      some (read.nodes, ⟨.sign q ";" :: rest, after⟩) := by
    simp [variableList, commaSeparated, type, first, noMore]
  refine run_statement_word (by decide) ?_
  simp +decide [plainStatement, localVariables, noAttributes, noModifiers, list]

/-- An expression with an effect.  Its first name is not the type of a variable or a local function,
since parentheses follow. -/
theorem exists_run_statement_effect (named : Named tokens) (plain : PlainStart tokens)
    (values : (rules (d + 2) (.expression 0 true)).run ⟨tokens ++ .sign p "(" :: behind, stop⟩ =
      some (read, ⟨.sign q ";" :: rest, after⟩)) (effect : read.shape = .effect) :
    ∃ span line, (rules (d + 3) .statement).run ⟨tokens ++ .sign p "(" :: behind, stop⟩ =
      some (⟨span, line, .other, read.nodes⟩, ⟨rest, q.stop⟩) := by
  obtain ⟨found, type⟩ : ∃ found, (rules (d + 2) (.type false)).run
      ⟨tokens ++ .sign p "(" :: behind, stop⟩ =
      some (found, ⟨.sign p "(" :: behind, endOf tokens⟩) :=
    exists_run_type_named named plain.notScoped (by decide)
  obtain ⟨place, name, second, following, same, begins, _, other⟩ := named.exists_next p "(" behind
  have notStart := plain.notStart begins
  have notVar := ne_of_not_start notStart "var" (by decide)
  have notUsing := ne_of_not_start notStart "using" (by decide)
  have notAwait := ne_of_not_start notStart "await" (by decide)
  have notStatement : name ∉ statementWords := fun mem => notStart (by simp [startWords, mem])
  have notModifier : name ∉ modifierWords := fun mem => notStart (by simp [startWords, mem])
  have noLabel : second.isSign ":" = false := other ":" (by decide) (by decide)
  rw [same] at type values ⊢
  have noAttributes : ((rules (d + 2)).nodesOfMany .attributes).run
      ⟨.word place name :: second :: following, stop⟩ = some ([], _) :=
    run_noAttributes rfl
  have noModifiers : (many modifier).run ⟨.word place name :: second :: following, stop⟩ =
      some ([], _) :=
    run_noModifiers (by simpa using notModifier)
  have noList : (variableList (rules (d + 2))).run
      ⟨.word place name :: second :: following, stop⟩ = none := by
    simp [variableList, notVar, type, commaSeparated, declarator]
  have noVariables : (localVariables (rules (d + 2))).run
      ⟨.word place name :: second :: following, stop⟩ = none := by
    simp [localVariables, noAttributes, notAwait, notUsing, noModifiers, noList]
  have noFunction : (localFunction (rules (d + 2))).run
      ⟨.word place name :: second :: following, stop⟩ = none := by
    simp [localFunction, noAttributes, noModifiers, type]
  have effects : (expressionStatement (rules (d + 2))).run
      ⟨.word place name :: second :: following, stop⟩ = some (read.nodes, ⟨rest, q.stop⟩) := by
    simp [expressionStatement, Rules.expression, values, effect]
  refine ⟨_, _, run_statement_word notStatement ?_⟩
  simp [plainStatement, noLabel, noVariables, noFunction, effects]

theorem run_statement_return
    (values : (rules d (.expression 0 true)).run ⟨tokens, place.stop⟩ =
      some (read, ⟨.sign q ";" :: rest, after⟩)) :
    (rules (d + 1) .statement).run ⟨.word place "return" :: tokens, stop⟩ =
      some (⟨⟨place.start, q.stop⟩, place.line, .other, read.nodes⟩, ⟨rest, q.stop⟩) := by
  change (statementPhrase (rules d)).run _ = _
  simp +decide [statementPhrase, phrase, wordStatement, keywordStatement, values]

/-- No statement begins where a block ends. -/
theorem run_statement_closing : (rules d .statement).run ⟨.sign p "\x7d" :: rest, stop⟩ = none := by
  have closes : "\x7d" ∈ closers := by decide
  cases d with
  | zero => rfl
  | succ d =>
      have noAttributes : ((rules d).nodesOfMany .attributes).run ⟨.sign p "\x7d" :: rest, stop⟩ =
          some ([], _) :=
        run_noAttributes rfl
      have noModifiers : (many modifier).run ⟨.sign p "\x7d" :: rest, stop⟩ = some ([], _) :=
        run_noModifiers rfl
      have noType (value : Bool) : (rules d (.type value)).run ⟨.sign p "\x7d" :: rest, stop⟩ =
          none :=
        run_type_sign (by decide)
      have noVariables : (localVariables (rules d)).run ⟨.sign p "\x7d" :: rest, stop⟩ = none := by
        simp [localVariables, variableList, noAttributes, noModifiers, noType]
      have noFunction : (localFunction (rules d)).run ⟨.sign p "\x7d" :: rest, stop⟩ = none := by
        simp [localFunction, noAttributes, noModifiers, noType]
      have noEffect : (expressionStatement (rules d)).run ⟨.sign p "\x7d" :: rest, stop⟩ =
          none := by
        simp [expressionStatement, Rules.expression, run_expression_sign closes]
      change (statementPhrase (rules d)).run _ = none
      simp [statementPhrase, phrase, plainStatement, noVariables, noFunction, noEffect]

/-! ## Statements with calls -/

section

variable {others : List Token} {o c s : Place} (named : Named tokens) (plain : PlainStart tokens)
  (named' : Named others) (plain' : PlainStart others) (d stop : Nat) (rest : List Token)
include named plain named' plain'

/-- A variable for a new object to which a name is given. -/
theorem exists_run_statement_object {v n e w : Place} (notKeyword : name ∉ keywords) :
    ∃ read, read.nodes = [] ∧ (rules (d + 5) .statement).run
      ⟨.word v "var" :: .word n name :: .sign e "=" :: .word w "new" :: (tokens ++ .sign o "(" ::
        (others ++ .sign c ")" :: .sign s ";" :: rest)), stop⟩ =
      some (read, ⟨rest, s.stop⟩) := by
  have closes : ";" ∈ closers := by decide
  obtain ⟨span, passes⟩ :=
    exists_run_arguments_name named' plain' d (endOf tokens) o c (.sign s ";" :: rest)
  obtain ⟨read, nodes, creates⟩ := exists_run_expression_object named plain closes passes
  refine ⟨_, ?_, run_statement_variable notKeyword creates⟩
  exact nodes

/-- A call to which the result of another call is given. -/
theorem exists_run_statement_call {o' c' : Place}
    (closed : opensLambda (.sign o "(" :: (others ++ .sign o' "(" :: .sign c' ")" ::
      .sign c ")" :: .sign s ";" :: rest)) = false) :
    ∃ read, (∀ node ∈ read.nodes, node.IsSilent) ∧ (rules (d + 5) .statement).run
      ⟨tokens ++ .sign o "(" :: (others ++ .sign o' "(" :: .sign c' ")" :: .sign c ")" ::
        .sign s ";" :: rest), stop⟩ = some (read, ⟨rest, s.stop⟩) := by
  have closes : ";" ∈ closers := by decide
  obtain ⟨span, line, callee, passes⟩ :=
    exists_run_arguments_call named' plain' d (endOf tokens) o c o' c' (.sign s ";" :: rest)
  obtain ⟨read, line', callee', nodes, effect, values⟩ :=
    exists_run_expression_call named plain closes closed passes
      (by simp only [List.length_append, List.length_cons]; omega) stop
  obtain ⟨span', line'', runs⟩ := exists_run_statement_effect named plain values effect
  refine ⟨_, ?_, runs⟩
  rw [nodes]
  exact Node.isSilent_singleton (by simp)
    (Node.isSilent_singleton (List.forall_mem_nil _) (List.forall_mem_nil _))

/-- The result of a call to which a name is given is returned. -/
theorem exists_run_statement_return {r : Place}
    (closed : opensLambda (.sign o "(" :: (others ++ .sign c ")" :: .sign s ";" :: rest)) = false) :
    ∃ read, (∀ node ∈ read.nodes, node.IsSilent) ∧ (rules (d + 5) .statement).run
      ⟨.word r "return" :: (tokens ++ .sign o "(" ::
        (others ++ .sign c ")" :: .sign s ";" :: rest)), stop⟩ = some (read, ⟨rest, s.stop⟩) := by
  have closes : ";" ∈ closers := by decide
  obtain ⟨span, passes⟩ :=
    exists_run_arguments_name named' plain' d (endOf tokens) o c (.sign s ";" :: rest)
  obtain ⟨read, line, callee, nodes, _, values⟩ :=
    exists_run_expression_call named plain closes closed passes
      (by simp only [List.length_append, List.length_cons]; omega) r.stop
  refine ⟨_, ?_, run_statement_return values⟩
  rw [nodes]
  exact Node.isSilent_singleton (by simp) (List.forall_mem_nil _)

end

/-! ## Blocks -/

theorem run_block {phrases : List Phrase}
    (statements : Repeats (rules d .statement) ⟨tokens, p.stop⟩ phrases
      ⟨.sign q "\x7d" :: rest, after⟩) :
    (rules (d + 1) .block).run ⟨.sign p "\x7b" :: tokens, stop⟩ =
      some (⟨⟨p.start, q.stop⟩, p.line, .other, phrases.flatMap Phrase.nodes⟩,
        ⟨rest, q.stop⟩) := by
  change (blockPhrase (rules d)).run _ = _
  simp [blockPhrase, phrase, Rules.nodesOfMany, statements.run_many]

theorem run_body_arrow
    (values : (rules d (.expression 0 true)).run ⟨tokens, p.stop⟩ =
      some (read, ⟨.sign q ";" :: rest, after⟩)) :
    (body (rules d)).run ⟨.sign p "=>" :: tokens, stop⟩ = some (read.nodes, ⟨rest, q.stop⟩) := by
  simp [body, values]

theorem run_body_block {later : Reading}
    (blocks : (rules d .block).run ⟨.sign p "\x7b" :: tokens, stop⟩ = some (read, later)) :
    (body (rules d)).run ⟨.sign p "\x7b" :: tokens, stop⟩ = some (read.nodes, later) := by
  simp [body, blocks]

end ClassHarvest.CSharp.Grammar
