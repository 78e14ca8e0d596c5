import ClassHarvest.Proofs.CSharp.Expressions

/-!
# Reading calls and creations

A name with parentheses behind it is a call, whose arguments are none or one here.  A creation makes
an object of a named class with such arguments, or an array with string literals as its elements.
-/

namespace ClassHarvest.CSharp.Grammar

variable {rest tokens behind : List Token} {stop after d : Nat} {place p q : Place}
  {ending next : String} {kept : List ArgumentSpan} {inner : List Node} {value : Bool}

/-! ## Arguments -/

/-- No argument begins with a closing sign. -/
theorem run_argument_sign (closes : ending ∈ closers) :
    (argument (rules d)).run ⟨.sign p ending :: rest, stop⟩ = none := by
  have noOpening := ne_of_mem_closers closes (show "(" ∉ closers by decide)
  simp [argument, declaredVariable, phrase, Rules.expression, run_type_sign noOpening,
    run_expression_sign closes]

theorem run_arguments_nil :
    (arguments (rules d)).run ⟨.sign p "(" :: .sign q ")" :: rest, stop⟩ =
      some (([], []), ⟨rest, q.stop⟩) := by
  have closes : ")" ∈ closers := by decide
  simp [arguments, commaSeparated, run_argument_sign closes]

theorem run_arguments_one {read : ArgumentSpan × List Node}
    (passes : (argument (rules d)).run ⟨tokens, p.stop⟩ =
      some (read, ⟨.sign q ")" :: rest, after⟩)) :
    (arguments (rules d)).run ⟨.sign p "(" :: tokens, stop⟩ =
      some (([read.1], read.2), ⟨rest, q.stop⟩) := by
  have noMore : (many (sign "," *> argument (rules d))).run ⟨.sign q ")" :: rest, after⟩ =
      some ([], ⟨.sign q ")" :: rest, after⟩) :=
    run_many_of_refuses (by simp)
  simp [arguments, commaSeparated, passes, noMore]

/-- An expression that begins with a name is an argument: it is passed by value, has no name and
declares no variable. -/
theorem run_argument_named (named : Named tokens) (plain : PlainStart tokens)
    (ends : next ∉ nameSigns) (noColon : next ≠ ":") {read : Phrase} {later : Reading}
    (values : (rules (d + 3) (.expression 0 true)).run ⟨tokens ++ .sign p next :: rest, stop⟩ =
      some (read, later)) (notSelf : read.shape ≠ .self) :
    (argument (rules (d + 3))).run ⟨tokens ++ .sign p next :: rest, stop⟩ =
      some ((⟨formOf read.shape, read.span⟩, read.nodes), later) := by
  obtain ⟨found, type⟩ : ∃ found, (rules (d + 3) (.type false)).run
      ⟨tokens ++ .sign p next :: rest, stop⟩ =
      some (found, ⟨.sign p next :: rest, endOf tokens⟩) :=
    exists_run_type_named named plain.notScoped ends
  obtain ⟨place, name, second, behind, same, _, notKeyword, other⟩ := named.exists_next p next rest
  have notRef := ne_of_not_keyword notKeyword "ref" (by decide)
  have notOut := ne_of_not_keyword notKeyword "out" (by decide)
  have notIn := ne_of_not_keyword notKeyword "in" (by decide)
  rw [same] at type values ⊢
  have unnamed : (attempt (identifier <* sign ":")).run
      ⟨.word place name :: second :: behind, stop⟩ =
      some (none, ⟨.word place name :: second :: behind, stop⟩) := by
    simp [notKeyword, other ":" noColon (by decide)]
  have byValue : (attempt (accept (isOneOf ["ref", "out", "in"]))).run
      ⟨.word place name :: second :: behind, stop⟩ =
      some (none, ⟨.word place name :: second :: behind, stop⟩) := by
    simp [notRef, notOut, notIn]
  have noVariable : (declaredVariable (rules (d + 3))).run
      ⟨.word place name :: second :: behind, stop⟩ = none := by
    simp [declaredVariable, phrase, type]
  simp [argument, -run_attempt, unnamed, byValue, noVariable, Rules.expression, values, notSelf]

/-! ## Calls -/

/-- A call of a name up to a closing sign. -/
theorem exists_run_expression_call (named : Named tokens) (plain : PlainStart tokens)
    (closes : ending ∈ closers) (closed : opensLambda (.sign p "(" :: behind) = false)
    (passes : (arguments (rules (d + 2))).run ⟨.sign p "(" :: behind, endOf tokens⟩ =
      some ((kept, inner), ⟨.sign q ending :: rest, after⟩))
    (shorter : rest.length < behind.length) (stop : Nat) :
    ∃ read line callee, read.nodes = [.invocation line callee kept inner] ∧ read.shape = .effect ∧
      (rules (d + 3) (.expression 0 true)).run ⟨tokens ++ .sign p "(" :: behind, stop⟩ =
        some (read, ⟨.sign q ending :: rest, after⟩) := by
  obtain ⟨longer, nodes, _, go⟩ :=
    exists_run_expression_chain named plain closes (show "(" ∉ nameSigns by decide) (by decide)
      closed d stop after q rest
  have links : (link (rules (d + 2)) longer).run ⟨.sign p "(" :: behind, endOf tokens⟩ =
      some (⟨⟨longer.span.start, after⟩, longer.line, .effect,
        [.invocation longer.line (calleeOf longer) kept inner]⟩,
        ⟨.sign q ending :: rest, after⟩) := by
    simp [link, passes, nodes]
  exact ⟨_, _, _, rfl, rfl, go _
    (.more links (by simpa using shorter) (.stop (run_link_closed closes)))⟩

/-! ## Names and calls as arguments -/

section

variable (named : Named tokens) (plain : PlainStart tokens)
include named plain

theorem exists_run_arguments_name (d stop : Nat) (p q : Place) (rest : List Token) :
    ∃ span, (arguments (rules (d + 3))).run
      ⟨.sign p "(" :: (tokens ++ .sign q ")" :: rest), stop⟩ =
      some (([⟨.expression, span⟩], []), ⟨rest, q.stop⟩) := by
  have closes : ")" ∈ closers := by decide
  obtain ⟨value, nodes, isName, values⟩ :=
    exists_run_expression_named named plain closes d p.stop q rest
  have notSelf : value.shape ≠ .self := by
    rcases isName with place | ⟨target, member, isMember⟩
    · rw [place]
      decide
    · rw [isMember]
      simp
  have form : formOf value.shape = .expression := by
    rcases isName with place | ⟨target, member, isMember⟩
    · rw [place]
      rfl
    · rw [isMember]
      rfl
  have passes := run_argument_named named plain (by decide) (by decide) values notSelf
  rw [form, nodes] at passes
  exact ⟨value.span, run_arguments_one passes⟩

theorem exists_run_arguments_call (d stop : Nat) (p q o c : Place) (rest : List Token) :
    ∃ span line callee, (arguments (rules (d + 3))).run
      ⟨.sign p "(" :: (tokens ++ .sign o "(" :: .sign c ")" :: .sign q ")" :: rest), stop⟩ =
      some (([⟨.expression, span⟩], [.invocation line callee [] []]), ⟨rest, q.stop⟩) := by
  have closes : ")" ∈ closers := by decide
  obtain ⟨value, line, callee, nodes, shape, values⟩ :=
    exists_run_expression_call named plain closes rfl run_arguments_nil
      (Nat.lt_succ_of_lt (Nat.lt_succ_self _)) p.stop
  have passes := run_argument_named named plain (by decide) (by decide) values (by simp [shape])
  rw [shape, nodes] at passes
  exact ⟨value.span, line, callee, run_arguments_one passes⟩

end

/-! ## Elements of an array -/

/-- String literals with commas between. -/
inductive Literals : List Token → Prop
  /-- One literal. -/
  | last {place : Place} : Literals [.string place]
  /-- A literal in front of others. -/
  | more {place comma : Place} {tokens : List Token} (behind : Literals tokens) :
      Literals (.string place :: .sign comma "," :: tokens)

namespace Literals

theorem endOf_more {first : Token} (literals : Literals tokens) :
    endOf (first :: .sign p "," :: tokens) = endOf tokens := by
  cases literals <;> simp

/-- Behind a comma the literals are read one after another, and have no nodes. -/
theorem exists_repeats (literals : Literals tokens) (comma : Place) (d stop : Nat) (p : Place)
    (rest : List Token) :
    ∃ values, values.flatten = [] ∧ Repeats (sign "," *> (rules (d + 1)).value)
      ⟨.sign comma "," :: (tokens ++ .sign p "\x7d" :: rest), stop⟩ values
      ⟨.sign p "\x7d" :: rest, endOf tokens⟩ := by
  have closes : "\x7d" ∈ closers := by decide
  have separates : "," ∈ closers := by decide
  induction literals generalizing comma stop with
  | @last place =>
      refine ⟨[[]], rfl, .more ?_ ?_ (.stop ?_)⟩
      · simp [run_expression_string closes]
      · simp
      · simp
  | @more place next tokens behind ih =>
      obtain ⟨values, silent, repeats⟩ := ih next place.stop
      have first : (sign "," *> (rules (d + 1)).value).run
          ⟨.sign comma "," :: (.string place :: .sign next "," :: tokens ++
            .sign p "\x7d" :: rest), stop⟩ =
          some ([], ⟨.sign next "," :: (tokens ++ .sign p "\x7d" :: rest), place.stop⟩) := by
        simp [run_expression_string separates]
      rw [behind.endOf_more]
      exact ⟨[] :: values, silent, .more first (by simp) repeats⟩

theorem run_initializer (literals : Literals tokens) :
    (initializer (rules (d + 1))).run
      ⟨.sign p "\x7b" :: (tokens ++ .sign q "\x7d" :: rest), stop⟩ =
      some ([], ⟨rest, q.stop⟩) := by
  have closes : "\x7d" ∈ closers := by decide
  have separates : "," ∈ closers := by decide
  cases literals with
  | @last place =>
      have noMore : (many (sign "," *> (rules (d + 1)).value)).run
          ⟨.sign q "\x7d" :: rest, place.stop⟩ =
          some ([], ⟨.sign q "\x7d" :: rest, place.stop⟩) :=
        run_many_of_refuses (by simp)
      simp [initializer, commaEnded, commaSeparated, run_expression_string closes, noMore]
  | @more place comma tokens behind =>
      obtain ⟨values, silent, repeats⟩ := behind.exists_repeats comma d place.stop q rest
      simp [initializer, commaEnded, commaSeparated, run_expression_string separates,
        repeats.run_many, silent]

end Literals

/-! ## Creations -/

/-- A creation is an expression by itself. -/
theorem run_expression_new {second : Token} {created : Phrase}
    (noArrow : second.isSign "=>" = false)
    (creates : (creation (rules d)).run ⟨.word place "new" :: second :: tokens, stop⟩ =
      some (created, ⟨.sign q ending :: rest, after⟩)) (closes : ending ∈ closers) :
    (rules (d + 1) (.expression 0 true)).run ⟨.word place "new" :: second :: tokens, stop⟩ =
      some (created, ⟨.sign q ending :: rest, after⟩) := by
  have noType : (rules d (.type true)).run ⟨.word place "new" :: second :: tokens, stop⟩ =
      none := by
    cases d with
    | zero => rfl
    | succ d =>
        change (typePhrase (rules d) true).run _ = none
        simp +decide [typePhrase, phrase, plainType, seesScoped, qualifiedName, simpleName]
  have noLambda : (lambdaPhrase (rules d)).run ⟨.word place "new" :: second :: tokens, stop⟩ =
      none :=
    run_lambda_eq_none (by decide) noArrow (by simp [noType])
  have begins : (primary (rules d) true).run ⟨.word place "new" :: second :: tokens, stop⟩ =
      some (created, ⟨.sign q ending :: rest, after⟩) := by
    rw [← creates]
    rfl
  exact run_expression_word (by decide) noLambda begins (.stop (run_link_closed closes)) closes

/-- A created type is neither nullable nor a pointer. -/
theorem run_noMarks (plain : ending ∉ ["?", "*"]) :
    (many (accept (isSignOf ["?", "*"]))).run ⟨.sign p ending :: rest, stop⟩ =
      some ([], ⟨.sign p ending :: rest, stop⟩) :=
  run_many_of_refuses (by simpa using plain)

/-- Brackets without a size, in front of the elements. -/
theorem run_noSizes :
    (many (arraySizes (rules d))).run
      ⟨.sign place "[" :: .sign p "]" :: .sign q "\x7b" :: rest, stop⟩ =
      some ([[]], ⟨.sign q "\x7b" :: rest, p.stop⟩) := by
  have closes : "]" ∈ closers := by decide
  have noComma : (many (sign ",")).run ⟨.sign p "]" :: .sign q "\x7b" :: rest, place.stop⟩ =
      some ([], _) :=
    run_many_of_refuses (by simp)
  refine Repeats.run_many (.more ?_ ?_ (.stop ?_))
  · simp [arraySizes, commaSeparated, run_expression_sign closes, noComma]
  · simp
  · simp [arraySizes]

/-- An array of strings with its elements. -/
theorem run_expression_array (literals : Literals tokens) (closes : ending ∈ closers)
    {n t b b' o c : Place} :
    (rules (d + 2) (.expression 0 true)).run
      ⟨.word n "new" :: .word t "string" :: .sign b "[" :: .sign b' "]" :: .sign o "\x7b" ::
        (tokens ++ .sign c "\x7d" :: .sign q ending :: rest), stop⟩ =
      some (⟨⟨n.start, c.stop⟩, n.line, .other, []⟩, ⟨.sign q ending :: rest, c.stop⟩) := by
  have noMark : "[" ∉ ["?", "*"] := by decide
  refine run_expression_new rfl ?_ closes
  simp [creation, shaped, run_plainType_keyword mem_typeKeywords_string, run_noMarks noMark,
    run_noSizes, literals.run_initializer]

/-- An object of a named class. -/
theorem exists_run_expression_object (named : Named tokens) (plain : PlainStart tokens)
    (closes : ending ∈ closers)
    (passes : (arguments (rules (d + 1))).run ⟨.sign p "(" :: behind, endOf tokens⟩ =
      some ((kept, inner), ⟨.sign q ending :: rest, after⟩)) :
    ∃ read, read.nodes = inner ∧
      (rules (d + 2) (.expression 0 true)).run
        ⟨.word place "new" :: (tokens ++ .sign p "(" :: behind), stop⟩ =
        some (read, ⟨.sign q ending :: rest, after⟩) := by
  have type : (plainType (rules (d + 1)) true).run ⟨tokens ++ .sign p "(" :: behind, place.stop⟩ =
      some ((), ⟨.sign p "(" :: behind, endOf tokens⟩) :=
    run_plainType_named named plain.notScoped (by decide)
  have noMark : "(" ∉ ["?", "*"] := by decide
  have noBrace := ne_of_mem_closers closes (show "\x7b" ∉ closers by decide)
  have noValues : (initializer (rules (d + 1))).run ⟨.sign q ending :: rest, after⟩ = none := by
    simp [initializer, noBrace]
  obtain ⟨first, name, second, following, same, _, _, _⟩ := named.exists_next p "(" behind
  rw [same] at type ⊢
  refine ⟨⟨⟨place.start, after⟩, place.line, .effect, inner⟩, rfl,
    run_expression_new rfl ?_ closes⟩
  simp [creation, shaped, type, run_noMarks noMark, passes, noValues]

end ClassHarvest.CSharp.Grammar
