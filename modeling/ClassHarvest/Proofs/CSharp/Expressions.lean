import ClassHarvest.Proofs.CSharp.Names

/-!
# Reading expressions

An expression ends at a sign that closes what is around it.  An operand with links behind it, such
as a dotted name, is read as it stands: it is no lambda expression, nothing is assigned to it and no
operator follows.
-/

namespace ClassHarvest.CSharp.Grammar

variable {grammar : Rules} {rest tokens behind : List Token} {stop after d level : Nat}
  {place p q s point : Place} {ending next : String} {name : Text} {left : Phrase} {lambda : Bool}

/-! ## Closing signs -/

/-- The signs that end an expression. -/
def closers : List String := [")", "]", "\x7d", ",", ";"]

theorem of_mem_closers (closes : ending ∈ closers) :
    ending = ")" ∨ ending = "]" ∨ ending = "\x7d" ∨ ending = "," ∨ ending = ";" := by
  simpa [closers] using closes

theorem not_mem_nameSigns_of_closer (closes : ending ∈ closers) : ending ∉ nameSigns := by
  rcases of_mem_closers closes with rfl | rfl | rfl | rfl | rfl <;> decide

theorem ne_of_mem_closers (closes : ending ∈ closers) {other : String} (no : other ∉ closers) :
    ending ≠ other := by
  rintro rfl
  exact no closes

/-- No expression begins with a closing sign. -/
theorem run_expression_sign (closes : ending ∈ closers) :
    (rules d (.expression level lambda)).run ⟨.sign p ending :: rest, stop⟩ = none := by
  cases d with
  | zero => rfl
  | succ d =>
      change (expressionPhrase (rules d) level lambda).run _ = none
      rcases of_mem_closers closes with rfl | rfl | rfl | rfl | rfl <;> cases lambda <;> rfl

theorem run_link_closed (closes : ending ∈ closers) :
    (link grammar left).run ⟨.sign p ending :: rest, stop⟩ = none := by
  rcases of_mem_closers closes with rfl | rfl | rfl | rfl | rfl <;> rfl

theorem run_assigned_closed (closes : ending ∈ closers) :
    (assigned grammar left).run ⟨.sign p ending :: rest, stop⟩ =
      some (left, ⟨.sign p ending :: rest, stop⟩) := by
  rcases of_mem_closers closes with rfl | rfl | rfl | rfl | rfl <;>
    simp [assigned, operator?, assigningOperators]

theorem run_extended_closed (closes : ending ∈ closers) :
    (extended grammar level lambda left).run ⟨.sign p ending :: rest, stop⟩ = none := by
  rcases of_mem_closers closes with rfl | rfl | rfl | rfl | rfl <;> rfl

theorem run_climb_closed (closes : ending ∈ closers) (bound : List Token) :
    (climb grammar level lambda bound left).run ⟨.sign p ending :: rest, stop⟩ =
      some (left, ⟨.sign p ending :: rest, stop⟩) := by
  cases bound with
  | nil => rfl
  | cons token bound => simp [climb, run_extended_closed closes]

/-! ## Attributes -/

/-- Attributes begin with a bracket. -/
theorem run_noAttributes {token : Token} (other : token.isSign "[" = false) :
    ((rules d).nodesOfMany .attributes).run ⟨token :: rest, stop⟩ =
      some ([], ⟨token :: rest, stop⟩) := by
  have refuses : (rules d .attributes).run ⟨token :: rest, stop⟩ = none := by
    cases d with
    | zero => rfl
    | succ d =>
        change (attributesPhrase (rules d)).run _ = none
        simp [attributesPhrase, phrase, other]
  simp [Rules.nodesOfMany, run_many_of_refuses refuses]

/-! ## Lambda expressions -/

/-- Whether parentheses come next, and an arrow behind them. -/
def opensLambda (tokens : List Token) : Bool :=
  tokens.head?.any (Token.isSign "(") && (afterBrackets 0 tokens).head?.any (Token.isSign "=>")

@[simp]
theorem run_seesParametersAndArrow (reading : Reading) :
    seesParametersAndArrow.run reading = some (opensLambda reading.rest, reading) :=
  rfl

@[simp]
theorem opensLambda_word : opensLambda (.word p name :: rest) = false :=
  rfl

theorem opensLambda_closer (closes : ending ∈ closers) :
    opensLambda (.sign p ending :: rest) = false := by
  rcases of_mem_closers closes with rfl | rfl | rfl | rfl | rfl <;> rfl

/-- A word is no lambda expression if neither an arrow follows nor parameters behind a type. -/
theorem run_lambda_eq_none {next : Token} (notModifier : name ∉ (["async", "static"] : List Text))
    (noArrow : next.isSign "=>" = false)
    (noType : ∀ read later, (rules d (.type true)).run ⟨.word p name :: next :: rest, stop⟩ =
      some (read, later) → opensLambda later.rest = false) :
    (lambdaPhrase (rules d)).run ⟨.word p name :: next :: rest, stop⟩ = none := by
  have noAttributes : ((rules d).nodesOfMany .attributes).run ⟨.word p name :: next :: rest, stop⟩ =
      some ([], _) :=
    run_noAttributes rfl
  have noModifiers : (many lambdaModifier).run ⟨.word p name :: next :: rest, stop⟩ =
      some ([], ⟨.word p name :: next :: rest, stop⟩) :=
    run_many_of_refuses (by simp [lambdaModifier, notModifier])
  cases type : (rules d (.type true)).run ⟨.word p name :: next :: rest, stop⟩ with
  | none =>
      simp [lambdaPhrase, phrase, noAttributes, noModifiers, lambdaParameters, noArrow, type]
  | some found =>
      have refused := noType found.1 found.2 type
      simp [lambdaPhrase, phrase, noAttributes, noModifiers, lambdaParameters, noArrow, type,
        refused]

/-! ## Links -/

/-- The links behind an operand one after another, until none follows. -/
inductive Chains (grammar : Rules) : Reading → Phrase → Phrase → Reading → Prop
  /-- No link follows. -/
  | stop {reading : Reading} {left : Phrase} (refuses : (link grammar left).run reading = none) :
      Chains grammar reading left left reading
  /-- A link reads at least one token. -/
  | more {reading later after : Reading} {left longer final : Phrase}
      (links : (link grammar left).run reading = some (longer, later))
      (shorter : later.rest.length < reading.rest.length)
      (behind : Chains grammar later longer final after) : Chains grammar reading left final after

theorem Chains.run_chain {reading after : Reading} {final : Phrase}
    (chains : Chains grammar reading left final after) {bound : List Token}
    (enough : reading.rest.length ≤ bound.length) :
    (chain grammar bound left).run reading = some (final, after) := by
  induction chains generalizing bound with
  | @stop reading left refuses =>
      cases bound with
      | nil => rfl
      | cons token bound => simp [chain, refuses]
  | @more reading later after left longer final links shorter _ ih =>
      cases bound with
      | nil =>
          rw [List.length_nil] at enough
          omega
      | cons token bound =>
          rw [List.length_cons] at enough
          have behind := @ih bound (by omega)
          simp [chain, links, behind]

theorem Chains.run_chained {reading after : Reading} {final : Phrase}
    (chains : Chains grammar reading left final after) :
    (chained grammar left).run reading = some (final, after) := by
  simp [chained, chains.run_chain (Nat.le_refl _)]

theorem run_genericName_sign (notKeyword : name ∉ keywords) (other : ending ≠ "<") :
    (genericName grammar).run ⟨.word place name :: .sign p ending :: rest, stop⟩ =
      some ((), ⟨.sign p ending :: rest, place.stop⟩) := by
  have closed : (typeArguments grammar true).run ⟨.sign p ending :: rest, place.stop⟩ = none := by
    simp [typeArguments, other]
  simp [genericName, notKeyword, closed]

theorem run_genericName (notKeyword : name ∉ keywords) :
    (genericName (rules (d + 1))).run
      ⟨.word place name :: .sign p "<" :: .word q "string" :: .sign s ">" ::
        .sign point ending :: rest, stop⟩ =
      some ((), ⟨.sign point ending :: rest, s.stop⟩) := by
  simp [genericName, notKeyword, run_typeArguments, followsTypeArguments]

/-- A member of what a phrase gives, by the stretch of its name. -/
def Phrase.memberOf (left : Phrase) (start stop : Nat) : Phrase :=
  ⟨⟨left.span.start, stop⟩, left.line, .member left.span ⟨start, stop⟩, left.nodes⟩

theorem run_link_name (notKeyword : name ∉ keywords) (other : ending ≠ "<") :
    (link grammar left).run ⟨.sign point "." :: .word place name :: .sign p ending :: rest, stop⟩ =
      some (left.memberOf place.start place.stop, ⟨.sign p ending :: rest, place.stop⟩) := by
  simp [link, run_genericName_sign notKeyword other, Phrase.memberOf]

theorem run_link_generic {next : Place} (notKeyword : name ∉ keywords) :
    (link (rules (d + 1)) left).run
      ⟨.sign point "." :: .word place name :: .sign p "<" :: .word q "string" :: .sign s ">" ::
        .sign next ending :: rest, stop⟩ =
      some (left.memberOf place.start s.stop, ⟨.sign next ending :: rest, s.stop⟩) := by
  simp [link, run_genericName notKeyword, Phrase.memberOf]

/-! ## Operands -/

/-- The shape of a phrase that names something. -/
def Phrase.IsName (phrase : Phrase) : Prop :=
  phrase.shape = .place ∨ ∃ target member, phrase.shape = .member target member

/-- Words that begin an operand of their own. -/
def operandWords : List Text := [
  "true", "false", "null", "this", "base", "new", "stackalloc", "typeof", "sizeof", "default",
  "checked", "unchecked", "__makeref", "__reftype", "__refvalue", "from", "delegate", "async",
  "static", "await", "throw", "ref"]

/-- Words that begin a statement of their own. -/
def statementWords : List Text := [
  "if", "for", "foreach", "while", "do", "switch", "try", "lock", "using", "fixed", "goto",
  "return", "throw", "break", "continue", "checked", "unchecked", "unsafe", "yield", "await"]

/-- Words with which a name does not begin, if it is to be read as a name everywhere. -/
def startWords : List Text :=
  (["scoped", "var"] : List Text) ++ operandWords ++ statementWords ++ modifierWords

/-- The first of some tokens begins nothing of its own. -/
def PlainStart (tokens : List Token) : Prop :=
  tokens.head?.any (isOneOf startWords) = false

theorem ne_of_not_start (notStart : name ∉ startWords) (word : Text) (starts : word ∈ startWords) :
    name ≠ word := by
  rintro rfl
  exact notStart starts

namespace PlainStart

theorem notStart (plain : PlainStart tokens) (begins : tokens.head? = some (.word place name)) :
    name ∉ startWords := by
  rw [PlainStart, begins] at plain
  simpa using plain

theorem notScoped (plain : PlainStart tokens) :
    tokens.head?.any (Token.isWord "scoped") = false := by
  cases tokens with
  | nil => rfl
  | cons token tokens =>
      cases token with
      | word place name =>
          have other := ne_of_not_start (plain.notStart rfl) "scoped" (by decide)
          simpa using other
      | _ => rfl

end PlainStart

theorem wordPhrase_eq_namePhrase (grammar : Rules) (notStart : name ∉ startWords)
    (notKeyword : name ∉ keywords) : wordPhrase grammar name = namePhrase grammar := by
  have notOperand : name ∉ operandWords := fun mem => notStart (by simp [startWords, mem])
  have notType := notType_of_not_keyword notKeyword
  simp only [operandWords, List.mem_cons, List.not_mem_nil, or_false, not_or] at notOperand
  simp [wordPhrase, notOperand, notType]

/-- Behind a dot the parts of a name are links. -/
theorem exists_chains_name (named : Named tokens) (ends : ending ∉ nameSigns) (left : Phrase)
    (point : Place) (d stop : Nat) (p : Place) (rest : List Token) :
    ∃ longer, longer.nodes = left.nodes ∧ longer.IsName ∧ ∀ final after,
      Chains (rules (d + 1)) ⟨.sign p ending :: rest, endOf tokens⟩ longer final after →
      Chains (rules (d + 1)) ⟨.sign point "." :: (tokens ++ .sign p ending :: rest), stop⟩ left
        final after := by
  have notOpen : ending ≠ "<" := by
    rintro rfl
    exact ends (by decide)
  induction named generalizing left point stop with
  | @name place name notKeyword =>
      exact ⟨left.memberOf place.start place.stop, rfl, .inr ⟨_, _, rfl⟩,
        fun final after behind => .more (run_link_name notKeyword notOpen) (by simp) behind⟩
  | @generic place opening inner closing name notKeyword =>
      exact ⟨left.memberOf place.start closing.stop, rfl, .inr ⟨_, _, rfl⟩,
        fun final after behind => .more (run_link_generic notKeyword) (by simp) behind⟩
  | @dot place next name tokens notKeyword behind ih =>
      obtain ⟨longer, nodes, isName, go⟩ :=
        ih (left.memberOf place.start place.stop) next place.stop
      refine ⟨longer, nodes, isName, fun final after chains => ?_⟩
      rw [behind.endOf_dot] at chains
      exact .more (run_link_name notKeyword (by decide)) (by simp) (go final after chains)

/-- A name is read as an operand, perhaps with links behind it. -/
theorem exists_run_primary (named : Named tokens) (plain : PlainStart tokens)
    (ends : ending ∉ nameSigns) (d stop : Nat) (p : Place) (rest : List Token) :
    ∃ left middle longer,
      (primary (rules (d + 1)) true).run ⟨tokens ++ .sign p ending :: rest, stop⟩ =
        some (left, middle) ∧
      longer.nodes = [] ∧ longer.IsName ∧ ∀ final after,
        Chains (rules (d + 1)) ⟨.sign p ending :: rest, endOf tokens⟩ longer final after →
        Chains (rules (d + 1)) middle left final after := by
  have notOpen : ending ≠ "<" := by
    rintro rfl
    exact ends (by decide)
  have notAlias : ending ≠ "::" := by
    rintro rfl
    exact ends (by decide)
  cases named with
  | @name place name notKeyword =>
      have same := wordPhrase_eq_namePhrase (rules (d + 1)) (plain.notStart rfl) notKeyword
      refine ⟨⟨⟨place.start, place.stop⟩, place.line, .place, []⟩,
        ⟨.sign p ending :: rest, place.stop⟩, _, ?_, rfl, .inl rfl, fun _ _ chains => chains⟩
      simp [primary, same, namePhrase, phrase, run_genericName_sign notKeyword notOpen, notAlias]
  | @generic place opening inner closing name notKeyword =>
      have same := wordPhrase_eq_namePhrase (rules (d + 1)) (plain.notStart rfl) notKeyword
      refine ⟨⟨⟨place.start, closing.stop⟩, place.line, .place, []⟩,
        ⟨.sign p ending :: rest, closing.stop⟩, _, ?_, rfl, .inl rfl, fun _ _ chains => chains⟩
      simp [primary, same, namePhrase, phrase, run_genericName notKeyword]
  | @dot place point name tokens notKeyword behind =>
      have same := wordPhrase_eq_namePhrase (rules (d + 1)) (plain.notStart rfl) notKeyword
      let first : Phrase := ⟨⟨place.start, place.stop⟩, place.line, .place, []⟩
      obtain ⟨longer, nodes, isName, go⟩ :=
        exists_chains_name behind ends first point d place.stop p rest
      rw [behind.endOf_dot]
      refine ⟨first, ⟨.sign point "." :: (tokens ++ .sign p ending :: rest), place.stop⟩, longer,
        ?_, nodes, isName, go⟩
      simp [first, primary, same, namePhrase, phrase, run_genericName_sign notKeyword]

/-- A name begins no lambda expression. -/
theorem run_lambda_named (named : Named tokens) (plain : PlainStart tokens)
    (ends : ending ∉ nameSigns) (noArrow : ending ≠ "=>")
    (closed : opensLambda (.sign p ending :: rest) = false) :
    (lambdaPhrase (rules (d + 2))).run ⟨tokens ++ .sign p ending :: rest, stop⟩ = none := by
  obtain ⟨read, type⟩ : ∃ read, (rules (d + 2) (.type true)).run
      ⟨tokens ++ .sign p ending :: rest, stop⟩ =
      some (read, ⟨.sign p ending :: rest, endOf tokens⟩) :=
    exists_run_type_named named plain.notScoped ends
  obtain ⟨place, name, next, behind, same, begins, _, other⟩ := named.exists_next p ending rest
  have notStart := plain.notStart begins
  have notAsync := ne_of_not_start notStart "async" (by decide)
  have notStatic := ne_of_not_start notStart "static" (by decide)
  rw [same] at type ⊢
  refine run_lambda_eq_none (by simp [notAsync, notStatic]) (other _ noArrow (by decide)) ?_
  intro found later reads
  cases type.symm.trans reads
  exact closed

/-! ## Whole expressions -/

/-- An operand that begins with a word, with its links up to a closing sign. -/
theorem run_expression_word {middle : Reading} {final : Phrase}
    (plain : name ∉ (["await", "throw", "ref"] : List Text))
    (noLambda : (lambdaPhrase (rules d)).run ⟨.word p name :: tokens, stop⟩ = none)
    (begins : (primary (rules d) true).run ⟨.word p name :: tokens, stop⟩ = some (left, middle))
    (chains : Chains (rules d) middle left final ⟨.sign q ending :: rest, after⟩)
    (closes : ending ∈ closers) :
    (rules (d + 1) (.expression 0 true)).run ⟨.word p name :: tokens, stop⟩ =
      some (final, ⟨.sign q ending :: rest, after⟩) := by
  simp only [List.mem_cons, List.not_mem_nil, or_false, not_or] at plain
  change (expressionPhrase (rules d) 0 true).run _ = _
  simp [expressionPhrase, operand, seesAwait, plain, noLambda, begins, chains.run_chained,
    run_assigned_closed closes, run_climb_closed closes]

/-- A string literal up to a closing sign. -/
theorem run_expression_string (closes : ending ∈ closers) :
    (rules (d + 1) (.expression 0 true)).run ⟨.string p :: .sign q ending :: rest, stop⟩ =
      some (⟨⟨p.start, p.stop⟩, p.line, .string, []⟩, ⟨.sign q ending :: rest, p.stop⟩) := by
  have unlinked (left : Phrase) (stop : Nat) :
      (chained (rules d) left).run ⟨.sign q ending :: rest, stop⟩ =
        some (left, ⟨.sign q ending :: rest, stop⟩) :=
    (Chains.stop (run_link_closed closes)).run_chained
  change (expressionPhrase (rules d) 0 true).run _ = _
  simp [expressionPhrase, operand, seesAwait, primary, token, phrase, unlinked,
    run_assigned_closed closes, run_climb_closed closes, isAnyWord, isSignOf]

section

variable (named : Named tokens) (plain : PlainStart tokens) (closes : ending ∈ closers)
include named plain closes

/-- A name with further links behind it up to a closing sign. -/
theorem exists_run_expression_chain (ends : next ∉ nameSigns) (noArrow : next ≠ "=>")
    (closed : opensLambda (.sign p next :: behind) = false) (d stop after : Nat) (q : Place)
    (rest : List Token) :
    ∃ longer, longer.nodes = [] ∧ longer.IsName ∧
      ∀ final, Chains (rules (d + 2)) ⟨.sign p next :: behind, endOf tokens⟩ longer final
          ⟨.sign q ending :: rest, after⟩ →
        (rules (d + 3) (.expression 0 true)).run ⟨tokens ++ .sign p next :: behind, stop⟩ =
          some (final, ⟨.sign q ending :: rest, after⟩) := by
  obtain ⟨left, middle, longer, begins, nodes, isName, go⟩ :=
    exists_run_primary named plain ends (d + 1) stop p behind
  have noLambda : (lambdaPhrase (rules (d + 2))).run ⟨tokens ++ .sign p next :: behind, stop⟩ =
      none :=
    run_lambda_named named plain ends noArrow closed
  refine ⟨longer, nodes, isName, fun final chains => ?_⟩
  obtain ⟨place, name, following, rfl, _⟩ := named.exists_word
  have notStart := plain.notStart rfl
  have notAwait := ne_of_not_start notStart "await" (by decide)
  have notThrow := ne_of_not_start notStart "throw" (by decide)
  have notRef := ne_of_not_start notStart "ref" (by decide)
  exact run_expression_word (by simp [notAwait, notThrow, notRef]) noLambda begins
    (go final _ chains) closes

/-- A name up to a closing sign. -/
theorem exists_run_expression_named (d stop : Nat) (p : Place) (rest : List Token) :
    ∃ read, read.nodes = [] ∧ read.IsName ∧
      (rules (d + 3) (.expression 0 true)).run ⟨tokens ++ .sign p ending :: rest, stop⟩ =
        some (read, ⟨.sign p ending :: rest, endOf tokens⟩) := by
  obtain ⟨longer, nodes, isName, go⟩ :=
    exists_run_expression_chain named plain closes (not_mem_nameSigns_of_closer closes)
      (ne_of_mem_closers closes (by decide)) (opensLambda_closer closes) d stop (endOf tokens) p
      rest
  exact ⟨longer, nodes, isName, go longer (.stop (run_link_closed closes))⟩

end

end ClassHarvest.CSharp.Grammar
