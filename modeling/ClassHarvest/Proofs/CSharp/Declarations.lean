import ClassHarvest.Proofs.CSharp.Statements

/-!
# Reading declarations

Modifiers may stand in front of a method without parameters that gives strings, and in front of a
class.  Such a class with its members, in a namespace, is a whole source text.
-/

namespace ClassHarvest.CSharp

/-- Where a token stands. -/
def Token.span (token : Token) : Span :=
  ⟨token.place.start, token.place.stop⟩

namespace Grammar

variable {rest tokens behind words : List Token} {word : Token} {stop after d : Nat}
  {place p q : Place} {ending : String} {name : Text} {nodes : List Node} {phrases : List Phrase}

/-! ## Modifiers -/

/-- Tokens that are modifiers. -/
def Modifying (words : List Token) : Prop :=
  ∀ word ∈ words, isOneOf modifierWords word = true

theorem exists_word_of_isOneOf {texts : List Text} {token : Token}
    (one : isOneOf texts token = true) : ∃ place text, token = .word place text ∧ text ∈ texts := by
  cases token with
  | word place text => exact ⟨place, text, rfl, by simpa using one⟩
  | _ => cases one

theorem isWord_eq_false_of_modifier (modifies : isOneOf modifierWords word = true) (other : Text)
    (no : other ∉ modifierWords) : word.isWord other = false := by
  obtain ⟨place, text, rfl, mem⟩ := exists_word_of_isOneOf modifies
  rw [Token.isWord_word, beq_eq_false_iff_ne]
  rintro rfl
  exact no mem

theorem isAnyWord_of_modifier (modifies : isOneOf modifierWords word = true) :
    isAnyWord word = true := by
  obtain ⟨place, text, rfl, _⟩ := exists_word_of_isOneOf modifies
  rfl

theorem run_modifier {next : Token} (modifies : isOneOf modifierWords word = true)
    (followed : isAnyWord next = true) :
    modifier.run ⟨word :: next :: rest, stop⟩ =
      some (word.span, ⟨next :: rest, word.place.stop⟩) := by
  simp [modifier, modifies, followed, Token.span]

/-- Modifiers are read one after another up to a word that is none. -/
theorem exists_repeats_modifier (are : Modifying words) (other : name ∉ modifierWords) (stop : Nat)
    (p : Place) (rest : List Token) :
    ∃ stop', Repeats modifier ⟨words ++ .word p name :: rest, stop⟩ (words.map Token.span)
      ⟨.word p name :: rest, stop'⟩ := by
  induction words generalizing stop with
  | nil => exact ⟨stop, .stop (by simp [modifier, other])⟩
  | cons word words ih =>
      obtain ⟨stop', repeats⟩ :=
        ih (fun w mem => are w (List.mem_cons_of_mem _ mem)) word.place.stop
      have modifies := are word List.mem_cons_self
      refine ⟨stop', .more ?_ (by simp) repeats⟩
      cases words with
      | nil => exact run_modifier modifies rfl
      | cons next words => exact run_modifier modifies (isAnyWord_of_modifier (are next (by simp)))

theorem exists_run_modifiers (are : Modifying words) (other : name ∉ modifierWords)
    (notRef : name ≠ "ref") (stop : Nat) (p : Place) (rest : List Token) :
    ∃ stop', modifiers.run ⟨words ++ .word p name :: rest, stop⟩ =
      some (words.map Token.span, ⟨.word p name :: rest, stop'⟩) := by
  obtain ⟨stop', repeats⟩ := exists_repeats_modifier are other stop p rest
  exact ⟨stop', by simp [modifiers, repeats.run_many, notRef]⟩

/-- Modifiers with a word behind them begin with no bracket. -/
theorem exists_cons_of_modifying (are : Modifying words) (p : Place) (name : Text)
    (rest : List Token) :
    ∃ token behind, words ++ .word p name :: rest = token :: behind ∧
      token.isSign "[" = false := by
  cases words with
  | nil => exact ⟨_, _, rfl, rfl⟩
  | cons word words =>
      obtain ⟨place, text, rfl, _⟩ := exists_word_of_isOneOf (are word List.mem_cons_self)
      exact ⟨_, _, rfl, rfl⟩

/-! ## Declarations with modifiers -/

/-- What has modifiers is a type or another member. -/
theorem run_declaration (are : Modifying (word :: words))
    (other : name ∉ (["using", "alias"] : List Text)) :
    (rules (d + 1) .declaration).run ⟨word :: words ++ .word p name :: rest, stop⟩ =
      ((typeDeclaration (rules d) <|> memberDeclaration (rules d)).run
        ⟨word :: words ++ .word p name :: rest, stop⟩).map fun read =>
          (⟨⟨word.place.start, read.2.stop⟩, word.place.line, .other, read.1⟩, read.2) := by
  have modifies := are word List.mem_cons_self
  have notNamespace := isWord_eq_false_of_modifier modifies "namespace" (by decide)
  have notUsing := isWord_eq_false_of_modifier modifies "using" (by decide)
  have notDirective : word.isDirective "if" = false := by
    obtain ⟨place, text, rfl, _⟩ := exists_word_of_isOneOf modifies
    rfl
  obtain ⟨second, behind, same, noUsing, noAlias⟩ : ∃ second behind,
      words ++ .word p name :: rest = second :: behind ∧ second.isWord "using" = false ∧
      second.isWord "alias" = false := by
    cases words with
    | nil =>
        simp only [List.mem_cons, List.not_mem_nil, or_false, not_or] at other
        exact ⟨_, _, rfl, beq_false_of_ne other.1, beq_false_of_ne other.2⟩
    | cons second words =>
        have modifies := are second (by simp)
        exact ⟨_, _, rfl, isWord_eq_false_of_modifier modifies "using" (by decide),
          isWord_eq_false_of_modifier modifies "alias" (by decide)⟩
  rw [List.cons_append, same]
  change (declarationPhrase (rules d)).run _ = _
  simp only [declarationPhrase, phrase, run_bind, run_here]
  simp [notNamespace, notUsing, notDirective, noUsing, noAlias]
  rw [Option.map_eq_bind]
  rfl

section

variable (are : Modifying words) (other : name ∉ modifierWords) (notRef : name ≠ "ref")
  (d stop : Nat) (p : Place) (rest : List Token)
include are other notRef

/-- A type declaration is read by what follows its modifiers. -/
theorem exists_run_typeDeclaration :
    ∃ line stop', (typeDeclaration (rules d)).run ⟨words ++ .word p name :: rest, stop⟩ =
      (declaredType (rules d) line (words.map Token.span) []).run
        ⟨.word p name :: rest, stop'⟩ := by
  obtain ⟨stop', reads⟩ := exists_run_modifiers are other notRef stop p rest
  obtain ⟨token, behind, same, noBracket⟩ := exists_cons_of_modifying are p name rest
  rw [same] at reads ⊢
  exact ⟨token.place.line, stop', by simp [typeDeclaration, run_noAttributes noBracket, reads]⟩

/-- A member is read by what follows its modifiers. -/
theorem exists_run_memberDeclaration :
    ∃ stop', (memberDeclaration (rules d)).run ⟨words ++ .word p name :: rest, stop⟩ =
      (declaredMember (rules d)).run ⟨.word p name :: rest, stop'⟩ := by
  obtain ⟨stop', reads⟩ := exists_run_modifiers are other notRef stop p rest
  obtain ⟨token, behind, same, noBracket⟩ := exists_cons_of_modifying are p name rest
  rw [same] at reads ⊢
  exact ⟨stop', by simp [memberDeclaration, run_noAttributes noBracket, reads]⟩

end

/-! ## Methods -/

theorem run_parameters_nil :
    (parameters (rules d) false).run ⟨.sign p "(" :: .sign q ")" :: rest, stop⟩ =
      some ([], ⟨rest, q.stop⟩) := by
  have closed : ")" ≠ "(" := by decide
  have noBracket : (Token.sign q ")").isSign "[" = false := rfl
  have noModifiers : (many (accept
      (isOneOf ["this", "ref", "out", "in", "params", "readonly"]))).run
      ⟨.sign q ")" :: rest, p.stop⟩ = some ([], _) :=
    run_many_of_refuses (by simp)
  simp [parameters, parametersBetween, commaSeparated, parameter, run_noAttributes noBracket,
    noModifiers, run_type_sign closed]

/-- A method without parameters, from its name on. -/
theorem run_memberRest (notKeyword : name ∉ keywords) {later : Reading} {b : Place}
    (reads : (body (rules d)).run ⟨.sign b ending :: rest, q.stop⟩ = some (nodes, later)) :
    (memberRest (rules d)).run
      ⟨.word place name :: .sign p "(" :: .sign q ")" :: .sign b ending :: rest, stop⟩ =
      some (nodes, later) := by
  have notOperator := ne_of_not_keyword notKeyword "operator" (by decide)
  have notThis := ne_of_not_keyword notKeyword "this" (by decide)
  have noInterface : (many (interfaceName (rules d))).run
      ⟨.word place name :: .sign p "(" :: .sign q ")" :: .sign b ending :: rest, stop⟩ =
      some ([], _) :=
    run_many_of_refuses (by simp [interfaceName, run_simpleName_sign notKeyword])
  have noConstraints : (many (constraints (rules d))).run ⟨.sign b ending :: rest, q.stop⟩ =
      some ([], _) :=
    run_many_of_refuses (by simp [constraints])
  simp [memberRest, noInterface, notOperator, notThis, notKeyword, run_parameters_nil,
    noConstraints, reads]

/-- A method with modifiers that gives an array of strings. -/
theorem exists_run_method (are : Modifying (word :: words)) (notKeyword : name ∉ keywords)
    {t c e b : Place}
    (reads : (body (rules (d + 1))).run ⟨.sign b ending :: tokens, q.stop⟩ =
      some (nodes, ⟨behind, after⟩)) :
    ∃ read, read.nodes = nodes ∧ (rules (d + 2) .declaration).run
      ⟨word :: words ++ .word t "string" :: .sign c "[" :: .sign e "]" :: .word place name ::
        .sign p "(" :: .sign q ")" :: .sign b ending :: tokens, stop⟩ =
      some (read, ⟨behind, after⟩) := by
  have plain : ("string" : Text) ∉ modifierWords := by decide
  have notRef : ("string" : Text) ≠ "ref" := by decide
  rw [run_declaration are (by decide), run_orElse]
  obtain ⟨line, stop', type⟩ := exists_run_typeDeclaration are plain notRef (d + 1) stop t
    (.sign c "[" :: .sign e "]" :: .word place name :: .sign p "(" :: .sign q ")" ::
      .sign b ending :: tokens)
  obtain ⟨stop'', member⟩ := exists_run_memberDeclaration are plain notRef (d + 1) stop t
    (.sign c "[" :: .sign e "]" :: .word place name :: .sign p "(" :: .sign q ")" ::
      .sign b ending :: tokens)
  obtain ⟨found, typed⟩ : ∃ found, (rules (d + 1) (.type false)).run
      ⟨.word t "string" :: .sign c "[" :: .sign e "]" :: .word place name :: .sign p "(" ::
        .sign q ")" :: .sign b ending :: tokens, stop''⟩ = some (found, _) :=
    exists_run_type_strings
  have noType : (declaredType (rules (d + 1)) line ((word :: words).map Token.span) []).run
      ⟨.word t "string" :: .sign c "[" :: .sign e "]" :: .word place name :: .sign p "(" ::
        .sign q ")" :: .sign b ending :: tokens, stop'⟩ = none := by
    simp +decide [declaredType, seesRecord]
  have declares : (declaredMember (rules (d + 1))).run
      ⟨.word t "string" :: .sign c "[" :: .sign e "]" :: .word place name :: .sign p "(" ::
        .sign q ")" :: .sign b ending :: tokens, stop''⟩ = some (nodes, ⟨behind, after⟩) := by
    simp +decide [declaredMember, constructorRest, typedMember, typed,
      run_memberRest notKeyword reads]
  rw [type, member, noType, declares]
  exact ⟨_, rfl, rfl⟩

/-! ## Classes -/

theorem run_modifiers_sign :
    modifiers.run ⟨.sign p ending :: rest, stop⟩ = some ([], ⟨.sign p ending :: rest, stop⟩) := by
  have noModifier : isOneOf modifierWords (.sign p ending) = false := rfl
  simp [modifiers, run_noModifiers noModifier]

/-- No type is declared at a sign. -/
theorem run_declaredType_sign (grammar : Rules) (line : Nat) (spans : List Span)
    (attributes : List Node) :
    (declaredType grammar line spans attributes).run ⟨.sign p ending :: rest, stop⟩ = none := by
  simp [declaredType, seesRecord]

/-- No declaration begins where a class ends. -/
theorem run_declaration_closing (noUsing : rest.head?.any (Token.isWord "using") = false) :
    (rules d .declaration).run ⟨.sign p "\x7d" :: rest, stop⟩ = none := by
  cases d with
  | zero => rfl
  | succ d =>
      have noBracket : (Token.sign p "\x7d").isSign "[" = false := rfl
      have notDirective : (Token.sign p "\x7d").isDirective "if" = false := rfl
      have closed : "\x7d" ≠ "(" := by decide
      have noType : (typeDeclaration (rules d)).run ⟨.sign p "\x7d" :: rest, stop⟩ = none := by
        simp [typeDeclaration, run_noAttributes noBracket, run_modifiers_sign,
          run_declaredType_sign]
      have noMember : (memberDeclaration (rules d)).run ⟨.sign p "\x7d" :: rest, stop⟩ = none := by
        simp [memberDeclaration, run_noAttributes noBracket, run_modifiers_sign, declaredMember,
          constructorRest, typedMember, run_type_sign closed, variableList]
      rw [List.head?_eq_getElem?] at noUsing
      change (declarationPhrase (rules d)).run _ = none
      simp [declarationPhrase, phrase, notDirective, noUsing, noType, noMember]

theorem run_declarations
    (members : Repeats (rules d .declaration) ⟨tokens, p.stop⟩ phrases
      ⟨.sign q "\x7d" :: rest, after⟩) :
    (declarations (rules d)).run ⟨.sign p "\x7b" :: tokens, stop⟩ =
      some (phrases.flatMap Phrase.nodes, ⟨rest, q.stop⟩) := by
  simp [declarations, Rules.nodesOfMany, members.run_many]

/-- A class with modifiers, whose members are read one after another. -/
theorem exists_run_class (are : Modifying (word :: words)) {c b : Place}
    (notKeyword : name ∉ keywords)
    (members : Repeats (rules d .declaration) ⟨tokens, b.stop⟩ phrases
      ⟨.sign q "\x7d" :: rest, after⟩)
    (ends : rest.head?.any (Token.isSign ";") = false) (stop : Nat) :
    ∃ read line, read.nodes = [.classDeclaration line ⟨place.start, place.stop⟩
        ((word :: words).map Token.span) (phrases.flatMap Phrase.nodes)] ∧
      (rules (d + 1) .declaration).run
        ⟨word :: words ++ .word c "class" :: .word place name :: .sign b "\x7b" :: tokens, stop⟩ =
        some (read, ⟨rest, q.stop⟩) := by
  have plain : ("class" : Text) ∉ modifierWords := by decide
  rw [run_declaration are (by decide), run_orElse]
  obtain ⟨line, stop', type⟩ := exists_run_typeDeclaration are plain (by decide) d stop c
    (.word place name :: .sign b "\x7b" :: tokens)
  have noHead : (many (headPart (rules d))).run ⟨.sign b "\x7b" :: tokens, place.stop⟩ =
      some ([], _) :=
    run_many_of_refuses (by simp [headPart, constraints])
  have declares : (declaredType (rules d) line ((word :: words).map Token.span) []).run
      ⟨.word c "class" :: .word place name :: .sign b "\x7b" :: tokens, stop'⟩ =
      some ([.classDeclaration line ⟨place.start, place.stop⟩ ((word :: words).map Token.span)
        (phrases.flatMap Phrase.nodes)], ⟨rest, q.stop⟩) := by
    simp [declaredType, notKeyword, typeRest, noHead, run_declarations members,
      run_skipSign_of_not ends]
  rw [type, declares]
  exact ⟨_, line, rfl, rfl⟩

/-! ## Source texts -/

theorem run_item_nil (bound : List Token) : (item (rules d) bound).run ⟨[], stop⟩ = none := by
  cases bound with
  | nil => rfl
  | cons token bound =>
      have noStatement : (rules d .statement).run ⟨[], stop⟩ = none := by
        cases d <;> rfl
      simp [item, externAlias, usingDirective, namespaceDeclaration, namespaceName,
        namespaceHeader, globalAttributes, typeDeclaration, noStatement]

section

variable {first : Token} {n b : Place} (named : Named tokens) (begins : tokens.head? = some first)
include named begins

theorem run_namespaceDeclaration
    (members : Repeats (rules (d + 1) .declaration) ⟨behind, b.stop⟩ phrases
      ⟨.sign q "\x7d" :: rest, after⟩)
    (ends : rest.head?.any (Token.isSign ";") = false) :
    (namespaceDeclaration (rules (d + 1))).run
      ⟨.word n "namespace" :: (tokens ++ .sign b "\x7b" :: behind), stop⟩ =
      some ([.namespaceBlock ⟨first.place.start, endOf tokens⟩ (phrases.flatMap Phrase.nodes)],
        ⟨rest, q.stop⟩) := by
  have reads : (qualifiedName (rules (d + 1)) false).run
      ⟨tokens ++ .sign b "\x7b" :: behind, n.stop⟩ =
      some ((), ⟨.sign b "\x7b" :: behind, endOf tokens⟩) :=
    run_qualifiedName named (by decide)
  obtain ⟨place, name, following, rfl, _⟩ := named.exists_word
  cases begins
  rw [List.cons_append] at reads ⊢
  simp [namespaceDeclaration, namespaceName, reads, run_declarations members,
    run_skipSign_of_not ends]

/-- A source text that is one namespace. -/
theorem run_sourceText
    (members : Repeats (rules (d + 1) .declaration) ⟨behind, b.stop⟩ phrases
      ⟨[.sign q "\x7d"], after⟩) :
    (sourceText (rules (d + 1))).run
      ⟨.word n "namespace" :: (tokens ++ .sign b "\x7b" :: behind), stop⟩ =
      some ([.namespaceBlock ⟨first.place.start, endOf tokens⟩ (phrases.flatMap Phrase.nodes)],
        ⟨[], q.stop⟩) := by
  have noUsing : (usingDirective (rules (d + 1))).run
      ⟨.word n "namespace" :: (tokens ++ .sign b "\x7b" :: behind), stop⟩ = none := by
    simp +decide [usingDirective]
  have noAlias : externAlias.run
      ⟨.word n "namespace" :: (tokens ++ .sign b "\x7b" :: behind), stop⟩ = none := by
    simp +decide [externAlias]
  have notDirective : (Token.word n "namespace").isDirective "if" = false := rfl
  have one : (item (rules (d + 1))
      (.word n "namespace" :: (tokens ++ .sign b "\x7b" :: behind))).run
      ⟨.word n "namespace" :: (tokens ++ .sign b "\x7b" :: behind), stop⟩ =
      some ([.namespaceBlock ⟨first.place.start, endOf tokens⟩ (phrases.flatMap Phrase.nodes)],
        ⟨[], q.stop⟩) := by
    simp [item, notDirective, noUsing, noAlias, run_namespaceDeclaration named begins members rfl]
  have items := (Repeats.more one (by simp) (.stop (run_item_nil _))).run_many
  simp [sourceText, items]

end

/-- A source text that is one class in a namespace. -/
theorem exists_run_sourceText_class {space inner : List Token} {first : Token} {n b c o q' : Place}
    (named : Named space) (begins : space.head? = some first) (are : Modifying (word :: words))
    (notKeyword : name ∉ keywords)
    (members : Silently (rules d .declaration) (inner ++ [.sign q "\x7d", .sign q' "\x7d"])
      [.sign q "\x7d", .sign q' "\x7d"]) (stop : Nat) :
    ∃ line nodes, (∀ node ∈ nodes, node.IsSilent) ∧ (sourceText (rules (d + 1))).run
      ⟨.word n "namespace" :: (space ++ .sign b "\x7b" :: (word :: words ++ .word c "class" ::
        .word place name :: .sign o "\x7b" :: (inner ++ [.sign q "\x7d", .sign q' "\x7d"]))),
        stop⟩ =
      some ([.namespaceBlock ⟨first.place.start, endOf space⟩
        [.classDeclaration line ⟨place.start, place.stop⟩ ((word :: words).map Token.span) nodes]],
        ⟨[], q'.stop⟩) := by
  obtain ⟨phrases, after, silent, repeats⟩ := members o.stop
  obtain ⟨read, line, nodes, declares⟩ := exists_run_class are notKeyword repeats rfl b.stop
  have one := Repeats.more declares
    (by simp only [List.length_append, List.length_cons]; omega)
    (.stop (run_declaration_closing rfl))
  refine ⟨line, phrases.flatMap Phrase.nodes, silent, ?_⟩
  rw [run_sourceText named begins one, List.flatMap_singleton, nodes]

end Grammar
end ClassHarvest.CSharp
