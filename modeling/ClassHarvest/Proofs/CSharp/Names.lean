import ClassHarvest.Proofs.CSharp.Reading

/-!
# Reading names and types

A dotted name of identifiers, the last of them perhaps with `string` as its type argument, is read
up to a sign that goes on with no name, both as a name and as a type.
-/

namespace ClassHarvest.CSharp

/-! ## Tests of tokens -/

namespace Token

variable (place : Place)

@[simp]
theorem place_sign (text : String) : (sign place text).place = place :=
  rfl

@[simp]
theorem place_word (text : Text) : (word place text).place = place :=
  rfl

@[simp]
theorem place_string : (string place).place = place :=
  rfl

@[simp]
theorem isSign_sign (text other : String) : isSign text (sign place other) = (other == text) :=
  rfl

@[simp]
theorem isSign_word (text : String) (other : Text) : isSign text (word place other) = false :=
  rfl

@[simp]
theorem isWord_word (text other : Text) : isWord text (word place other) = (other == text) :=
  rfl

@[simp]
theorem isWord_sign (text : Text) (other : String) : isWord text (sign place other) = false :=
  rfl

@[simp]
theorem isWord_string (text : Text) : isWord text (string place) = false :=
  rfl

end Token

namespace Grammar

section

variable (place : Place)

@[simp]
theorem isSignOf_sign (texts : List String) (text : String) :
    isSignOf texts (.sign place text) = texts.contains text :=
  rfl

@[simp]
theorem isSignOf_word (texts : List String) (text : Text) :
    isSignOf texts (.word place text) = false :=
  rfl

@[simp]
theorem isIdentifier_word (text : Text) :
    isIdentifier (.word place text) = !keywords.contains text :=
  rfl

@[simp]
theorem isIdentifier_sign (text : String) : isIdentifier (.sign place text) = false :=
  rfl

@[simp]
theorem isOneOf_word (texts : List Text) (text : Text) :
    isOneOf texts (.word place text) = texts.contains text :=
  rfl

@[simp]
theorem isOneOf_sign (texts : List Text) (text : String) :
    isOneOf texts (.sign place text) = false :=
  rfl

@[simp]
theorem isAnyWord_word (text : Text) : isAnyWord (.word place text) = true :=
  rfl

@[simp]
theorem isAnyWord_sign (text : String) : isAnyWord (.sign place text) = false :=
  rfl

end

theorem ne_of_not_keyword {text : Text} (notKeyword : text ∉ keywords) (word : Text)
    (keyword : word ∈ keywords) : text ≠ word := by
  rintro rfl
  exact notKeyword keyword

theorem notType_of_not_keyword {text : Text} (notKeyword : text ∉ keywords) :
    text ∉ typeKeywords :=
  fun mem => notKeyword (List.mem_append_left _ mem)

/-! ## Names -/

/-- The tokens of a dotted name of identifiers.  The last may have `string` as its type argument. -/
inductive Named : List Token → Prop
  /-- An identifier. -/
  | name {place : Place} {text : Text} (notKeyword : text ∉ keywords) : Named [.word place text]
  /-- An identifier with a type argument. -/
  | generic {place opening inner closing : Place} {text : Text} (notKeyword : text ∉ keywords) :
      Named [.word place text, .sign opening "<", .word inner "string", .sign closing ">"]
  /-- An identifier in front of a name. -/
  | dot {place point : Place} {text : Text} {tokens : List Token} (notKeyword : text ∉ keywords)
      (behind : Named tokens) : Named (.word place text :: .sign point "." :: tokens)

/-- The signs that go on with a name or a type. -/
def nameSigns : List String := [".", "<", "::", "?", "*", "["]

/-- The end of the last token. -/
def endOf (tokens : List Token) : Nat :=
  (tokens.getLast?.map (·.place.stop)).getD 0

@[simp]
theorem endOf_singleton (token : Token) : endOf [token] = token.place.stop :=
  rfl

@[simp]
theorem endOf_cons_cons (token next : Token) (tokens : List Token) :
    endOf (token :: next :: tokens) = endOf (next :: tokens) := by
  rw [endOf, List.getLast?_cons_cons, endOf]

variable {grammar : Rules} {rest tokens : List Token} {stop d : Nat} {place p q s point : Place}
  {value : Bool} {text ending : String} {name following : Text}

theorem Named.endOf_dot {first : Token} (named : Named tokens) :
    endOf (first :: .sign point "." :: tokens) = endOf tokens := by
  cases named <;> simp

theorem Named.exists_word (named : Named tokens) :
    ∃ place text behind, tokens = .word place text :: behind ∧ text ∉ keywords := by
  cases named with
  | name notKeyword => exact ⟨_, _, _, rfl, notKeyword⟩
  | generic notKeyword => exact ⟨_, _, _, rfl, notKeyword⟩
  | dot notKeyword => exact ⟨_, _, _, rfl, notKeyword⟩

/-- Behind the first word of a name stands a sign. -/
theorem Named.exists_next (named : Named tokens) (p : Place) (ending : String)
    (rest : List Token) :
    ∃ place text next behind,
      tokens ++ .sign p ending :: rest = .word place text :: next :: behind ∧
      tokens.head? = some (.word place text) ∧ text ∉ keywords ∧
      ∀ other, ending ≠ other → other ∉ [".", "<"] → next.isSign other = false := by
  cases named with
  | name notKeyword =>
      exact ⟨_, _, _, _, rfl, rfl, notKeyword, fun _ differs _ => beq_false_of_ne differs⟩
  | generic notKeyword =>
      exact ⟨_, _, _, _, rfl, rfl, notKeyword, fun _ _ notName =>
        beq_false_of_ne fun same => notName (same ▸ by decide)⟩
  | dot notKeyword =>
      exact ⟨_, _, _, _, rfl, rfl, notKeyword, fun _ _ notName =>
        beq_false_of_ne fun same => notName (same ▸ by decide)⟩

/-! ## The type of strings -/

theorem run_typeMarks_sign (ends : ending ∉ nameSigns) :
    (many (typeMark value)).run ⟨.sign p ending :: rest, stop⟩ =
      some ([], ⟨.sign p ending :: rest, stop⟩) := by
  simp only [nameSigns, List.mem_cons, List.not_mem_nil, or_false, not_or] at ends
  exact run_many_of_refuses (by simp [typeMark, ends])

theorem run_typeMark_word : (typeMark value).run ⟨.word p name :: rest, stop⟩ = none := by
  simp [typeMark]

theorem run_plainType_keyword (keyword : name ∈ typeKeywords) :
    (plainType grammar value).run ⟨.word place name :: rest, stop⟩ =
      some ((), ⟨rest, place.stop⟩) := by
  have ne (word) (other : word ∉ typeKeywords) : name ≠ word := by
    rintro rfl
    exact other keyword
  have notScoped := ne "scoped" (by decide)
  have notRef := ne "ref" (by decide)
  have notDelegate := ne "delegate" (by decide)
  simp [plainType, seesScoped, keyword, notScoped, notRef, notDelegate]

theorem mem_typeKeywords_string : ("string" : Text) ∈ typeKeywords := by
  decide

/-- The type `string` in front of a sign. -/
theorem run_type_string (ends : ending ∉ nameSigns) :
    (rules (d + 1) (.type value)).run ⟨.word place "string" :: .sign p ending :: rest, stop⟩ =
      some (⟨⟨place.start, place.stop⟩, place.line, .other, []⟩,
        ⟨.sign p ending :: rest, place.stop⟩) := by
  change (typePhrase (rules d) value).run _ = _
  simp [typePhrase, phrase, run_plainType_keyword mem_typeKeywords_string, run_typeMarks_sign ends]

/-- The type `string[]` in front of a word. -/
theorem exists_run_type_strings : ∃ read, (rules (d + 1) (.type value)).run
    ⟨.word place "string" :: .sign p "[" :: .sign q "]" :: .word s name :: rest, stop⟩ =
      some (read, ⟨.word s name :: rest, q.stop⟩) := by
  have noComma : (many (sign ",")).run ⟨.sign q "]" :: .word s name :: rest, p.stop⟩ =
      some ([], ⟨.sign q "]" :: .word s name :: rest, p.stop⟩) :=
    run_many_of_refuses (by simp)
  have mark : (typeMark value).run
      ⟨.sign p "[" :: .sign q "]" :: .word s name :: rest, place.stop⟩ =
      some ((), ⟨.word s name :: rest, q.stop⟩) := by
    simp [typeMark, noComma]
  have marks := (Repeats.more mark (by simp) (.stop run_typeMark_word)).run_many
  change ∃ read, (typePhrase (rules d) value).run _ = some (read, _)
  simp [typePhrase, phrase, run_plainType_keyword mem_typeKeywords_string, marks]

/-! ## Reading names -/

theorem run_typeArguments :
    (typeArguments (rules (d + 1)) value).run
        ⟨.sign p "<" :: .word place "string" :: .sign q ">" :: rest, stop⟩ =
      some ((), ⟨rest, q.stop⟩) := by
  have noMore : (many (sign "," *> rules (d + 1) (.type value))).run
      ⟨.sign q ">" :: rest, place.stop⟩ = some ([], ⟨.sign q ">" :: rest, place.stop⟩) :=
    run_many_of_refuses (by simp)
  have ends : ">" ∉ nameSigns := by decide
  simp [typeArguments, commaSeparated, run_type_string ends, noMore]

theorem run_simpleName_sign (notKeyword : name ∉ keywords) (other : ending ≠ "<") :
    (simpleName grammar value).run ⟨.word place name :: .sign p ending :: rest, stop⟩ =
      some ((), ⟨.sign p ending :: rest, place.stop⟩) := by
  have closed : (typeArguments grammar value).run ⟨.sign p ending :: rest, place.stop⟩ = none := by
    simp [typeArguments, other]
  simp [simpleName, notKeyword, closed]

theorem run_simpleName_word (notKeyword : name ∉ keywords) :
    (simpleName grammar value).run ⟨.word place name :: .word p following :: rest, stop⟩ =
      some ((), ⟨.word p following :: rest, place.stop⟩) := by
  have closed : (typeArguments grammar value).run ⟨.word p following :: rest, place.stop⟩ =
      none := by
    simp [typeArguments]
  simp [simpleName, notKeyword, closed]

theorem run_simpleName_generic (notKeyword : name ∉ keywords) :
    (simpleName (rules (d + 1)) value).run
      ⟨.word place name :: .sign p "<" :: .word q "string" :: .sign s ">" :: rest, stop⟩ =
      some ((), ⟨rest, s.stop⟩) := by
  simp [simpleName, notKeyword, run_typeArguments]

/-- Behind a dot the parts of a name are read one after another. -/
theorem exists_repeats_name (named : Named tokens) (ends : ending ∉ nameSigns) (point : Place)
    (stop : Nat) :
    ∃ values, Repeats (sign "." *> simpleName (rules (d + 1)) value)
      ⟨.sign point "." :: (tokens ++ .sign p ending :: rest), stop⟩ values
      ⟨.sign p ending :: rest, endOf tokens⟩ := by
  simp only [nameSigns, List.mem_cons, List.not_mem_nil, or_false, not_or] at ends
  induction named generalizing point stop with
  | @name place text notKeyword =>
      refine ⟨[()], .more ?_ ?_ (.stop ?_)⟩
      · simp [run_simpleName_sign notKeyword ends.2.1]
      · simp
      · simp [ends]
  | @generic place opening inner closing text notKeyword =>
      refine ⟨[()], .more ?_ ?_ (.stop ?_)⟩
      · simp [run_simpleName_generic notKeyword]
      · simp
      · simp [ends]
  | @dot place next text tokens notKeyword behind ih =>
      obtain ⟨values, repeats⟩ := ih next place.stop
      have first : (sign "." *> simpleName (rules (d + 1)) value).run
          ⟨.sign point "." :: (.word place text :: .sign next "." :: tokens ++
            .sign p ending :: rest), stop⟩ =
          some ((), ⟨.sign next "." :: (tokens ++ .sign p ending :: rest), place.stop⟩) := by
        simp [run_simpleName_sign notKeyword]
      rw [behind.endOf_dot]
      exact ⟨() :: values, .more first (by simp) repeats⟩

theorem run_qualifiedName (named : Named tokens) (ends : ending ∉ nameSigns) :
    (qualifiedName (rules (d + 1)) value).run ⟨tokens ++ .sign p ending :: rest, stop⟩ =
      some ((), ⟨.sign p ending :: rest, endOf tokens⟩) := by
  have apart := ends
  simp only [nameSigns, List.mem_cons, List.not_mem_nil, or_false, not_or] at apart
  have noMore (stop : Nat) : (many (sign "." *> simpleName (rules (d + 1)) value)).run
      ⟨.sign p ending :: rest, stop⟩ = some ([], ⟨.sign p ending :: rest, stop⟩) :=
    run_many_of_refuses (by simp [apart])
  cases named with
  | name notKeyword =>
      simp [qualifiedName, run_simpleName_sign notKeyword apart.2.1, noMore, apart]
  | generic notKeyword =>
      simp [qualifiedName, run_simpleName_generic notKeyword, noMore]
  | @dot place point text tokens notKeyword behind =>
      obtain ⟨values, repeats⟩ :=
        @exists_repeats_name rest tokens d p value ending behind ends point place.stop
      simp [qualifiedName, run_simpleName_sign notKeyword, repeats.run_many, behind.endOf_dot]

/-! ## Names as types -/

section

variable (named : Named tokens) (notScoped : tokens.head?.any (Token.isWord "scoped") = false)
  (ends : ending ∉ nameSigns)
include named notScoped ends

theorem run_plainType_named :
    (plainType (rules (d + 1)) value).run ⟨tokens ++ .sign p ending :: rest, stop⟩ =
      some ((), ⟨.sign p ending :: rest, endOf tokens⟩) := by
  have reads : (qualifiedName (rules (d + 1)) value).run ⟨tokens ++ .sign p ending :: rest, stop⟩ =
      some ((), ⟨.sign p ending :: rest, endOf tokens⟩) := run_qualifiedName named ends
  obtain ⟨place, text, behind, rfl, notKeyword⟩ := named.exists_word
  have notRef := ne_of_not_keyword notKeyword "ref" (by decide)
  have notDelegate := ne_of_not_keyword notKeyword "delegate" (by decide)
  have notType := notType_of_not_keyword notKeyword
  simp only [List.head?_cons, Option.any_some, Token.isWord_word] at notScoped
  rw [List.cons_append] at reads ⊢
  simp [plainType, seesScoped, notScoped, notRef, notDelegate, notType, reads]

theorem exists_run_type_named :
    ∃ read, (rules (d + 2) (.type value)).run ⟨tokens ++ .sign p ending :: rest, stop⟩ =
      some (read, ⟨.sign p ending :: rest, endOf tokens⟩) := by
  have plain : (plainType (rules (d + 1)) value).run ⟨tokens ++ .sign p ending :: rest, stop⟩ =
      some ((), ⟨.sign p ending :: rest, endOf tokens⟩) := run_plainType_named named notScoped ends
  obtain ⟨place, text, behind, rfl, _⟩ := named.exists_word
  rw [List.cons_append] at plain ⊢
  change ∃ read, (typePhrase (rules (d + 1)) value).run _ = some (read, _)
  simp [typePhrase, phrase, plain, run_typeMarks_sign ends]

end

/-- A single name in front of a word is a type. -/
theorem exists_run_type_word (notKeyword : name ∉ keywords) (notScoped : name ≠ "scoped") :
    ∃ read, (rules (d + 1) (.type value)).run
      ⟨.word place name :: .word p following :: rest, stop⟩ =
      some (read, ⟨.word p following :: rest, place.stop⟩) := by
  have notRef := ne_of_not_keyword notKeyword "ref" (by decide)
  have notDelegate := ne_of_not_keyword notKeyword "delegate" (by decide)
  have notType := notType_of_not_keyword notKeyword
  have noMore : (many (sign "." *> simpleName (rules d) value)).run
      ⟨.word p following :: rest, place.stop⟩ = some ([], _) :=
    run_many_of_refuses (by simp)
  have unmarked : (many (typeMark value)).run ⟨.word p following :: rest, place.stop⟩ =
      some ([], _) :=
    run_many_of_refuses run_typeMark_word
  change ∃ read, (typePhrase (rules d) value).run _ = some (read, _)
  simp [typePhrase, phrase, plainType, seesScoped, qualifiedName, run_simpleName_word notKeyword,
    notScoped, notRef, notDelegate, notType, noMore, unmarked]

/-- No type begins with a sign, unless it is an opening parenthesis. -/
theorem run_type_sign (closed : ending ≠ "(") :
    (rules d (.type value)).run ⟨.sign p ending :: rest, stop⟩ = none := by
  cases d with
  | zero => rfl
  | succ d =>
      change (typePhrase (rules d) value).run _ = none
      simp [typePhrase, phrase, plainType, seesScoped, closed, qualifiedName, simpleName]

end Grammar
end ClassHarvest.CSharp
