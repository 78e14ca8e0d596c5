import Mathlib.Logic.Function.Basic
import ClassHarvest.Proofs.CSharp.Literal
import ClassHarvest.Proofs.CSharp.Tokens

/-!
# Regular string literals

A regular literal is a sequence of plain characters and escapes between two quotes.  The tokenizer
takes all of it for one token, whatever follows, unless that goes on with the literal.  A text that is
written as a literal gives a regular one, and no two texts give the same.
-/

namespace ClassHarvest.CSharp.Literal

/-! ## The grammar -/

/-- The characters that end a line of C#. -/
def isNewLine (c : CodePoint) : Bool :=
  c.val == 10 || c.val == 13 || isLineSeparator c

/-- The letters of the escapes without digits. -/
def simpleEscapes : List CodePoint :=
  Text.ofString "'\"\\0abfnrtv"

/-- A character or an escape between the quotes of a regular literal. -/
inductive IsElement : Text → Prop
  /-- A character that stands for itself. -/
  | plain {c : CodePoint} (noQuote : c.val ≠ 34) (noBackslash : c.val ≠ 92)
      (joins : isNewLine c = false) : IsElement [c]
  /-- An escape with a letter alone. -/
  | simple {letter : CodePoint} (escapes : letter ∈ simpleEscapes) :
      IsElement [('\\' : CodePoint), letter]
  /-- An escape with a letter and as many hexadecimal digits as it takes. -/
  | numeric {letter : CodePoint} {digits : Text} {least most : Nat}
      (takes : digitCount? letter = some (least, most)) (enough : least ≤ digits.length)
      (within : digits.length ≤ most) (hexadecimal : ∀ d ∈ digits, d.isHexDigit = true) :
      IsElement (('\\' : CodePoint) :: letter :: digits)

/-- A text is a regular literal: elements between two quotes. -/
def IsRegular (t : Text) : Prop :=
  ∃ elements : List Text, (∀ element ∈ elements, IsElement element) ∧
    t = ('"' : CodePoint) :: (elements.flatten ++ [('"' : CodePoint)])

/-- Whether a quote occurs in a text that no backslash escapes. -/
def hasBareQuote : Text → Bool
  | [] => false
  | [c] => c.val == 34
  | c :: d :: rest =>
    if c.val = 92 then hasBareQuote rest else c.val == 34 || hasBareQuote (d :: rest)

/-! ## Reading a regular literal -/

/-- A character that neither closes a literal nor escapes another one. -/
def isInner (c : CodePoint) : Bool :=
  c.val != 34 && c.val != 92 && c.val != 10

theorem isInner_of_isHexDigit {d : CodePoint} (digit : d.isHexDigit = true) : isInner d = true := by
  have joins := isLineEnd_of_isHexDigit digit
  simp only [CodePoint.isHexDigit, CodePoint.hexValue?, CodePoint.isAsciiDigit, Bool.and_eq_true,
    decide_eq_true_eq] at digit
  simp only [isInner, Bool.and_eq_true, bne_iff_ne]
  split at digit
  · omega
  · split at digit
    · omega
    · split at digit
      · omega
      · cases digit

/-- The letter behind the backslash of an escape does not matter to the end of the literal, and what
follows it are inner characters. -/
theorem IsElement.cases_inner {element : Text} (is : IsElement element) :
    (∃ c, element = [c] ∧ isInner c = true) ∨
    ∃ letter digits, element = ('\\' : CodePoint) :: letter :: digits ∧
      ∀ d ∈ digits, isInner d = true := by
  cases is with
  | @plain c noQuote noBackslash joins =>
      refine .inl ⟨c, rfl, ?_⟩
      simp only [isNewLine, Bool.or_eq_false_iff, beq_eq_false_iff_ne] at joins
      simp only [isInner, Bool.and_eq_true, bne_iff_ne]
      exact ⟨⟨noQuote, noBackslash⟩, joins.1.1⟩
  | @simple letter escapes => exact .inr ⟨letter, [], rfl, by simp⟩
  | @numeric letter digits least most takes enough within hexadecimal =>
      exact .inr ⟨letter, digits, rfl, fun d mem => isInner_of_isHexDigit (hexadecimal d mem)⟩

variable {rest : Text}

theorem quotedLength?_inner {c : CodePoint} (inner : isInner c = true) :
    quotedLength? '"' (c :: rest) = (quotedLength? '"' rest).map (· + 1) := by
  simp only [isInner, Bool.and_eq_true, bne_iff_ne] at inner
  obtain ⟨⟨noQuote, noBackslash⟩, joins⟩ := inner
  have other : c ≠ ('"' : CodePoint) := fun same => noQuote (by rw [same]; rfl)
  rw [quotedLength?.eq_def]
  simp only [other, noBackslash, joins, if_false]

theorem quotedLength?_inners {inners : Text} (inner : ∀ c ∈ inners, isInner c = true) :
    quotedLength? '"' (inners ++ rest) = (quotedLength? '"' rest).map (· + inners.length) := by
  induction inners with
  | nil => cases same : quotedLength? '"' rest <;> simp [same]
  | cons c inners ih =>
      rw [List.cons_append, quotedLength?_inner (inner c List.mem_cons_self),
        ih fun d mem => inner d (List.mem_cons_of_mem c mem), Option.map_map]
      rfl

theorem quotedLength?_escape {letter : CodePoint} :
    quotedLength? '"' (('\\' : CodePoint) :: letter :: rest) =
      (quotedLength? '"' rest).map (· + 2) := by
  have other : ('\\' : CodePoint) ≠ ('"' : CodePoint) := by decide
  have backslash : ('\\' : CodePoint).val = 92 := rfl
  have joins : ('\\' : CodePoint).val ≠ 10 := by decide
  rw [quotedLength?, if_neg other, if_neg joins, if_pos backslash]

theorem quotedLength?_element {element : Text} (is : IsElement element) :
    quotedLength? '"' (element ++ rest) = (quotedLength? '"' rest).map (· + element.length) := by
  rcases is.cases_inner with ⟨c, rfl, inner⟩ | ⟨letter, digits, rfl, inners⟩
  · exact quotedLength?_inner inner
  · rw [List.cons_append, List.cons_append, quotedLength?_escape, quotedLength?_inners inners,
      Option.map_map]
    rfl

/-- The literal ends at its last quote. -/
theorem quotedLength?_elements {elements : List Text} (are : ∀ element ∈ elements, IsElement element) :
    quotedLength? '"' (elements.flatten ++ ('"' : CodePoint) :: rest) =
      some (elements.flatten.length + 1) := by
  induction elements with
  | nil =>
      change quotedLength? '"' (('"' : CodePoint) :: rest) = some 1
      rw [quotedLength?.eq_def]
      exact if_pos rfl
  | cons element elements ih =>
      rw [List.flatten_cons, List.append_assoc, quotedLength?_element (are element List.mem_cons_self),
        ih fun e mem => are e (List.mem_cons_of_mem element mem), Option.map_some,
        List.length_append]
      congr 1
      omega

/-- No element begins with a quote. -/
theorem IsElement.exists_cons {element : Text} (is : IsElement element) :
    ∃ c more, element = c :: more ∧ c ≠ ('"' : CodePoint) := by
  rcases is.cases_inner with ⟨c, rfl, inner⟩ | ⟨letter, digits, rfl, _⟩
  · refine ⟨c, [], rfl, fun same => ?_⟩
    rw [same] at inner
    cases inner
  · exact ⟨_, _, rfl, by decide⟩

/-- What follows a literal does not go on with it. -/
def endsLiteral (rest : Text) : Bool :=
  !rest.head?.any fun c => c.val == 34 || c.asciiLower.val == 117

/-- Behind its first quote a literal has at most one more quote before something else. -/
theorem runLength_regular {elements : List Text} (are : ∀ element ∈ elements, IsElement element)
    (ends : endsLiteral rest = true) :
    runLength '"' (('"' : CodePoint) :: (elements.flatten ++ ('"' : CodePoint) :: rest)) < 3 := by
  have quote : (('"' : CodePoint) == ('"' : CodePoint)) = true := rfl
  cases elements with
  | nil =>
      cases rest with
      | nil => decide
      | cons c more =>
          have other : c ≠ ('"' : CodePoint) := by
            rintro rfl
            cases ends
          simp [runLength, other]
  | cons element elements =>
      obtain ⟨c, more, rfl, other⟩ := (are element List.mem_cons_self).exists_cons
      simp [runLength, other]

theorem encodingLength_of_ends (ends : endsLiteral rest = true) : encodingLength rest = 0 := by
  unfold encodingLength
  split
  · next c d more =>
      simp only [endsLiteral, List.head?_cons, Option.any_some, Bool.not_eq_true',
        Bool.or_eq_false_iff, beq_eq_false_iff_ne] at ends
      simp [ends.2]
  · rfl

/-- A regular literal in front of something else is a string literal. -/
theorem stringLength?_regular {t : Text} (regular : IsRegular t) (ends : endsLiteral rest = true) :
    stringLength? (t ++ rest) = some t.length := by
  obtain ⟨elements, are, rfl⟩ := regular
  have few := runLength_regular are ends
  have reads := @quotedLength?_elements rest _ are
  generalize elements.flatten = inside at *
  have shape : ('"' : CodePoint) :: (inside ++ [('"' : CodePoint)]) ++ rest =
      ('"' : CodePoint) :: (inside ++ ('"' : CodePoint) :: rest) := by simp
  have noAt : (('"' : CodePoint) :: (inside ++ ('"' : CodePoint) :: rest)).head?.any (·.val == 64) =
      false := rfl
  have behind : (('"' : CodePoint) :: (inside ++ ('"' : CodePoint) :: rest)).drop
      (inside.length + 1 + 1) = rest := by
    rw [List.drop_succ_cons, ← List.drop_drop, List.drop_left]
    rfl
  rw [shape, stringLength?]
  simp only [noAt, Bool.false_eq_true, if_false, Nat.not_le_of_lt few, List.drop_succ_cons,
    List.drop_zero, reads, Option.map_some, Option.bind_eq_bind, Option.bind_some]
  rw [← List.drop_succ_cons, behind, encodingLength_of_ends ends]
  simp

/-! ## A literal is one token -/

theorem interpolationAt?_regular {t : Text} (regular : IsRegular t) :
    interpolationAt? (t ++ rest) = none := by
  obtain ⟨elements, _, rfl⟩ := regular
  rfl

/-- In front of something else a regular literal is cut as one token. -/
theorem cuts_regular {t : Text} (regular : IsRegular t) (ends : endsLiteral rest = true)
    (position line : Nat) :
    Cuts ⟨t ++ rest, position, line⟩ [.string ⟨position, position + t.length, line⟩]
      (Cursor.advance ⟨t ++ rest, position, line⟩ t.length) := by
  have plain := @interpolationAt?_regular rest _ regular
  have length := stringLength?_regular regular ends
  have begins : simpleToken? ⟨t ++ rest, position, line⟩ = (stringLength? (t ++ rest)).map fun n =>
      (.string ⟨position, position + n, line⟩, n) := by
    obtain ⟨elements, _, rfl⟩ := regular
    rfl
  have joins : separatorLength? (position == 0) (t ++ rest) = some 0 := by
    obtain ⟨elements, _, rfl⟩ := regular
    rfl
  obtain ⟨n, long⟩ : ∃ n, t.length = n + 1 := by
    obtain ⟨elements, _, rfl⟩ := regular
    exact ⟨_, rfl⟩
  rw [length, long] at begins
  rw [long]
  exact .token joins plain begins (.done _)

/-- A text that is a regular literal has one token. -/
theorem tokens_regular {t : Text} (regular : IsRegular t) :
    tokens t = some [.string ⟨0, t.length, 1⟩] := by
  have cuts := @cuts_regular [] _ regular rfl 0 1
  rw [List.append_nil, Nat.zero_add] at cuts
  refine tokens_of_cuts cuts List.drop_length ?_
  change 0 + t.length ≤ _
  omega

/-! ## What is written -/

theorem escapeLetter?_mem {c letter : CodePoint} (escapes : escapeLetter? c = some letter) :
    letter ∈ simpleEscapes := by
  unfold escapeLetter? at escapes
  split at escapes
  case h_11 => cases escapes
  all_goals
    cases escapes
    decide

theorem isElement_encodePoint (c : CodePoint) : IsElement (encodePoint c) := by
  unfold encodePoint
  split
  · next letter escapes => exact .simple (escapeLetter?_mem escapes)
  · next plain =>
      split
      · have takes : digitCount? 'u' = some (4, 4) := rfl
        exact .numeric takes (Nat.le_refl 4) (Nat.le_refl 4) fun d mem => Text.isHexDigit_of_mem_hex mem
      · next joins =>
          obtain ⟨noBackslash, noQuote⟩ := escapeLetter?_eq_none plain
          refine .plain noQuote noBackslash ?_
          simp only [Bool.or_eq_true, decide_eq_true_eq, not_or, Bool.not_eq_true] at joins
          simp only [isNewLine, joins.2, Bool.or_false, Bool.or_eq_false_iff, beq_eq_false_iff_ne]
          omega

theorem isRegular_encode (t : Text) : IsRegular (encode t) := by
  refine ⟨t.map encodePoint, fun element mem => ?_, ?_⟩
  · obtain ⟨c, _, rfl⟩ := List.mem_map.mp mem
    exact isElement_encodePoint c
  · rw [← List.flatMap_def]
    rfl

/-- No two texts are written as the same literal. -/
theorem injective_encode : Function.Injective encode := by
  intro s t same
  have read : (Except.ok (some s) : Except LiteralError (Option Text)) = .ok (some t) := by
    rw [← decode_encode s, same, decode_encode]
  exact Option.some.inj (Except.ok.inj read)

/-! ## Quotes and line ends in a regular literal -/

theorem hasBareQuote_inners {inners rest : Text} (inner : ∀ c ∈ inners, isInner c = true) :
    hasBareQuote (inners ++ rest) = hasBareQuote rest := by
  induction inners with
  | nil => rfl
  | cons c inners ih =>
      have first := inner c List.mem_cons_self
      have ih := ih fun d mem => inner d (List.mem_cons_of_mem c mem)
      simp only [isInner, Bool.and_eq_true, bne_iff_ne] at first
      rw [List.cons_append]
      cases behind : inners ++ rest with
      | nil =>
          rw [behind] at ih
          rw [← ih]
          simp [hasBareQuote, first.1.1]
      | cons d more =>
          rw [behind] at ih
          rw [← ih, hasBareQuote]
          simp [first.1]

theorem hasBareQuote_elements {elements : List Text} (are : ∀ element ∈ elements, IsElement element) :
    hasBareQuote elements.flatten = false := by
  induction elements with
  | nil => rfl
  | cons element elements ih =>
      have ih := ih fun e mem => are e (List.mem_cons_of_mem element mem)
      rw [List.flatten_cons]
      rcases (are element List.mem_cons_self).cases_inner with ⟨c, rfl, inner⟩ |
        ⟨letter, digits, rfl, inners⟩
      · rw [hasBareQuote_inners (by simpa using inner), ih]
      · have backslash : ('\\' : CodePoint).val = 92 := rfl
        rw [List.cons_append, List.cons_append, hasBareQuote, if_pos backslash,
          hasBareQuote_inners inners, ih]

/-- Between the first and the last quote of a regular literal every quote is escaped. -/
theorem hasBareQuote_regular {t : Text} (regular : IsRegular t) :
    hasBareQuote (t.drop 1).dropLast = false := by
  obtain ⟨elements, are, rfl⟩ := regular
  rw [List.drop_succ_cons, List.drop_zero, List.dropLast_concat]
  exact hasBareQuote_elements are

theorem isNewLine_of_isLineEnd {c : CodePoint} (joins : Text.isLineEnd c = false) :
    isNewLine c = false := by
  simp only [Text.isLineEnd, Bool.or_eq_false_iff, Bool.and_eq_false_iff, decide_eq_false_iff_not,
    beq_eq_false_iff_ne] at joins
  simp only [isNewLine, isLineSeparator, Bool.or_eq_false_iff, beq_eq_false_iff_ne]
  omega

/-- Writing a text as a literal loses nothing.  The literal denotes the text and no other text is
written alike; it is a regular literal on one line, of which every inner quote is escaped, and one
token. -/
theorem encode_faithful :
    (∀ t, decode (encode t) = .ok (some t)) ∧
    (∀ t, ∀ c ∈ encode t, isNewLine c = false) ∧
    (∀ t, hasBareQuote ((encode t).drop 1).dropLast = false) ∧
    Function.Injective encode ∧
    ∀ t, IsRegular (encode t) ∧ tokens (encode t) = some [.string ⟨0, (encode t).length, 1⟩] :=
  ⟨decode_encode, fun _ _ mem => isNewLine_of_isLineEnd (isLineEnd_of_mem_encode mem),
    fun t => hasBareQuote_regular (isRegular_encode t), injective_encode,
    fun t => ⟨isRegular_encode t, tokens_regular (isRegular_encode t)⟩⟩

end ClassHarvest.CSharp.Literal
