import ClassHarvest.Proofs.Pattern.ClassLists
import ClassHarvest.Proofs.Pattern.Matching

/-!
# The default pattern

The default pattern denotes the scan for class lists from left to right.
-/

namespace ClassHarvest.Pattern

/-! ## The expression -/

/-- The letters of a word, and then an expression. -/
def spelled (word : Text) (next : Regex) : Regex :=
  word.foldr (fun letter next => .seq (.char (.one letter)) next) next

/-- Any white space. -/
def anySpace : Regex :=
  .repeat .greedy 0 none (.char (.set false [.named .space false]))

/-- White space, a character, and then an expression. -/
def spaced (wanted : CodePoint) (next : Regex) : Regex :=
  .seq anySpace (.seq (.char (.one wanted)) next)

/-- The opening of an attribute; the first group is its quote. -/
def attributeOpening : Regex :=
  .seq (.repeat .greedy 0 (some 1)
      (.seq (.char (.one 'c')) (.seq (.char (.one 's')) (.char (.one 's')))))
    (spelled "class" (spaced '=' (.seq anySpace
      (.capture 1 (.char (.set false [.one '\'', .one '"']))))))

/-- The opening of a call, which is the second group. -/
def callOpening : Regex :=
  .capture 2 (spelled "CssClass" (spaced '(' (.seq anySpace (.char (.one '"')))))

/-- The value, which is the third group. -/
def listValue : Regex :=
  .capture 3 (.repeat .reluctant 0 none (.char (.other '<')))

/-- What ends the value of an attribute or of a call. -/
def listEnding : Regex :=
  .conditional 2 (.seq (.char (.one '"')) (.seq anySpace (.char (.one ')')))) (.backReference 1)

/-- What the default pattern denotes. -/
def defaultProgram : Program where
  regex := .seq (.alt attributeOpening callOpening) (.seq listValue listEnding)
  flags := classFlags
  groups := 3
  names := [("quote", 1), ("call", 2), ("value", 3)]

/-! ## Words and spaces -/

variable {text : Array CodePoint} {rest : Text} {marks : Marks} {k : Continuation}

theorem run_spelled {word : Text} {next : Regex} (letters : ∀ letter ∈ word, letter ∈ ("cslaC" : Text))
    (suffix : rest <:+ text.toList) :
    (spelled word next).run text classFlags (.before text rest marks) k =
      (afterWord (word.map CodePoint.asciiLower) rest).bind fun behind =>
        next.run text classFlags (.before text behind marks) k := by
  induction word generalizing rest with
  | nil => rfl
  | cons letter word ih =>
      have isLetter := letters letter List.mem_cons_self
      have letters : ∀ letter ∈ word, letter ∈ ("cslaC" : Text) := fun letter mem =>
        letters letter (List.mem_cons_of_mem _ mem)
      change (Regex.seq (.char (.one letter)) (spelled word next)).run text classFlags _ k = _
      rw [Regex.run]
      cases rest with
      | nil => exact run_char_nil
      | cons c rest =>
          rw [run_char_cons suffix, passes_one isLetter, List.map_cons, afterWord,
            ih letters (tail_suffix suffix)]
          split <;> rfl

/-- White space is passed over if what follows cannot begin with it. -/
theorem run_anySpace (suffix : rest <:+ text.toList)
    (blocked : ∀ c behind, c :: behind <:+ text.toList → c.isSpace = true →
      k (.before text (c :: behind) marks) = none) :
    anySpace.run text classFlags (.before text rest marks) k =
      k (.before text (afterSpace rest) marks) := by
  have isSpace : (fun c => (CharTest.set false [.named .space false]).passes classFlags c) =
      CodePoint.isSpace := funext passes_space
  rw [anySpace, run_greedy suffix, isSpace, afterSpace]
  intro c behind isBehind passes
  exact blocked c behind isBehind ((passes_space c).symm.trans passes)

/-- A character without cases. -/
theorem run_one {wanted : CodePoint} (noCase : wanted.hasCase = false) (suffix : rest <:+ text.toList) :
    (Regex.char (.one wanted)).run text classFlags (.before text rest marks) k =
      (afterChar wanted rest).bind fun behind => k (.before text behind marks) := by
  cases rest with
  | nil => exact run_char_nil
  | cons c rest =>
      rw [run_char_cons suffix, CharTest.passes, sameCharacter_plain noCase, afterChar]
      by_cases same : c = wanted <;> simp [same]

theorem run_anySpace_one {wanted : CodePoint} (noCase : wanted.hasCase = false)
    (notSpace : wanted.isSpace = false) (suffix : rest <:+ text.toList) :
    (Regex.seq anySpace (.char (.one wanted))).run text classFlags (.before text rest marks) k =
      (afterChar wanted (afterSpace rest)).bind fun behind => k (.before text behind marks) := by
  rw [Regex.run, run_anySpace suffix, run_one noCase ((afterSpace_suffix rest).trans suffix)]
  intro c behind isBehind isSpace
  rw [run_one noCase isBehind, afterChar, if_neg]
  · rfl
  · rintro rfl
    rw [notSpace] at isSpace
    cases isSpace

theorem run_spaced {wanted : CodePoint} {next : Regex} (noCase : wanted.hasCase = false)
    (notSpace : wanted.isSpace = false) (suffix : rest <:+ text.toList) :
    (spaced wanted next).run text classFlags (.before text rest marks) k =
      (afterChar wanted (afterSpace rest)).bind fun behind =>
        next.run text classFlags (.before text behind marks) k := by
  have parts : (spaced wanted next).run text classFlags (.before text rest marks) k =
      (Regex.seq anySpace (.char (.one wanted))).run text classFlags (.before text rest marks)
        fun behind => next.run text classFlags behind k := by
    simp only [spaced, Regex.run]
  rw [parts, run_anySpace_one noCase notSpace suffix]

/-! ## Groups -/

/-- What groups matched, once a group took the text between two places. -/
def Marks.capture (text : Array CodePoint) (marks : Marks) (index : Nat) (first last : Text) : Marks :=
  (marks.openAt index (text.size - first.length)).closeAt index (text.size - last.length)

theorem run_capture {index : Nat} {body : Regex} :
    (Regex.capture index body).run text classFlags (.before text rest marks) k =
      body.run text classFlags (.before text rest (marks.openAt index (text.size - rest.length)))
        fun next => k { next with marks := next.marks.closeAt index next.position } := rfl

theorem span?_capture {index : Nat} {last : Text} (suffix : last <:+ rest) :
    (marks.capture text index rest last).span? index =
      some (text.size - rest.length, text.size - last.length) := by
  have order := suffix.length_le
  simp only [Marks.span?, Marks.capture, Marks.closeAt, Marks.openAt, Marks.ends_set]
  rw [if_pos (by omega)]

theorem span?_capture_of_ne {index other : Nat} {last : Text} (apart : other ≠ index) :
    (marks.capture text index rest last).span? other = marks.span? other := by
  simp only [Marks.span?, Marks.capture, Marks.closeAt, Marks.openAt, Marks.ends_set_of_ne apart]

/-! ## Openings -/

theorem afterWord_append (word word' t : Text) :
    afterWord (word ++ word') t = (afterWord word t).bind (afterWord word') := by
  induction word generalizing t with
  | nil => rfl
  | cons letter word ih =>
      cases t with
      | nil => rfl
      | cons c t =>
          rw [List.cons_append, afterWord, afterWord, ih]
          split <;> rfl

/-- No character reads as two letters, as far as the second letters of `cssclass` and `class` go. -/
theorem readsAs_l_of_s {c : CodePoint} (isS : readsAs 's' c = true) : readsAs 'l' c = false := by
  simp only [readsAs, Bool.or_eq_true, decide_eq_true_eq, Bool.and_eq_true] at isS
  rcases isS with (rfl | rfl) | ⟨_, long⟩
  · rfl
  · rfl
  · have isLong : c = 'ſ' := CodePoint.val_inj long
    rw [isLong]
    rfl

/-- Where `cssclass` can be read, `class` cannot. -/
theorem afterWord_class_eq_none {t behind : Text} (long : afterWord "cssclass" t = some behind) :
    afterWord "class" t = none := by
  rcases t with _ | ⟨c, _ | ⟨d, t⟩⟩
  · rfl
  · change (if readsAs 'c' c then afterWord "ssclass" [] else none) = _ at long
    split at long <;> cases long
  · change (if readsAs 'c' c then if readsAs 's' d then afterWord "sclass" t else none else none) = _
      at long
    change (if readsAs 'c' c then if readsAs 'l' d then afterWord "ass" t else none else none) = none
    split at long
    · next isC =>
        split at long
        · next isS => rw [if_pos isC, readsAs_l_of_s isS, if_neg Bool.false_ne_true]
        · cases long
    · cases long

/-- A word with `css` in front of it or without. -/
theorem run_cssOptional {next : Regex} (suffix : rest <:+ text.toList) :
    (Regex.seq (.repeat .greedy 0 (some 1)
        (.seq (.char (.one 'c')) (.seq (.char (.one 's')) (.char (.one 's')))))
      (spelled "class" next)).run text classFlags (.before text rest marks) k =
        ((afterWord "cssclass" rest).or (afterWord "class" rest)).bind fun behind =>
          next.run text classFlags (.before text behind marks) k := by
  let follow (behind : Text) : Option Cursor :=
    next.run text classFlags (.before text behind marks) k
  have css (k : Continuation) : (Regex.seq (.char (.one 'c'))
      (.seq (.char (.one 's')) (.char (.one 's')))).run text classFlags (.before text rest marks) k =
        (afterWord "css" rest).bind fun behind => k (.before text behind marks) :=
    @run_spelled text rest marks k "css" .empty (by decide) suffix
  have short (behind : Text) (suffix : behind <:+ text.toList) :
      (spelled "class" next).run text classFlags (.before text behind marks) k =
        (afterWord "class" behind).bind follow :=
    run_spelled (by decide) suffix
  have long : (afterWord "css" rest).bind (fun behind =>
      (spelled "class" next).run text classFlags (.before text behind marks) k) =
        (afterWord "cssclass" rest).bind follow := by
    rw [show ("cssclass" : Text) = "css" ++ "class" from rfl, afterWord_append, Option.bind_assoc]
    exact Option.bind_congr fun behind read => short behind ((suffix_of_afterWord read).trans suffix)
  rw [Regex.run, run_optional rfl, css, long, short rest suffix]
  cases isLong : afterWord "cssclass" rest with
  | none => rfl
  | some behind =>
      rw [afterWord_class_eq_none isLong, Option.or_none, Option.bind_some]
      cases follow behind <;> rfl

/-- The quote of an attribute. -/
theorem run_quote (suffix : rest <:+ text.toList) :
    (Regex.capture 1 (.char (.set false [.one '\'', .one '"']))).run text classFlags
        (.before text rest marks) k =
      (quote? rest).bind fun (quote, behind) =>
        k (.before text behind (marks.capture text 1 (quote :: behind) behind)) := by
  rw [run_capture]
  cases rest with
  | nil => exact run_char_nil
  | cons quote behind =>
      rw [run_char_cons suffix, passes_quote, quote?]
      simp only [Bool.or_eq_true, beq_iff_eq]
      split <;> rfl

theorem run_attributeOpening (suffix : rest <:+ text.toList) :
    attributeOpening.run text classFlags (.before text rest marks) k =
      (attributeOpening? rest).bind fun (quote, behind) =>
        k (.before text behind (marks.capture text 1 (quote :: behind) behind)) := by
  rw [attributeOpening, run_cssOptional suffix, attributeOpening?, Option.bind_eq_bind,
    Option.bind_assoc]
  apply Option.bind_congr
  intro t₁ word
  have isBehind : t₁ <:+ text.toList := by
    rcases Option.or_eq_some_iff.mp word with long | ⟨_, short⟩
    · exact (suffix_of_afterWord long).trans suffix
    · exact (suffix_of_afterWord short).trans suffix
  rw [run_spaced (by decide) (by decide) isBehind, Option.bind_assoc]
  apply Option.bind_congr
  intro t₂ equals
  have isBehind := (suffix_of_afterChar_afterSpace equals).trans isBehind
  rw [Regex.run, run_anySpace isBehind, run_quote ((afterSpace_suffix t₂).trans isBehind)]
  intro c behind isHere isSpace
  rw [run_quote isHere, quote?, if_neg]
  · rfl
  · rintro (rfl | rfl)
    · cases isSpace
    · cases isSpace

theorem run_callOpening (suffix : rest <:+ text.toList) :
    callOpening.run text classFlags (.before text rest marks) k =
      (callOpening? rest).bind fun behind =>
        k (.before text behind (marks.capture text 2 rest behind)) := by
  have inner (marks : Marks) (k : Continuation) :
      (spelled "CssClass" (spaced '(' (.seq anySpace (.char (.one '"'))))).run text classFlags
        (.before text rest marks) k =
          (callOpening? rest).bind fun behind => k (.before text behind marks) := by
    rw [run_spelled (by decide) suffix,
      show ("CssClass" : Text).map CodePoint.asciiLower = "cssclass" from rfl, callOpening?,
      Option.bind_eq_bind, Option.bind_assoc]
    apply Option.bind_congr
    intro t₁ word
    have isBehind := (suffix_of_afterWord word).trans suffix
    rw [run_spaced (by decide) (by decide) isBehind, Option.bind_assoc]
    apply Option.bind_congr
    intro t₂ parenthesis
    exact run_anySpace_one (by decide) (by decide)
      ((suffix_of_afterChar_afterSpace parenthesis).trans isBehind)
  rw [callOpening, run_capture, inner]
  rfl

/-! ## Values and endings -/

theorem passes_other (c : CodePoint) :
    (CharTest.other '<').passes classFlags c = !decide (c = '<') := by
  have noCase : CodePoint.hasCase '<' = false := by decide
  rw [CharTest.passes, sameCharacter_plain noCase]
  rfl

/-- The first place where the continuation accepts is the end of the value. -/
theorem run_valueUpTo {ending : Text → Option Text} (closes : ending [] = none)
    (asks : ∀ closing, closing <:+ text.toList →
      (k (.before text closing marks)).isSome = (ending closing).isSome)
    (suffix : rest <:+ text.toList) :
    (Regex.repeat .reluctant 0 none (.char (.other '<'))).run text classFlags
        (.before text rest marks) k =
      (valueUpTo ending rest).bind fun (value, _) =>
        k (.before text (rest.drop value.length) marks) := by
  induction rest with
  | nil =>
      have refused := asks [] List.nil_suffix
      rw [closes, Option.isSome_none, Option.isSome_eq_false_iff, Option.isNone_iff_eq_none] at refused
      rw [run_reluctant_nil, refused]
      rfl
  | cons c rest ih =>
      have asked := asks (c :: rest) suffix
      rw [run_reluctant_cons suffix, passes_other, ih (tail_suffix suffix), valueUpTo]
      cases ends : ending (c :: rest) with
      | some behind =>
          rw [ends, Option.isSome_some] at asked
          obtain ⟨result, accepted⟩ := Option.isSome_iff_exists.mp asked
          simp only [accepted]
          exact accepted.symm
      | none =>
          rw [ends, Option.isSome_none, Option.isSome_eq_false_iff, Option.isNone_iff_eq_none] at asked
          simp only [asked]
          by_cases opens : c = '<'
          · simp [opens]
          · simp only [opens, decide_false, Bool.not_false, if_true, if_false]
            cases valueUpTo ending rest <;> rfl

/-- A value and its ending, if the ending that is read is the one that the marks call for. -/
theorem run_value {ending : Text → Option Text} (closes : ending [] = none)
    (endings : ∀ closing, closing <:+ text.toList →
      listEnding.run text classFlags (.before text closing (marks.capture text 3 rest closing)) some =
        (ending closing).bind fun behind =>
          some (.before text behind (marks.capture text 3 rest closing)))
    (suffix : rest <:+ text.toList) :
    (Regex.seq listValue listEnding).run text classFlags (.before text rest marks) some =
      (valueUpTo ending rest).map fun (value, behind) =>
        .before text behind (marks.capture text 3 rest (rest.drop value.length)) := by
  have place (closing : Text) (marks : Marks) :
      { Cursor.before text closing marks with
        marks := marks.closeAt 3 (Cursor.before text closing marks).position } =
          Cursor.before text closing (marks.closeAt 3 (text.size - closing.length)) := rfl
  rw [Regex.run, listValue, run_capture, run_valueUpTo closes _ suffix]
  · cases read : valueUpTo ending rest with
    | none => rfl
    | some result =>
        obtain ⟨value, behind⟩ := result
        obtain ⟨closing, rfl, ends⟩ := exists_of_valueUpTo read
        have isClosing : (value ++ closing).drop value.length = closing := List.drop_left
        have ended := endings closing ((List.suffix_append value closing).trans suffix)
        rw [ends] at ended
        simp only [Option.bind_some, Option.map_some, isClosing]
        exact ended
  · intro closing isClosing
    refine (congrArg Option.isSome (endings closing isClosing)).trans ?_
    cases ending closing <;> rfl

/-! ## Endings -/

/-- Case does not matter for either quote. -/
theorem lower_eq_quote {quote c : CodePoint} (isQuote : quote = '\'' ∨ quote = '"') :
    c.lower = quote.lower ↔ c = quote := by
  rcases isQuote with rfl | rfl
  · exact CodePoint.lower_eq_iff_of_apart (by decide) (by decide) (by decide +kernel)
  · exact CodePoint.lower_eq_iff_of_apart (by decide) (by decide) (by decide +kernel)

/-- Without a call, the ending is the quote that the first group took. -/
theorem run_listEnding_attribute {quote : CodePoint} {inner : Text} (isQuote : quote = '\'' ∨ quote = '"')
    (here : quote :: inner <:+ text.toList)
    (opened : marks.span? 1 = some (text.size - (quote :: inner).length, text.size - inner.length))
    (noCall : marks.span? 2 = none) (suffix : rest <:+ text.toList) :
    listEnding.run text classFlags (.before text rest marks) k =
      (afterChar quote rest).bind fun behind => k (.before text behind marks) := by
  have bound := length_le_size here
  rw [List.length_cons] at opened bound
  have one : text.size - inner.length - (text.size - (inner.length + 1)) = 1 := by omega
  have same : sameStretch classFlags text (text.size - (inner.length + 1)) (text.size - rest.length) 1 =
      rest.head?.any (· = quote) := by
    have isOpening := getElem?_before here
    rw [List.length_cons, List.head?_cons] at isOpening
    simp only [sameStretch, List.range_one, List.all_cons, List.all_nil, Nat.add_zero, Bool.and_true,
      isOpening, getElem?_before suffix]
    cases rest with
    | nil => rfl
    | cons c rest =>
        simp only [List.head?_cons, Option.any_some, classFlags, if_true, Flags.lower]
        rw [Bool.eq_iff_iff]
        simp [eq_comm (a := quote.lower), lower_eq_quote isQuote]
  rw [listEnding, Regex.run]
  simp only [Cursor.before, noCall, Option.isSome_none, Bool.false_eq_true, if_false]
  rw [Regex.run]
  simp only [opened, one, same]
  cases rest with
  | nil => rfl
  | cons c rest =>
      have behind : text.size - (c :: rest).length + 1 = text.size - rest.length := by
        have bound := length_le_size suffix
        rw [List.length_cons] at bound ⊢
        omega
      rw [afterChar, behind]
      by_cases isEnd : c = quote
      · simp only [List.head?_cons, Option.any_some, isEnd, decide_true, if_true, Option.bind_some]
      · simp [isEnd]

/-- With a call, the ending is a quote and a closing parenthesis. -/
theorem run_listEnding_call (called : (marks.span? 2).isSome = true) (suffix : rest <:+ text.toList) :
    listEnding.run text classFlags (.before text rest marks) k =
      (callEnding rest).bind fun behind => k (.before text behind marks) := by
  have noCase : CodePoint.hasCase '"' = false := by decide
  rw [listEnding, Regex.run]
  simp only [Cursor.before, called, if_true]
  rw [Regex.run, ← Cursor.before, run_one noCase suffix, callEnding, Option.bind_eq_bind,
    Option.bind_assoc]
  apply Option.bind_congr
  intro inner quote
  exact run_anySpace_one (by decide) (by decide) ((suffix_of_afterChar quote).trans suffix)

/-! ## Class lists -/

/-- A cursor stands behind a class list, which the third group took. -/
def Takes (text : Array CodePoint) : Text × Text → Cursor → Prop
  | (value, behind), cursor => ∃ first last, cursor.position = text.size - behind.length ∧
    cursor.marks.span? 3 = some (first, last) ∧ (text.extract first last).toList = value

/-- A value that is read up to an ending is what the third group takes. -/
theorem takes_value {ending : Text → Option Text} (closes : ending [] = none)
    (endings : ∀ closing, closing <:+ text.toList →
      listEnding.run text classFlags (.before text closing (marks.capture text 3 rest closing)) some =
        (ending closing).bind fun behind =>
          some (.before text behind (marks.capture text 3 rest closing)))
    (suffix : rest <:+ text.toList) :
    Option.Rel (Takes text) (valueUpTo ending rest)
      ((Regex.seq listValue listEnding).run text classFlags (.before text rest marks) some) := by
  rw [run_value closes endings suffix]
  cases read : valueUpTo ending rest with
  | none => exact .none
  | some result =>
      obtain ⟨value, behind⟩ := result
      obtain ⟨closing, rfl, ends⟩ := exists_of_valueUpTo read
      have isClosing : (value ++ closing).drop value.length = closing := List.drop_left
      simp only [Option.map_some, isClosing]
      exact .some ⟨_, _, rfl, span?_capture (List.suffix_append value closing),
        extract_between suffix⟩

theorem takes_attribute (suffix : rest <:+ text.toList) :
    Option.Rel (Takes text) (attribute? rest)
      (attributeOpening.run text classFlags (.before text rest []) fun cursor =>
        (Regex.seq listValue listEnding).run text classFlags cursor some) := by
  rw [run_attributeOpening suffix, attribute?, Option.bind_eq_bind]
  cases opened : attributeOpening? rest with
  | none => exact .none
  | some opening =>
      obtain ⟨quote, inner⟩ := opening
      obtain ⟨isHere, isQuote⟩ := suffix_of_attributeOpening opened
      have here := isHere.trans suffix
      simp only [Option.bind_some]
      apply takes_value rfl _ (tail_suffix here)
      intro closing isClosing
      apply run_listEnding_attribute isQuote here _ _ isClosing
      · rw [span?_capture_of_ne (by decide), span?_capture (List.suffix_cons quote inner)]
      · rw [span?_capture_of_ne (by decide), span?_capture_of_ne (by decide)]
        rfl

theorem takes_call (suffix : rest <:+ text.toList) :
    Option.Rel (Takes text) (call? rest)
      (callOpening.run text classFlags (.before text rest []) fun cursor =>
        (Regex.seq listValue listEnding).run text classFlags cursor some) := by
  rw [run_callOpening suffix, call?, Option.bind_eq_bind]
  cases opened : callOpening? rest with
  | none => exact .none
  | some inner =>
      have isInner := (List.suffix_cons _ inner).trans (suffix_of_callOpening opened)
      simp only [Option.bind_some]
      apply takes_value rfl _ (isInner.trans suffix)
      intro closing isClosing
      apply run_listEnding_call _ isClosing
      rw [span?_capture_of_ne (by decide), span?_capture isInner]
      rfl

/-- Of two alternatives the first one is preferred on either side. -/
theorem rel_or {α β : Type} {r : α → β → Prop} {first second : Option α} {first' second' : Option β}
    (relFirst : Option.Rel r first first') (relSecond : Option.Rel r second second') :
    Option.Rel r (first.or second) (first'.or second') := by
  cases relFirst with
  | none => exact relSecond
  | some rel => exact .some rel

/-- At every place the default pattern takes the class list that is read there. -/
theorem takes_classList (suffix : rest <:+ text.toList) :
    Option.Rel (Takes text) (classList? rest)
      (defaultProgram.regex.run text classFlags (.before text rest []) some) := by
  have alternatives : defaultProgram.regex.run text classFlags (.before text rest []) some =
      (attributeOpening.run text classFlags (.before text rest []) fun cursor =>
        (Regex.seq listValue listEnding).run text classFlags cursor some).or
      (callOpening.run text classFlags (.before text rest []) fun cursor =>
        (Regex.seq listValue listEnding).run text classFlags cursor some) := by
    rw [defaultProgram, Regex.run, Regex.run]
    split
    · next taken => rw [taken, Option.some_or]
    · next refused => rw [refused, Option.none_or]
  rw [alternatives]
  exact rel_or (takes_attribute suffix) (takes_call suffix)

/-! ## Searching -/

/-- The next match takes the class list that the scan gives first. -/
def TakesNext (text : Array CodePoint) (rest : Text) : Option Match → Prop
  | none => classLists rest = []
  | some found => ∃ here value behind, here <:+ rest ∧ classList? here = some (value, behind) ∧
    found.start = text.size - here.length ∧ classLists rest = value :: classLists behind ∧
    Takes text (value, behind) ⟨found.stop, found.marks⟩

theorem tryAt_before : Regex.search.tryAt defaultProgram.regex classFlags text false
    (text.size - rest.length) =
      (defaultProgram.regex.run text classFlags (.before text rest []) some).map fun cursor =>
        ⟨text.size - rest.length, cursor.position, cursor.marks⟩ := by
  simp only [Regex.search.tryAt, Bool.false_and, Bool.false_eq_true, if_false]
  rfl

theorem TakesNext.cons {c : CodePoint} {found : Option Match} (takes : TakesNext text rest found)
    (same : classLists (c :: rest) = classLists rest) : TakesNext text (c :: rest) found := by
  cases found with
  | none => exact same.trans takes
  | some found =>
      obtain ⟨here, value, behind, isHere, read, start, lists, takes⟩ := takes
      exact ⟨here, value, behind, isHere.trans (List.suffix_cons c rest), read, start,
        same.trans lists, takes⟩

/-- The search goes through the places from left to right. -/
theorem takesNext_search (suffix : rest <:+ text.toList) :
    TakesNext text rest (defaultProgram.regex.search classFlags text false
      (text.size - rest.length) rest.length) := by
  induction rest with
  | nil =>
      have taken := takes_classList suffix
      rw [List.length_nil, Regex.search, ← List.length_nil (α := CodePoint), tryAt_before]
      generalize defaultProgram.regex.run text classFlags (.before text [] []) some = found at taken ⊢
      cases taken with
      | none =>
          change classLists [] = []
          rw [classLists]
  | cons c rest ih =>
      have taken := takes_classList suffix
      have next : text.size - (c :: rest).length + 1 = text.size - rest.length := by
        have bound := length_le_size suffix
        rw [List.length_cons] at bound ⊢
        omega
      have onward := ih (tail_suffix suffix)
      rw [List.length_cons, Regex.search, ← List.length_cons, tryAt_before, next]
      generalize defaultProgram.regex.run text classFlags (.before text (c :: rest) []) some = found
        at taken ⊢
      generalize isRead : classList? (c :: rest) = read at taken
      cases taken with
      | some takes =>
          exact ⟨c :: rest, _, _, List.suffix_refl _, isRead, rfl, classLists_of_some isRead, takes⟩
      | none => exact onward.cons (classLists_of_none isRead)

/-- What the third group took is the value of a match. -/
theorem valueOf_of_takes {value behind : Text} {found : Match}
    (takes : Takes text (value, behind) ⟨found.stop, found.marks⟩) :
    (ClassPattern.mk defaultPattern defaultProgram [valueGroup]).valueOf text found = .ok (some value) := by
  obtain ⟨first, last, _, spanned, taken⟩ := takes
  have isThird : defaultProgram.names.lookup valueGroup = some 3 := rfl
  rw [ClassPattern.valueOf, firstCaptured, Program.captured, isThird]
  simp only [Option.map_some, spanned, taken]

/-- A match ends behind its class list, which leaves less of the text than there was. -/
theorem stop_of_takes {here value behind : Text} {found : Match} (isHere : here <:+ rest)
    (suffix : rest <:+ text.toList) (read : classList? here = some (value, behind))
    (start : found.start = text.size - here.length)
    (takes : Takes text (value, behind) ⟨found.stop, found.marks⟩) :
    found.stop = text.size - behind.length ∧ found.start < found.stop ∧ behind <:+ text.toList ∧
      behind.length < rest.length := by
  obtain ⟨_, _, stop, _⟩ := takes
  have bound := length_le_size (isHere.trans suffix)
  obtain ⟨isBehind, shorter⟩ := suffix_of_classList read
  have stop : found.stop = text.size - behind.length := stop
  refine ⟨stop, by omega, isBehind.trans (isHere.trans suffix), ?_⟩
  exact Nat.lt_of_lt_of_le shorter isHere.length_le

/-- The matches from a place on give the class lists of the rest, and every one of them is a class
list that is read where it begins. -/
theorem valuesOf_matchesFrom (suffix : rest <:+ text.toList) {bound : Nat} (enough : rest.length < bound)
    (asked : Nat) :
    (∃ asked', valuesOf ⟨defaultPattern, defaultProgram, [valueGroup]⟩ text Signal.never asked
      (defaultProgram.regex.matchesFrom classFlags text bound false (text.size - rest.length)) =
        .ok (classLists rest, asked')) ∧
    ∀ found ∈ defaultProgram.regex.matchesFrom classFlags text bound false (text.size - rest.length),
      ∃ here value behind, here <:+ text.toList ∧ classList? here = some (value, behind) ∧
        found.start = text.size - here.length ∧ found.stop = text.size - behind.length := by
  induction bound generalizing rest asked with
  | zero => exact absurd enough (Nat.not_lt_zero _)
  | succ bound ih =>
      have left : text.size - (text.size - rest.length) = rest.length :=
        Nat.sub_sub_self (length_le_size suffix)
      have takes := takesNext_search suffix
      rw [Regex.matchesFrom, if_neg (Nat.not_lt.mpr (Nat.sub_le _ _)), left]
      generalize defaultProgram.regex.search classFlags text false (text.size - rest.length)
        rest.length = next at takes ⊢
      cases next with
      | none => exact ⟨⟨asked, by rw [takes]; rfl⟩, List.forall_mem_nil _⟩
      | some found =>
          obtain ⟨here, value, behind, isHere, read, start, lists, takes⟩ := takes
          obtain ⟨stop, nonempty, isBehind, shorter⟩ := stop_of_takes isHere suffix read start takes
          have notEmpty : (found.start == text.size - behind.length) = false := by
            rw [← stop]
            simpa using Nat.ne_of_lt nonempty
          obtain ⟨⟨asked', others⟩, allRead⟩ := ih isBehind
            (Nat.lt_of_lt_of_le shorter (Nat.le_of_lt_succ enough)) (asked + 1)
          simp only [stop, notEmpty]
          refine ⟨⟨asked', ?_⟩, List.forall_mem_cons.mpr ⟨?_, allRead⟩⟩
          · rw [valuesOf, valueOf_of_takes takes, others, lists]
            rfl
          · exact ⟨here, value, behind, isHere.trans suffix, read, start, stop⟩

/-! ## The pattern -/

theorem compile_defaultPattern : ClassPattern.compile defaultPattern =
    .ok ⟨defaultPattern, defaultProgram, [valueGroup]⟩ := by
  have compiled : (ClassPattern.compile defaultPattern).toOption =
      some ⟨defaultPattern, defaultProgram, [valueGroup]⟩ := by decide +kernel
  cases result : ClassPattern.compile defaultPattern with
  | error error =>
      rw [result] at compiled
      cases compiled
  | ok pattern =>
      rw [result] at compiled
      exact congrArg Except.ok (Option.some.inj compiled)

/-- In a whole text the default pattern finds the class lists of the scan. -/
theorem defaultPattern_finds (text : Text) :
    (ClassPattern.mk defaultPattern defaultProgram [valueGroup]).extract text =
        .ok (classLists text) ∧
      ∀ found ∈ defaultProgram.regex.allMatches classFlags text.toArray,
        ∃ here value behind, here <:+ text ∧ classList? here = some (value, behind) ∧
          found.start = text.length - here.length ∧ found.stop = text.length - behind.length := by
  have whole : text <:+ text.toArray.toList := List.suffix_refl _
  have start : text.toArray.size - text.length = 0 := by simp
  obtain ⟨⟨asked, values⟩, allRead⟩ := valuesOf_matchesFrom whole
    (show text.length < 2 * text.toArray.size + 2 by rw [List.size_toArray]; omega) 0
  rw [start] at values allRead
  refine ⟨?_, allRead⟩
  rw [ClassPattern.extract, ClassPattern.extractUnder, Regex.allMatches]
  exact congrArg (Except.map (·.1)) values

/-- The default pattern extracts what the scan gives. -/
theorem extract_defaultPattern (text : Text) : ∃ pattern,
    ClassPattern.compile defaultPattern = .ok pattern ∧ pattern.extract text = .ok (classLists text) :=
  ⟨_, compile_defaultPattern, (defaultPattern_finds text).1⟩

end ClassHarvest.Pattern
