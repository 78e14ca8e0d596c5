import ClassHarvest.Proofs.Pattern.CharTest

/-!
# Class lists from left to right

A scan that never looks back: at every place it reads an attribute, else a call, else it goes on by one
character.
-/

namespace ClassHarvest.Pattern

/-! ## Reading at a place -/

/-- What follows a word, given in small letters, in front of a text. -/
def afterWord : Text → Text → Option Text
  | [], t => some t
  | _ :: _, [] => none
  | letter :: word, c :: t => if readsAs letter c then afterWord word t else none

/-- What follows a character in front of a text. -/
def afterChar (wanted : CodePoint) : Text → Option Text
  | [] => none
  | c :: t => if c = wanted then some t else none

/-- What follows the white space in front of a text. -/
def afterSpace (t : Text) : Text :=
  t.dropWhile CodePoint.isSpace

/-- What stands before the first place where an ending can be read, with no `<` on the way, and what
follows the ending. -/
def valueUpTo (ending : Text → Option Text) : Text → Option (Text × Text)
  | [] => none
  | c :: t =>
    match ending (c :: t) with
    | some rest => some ([], rest)
    | none =>
      if c = '<' then none else (valueUpTo ending t).map fun (value, rest) => (c :: value, rest)

/-- The quote of either kind in front of a text, and what follows it. -/
def quote? : Text → Option (CodePoint × Text)
  | [] => none
  | quote :: t => if quote = '\'' ∨ quote = '"' then some (quote, t) else none

/-- The quote that opens the value of a `class` or `cssclass`, and what follows it. -/
def attributeOpening? (t : Text) : Option (CodePoint × Text) := do
  let t ← (afterWord "cssclass" t).or (afterWord "class" t)
  let t ← afterChar '=' (afterSpace t)
  quote? (afterSpace t)

/-- The value of an attribute in front of a text, up to the next quote of its kind, and what follows. -/
def attribute? (t : Text) : Option (Text × Text) := do
  let (quote, t) ← attributeOpening? t
  valueUpTo (afterChar quote) t

/-- What follows the quote that opens the argument of a call of `CssClass`. -/
def callOpening? (t : Text) : Option Text := do
  let t ← afterWord "cssclass" t
  let t ← afterChar '(' (afterSpace t)
  afterChar '"' (afterSpace t)

/-- What follows a quote and a closing parenthesis. -/
def callEnding (t : Text) : Option Text := do
  let t ← afterChar '"' t
  afterChar ')' (afterSpace t)

/-- The argument of a call in front of a text, and what follows the call. -/
def call? (t : Text) : Option (Text × Text) := do
  let t ← callOpening? t
  valueUpTo callEnding t

/-- The class list in front of a text, and what follows it. -/
def classList? (t : Text) : Option (Text × Text) :=
  (attribute? t).or (call? t)

/-! ## What is read is in front -/

theorem suffix_of_afterWord {word t rest : Text} (read : afterWord word t = some rest) :
    rest <:+ t := by
  induction word generalizing t with
  | nil =>
      cases read
      exact List.suffix_refl _
  | cons letter word ih =>
      cases t with
      | nil => cases read
      | cons c t =>
          rw [afterWord] at read
          split at read
          · exact (ih read).trans (List.suffix_cons c t)
          · cases read

theorem eq_cons_of_afterChar {wanted : CodePoint} {t rest : Text}
    (read : afterChar wanted t = some rest) : t = wanted :: rest := by
  cases t with
  | nil => cases read
  | cons c t =>
      rw [afterChar] at read
      split at read
      · next same =>
          cases read
          rw [same]
      · cases read

theorem eq_cons_of_quote {quote : CodePoint} {t rest : Text} (read : quote? t = some (quote, rest)) :
    t = quote :: rest ∧ (quote = '\'' ∨ quote = '"') := by
  cases t with
  | nil => cases read
  | cons c t =>
      rw [quote?] at read
      split at read
      · next isQuote =>
          cases read
          exact ⟨rfl, isQuote⟩
      · cases read

theorem afterSpace_suffix (t : Text) : afterSpace t <:+ t :=
  List.dropWhile_suffix _

theorem suffix_of_afterChar {wanted : CodePoint} {t rest : Text}
    (read : afterChar wanted t = some rest) : rest <:+ t := by
  rw [eq_cons_of_afterChar read]
  exact List.suffix_cons wanted rest

theorem suffix_of_afterChar_afterSpace {wanted : CodePoint} {t rest : Text}
    (read : afterChar wanted (afterSpace t) = some rest) : rest <:+ t := by
  exact (suffix_of_afterChar read).trans (afterSpace_suffix t)

theorem exists_of_valueUpTo {ending : Text → Option Text} {t value rest : Text}
    (read : valueUpTo ending t = some (value, rest)) :
    ∃ closing, t = value ++ closing ∧ ending closing = some rest := by
  induction t generalizing value with
  | nil => cases read
  | cons c t ih =>
      rw [valueUpTo] at read
      split at read
      · next rest' ends =>
          cases read
          exact ⟨c :: t, rfl, ends⟩
      · split at read
        · cases read
        obtain ⟨⟨value', rest'⟩, isValue, same⟩ := Option.map_eq_some_iff.mp read
        cases same
        obtain ⟨closing, rfl, ends⟩ := ih isValue
        exact ⟨closing, rfl, ends⟩

theorem suffix_of_attributeOpening {t rest : Text} {quote : CodePoint}
    (read : attributeOpening? t = some (quote, rest)) :
    quote :: rest <:+ t ∧ (quote = '\'' ∨ quote = '"') := by
  unfold attributeOpening? at read
  obtain ⟨t₁, word, read⟩ := Option.bind_eq_some_iff.mp read
  obtain ⟨t₂, equals, read⟩ := Option.bind_eq_some_iff.mp read
  have behindWord : t₁ <:+ t := by
    rcases Option.or_eq_some_iff.mp word with long | ⟨_, short⟩
    · exact suffix_of_afterWord long
    · exact suffix_of_afterWord short
  have behindEquals := (suffix_of_afterChar_afterSpace equals).trans behindWord
  obtain ⟨front, isQuote⟩ := eq_cons_of_quote read
  exact ⟨(front ▸ afterSpace_suffix t₂).trans behindEquals, isQuote⟩

theorem suffix_of_callOpening {t rest : Text} (read : callOpening? t = some rest) :
    ('"' : CodePoint) :: rest <:+ t := by
  unfold callOpening? at read
  obtain ⟨t₁, word, read⟩ := Option.bind_eq_some_iff.mp read
  obtain ⟨t₂, parenthesis, quote⟩ := Option.bind_eq_some_iff.mp read
  have behind := (suffix_of_afterChar_afterSpace parenthesis).trans (suffix_of_afterWord word)
  exact (eq_cons_of_afterChar quote ▸ afterSpace_suffix t₂).trans behind

theorem suffix_of_callEnding {t rest : Text} (read : callEnding t = some rest) : rest <:+ t := by
  unfold callEnding at read
  obtain ⟨inner, quote, parenthesis⟩ := Option.bind_eq_some_iff.mp read
  rw [eq_cons_of_afterChar quote]
  exact (suffix_of_afterChar_afterSpace parenthesis).trans (List.suffix_cons _ inner)

theorem suffix_of_valueUpTo {ending : Text → Option Text} {t value rest : Text}
    (endings : ∀ {t rest}, ending t = some rest → rest <:+ t)
    (read : valueUpTo ending t = some (value, rest)) : rest <:+ t := by
  obtain ⟨closing, rfl, ends⟩ := exists_of_valueUpTo read
  exact (endings ends).trans (List.suffix_append value closing)

/-- What follows a class list is a shorter end of the text. -/
theorem suffix_of_classList {t value rest : Text} (read : classList? t = some (value, rest)) :
    rest <:+ t ∧ rest.length < t.length := by
  have behind {opening : CodePoint} {inner : Text} (opened : opening :: inner <:+ t)
      (ends : rest <:+ inner) : rest <:+ t ∧ rest.length < t.length :=
    ⟨ends.trans ((List.suffix_cons opening inner).trans opened),
      Nat.lt_of_le_of_lt ends.length_le (Nat.lt_of_succ_le opened.length_le)⟩
  rcases Option.or_eq_some_iff.mp read with isAttribute | ⟨_, isCall⟩
  · obtain ⟨⟨quote, inner⟩, opened, isValue⟩ := Option.bind_eq_some_iff.mp isAttribute
    apply behind (suffix_of_attributeOpening opened).1
    exact suffix_of_valueUpTo suffix_of_afterChar isValue
  · obtain ⟨inner, opened, isValue⟩ := Option.bind_eq_some_iff.mp isCall
    apply behind (suffix_of_callOpening opened)
    exact suffix_of_valueUpTo suffix_of_callEnding isValue

/-! ## The scan -/

/-- All class lists of a text, read from left to right. -/
def classLists : Text → List Text
  | [] => []
  | c :: t =>
    match _ : classList? (c :: t) with
    | some (value, rest) => value :: classLists rest
    | none => classLists t
termination_by t => t.length
decreasing_by
  · exact (suffix_of_classList ‹_›).2
  · exact Nat.lt_succ_self t.length

theorem classLists_of_some {t value rest : Text} (read : classList? t = some (value, rest)) :
    classLists t = value :: classLists rest := by
  cases t with
  | nil => cases read
  | cons c t =>
      rw [classLists]
      split
      · next read' =>
          cases read.symm.trans read'
          rfl
      · next read' => cases read.symm.trans read'

theorem classLists_of_none {c : CodePoint} {t : Text} (read : classList? (c :: t) = none) :
    classLists (c :: t) = classLists t := by
  rw [classLists]
  split
  · next read' => cases read.symm.trans read'
  · rfl

end ClassHarvest.Pattern
