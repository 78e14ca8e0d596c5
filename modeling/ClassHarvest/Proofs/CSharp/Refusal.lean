import Mathlib.Algebra.Group.Nat.Even
import ClassHarvest.Proofs.CSharp.Escapes
import ClassHarvest.Proofs.CSharp.Setting
import ClassHarvest.Proofs.CSharp.Units

/-!
# Refused literals

There is one reason to refuse a text: it is a regular literal with an escape `\U` whose number has more
than 31 bits.  Every other text is a literal that denotes something or no literal at all.  So a source
text is read unless such a literal is an argument in it.
-/

namespace ClassHarvest.CSharp

namespace Literal

/-! ## Large escapes -/

/-- An escape `\U` whose number has more than 31 bits. -/
def IsLargeEscape (escape : Text) : Prop :=
  ∃ digits : Text, escape = ('\\' : CodePoint) :: ('U' : CodePoint) :: digits ∧ digits.length = 8 ∧
    (∀ d ∈ digits, d.isHexDigit = true) ∧ 0x80000000 ≤ Text.hexValue digits

/-- The number of backslashes at the end of a text. -/
def backslashesAtEnd (t : Text) : Nat :=
  (t.reverse.takeWhile (· = ('\\' : CodePoint))).length

/-- A large escape stands in a text, and its backslash is not the second half of another escape: the
backslashes in front of it make pairs. -/
def Overflows (body : Text) : Prop :=
  ∃ before escape after : Text, body = before ++ (escape ++ after) ∧ IsLargeEscape escape ∧
    Even (backslashesAtEnd before)

/-- A text that is a regular literal, whatever surrounds it, with a large escape. -/
def IsRefused (text : Text) : Prop :=
  ∃ (setting : Setting) (body : Text), text = setting.around (enquote body) ∧
    ¬ threeQuotes <+: enquote body ∧ Overflows body

/-! ## Backslashes in front of an escape -/

variable {c letter : CodePoint} {rest digits t : Text}

theorem backslashesAtEnd_append_cons (plain : c ≠ ('\\' : CodePoint)) (s t : Text) :
    backslashesAtEnd (s ++ c :: t) = backslashesAtEnd t := by
  have stops : ((c :: s.reverse).takeWhile (· = ('\\' : CodePoint))) = [] :=
    List.takeWhile_cons_of_neg (by simpa using plain)
  have reversed : (s ++ c :: t).reverse = t.reverse ++ c :: s.reverse := by simp
  rw [backslashesAtEnd, reversed, List.takeWhile_append, stops, backslashesAtEnd]
  split
  · next all => rw [List.append_nil, all]
  · rfl

theorem even_backslashesAtEnd_pair (t : Text) :
    Even (backslashesAtEnd (('\\' : CodePoint) :: ('\\' : CodePoint) :: t)) ↔
      Even (backslashesAtEnd t) := by
  have reversed : (('\\' : CodePoint) :: ('\\' : CodePoint) :: t).reverse =
      t.reverse ++ [('\\' : CodePoint), ('\\' : CodePoint)] := by simp
  rw [backslashesAtEnd, reversed, List.takeWhile_append, backslashesAtEnd]
  split
  · next all =>
      have two : Even ([('\\' : CodePoint), ('\\' : CodePoint)].takeWhile
          (· = ('\\' : CodePoint))).length := by decide
      rw [all, List.length_append, Nat.even_add, iff_true_right two]
  · rfl

/-- An escape makes no difference to whether the backslashes at the end make pairs. -/
theorem even_backslashesAtEnd_escape (inner : ∀ d ∈ digits, d ≠ ('\\' : CodePoint)) (t : Text) :
    Even (backslashesAtEnd (('\\' : CodePoint) :: letter :: (digits ++ t))) ↔
      Even (backslashesAtEnd t) := by
  by_cases doubled : digits = [] ∧ letter = ('\\' : CodePoint)
  · obtain ⟨rfl, rfl⟩ := doubled
    exact even_backslashesAtEnd_pair t
  · -- The last character of the escape is no backslash.
    obtain ⟨init, last, split, plain⟩ : ∃ init last, letter :: digits = init ++ [last] ∧
        last ≠ ('\\' : CodePoint) := by
      rcases List.eq_nil_or_concat digits with rfl | ⟨init, last, rfl⟩
      · exact ⟨[], letter, rfl, fun same => doubled ⟨rfl, same⟩⟩
      · exact ⟨letter :: init, last, by simp, inner last (by simp)⟩
    have shape : ('\\' : CodePoint) :: letter :: (digits ++ t) =
        (('\\' : CodePoint) :: init) ++ last :: t := by
      have joined : letter :: (digits ++ t) = init ++ last :: t := by
        rw [← List.cons_append, split]
        simp
      rw [joined, List.cons_append]
    rw [shape, backslashesAtEnd_append_cons plain]

/-! ## Large escapes in front of a text and inside it -/

theorem IsLargeEscape.exists_cons {escape : Text} (large : IsLargeEscape escape) :
    ∃ digits, escape = ('\\' : CodePoint) :: ('U' : CodePoint) :: digits := by
  obtain ⟨digits, rfl, _⟩ := large
  exact ⟨digits, rfl⟩

/-- Behind an escape a large one is found where it was found, and the escape itself may be large. -/
theorem overflows_escape (inner : ∀ d ∈ digits, d ≠ ('\\' : CodePoint)) :
    Overflows (('\\' : CodePoint) :: letter :: (digits ++ rest)) ↔
      (∃ escape after, ('\\' : CodePoint) :: letter :: (digits ++ rest) = escape ++ after ∧
        IsLargeEscape escape) ∨ Overflows rest := by
  constructor
  · rintro ⟨before, escape, after, split, large, even⟩
    obtain ⟨digits', begins⟩ := large.exists_cons
    match before, split, even with
    | [], split, _ => exact .inl ⟨escape, after, split, large⟩
    | [b], split, even =>
        obtain ⟨rfl, _⟩ := List.cons.inj split
        exact absurd even (by decide)
    | b :: l :: before, split, even =>
        obtain ⟨rfl, tail⟩ := List.cons.inj split
        obtain ⟨rfl, behind⟩ := List.cons.inj tail
        right
        rcases List.append_eq_append_iff.mp behind with ⟨more, rfl, found⟩ | ⟨more, ended, found⟩
        · exact ⟨more, escape, after, found, large, (even_backslashesAtEnd_escape inner more).mp even⟩
        · -- The large escape cannot begin among the digits.
          cases more with
          | nil => exact ⟨[], escape, after, found.symm, large, by decide⟩
          | cons d more =>
              rw [begins] at found
              obtain ⟨rfl, _⟩ := List.cons.inj found
              exact absurd rfl (inner _ (by simp [ended]))
  · rintro (⟨escape, after, split, large⟩ | ⟨before, escape, after, rfl, large, even⟩)
    · exact ⟨[], escape, after, split, large, by decide⟩
    · refine ⟨('\\' : CodePoint) :: letter :: (digits ++ before), escape, after, by simp, large, ?_⟩
      exact (even_backslashesAtEnd_escape inner before).mpr even

theorem overflows_cons (plain : c ≠ ('\\' : CodePoint)) : Overflows (c :: rest) ↔ Overflows rest := by
  constructor
  · rintro ⟨before, escape, after, split, large, even⟩
    cases before with
    | nil =>
        obtain ⟨digits, rfl⟩ := large.exists_cons
        exact absurd (List.cons.inj split).1 plain
    | cons b before =>
        obtain ⟨rfl, behind⟩ := List.cons.inj split
        have same := backslashesAtEnd_append_cons plain [] before
        rw [List.nil_append] at same
        exact ⟨before, escape, after, behind, large, same ▸ even⟩
  · rintro ⟨before, escape, after, rfl, large, even⟩
    refine ⟨c :: before, escape, after, rfl, large, ?_⟩
    have same := backslashesAtEnd_append_cons plain [] before
    rw [List.nil_append] at same
    rwa [same]

theorem not_overflows_of_length (short : t.length < 10) : ¬ Overflows t := by
  rintro ⟨before, escape, after, rfl, ⟨digits, rfl, eight, _⟩, _⟩
  simp only [List.length_append, List.length_cons] at short
  omega

/-- An escape without a number is not large. -/
theorem overflows_simple (noNumber : digits? letter rest = none) :
    Overflows (('\\' : CodePoint) :: letter :: rest) ↔ Overflows rest := by
  have step := @overflows_escape letter rest [] (by simp)
  rw [List.nil_append] at step
  rw [step, or_iff_right]
  rintro ⟨escape, after, split, digits, rfl, eight, hexadecimal, _⟩
  obtain ⟨rfl, rfl⟩ := List.cons.inj (List.cons.inj split).2
  have takes : digitCount? 'U' = some (8, digits.length) := by
    rw [eight]
    rfl
  have taken := @digits?_append _ after _ _ takes (Nat.le_of_eq eight.symm) hexadecimal
  rw [List.append_eq] at noNumber
  rw [taken] at noNumber
  cases noNumber

/-- An escape with a number is large if and only if it is refused. -/
theorem overflows_number (number : digits? letter (digits ++ rest) = some digits) :
    Overflows (('\\' : CodePoint) :: letter :: (digits ++ rest)) ↔
      0x80000000 ≤ Text.hexValue digits ∨ Overflows rest := by
  obtain ⟨least, most, takes, _, enough, within, hexadecimal⟩ := digits?_eq_some number
  have inner : ∀ d ∈ digits, d ≠ ('\\' : CodePoint) := by
    rintro d mem rfl
    exact absurd (hexadecimal _ mem) (by decide)
  rw [overflows_escape inner]
  refine or_congr_left ?_
  constructor
  · rintro ⟨escape, after, split, digits', rfl, eight, _, large⟩
    obtain ⟨rfl, same⟩ := List.cons.inj (List.cons.inj split).2
    have eight' : digitCount? 'U' = some (8, 8) := rfl
    rw [eight'] at takes
    cases takes
    rwa [(List.append_inj same (by omega)).1]
  · intro large
    refine ⟨('\\' : CodePoint) :: letter :: digits, rest, by simp, digits, ?_⟩
    rcases digitCount?_eq_some takes with ⟨rfl, rfl, rfl⟩ | ⟨_, rfl⟩
    · exact ⟨rfl, by omega, hexadecimal, large⟩
    · have small : Text.hexValue digits < 16 ^ 4 :=
        (Text.hexValue_lt digits).trans_le (Nat.pow_le_pow_right (by decide) within)
      omega

/-! ## What is refused -/

theorem exists_numeric_iff :
    (∃ value, numeric letter digits = .ok value) ↔ ¬ 0x80000000 ≤ Text.hexValue digits := by
  unfold numeric
  dsimp only
  split
  · next large => simp [large]
  · next small =>
      simp only [small, not_false_iff, iff_true]
      split
      · exact ⟨_, rfl⟩
      · exact ⟨_, rfl⟩

/-- The inside of a regular literal denotes a text unless it has a large escape. -/
theorem exists_unescape_iff (body : Text) :
    (∃ value, unescape body = .ok value) ↔ ¬ Overflows body := by
  induction body using inductionOnEscapes with
  | nil => exact iff_of_true ⟨_, rfl⟩ (not_overflows_of_length (by decide))
  | lone => exact iff_of_true ⟨_, rfl⟩ (not_overflows_of_length (by decide))
  | plain c rest plain ih => rw [unescape_cons plain, Gathering.exists_map_eq_ok_iff, ih, overflows_cons plain]
  | simple letter rest noNumber ih =>
      rw [unescape_simple noNumber, Gathering.exists_map_eq_ok_iff, ih, overflows_simple noNumber]
  | number letter digits rest number ih =>
      rw [unescape_numeric number, overflows_number number, not_or, ← exists_numeric_iff, ← ih]
      cases numeric letter digits with
      | error error => simp [Except.bind]
      | ok value => simp [Except.bind, Gathering.exists_map_eq_ok_iff]

/-- A text is decoded or no literal unless it is refused. -/
theorem exists_decode_iff (text : Text) : (∃ value, decode text = .ok value) ↔ ¬ IsRefused text := by
  constructor
  · rintro ⟨value, decoded⟩ ⟨setting, body, rfl, notRaw, overflows⟩
    rw [decode_regular setting notRaw] at decoded
    exact (exists_unescape_iff body).mp (Gathering.exists_map_eq_ok_iff.mp ⟨value, decoded⟩) overflows
  · intro taken
    cases decoded : decode text with
    | ok value => exact ⟨value, rfl⟩
    | error error =>
        obtain ⟨setting, body, around, notRaw, refused⟩ := decode_eq_error_iff.mp decoded
        refine absurd ⟨setting, body, around, notRaw, ?_⟩ taken
        by_contra small
        obtain ⟨value, read⟩ := (exists_unescape_iff body).mpr small
        rw [refused] at read
        cases read

end Literal

/-! ## Reading a source text -/

open Literal (IsRefused IsLargeEscape)

/-- The string literals among the arguments of a node, if it is an invocation. -/
def stringArgumentsOf (source : Array CodePoint) (entry : Node × Text) : List Text :=
  match entry.1 with
  | .invocation _ _ arguments _ =>
    (arguments.filter (·.form = .string)).map (·.span.text source)
  | _ => []

/-- The string literals that are arguments of invocations in a source text. -/
def stringArguments (source : Text) : List Text :=
  (entriesOf source).flatMap (stringArgumentsOf source.toArray)

theorem Argument.exists_ofSpan_iff {source : Array CodePoint} {argument : ArgumentSpan} :
    (∃ read, Argument.ofSpan source argument = .ok read) ↔
      argument.form = .string → ¬ IsRefused (argument.span.text source) := by
  unfold Argument.ofSpan
  dsimp only
  cases argument.form with
  | expression => exact iff_of_true ⟨_, rfl⟩ (fun same => nomatch same)
  | literal => exact iff_of_true ⟨_, rfl⟩ (fun same => nomatch same)
  | string =>
      rw [eq_self_iff_true, true_imp_iff, ← Literal.exists_decode_iff]
      cases Literal.decode (argument.span.text source) with
      | error error => simp [bind, Except.bind]
      | ok value => cases value <;> exact iff_of_true ⟨_, rfl⟩ ⟨_, rfl⟩

theorem Call.exists_ofInvocation_iff {source : Array CodePoint} {path : Text} {line : Nat}
    {callee : Callee} {arguments : List ArgumentSpan} :
    (∃ call, Call.ofInvocation source path line callee arguments = .ok call) ↔
      ∀ argument ∈ arguments, argument.form = .string →
        ¬ IsRefused (argument.span.text source) := by
  have each : (∀ argument ∈ arguments, argument.form = .string →
      ¬ IsRefused (argument.span.text source)) ↔
        ∃ read, arguments.mapM (Argument.ofSpan source) = .ok read := by
    rw [Gathering.exists_mapM_eq_ok_iff]
    exact forall₂_congr fun argument _ => Argument.exists_ofSpan_iff.symm
  rw [each]
  unfold Call.ofInvocation
  cases arguments.mapM (Argument.ofSpan source) with
  | error error => simp [bind, Except.bind]
  | ok read => cases callee <;> exact iff_of_true ⟨_, rfl⟩ ⟨_, rfl⟩

/-- A node is read if and only if none of its arguments is refused. -/
theorem exists_callOf_iff {source : Array CodePoint} {path : Text} {entry : Node × Text} :
    (∃ call, callOf source path entry = .ok call) ↔
      ∀ text ∈ stringArgumentsOf source entry, ¬ IsRefused text := by
  unfold callOf stringArgumentsOf
  cases entry.1 with
  | invocation line callee arguments children =>
      rw [Gathering.exists_map_eq_ok_iff, Call.exists_ofInvocation_iff]
      simp only [List.mem_map, List.mem_filter, decide_eq_true_eq]
      constructor
      · rintro taken text ⟨argument, ⟨mem, isString⟩, rfl⟩
        exact taken argument mem isString
      · intro taken argument mem isString
        exact taken _ ⟨argument, ⟨mem, isString⟩, rfl⟩
  | _ => exact iff_of_true ⟨_, rfl⟩ (by simp)

theorem SourceUnit.exists_read_iff (path hash source : Text) :
    (∃ unit, SourceUnit.read path hash source = .ok unit) ↔
      ∀ text ∈ stringArguments source, ¬ IsRefused text := by
  rw [SourceUnit.read_eq, Gathering.exists_map_eq_ok_iff, Gathering.exists_mapM_eq_ok_iff,
    stringArguments, List.forall_mem_flatMap]
  exact forall₂_congr fun entry _ => exists_callOf_iff

theorem infix_of_mem_stringArguments {source text : Text} (mem : text ∈ stringArguments source) :
    text <:+: source := by
  obtain ⟨entry, _, mem⟩ := List.mem_flatMap.mp mem
  unfold stringArgumentsOf at mem
  split at mem
  · obtain ⟨argument, _, rfl⟩ := List.mem_map.mp mem
    rw [Span.text, Array.toList_extract, List.extract_eq_take_drop]
    exact (List.take_prefix _ _).isInfix.trans (List.drop_suffix _ _).isInfix
  · cases mem

/-- Of a refused text a large escape is a part. -/
theorem Literal.IsRefused.exists_infix {text : Text} (refused : IsRefused text) :
    ∃ escape, escape <:+: text ∧ IsLargeEscape escape := by
  obtain ⟨setting, body, rfl, _, before, escape, after, rfl, large, _⟩ := refused
  refine ⟨escape, ⟨setting.before ++ ('"' : CodePoint) :: before,
    after ++ ('"' : CodePoint) :: (setting.suffix ++ setting.after), ?_⟩, large⟩
  simp [Setting.around, enquote]

end ClassHarvest.CSharp
