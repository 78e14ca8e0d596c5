import Mathlib.Data.List.TakeWhile
import ClassHarvest.CSharp.Literal
import ClassHarvest.Proofs.Gathering

/-!
# The surroundings of a literal

White space around a string literal and a suffix for UTF-8 behind it do not change what the literal
denotes.  What is left of a text without them tells the form of the literal: it is raw if three quotes
begin it, verbatim if an at sign and a quote do, and regular if one quote does.
-/

namespace ClassHarvest

namespace Text

variable {before t after : Text}

/-- White space is cut on both sides of a text that has none at its ends. -/
theorem strip_around (blankBefore : before.isBlank = true) (blankAfter : after.isBlank = true)
    (nonempty : t ≠ []) (first : t.head?.any CodePoint.isSpace = false)
    (last : t.getLast?.any CodePoint.isSpace = false) : (before ++ t ++ after).strip = t := by
  have kept {u : Text} (nonempty : u ≠ []) (head : u.head?.any CodePoint.isSpace = false)
      (v : Text) : (u ++ v).dropWhile CodePoint.isSpace = u ++ v := by
    obtain ⟨c, u, rfl⟩ := List.exists_cons_of_ne_nil nonempty
    exact List.dropWhile_cons_of_neg (by simpa using head)
  have start : (before ++ t ++ after).trimStart CodePoint.isSpace = t ++ after := by
    rw [trimStart, List.append_assoc, List.dropWhile_append_of_pos (List.all_eq_true.mp blankBefore),
      kept nonempty first]
  have behind : ∀ c ∈ after.reverse, CodePoint.isSpace c = true := by
    intro c mem
    exact List.all_eq_true.mp blankAfter c (List.mem_reverse.mp mem)
  rw [strip, trim, start, trimEnd, List.reverse_append, List.dropWhile_append_of_pos behind]
  have whole := kept (List.reverse_ne_nil_iff.mpr nonempty)
    (by rwa [← List.getLast?_eq_head?_reverse]) []
  rw [List.append_nil] at whole
  rw [whole, List.reverse_reverse]

/-- What is cut of a text is white space. -/
theorem exists_strip (t : Text) :
    ∃ before after : Text, before.isBlank = true ∧ after.isBlank = true ∧
      t = before ++ t.strip ++ after := by
  let inner := t.trimStart CodePoint.isSpace
  refine ⟨t.takeWhile CodePoint.isSpace, (inner.reverse.takeWhile CodePoint.isSpace).reverse,
    ?_, ?_, ?_⟩
  · exact List.all_takeWhile
  · rw [isBlank, List.all_reverse]
    exact List.all_takeWhile
  · have ends : t.strip ++ (inner.reverse.takeWhile CodePoint.isSpace).reverse = inner := by
      rw [strip, trim, trimEnd, ← List.reverse_append, List.takeWhile_append_dropWhile,
        List.reverse_reverse]
    rw [List.append_assoc, ends]
    exact List.takeWhile_append_dropWhile.symm

end Text

namespace CSharp.Literal

/-! ## White space and suffixes -/

/-- What may stand behind the last quote of a literal. -/
def suffixes : List Text := [[], "u8", "U8"]

/-- What surrounds a literal in a text: white space on both sides, and a suffix. -/
structure Setting where
  /-- The white space in front of the literal. -/
  before : Text
  /-- The suffix of the literal. -/
  suffix : Text
  /-- The white space behind the literal. -/
  after : Text
  blank_before : before.isBlank = true
  suffix_mem : suffix ∈ suffixes
  blank_after : after.isBlank = true

/-- A literal with its surroundings. -/
def Setting.around (setting : Setting) (t : Text) : Text :=
  setting.before ++ (t ++ setting.suffix) ++ setting.after

/-- A text without what surrounds a literal. -/
def core (text : Text) : Text :=
  withoutSuffix text.strip

/-- A text that begins with no white space and ends in a quote. -/
structure IsClosed (t : Text) : Prop where
  first : t.head?.any CodePoint.isSpace = false
  last : t.getLast? = some ('"' : CodePoint)

variable {t text : Text}

theorem IsClosed.ne_nil (closed : IsClosed t) : t ≠ [] := by
  rintro rfl
  cases closed.last

theorem withoutSuffix_append (closed : IsClosed t) {suffix : Text} (known : suffix ∈ suffixes) :
    withoutSuffix (t ++ suffix) = t := by
  obtain ⟨inside, rfl⟩ : ∃ inside, t = inside ++ [('"' : CodePoint)] :=
    List.getLast?_eq_some_iff.mp closed.last
  simp only [suffixes, List.mem_cons, List.not_mem_nil, or_false] at known
  rcases known with rfl | rfl | rfl
  · unfold withoutSuffix
    rw [List.append_nil, List.reverse_append]
    cases inside.reverse <;> rfl
  all_goals
    unfold withoutSuffix
    rw [List.reverse_append]
    exact List.reverse_reverse (inside ++ [('"' : CodePoint)])

theorem exists_suffix (t : Text) : ∃ suffix ∈ suffixes, t = withoutSuffix t ++ suffix := by
  unfold withoutSuffix
  split
  · next last letter before reversed =>
      split
      · next known =>
          refine ⟨[letter, last], ?_, ?_⟩
          · simp only [Bool.and_eq_true, Bool.or_eq_true, decide_eq_true_eq] at known
            obtain ⟨n, small⟩ := last
            obtain ⟨m, small'⟩ := letter
            obtain ⟨rfl, rfl | rfl⟩ := known
            · exact .tail _ (.head _)
            · exact .tail _ (.tail _ (.head _))
          · rw [← List.reverse_reverse t, reversed]
            simp
      · exact ⟨[], .head _, (List.append_nil t).symm⟩
  · exact ⟨[], .head _, (List.append_nil t).symm⟩

/-- Nothing surrounds a literal. -/
def Setting.bare : Setting :=
  ⟨[], [], [], rfl, .head _, rfl⟩

@[simp]
theorem around_bare (t : Text) : Setting.bare.around t = t := by
  simp [Setting.around, Setting.bare]

/-- What surrounds a closed text is left out. -/
theorem core_around (setting : Setting) (closed : IsClosed t) : core (setting.around t) = t := by
  have nonempty : t ++ setting.suffix ≠ [] := by simp [closed.ne_nil]
  have first : (t ++ setting.suffix).head?.any CodePoint.isSpace = false := by
    obtain ⟨c, rest, rfl⟩ := List.exists_cons_of_ne_nil closed.ne_nil
    exact closed.first
  have last : (t ++ setting.suffix).getLast?.any CodePoint.isSpace = false := by
    have known := setting.suffix_mem
    simp only [suffixes, List.mem_cons, List.not_mem_nil, or_false] at known
    rcases known with none | small | large
    · rw [none, List.append_nil, closed.last]
      rfl
    · rw [small, List.getLast?_append]
      rfl
    · rw [large, List.getLast?_append]
      rfl
  rw [core, Setting.around, Text.strip_around setting.blank_before setting.blank_after nonempty first
    last, withoutSuffix_append closed setting.suffix_mem]

/-- Whatever is left out of a text surrounds what is left. -/
theorem exists_around (text : Text) : ∃ setting : Setting, text = setting.around (core text) := by
  obtain ⟨before, after, blankBefore, blankAfter, cut⟩ := text.exists_strip
  obtain ⟨suffix, known, ends⟩ := exists_suffix text.strip
  refine ⟨⟨before, suffix, after, blankBefore, known, blankAfter⟩, ?_⟩
  rw [Setting.around, core, ← ends]
  exact cut

/-! ## The forms of literals -/

/-- A text between two quotes. -/
def enquote (body : Text) : Text :=
  ('"' : CodePoint) :: (body ++ [('"' : CodePoint)])

/-- What begins every raw literal. -/
def threeQuotes : Text :=
  List.replicate 3 ('"' : CodePoint)

theorem isClosed_enquote (body : Text) : IsClosed (enquote body) := by
  constructor
  · rfl
  · rw [enquote, ← List.cons_append, List.getLast?_concat]

theorem startsRaw_iff :
    ((t.take 3).length = 3 && (t.take 3).all (·.val == 34)) = true ↔ threeQuotes <+: t := by
  rw [List.prefix_iff_eq_take, threeQuotes, List.length_replicate, Bool.and_eq_true,
    decide_eq_true_eq, List.all_eq_true]
  constructor
  · rintro ⟨three, quotes⟩
    symm
    rw [List.eq_replicate_iff]
    refine ⟨three, fun c mem => ?_⟩
    have isQuote : c.val = 34 := by simpa using quotes c mem
    exact CodePoint.val_inj isQuote
  · intro starts
    rw [← starts]
    simp
    decide

theorem notRaw_of_head {body : Text} (first : body.head? ≠ some ('"' : CodePoint)) :
    ¬ threeQuotes <+: enquote body := by
  have three : threeQuotes = [('"' : CodePoint), ('"' : CodePoint), ('"' : CodePoint)] := rfl
  rw [three, enquote, List.cons_prefix_cons]
  rintro ⟨_, starts⟩
  cases body with
  | nil => simpa using starts.length_le
  | cons c rest =>
      rw [List.cons_append, List.cons_prefix_cons] at starts
      exact first (congrArg some starts.1.symm)

/-- A closed text that three quotes begin is read as a raw literal. -/
theorem decode_raw (setting : Setting) (closed : IsClosed t) (raw : threeQuotes <+: t) :
    decode (setting.around t) = .ok (decodeRaw t) := by
  have starts := startsRaw_iff.mpr raw
  have rest := core_around setting closed
  rw [core] at rest
  rw [decode, rest]
  exact if_pos starts

/-- A text between an at sign with a quote and a last quote is read as a verbatim literal. -/
theorem decode_verbatim (setting : Setting) (body : Text) :
    decode (setting.around (('@' : CodePoint) :: enquote body)) = .ok (some (undouble body)) := by
  have last := (isClosed_enquote body).last
  have closed : IsClosed (('@' : CodePoint) :: enquote body) := by
    constructor
    · rfl
    · rw [List.getLast?_cons, last]
      rfl
  have rest := core_around setting closed
  rw [core] at rest
  have notRaw : ¬ threeQuotes <+: ('@' : CodePoint) :: enquote body := by
    rw [threeQuotes, List.replicate_succ, List.cons_prefix_cons]
    rintro ⟨same, _⟩
    revert same
    decide
  rw [← startsRaw_iff] at notRaw
  have ends : endsQuoted (('@' : CodePoint) :: enquote body) = true := by
    rw [endsQuoted, closed.last]
    rfl
  have inside : ((('@' : CodePoint) :: enquote body).drop 2).dropLast = body :=
    List.dropLast_concat
  have long : 3 ≤ (('@' : CodePoint) :: enquote body).length := by simp [enquote]
  have sign : (('@' : CodePoint) :: enquote body).head?.any (·.val == 64) = true := rfl
  have quote : startsQuoted ((('@' : CodePoint) :: enquote body).drop 1) = true := rfl
  rw [decode, rest, if_neg notRaw, sign, quote, ends, decide_eq_true long, inside]
  rfl

/-- A text between two quotes, other than three or more at its beginning, is read as a regular
literal. -/
theorem decode_regular (setting : Setting) {body : Text} (notRaw : ¬ threeQuotes <+: enquote body) :
    decode (setting.around (enquote body)) = (unescape body).map some := by
  have rest := core_around setting (isClosed_enquote body)
  rw [core] at rest
  rw [← startsRaw_iff] at notRaw
  have ends : endsQuoted (enquote body) = true := by
    rw [endsQuoted, (isClosed_enquote body).last]
    rfl
  have inside : ((enquote body).drop 1).dropLast = body := List.dropLast_concat
  have long : 2 ≤ (enquote body).length := by simp [enquote]
  have noAt : (enquote body).head?.any (·.val == 64) = false := rfl
  have quote : startsQuoted (enquote body) = true := rfl
  rw [decode, rest, if_neg notRaw, noAt, quote, ends, decide_eq_true long, inside]
  rfl

theorem exists_enquote (starts : startsQuoted t = true) (ends : endsQuoted t = true)
    (long : 2 ≤ t.length) : ∃ body, t = enquote body := by
  match t with
  | first :: second :: rest =>
      have opens : first.val = 34 := by simpa [startsQuoted] using starts
      obtain ⟨last, isLast, closes⟩ := (Option.any_eq_true _ _).mp ends
      obtain ⟨inside, split⟩ := List.getLast?_eq_some_iff.mp
        (show (second :: rest).getLast? = some last by simpa using isLast)
      have closes : last.val = 34 := by simpa using closes
      have isFirst : first = ('"' : CodePoint) := CodePoint.val_inj opens
      have isLast : last = ('"' : CodePoint) := CodePoint.val_inj closes
      exact ⟨inside, by rw [enquote, split, isFirst, isLast]⟩

/-- Only what stands between the quotes of a regular literal is ever refused. -/
theorem decode_eq_error_iff {error : LiteralError} :
    decode text = .error error ↔
      ∃ (setting : Setting) (body : Text), text = setting.around (enquote body) ∧
        ¬ threeQuotes <+: enquote body ∧ unescape body = .error error := by
  constructor
  · intro refused
    rw [decode, ← core] at refused
    split at refused
    · cases refused
    next notRaw =>
      split at refused
      · cases refused
      split at refused
      · next quoted =>
          simp only [Bool.and_eq_true, decide_eq_true_eq] at quoted
          obtain ⟨body, same⟩ := exists_enquote quoted.1.1 quoted.1.2 quoted.2
          obtain ⟨setting, around⟩ := exists_around text
          rw [startsRaw_iff, same] at notRaw
          rw [same] at around refused
          have inside : ((enquote body).drop 1).dropLast = body := List.dropLast_concat
          rw [inside, Gathering.map_eq_error_iff] at refused
          exact ⟨setting, body, around, notRaw, refused⟩
      · cases refused
  · rintro ⟨setting, body, rfl, notRaw, refused⟩
    rw [decode_regular setting notRaw, refused]
    rfl

end CSharp.Literal

end ClassHarvest
