import ClassHarvest.Proofs.Pattern.Matching
import ClassHarvest.Pattern.Reader
import Mathlib.Data.Option.Basic

/-!
# Groups under other numbers

An expression matches in the same way when the numbers of all its groups are moved up by the same
amount: whatever it captures is found under the new numbers, and nothing under those below.
-/

namespace ClassHarvest.Pattern

/-- An expression without assertions, conditions and flags, and the same one with the numbers of its
groups moved up. -/
inductive Moved (amount : Nat) : Regex → Regex → Prop
  /-- The empty text. -/
  | empty : Moved amount .empty .empty
  /-- One character. -/
  | char (test : CharTest) : Moved amount (.char test) (.char test)
  /-- An anchor. -/
  | anchor (condition : Anchor) : Moved amount (.anchor condition) (.anchor condition)
  /-- One expression after the other. -/
  | seq {first first' second second' : Regex} (head : Moved amount first first')
      (tail : Moved amount second second') : Moved amount (.seq first second) (.seq first' second')
  /-- One of two expressions. -/
  | alt {first first' second second' : Regex} (head : Moved amount first first')
      (tail : Moved amount second second') : Moved amount (.alt first second) (.alt first' second')
  /-- A repetition. -/
  | «repeat» {body body' : Regex} (greed : Greed) (least : Nat) (most : Option Nat)
      (inside : Moved amount body body') :
      Moved amount (.repeat greed least most body) (.repeat greed least most body')
  /-- A group. -/
  | capture {index : Nat} {body body' : Regex} (numbered : 0 < index)
      (inside : Moved amount body body') :
      Moved amount (.capture index body) (.capture (index + amount) body')
  /-- A reference to a group. -/
  | backReference {index : Nat} (numbered : 0 < index) :
      Moved amount (.backReference index) (.backReference (index + amount))
  /-- The first way in which an expression matches. -/
  | atomic {body body' : Regex} (inside : Moved amount body body') :
      Moved amount (.atomic body) (.atomic body')

namespace Moved

variable {amount : Nat} {r r' : Regex}

theorem eq_of_zero (moved : Moved 0 r r') : r' = r := by
  induction moved with
  | empty => rfl
  | char => rfl
  | anchor => rfl
  | seq _ _ first second => rw [first, second]
  | alt _ _ first second => rw [first, second]
  | «repeat» _ _ _ _ body => rw [body]
  | capture _ _ body => rw [body, Nat.add_zero]
  | backReference => rw [Nat.add_zero]
  | atomic _ body => rw [body]

theorem left (moved : Moved amount r r') : Moved 0 r r := by
  induction moved with
  | empty => exact .empty
  | char test => exact .char test
  | anchor condition => exact .anchor condition
  | seq _ _ first second => exact .seq first second
  | alt _ _ first second => exact .alt first second
  | «repeat» greed least most _ body => exact .repeat greed least most body
  | capture numbered _ body => exact .capture numbered body
  | backReference numbered => exact .backReference numbered
  | atomic _ body => exact .atomic body

theorem right (moved : Moved amount r r') : Moved 0 r' r' := by
  induction moved with
  | empty => exact .empty
  | char test => exact .char test
  | anchor condition => exact .anchor condition
  | seq _ _ first second => exact .seq first second
  | alt _ _ first second => exact .alt first second
  | «repeat» greed least most _ body => exact .repeat greed least most body
  | capture numbered _ body => exact .capture (Nat.add_pos_left numbered _) body
  | backReference numbered => exact .backReference (Nat.add_pos_left numbered _)
  | atomic _ body => exact .atomic body

/-- Without look-behinds there are no widths to be filled in. -/
theorem settle (moved : Moved amount r r') (widths : List (Option Width)) :
    r.settle widths false = .ok r := by
  induction moved with
  | empty => rfl
  | char => rfl
  | anchor => rfl
  | seq _ _ first second =>
      rw [Regex.settle, first, second]
      rfl
  | alt _ _ first second =>
      rw [Regex.settle, first, second]
      rfl
  | «repeat» _ _ _ _ body =>
      rw [Regex.settle.eq_def]
      simp only [body]
      rfl
  | capture _ _ body =>
      rw [Regex.settle, body]
      rfl
  | backReference => rfl
  | atomic _ body =>
      rw [Regex.settle, body]
      rfl

theorem charTest_eq (moved : Moved amount r r') : r'.charTest? = r.charTest? := by
  cases moved <;> rfl

end Moved

/-! ## Cursors -/

/-- The same matches of groups, under numbers that are moved up; nothing is kept below them. -/
structure Marks.Moved (amount : Nat) (marks marks' : Marks) : Prop where
  /-- The groups under their new numbers. -/
  ends : ∀ index, 0 < index → marks'.ends (index + amount) = marks.ends index
  /-- The numbers below. -/
  below : ∀ index, 0 < index → index ≤ amount → marks'.ends index = (none, none)

/-- The same place with the same matches of groups. -/
structure Cursor.Moved (amount : Nat) (cursor cursor' : Cursor) : Prop where
  /-- The place. -/
  position : cursor'.position = cursor.position
  /-- What the groups matched. -/
  marks : cursor.marks.Moved amount cursor'.marks

section

variable {amount : Nat} {marks marks' : Marks} {cursor cursor' : Cursor}

theorem Marks.Moved.nil : Marks.Moved amount [] [] :=
  ⟨fun _ _ => rfl, fun _ _ _ => rfl⟩

theorem Marks.Moved.set (moved : marks.Moved amount marks') {index : Nat} (numbered : 0 < index)
    (ends : Option Nat × Option Nat) :
    (marks.set index ends).Moved amount (marks'.set (index + amount) ends) where
  ends other isOther := by
    by_cases same : other = index
    · subst same
      rw [ends_set, ends_set]
    · rw [ends_set_of_ne same, ends_set_of_ne (by omega), moved.ends other isOther]
  below other isOther low := by
    rw [ends_set_of_ne (by omega), moved.below other isOther low]

theorem Marks.Moved.span? (moved : marks.Moved amount marks') {index : Nat} (numbered : 0 < index) :
    marks'.span? (index + amount) = marks.span? index := by
  unfold Marks.span?
  rw [moved.ends index numbered]

theorem Cursor.Moved.goto (moved : cursor.Moved amount cursor') (position : Nat) :
    ({ cursor with position } : Cursor).Moved amount { cursor' with position } :=
  ⟨rfl, moved.marks⟩

end

/-! ## Answers -/

/-- A relation of answers that does not depend on the way in which they are found. -/
structure Choice (same : Option Cursor → Option Cursor → Prop) : Prop where
  /-- No answer. -/
  none : same none none
  /-- The first of two answers. -/
  orElse {a a' b b' : Option Cursor} (first : same a a') (second : same b b') :
    same (a.or b) (a'.or b')

/-- Answers at the same place with the same matches of groups. -/
abbrev SameAnswer (amount : Nat) : Option Cursor → Option Cursor → Prop :=
  Option.Rel (Cursor.Moved amount)

theorem choice_sameAnswer (amount : Nat) : Choice (SameAnswer amount) where
  none := .none
  orElse first second := by
    cases first with
    | none => exact second
    | some moved => exact .some moved

/-- If the first one is an answer, the second one is. -/
theorem choice_isSome : Choice fun a a' => a.isSome = true → a'.isSome = true where
  none := id
  orElse {a a' b b'} first second found := by
    cases a with
    | none => cases a' with
      | none => exact second found
      | some _ => rfl
    | some _ =>
        cases a' with
        | none => cases first rfl
        | some _ => rfl

/-! ## Choices of the matcher -/

section

variable {k : Continuation} {cursor : Cursor} {text : Array CodePoint} {flags : Flags}

theorem tryDown_succ (extra : Nat) : tryDown k cursor (extra + 1) =
    (k { cursor with position := cursor.position + (extra + 1) }).or (tryDown k cursor extra) := by
  rw [tryDown]
  cases k _ <;> rfl

theorem tryUp_succ (test : CharTest) (bound : Nat) : tryUp flags text test k cursor (bound + 1) =
    (k cursor).or (if text[cursor.position]?.any (test.passes flags) then
      tryUp flags text test k { cursor with position := cursor.position + 1 } bound
      else none) := by
  rw [tryUp]
  cases k _ <;> rfl

theorem run_alt (first second : Regex) : (Regex.alt first second).run text flags cursor k =
    (first.run text flags cursor k).or (second.run text flags cursor k) := by
  rw [Regex.run]
  cases first.run text flags cursor k <;> rfl

variable (body : Cursor → Continuation → Option Cursor) (least : Nat) (most : Option Nat)
  (rounds count : Nat) (last : Option Nat)

theorem repeatGreedy_succ : repeatGreedy body least most k (rounds + 1) count last cursor =
    if count < least then body cursor (repeatGreedy body least most k rounds (count + 1) last)
    else if mayRepeat most count last cursor.position then
      (body cursor (repeatGreedy body least most k rounds (count + 1) (some cursor.position))).or
        (k cursor)
    else k cursor := by
  rw [repeatGreedy]
  cases body cursor (repeatGreedy body least most k rounds (count + 1) (some cursor.position)) <;> rfl

theorem repeatReluctant_succ : repeatReluctant body least most k (rounds + 1) count last cursor =
    if count < least then body cursor (repeatReluctant body least most k rounds (count + 1) last)
    else (k cursor).or (if mayRepeat most count last cursor.position then
      body cursor (repeatReluctant body least most k rounds (count + 1) (some cursor.position))
      else none) := by
  rw [repeatReluctant]
  cases k cursor <;> rfl

end

/-! ## Matching -/

section

variable {amount : Nat} {same : Option Cursor → Option Cursor → Prop} {cursor cursor' : Cursor}
  {k k' : Continuation} {text : Array CodePoint} {flags : Flags} {test : CharTest}

/-- Two continuations that give the same answers. -/
def Continues (amount : Nat) (same : Option Cursor → Option Cursor → Prop) (k k' : Continuation) :
    Prop :=
  ∀ next next', next.Moved amount next' → same (k next) (k' next')

/-- Two matchers that give the same answers whenever their continuations do. -/
def Matches (amount : Nat) (body body' : Cursor → Continuation → Option Cursor) : Prop :=
  ∀ {same}, Choice same → ∀ {cursor cursor' k k'}, cursor.Moved amount cursor' →
    Continues amount same k k' → same (body cursor k) (body' cursor' k')

theorem continues_some : Continues amount (SameAnswer amount) some some :=
  fun _ _ moved => .some moved

theorem same_tryDown (choice : Choice same) (continues : Continues amount same k k')
    (moved : cursor.Moved amount cursor') (extra : Nat) :
    same (tryDown k cursor extra) (tryDown k' cursor' extra) := by
  induction extra with
  | zero => exact continues _ _ moved
  | succ extra ih =>
      rw [tryDown_succ, tryDown_succ, moved.position]
      exact choice.orElse (continues _ _ (moved.goto _)) ih

theorem same_tryUp (choice : Choice same) (continues : Continues amount same k k')
    (moved : cursor.Moved amount cursor') (bound : Nat) :
    same (tryUp flags text test k cursor bound) (tryUp flags text test k' cursor' bound) := by
  induction bound generalizing cursor cursor' with
  | zero => exact continues _ _ moved
  | succ bound ih =>
      rw [tryUp_succ, tryUp_succ, moved.position]
      refine choice.orElse (continues _ _ moved) ?_
      split
      · exact ih (moved.goto _)
      · exact choice.none

theorem same_repeatChar (choice : Choice same) (continues : Continues amount same k k')
    (moved : cursor.Moved amount cursor') (greed : Greed) (least : Nat) (most : Option Nat) :
    same (repeatChar flags text greed least most test cursor k)
      (repeatChar flags text greed least most test cursor' k') := by
  unfold repeatChar
  rw [moved.position]
  dsimp only
  split
  · exact choice.none
  · cases greed with
    | greedy => exact same_tryDown choice continues (moved.goto _) _
    | reluctant => exact same_tryUp choice continues (moved.goto _) _
    | possessive => exact continues _ _ (moved.goto _)

variable {body body' : Cursor → Continuation → Option Cursor}

theorem same_repeatGreedy (choice : Choice same) (rounds' : Matches amount body body')
    (continues : Continues amount same k k') (moved : cursor.Moved amount cursor') (least : Nat)
    (most : Option Nat) (rounds count : Nat) (last : Option Nat) :
    same (repeatGreedy body least most k rounds count last cursor)
      (repeatGreedy body' least most k' rounds count last cursor') := by
  induction rounds generalizing count last cursor cursor' with
  | zero => exact continues _ _ moved
  | succ rounds ih =>
      rw [repeatGreedy_succ, repeatGreedy_succ, moved.position]
      split
      · exact rounds' choice moved fun _ _ moved => ih moved _ _
      split
      · exact choice.orElse (rounds' choice moved fun _ _ moved => ih moved _ _)
          (continues _ _ moved)
      · exact continues _ _ moved

theorem same_repeatReluctant (choice : Choice same) (rounds' : Matches amount body body')
    (continues : Continues amount same k k') (moved : cursor.Moved amount cursor') (least : Nat)
    (most : Option Nat) (rounds count : Nat) (last : Option Nat) :
    same (repeatReluctant body least most k rounds count last cursor)
      (repeatReluctant body' least most k' rounds count last cursor') := by
  induction rounds generalizing count last cursor cursor' with
  | zero => exact continues _ _ moved
  | succ rounds ih =>
      rw [repeatReluctant_succ, repeatReluctant_succ, moved.position]
      split
      · exact rounds' choice moved fun _ _ moved => ih moved _ _
      · refine choice.orElse (continues _ _ moved) ?_
        split
        · exact rounds' choice moved fun _ _ moved => ih moved _ _
        · exact choice.none

theorem same_repeatPossessive (rounds' : Matches amount body body')
    (moved : cursor.Moved amount cursor') (least : Nat) (most : Option Nat) (rounds count : Nat)
    (last : Option Nat) :
    SameAnswer amount (repeatPossessive body least most rounds count last cursor)
      (repeatPossessive body' least most rounds count last cursor') := by
  induction rounds generalizing count last cursor cursor' with
  | zero => exact .some moved
  | succ rounds ih =>
      have round := rounds' (choice_sameAnswer amount) moved continues_some
      rw [repeatPossessive, repeatPossessive, moved.position]
      split
      · generalize body cursor some = next, body' cursor' some = next' at round
        cases round with
        | none => exact .none
        | some moved => exact ih moved _ _
      split
      · generalize body cursor some = next, body' cursor' some = next' at round
        cases round with
        | none => exact .some moved
        | some moved => exact ih moved _ _
      · exact .some moved

theorem same_repeatBody (choice : Choice same) (rounds' : Matches amount body body')
    (continues : Continues amount same k k') (moved : cursor.Moved amount cursor') (greed : Greed)
    (least : Nat) (most : Option Nat) :
    same (repeatBody text greed least most body cursor k)
      (repeatBody text greed least most body' cursor' k') := by
  unfold repeatBody
  rw [moved.position]
  cases greed with
  | greedy => exact same_repeatGreedy choice rounds' continues moved _ _ _ _ _
  | reluctant => exact same_repeatReluctant choice rounds' continues moved _ _ _ _ _
  | possessive =>
      have all := same_repeatPossessive rounds' moved least most
        (least + (text.size - cursor.position) + 2) 0 none
      dsimp only
      generalize repeatPossessive body least most _ 0 none cursor = next,
        repeatPossessive body' least most _ 0 none cursor' = next' at all
      cases all with
      | none => exact choice.none
      | some moved => exact continues _ _ moved

/-- An expression gives the same answers under other numbers. -/
theorem Moved.run {r r' : Regex} (moved : Pattern.Moved amount r r') (text : Array CodePoint)
    (flags : Flags) : Matches amount (r.run text flags) (r'.run text flags) := by
  induction moved with
  | empty =>
      intro same choice cursor cursor' k k' moved continues
      exact continues _ _ moved
  | char test =>
      intro same choice cursor cursor' k k' moved continues
      rw [Regex.run, Regex.run, moved.position]
      split
      · exact continues _ _ (moved.goto _)
      · exact choice.none
  | anchor condition =>
      intro same choice cursor cursor' k k' moved continues
      rw [Regex.run, Regex.run, moved.position]
      split
      · exact continues _ _ moved
      · exact choice.none
  | seq _ _ first second =>
      intro same choice cursor cursor' k k' moved continues
      rw [Regex.run, Regex.run]
      exact first choice moved fun _ _ moved => second choice moved continues
  | alt _ _ first second =>
      intro same choice cursor cursor' k k' moved continues
      rw [run_alt, run_alt]
      exact choice.orElse (first choice moved continues) (second choice moved continues)
  | «repeat» greed least most inside body =>
      intro same choice cursor cursor' k k' moved continues
      rw [Regex.run, Regex.run, inside.charTest_eq]
      split
      · exact same_repeatChar choice continues moved _ _ _
      · exact same_repeatBody choice body continues moved _ _ _
  | @capture index _ _ numbered _ body =>
      intro same choice cursor cursor' k k' moved continues
      rw [Regex.run, Regex.run]
      refine body choice ⟨moved.position, ?_⟩ fun next next' moved => continues _ _ ⟨?_, ?_⟩
      · rw [Marks.openAt, Marks.openAt, moved.marks.ends index numbered, moved.position]
        exact moved.marks.set numbered _
      · exact moved.position
      · rw [Marks.closeAt, Marks.closeAt, moved.marks.ends index numbered, moved.position]
        exact moved.marks.set numbered _
  | @backReference index numbered =>
      intro same choice cursor cursor' k k' moved continues
      rw [Regex.run, Regex.run, moved.marks.span? numbered, moved.position]
      split
      · split
        · exact continues _ _ (moved.goto _)
        · exact choice.none
      · exact choice.none
  | @atomic inner inner' _ body =>
      intro same choice cursor cursor' k k' moved continues
      have first := body (choice_sameAnswer amount) moved continues_some
      rw [Regex.run, Regex.run]
      generalize inner.run text flags cursor some = next,
        inner'.run text flags cursor' some = next' at first
      cases first with
      | none => exact choice.none
      | some moved => exact continues _ _ moved

end

end ClassHarvest.Pattern
