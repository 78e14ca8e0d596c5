import ClassHarvest.Pattern.CharSet

/-!
# Matching

A backtracking matcher.  `run` tries an expression at a place and hands every way in which it
matches, the preferred one first, to a continuation; the first way that the continuation accepts is
the answer.  The recursion is on the expression; only a repetition counts rounds, and it needs no
more rounds than its least number and the number of characters that are left.
-/

namespace ClassHarvest.Pattern

/-- Where each group began and ended last, by its number; a group that took no part has neither. -/
abbrev Marks := List (Nat × Option Nat × Option Nat)

namespace Marks

/-- The beginning and the end kept for a group. -/
def ends (marks : Marks) (index : Nat) : Option Nat × Option Nat :=
  (marks.lookup index).getD (none, none)

/-- The place that a group matched last. -/
def span? (marks : Marks) (index : Nat) : Option (Nat × Nat) :=
  match marks.ends index with
  | (some first, some last) => if first ≤ last then some (first, last) else none
  | _ => none

/-- Keep the beginning and the end of a group. -/
def set (marks : Marks) (index : Nat) (ends : Option Nat × Option Nat) : Marks :=
  (index, ends) :: marks.filter (·.1 != index)

/-- A group begins. -/
def openAt (marks : Marks) (index position : Nat) : Marks :=
  marks.set index (some position, (marks.ends index).2)

/-- A group ends. -/
def closeAt (marks : Marks) (index position : Nat) : Marks :=
  marks.set index ((marks.ends index).1, some position)

end Marks

/-- A place in the text, and what the groups matched on the way there. -/
structure Cursor where
  /-- The number of characters before the place. -/
  position : Nat
  /-- What the groups matched. -/
  marks : Marks

/-- What follows a match: it accepts a place or refuses it. -/
abbrev Continuation := Cursor → Option Cursor

/-- The character before a place. -/
def before? (text : Array CodePoint) (position : Nat) : Option CodePoint :=
  if position = 0 then none else text[position - 1]?

/-- Whether a condition holds at a place. -/
def Anchor.holds (flags : Flags) (text : Array CodePoint) (position : Nat) : Anchor → Bool
  | .lineStart =>
    position == 0 || (flags.multiLine && (before? text position).any (·.val == 10))
  | .lineEnd =>
    position == text.size ||
      ((flags.multiLine || position + 1 == text.size) && text[position]?.any (·.val == 10))
  | .textStart => position == 0
  | .textEnd => position == text.size
  | .boundary complement =>
    if text.isEmpty then false
    else
      let isWord (c : CodePoint) : Bool := CharClass.word.has flags.asciiOnly c
      let here := text[position]?.any isWord
      let there := (before? text position).any isWord
      (here != there) != complement

/-- The place after the longest run of characters from a place on, at most `bound` of them, that pass
a test. -/
def runEnd (flags : Flags) (text : Array CodePoint) (test : CharTest) (position : Nat) :
    Nat → Nat
  | 0 => position
  | bound + 1 =>
    if text[position]?.any (test.passes flags) then
      runEnd flags text test (position + 1) bound
    else position

/-- Try the continuation `extra` characters on, and so on down to the cursor itself. -/
def tryDown (k : Continuation) (cursor : Cursor) : Nat → Option Cursor
  | 0 => k cursor
  | extra + 1 =>
    match k { cursor with position := cursor.position + (extra + 1) } with
    | some result => some result
    | none => tryDown k cursor extra

/-- Try the continuation here and then after each further character, at most `bound`, that passes
the test. -/
def tryUp (flags : Flags) (text : Array CodePoint) (test : CharTest) (k : Continuation)
    (cursor : Cursor) : Nat → Option Cursor
  | 0 => k cursor
  | bound + 1 =>
    match k cursor with
    | some result => some result
    | none =>
      if text[cursor.position]?.any (test.passes flags) then
        tryUp flags text test k { cursor with position := cursor.position + 1 } bound
      else none

/-- A repetition of a single character. -/
def repeatChar (flags : Flags) (text : Array CodePoint) (greed : Greed) (least : Nat)
    (most : Option Nat) (test : CharTest) (cursor : Cursor) (k : Continuation) : Option Cursor :=
  let left := text.size - cursor.position
  let start := cursor.position + least
  if left < least || runEnd flags text test cursor.position least < start then none
  else
    let bound := min (left - least) ((most.getD (least + left)) - least)
    match greed with
    | .greedy =>
      tryDown k { cursor with position := start } (runEnd flags text test start bound - start)
    | .reluctant => tryUp flags text test k { cursor with position := start } bound
    | .possessive => k { cursor with position := runEnd flags text test start bound }

/-- Whether another round may be begun beyond the least number: the limit is not reached, and the
round before was not empty. -/
def mayRepeat (most : Option Nat) (count : Nat) (last : Option Nat) (position : Nat) : Bool :=
  most.all (count < ·) && last != some position

/-- A repetition that prefers more rounds.  `body` matches one round, `last` is where the round
before began, once the least number is reached. -/
def repeatGreedy (body : Cursor → Continuation → Option Cursor) (least : Nat) (most : Option Nat)
    (k : Continuation) : Nat → Nat → Option Nat → Cursor → Option Cursor
  | 0, _, _, cursor => k cursor
  | rounds + 1, count, last, cursor =>
    if count < least then
      body cursor (repeatGreedy body least most k rounds (count + 1) last)
    else if mayRepeat most count last cursor.position then
      match body cursor
          (repeatGreedy body least most k rounds (count + 1) (some cursor.position)) with
      | some result => some result
      | none => k cursor
    else k cursor

/-- A repetition that prefers fewer rounds. -/
def repeatReluctant (body : Cursor → Continuation → Option Cursor) (least : Nat)
    (most : Option Nat) (k : Continuation) : Nat → Nat → Option Nat → Cursor → Option Cursor
  | 0, _, _, cursor => k cursor
  | rounds + 1, count, last, cursor =>
    if count < least then
      body cursor (repeatReluctant body least most k rounds (count + 1) last)
    else
      match k cursor with
      | some result => some result
      | none =>
        if mayRepeat most count last cursor.position then
          body cursor
            (repeatReluctant body least most k rounds (count + 1) (some cursor.position))
        else none

/-- A repetition that takes as many rounds as it can, each in its first way. -/
def repeatPossessive (body : Cursor → Continuation → Option Cursor) (least : Nat)
    (most : Option Nat) : Nat → Nat → Option Nat → Cursor → Option Cursor
  | 0, _, _, cursor => some cursor
  | rounds + 1, count, last, cursor =>
    if count < least then
      match body cursor some with
      | some next => repeatPossessive body least most rounds (count + 1) last next
      | none => none
    else if mayRepeat most count last cursor.position then
      match body cursor some with
      | some next =>
        repeatPossessive body least most rounds (count + 1) (some cursor.position) next
      | none => some cursor
    else some cursor

/-- A repetition of any expression. -/
def repeatBody (text : Array CodePoint) (greed : Greed) (least : Nat) (most : Option Nat)
    (body : Cursor → Continuation → Option Cursor) (cursor : Cursor) (k : Continuation) :
    Option Cursor :=
  let rounds := least + (text.size - cursor.position) + 2
  match greed with
  | .greedy => repeatGreedy body least most k rounds 0 none cursor
  | .reluctant => repeatReluctant body least most k rounds 0 none cursor
  | .possessive =>
    match repeatPossessive body least most rounds 0 none cursor with
    | some next => k next
    | none => none

/-- The test of an expression that is a single character test. -/
def Regex.charTest? : Regex → Option CharTest
  | .char test => some test
  | _ => none

/-- Whether the texts of the two places, each `length` long, are the same. -/
def sameStretch (flags : Flags) (text : Array CodePoint) (first second length : Nat) : Bool :=
  (List.range length).all fun i =>
    match text[first + i]?, text[second + i]? with
    | some c, some d => if flags.ignoreCase then flags.lower c == flags.lower d else c == d
    | _, _ => false

/-- Match an expression at a place, and then what follows it. -/
def Regex.run (text : Array CodePoint) (flags : Flags) : Regex → Cursor → Continuation → Option Cursor
  | .empty, cursor, k => k cursor
  | .char test, cursor, k =>
    if text[cursor.position]?.any (test.passes flags) then
      k { cursor with position := cursor.position + 1 }
    else none
  | .anchor condition, cursor, k =>
    if condition.holds flags text cursor.position then k cursor else none
  | .seq first second, cursor, k =>
    first.run text flags cursor fun next => second.run text flags next k
  | .alt first second, cursor, k =>
    match first.run text flags cursor k with
    | some result => some result
    | none => second.run text flags cursor k
  | .repeat greed least most body, cursor, k =>
    match body.charTest? with
    | some test => repeatChar flags text greed least most test cursor k
    | none => repeatBody text greed least most (body.run text flags) cursor k
  | .capture index body, cursor, k =>
    body.run text flags { cursor with marks := cursor.marks.openAt index cursor.position }
      fun next => k { next with marks := next.marks.closeAt index next.position }
  | .scoped change body, cursor, k => body.run text (flags.change change) cursor k
  | .backReference index, cursor, k =>
    match cursor.marks.span? index with
    | some (first, last) =>
      if sameStretch flags text first cursor.position (last - first) then
        k { cursor with position := cursor.position + (last - first) }
      else none
    | none => none
  | .conditional index yes no, cursor, k =>
    if (cursor.marks.span? index).isSome then yes.run text flags cursor k
    else no.run text flags cursor k
  | .lookAhead complement body, cursor, k =>
    match body.run text flags cursor some with
    | some next => if complement then none else k { next with position := cursor.position }
    | none => if complement then k cursor else none
  | .lookBehind complement width body, cursor, k =>
    if cursor.position < width then if complement then k cursor else none
    else
      match body.run text flags { cursor with position := cursor.position - width } some with
      | some next => if complement then none else k { next with position := cursor.position }
      | none => if complement then k cursor else none
  | .atomic body, cursor, k =>
    match body.run text flags cursor some with
    | some next => k next
    | none => none

/-! ## Searching -/

/-- A match: where it begins and ends, and what its groups matched. -/
structure Match where
  /-- The number of characters before it. -/
  start : Nat
  /-- The number of characters up to its end. -/
  stop : Nat
  /-- What the groups matched. -/
  marks : Marks

/-- The first match that begins at `start` or after one of the next `bound` characters.  With
`advance` an empty match at `start` itself does not count. -/
def Regex.search (r : Regex) (flags : Flags) (text : Array CodePoint) (advance : Bool)
    (start : Nat) : Nat → Option Match
  | 0 => tryAt
  | bound + 1 =>
    match tryAt with
    | some found => some found
    | none => r.search flags text false (start + 1) bound
where
  /-- The match at `start`, if there is one. -/
  tryAt : Option Match :=
    (r.run text flags ⟨start, []⟩ fun cursor =>
      if advance && cursor.position == start then none else some cursor).map
        fun cursor => ⟨start, cursor.position, cursor.marks⟩

/-- The matches from `start` on in order.  After an empty match the next one begins there too, but is
not empty. -/
def Regex.matchesFrom (r : Regex) (flags : Flags) (text : Array CodePoint) :
    Nat → Bool → Nat → List Match
  | 0, _, _ => []
  | bound + 1, advance, start =>
    if text.size < start then []
    else
      match r.search flags text advance start (text.size - start) with
      | none => []
      | some found =>
        found :: r.matchesFrom flags text bound (found.start == found.stop) found.stop

/-- All matches in a text, from left to right, without overlaps. -/
def Regex.allMatches (r : Regex) (flags : Flags) (text : Array CodePoint) : List Match :=
  r.matchesFrom flags text (2 * text.size + 2) false 0

end ClassHarvest.Pattern
