import ClassHarvest.Text.Basic

/-!
# Wildcard patterns

In a wildcard pattern `*` stands for any text, `?` for any character, and brackets for one character
out of a set.  All other characters stand for themselves.
-/

namespace ClassHarvest.Glob

/-- A range of characters, both ends included. -/
abbrev Range := Nat × Nat

/-- A part of a wildcard pattern. -/
inductive Part where
  /-- Any text. -/
  | anyText
  /-- Any character. -/
  | anyChar
  /-- A given character. -/
  | literal (c : CodePoint)
  /-- A character in some ranges, or outside of them. -/
  | oneOf (negated : Bool) (ranges : List Range)
deriving DecidableEq, Repr

/-! ## Sets of characters -/

/-- What stands between brackets: characters, and hyphens that make ranges. -/
inductive SetSign where
  /-- A character. -/
  | char (c : CodePoint)
  /-- A hyphen between the ends of a range. -/
  | through
deriving DecidableEq, Repr

/-- The pieces of a set between the hyphens that make ranges.  The first character of a piece is no
such hyphen, nor is the one right behind the beginning of a range's end. -/
def pieces (skip : Nat) (current : Text) : Text → List Text
  | [] => [current.reverse]
  | c :: rest =>
    if skip = 0 && c.val = 45 then current.reverse :: pieces 2 [] rest
    else pieces (skip - 1) (c :: current) rest

/-- The pieces of a set; a hyphen at its end is a character. -/
def setPieces (set : Text) : List Text :=
  let found := pieces (if set.head?.any (·.val == 33) then 2 else 1) [] set
  match found.reverse with
  | [] :: before :: earlier => ((before ++ [('-' : CodePoint)]) :: earlier).reverse
  | _ => found

/-- The pieces with empty ranges left out together with their ends. -/
def withoutEmpty : List Text → List Text
  | [] => []
  | piece :: rest =>
    match withoutEmpty rest with
    | [] => [piece]
    | next :: others =>
      match piece.getLast?, next.head? with
      | some last, some first =>
        if first.val < last.val then (piece.dropLast ++ next.drop 1) :: others
        else piece :: next :: others
      | _, _ => piece :: next :: others

/-- The pieces as signs, with a hyphen between neighbours. -/
def signs : List Text → List SetSign
  | [] => []
  | [piece] => piece.map .char
  | piece :: rest => piece.map .char ++ .through :: signs rest

/-- The ranges that signs stand for. -/
def ranges : List SetSign → List Range
  | [] => []
  | .char a :: .through :: .char b :: rest => (a.val, b.val) :: ranges rest
  | .char a :: rest => (a.val, a.val) :: ranges rest
  | .through :: rest => (45, 45) :: ranges rest

/-- The part for a set in brackets.  An exclamation mark at the beginning negates it. -/
def setPart (set : Text) : Part :=
  match signs (withoutEmpty (setPieces set)) with
  | .char c :: rest =>
    if c.val = 33 then if rest.isEmpty then .anyChar else .oneOf true (ranges rest)
    else .oneOf false (ranges (.char c :: rest))
  | other => .oneOf false (ranges other)

/-! ## Reading patterns -/

/-- The set in brackets behind the opening one, and what follows the closing one.  A closing bracket
right at the beginning belongs to the set. -/
def set? (rest : Text) : Option (Text × Text) :=
  let start := if rest.head?.any (·.val == 33) then 1 else 0
  let start := if (rest[start]?).any (·.val == 93) then start + 1 else start
  let length := start + ((rest.drop start).takeWhile (·.val != 93)).length
  if length < rest.length then some (rest.take length, rest.drop (length + 1)) else none

/-- The parts of a pattern that is no longer than a bound. -/
def partsWithin : Nat → Text → List Part
  | 0, _ => []
  | _ + 1, [] => []
  | bound + 1, c :: rest =>
    match c.ascii with
    | '*' => .anyText :: partsWithin bound rest
    | '?' => .anyChar :: partsWithin bound rest
    | '[' =>
      match set? rest with
      | some (set, after) => setPart set :: partsWithin bound after
      | none => .literal c :: partsWithin bound rest
    | _ => .literal c :: partsWithin bound rest

/-- The parts of a pattern. -/
def parts (pattern : Text) : List Part :=
  partsWithin pattern.length pattern

/-! ## Matching -/

/-- Whether a part that stands for one character stands for this one. -/
def Part.admits (part : Part) (c : CodePoint) : Bool :=
  match part with
  | .anyText => false
  | .anyChar => true
  | .literal d => c = d
  | .oneOf negated ranges => (ranges.any fun (low, high) => low ≤ c.val && c.val ≤ high) != negated

/-- The ends of a text, the longest first. -/
def ends : Text → List Text
  | [] => [[]]
  | c :: rest => (c :: rest) :: ends rest

/-- What may be left of a text behind a part, if one of some ends of it was left in front; the longest
end comes first. -/
def behind (left : List Text) (part : Part) : List Text :=
  match part with
  | .anyText =>
    match left with
    | [] => []
    | longest :: _ => ends longest
  | part =>
    left.filterMap fun t =>
      match t with
      | [] => none
      | c :: rest => if part.admits c then some rest else none

/-- Whether a pattern stands for a text as a whole. -/
def «matches» (pattern t : Text) : Bool :=
  ((parts pattern).foldl behind [t]).any List.isEmpty

end ClassHarvest.Glob
