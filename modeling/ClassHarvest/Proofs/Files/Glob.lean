import ClassHarvest.Files.Ignore
import Mathlib.Data.List.Forall2
import Mathlib.Data.List.Infix

/-!
# What wildcard patterns stand for

A wildcard pattern stands for a text that can be cut into pieces for its parts, and the search along the
pattern finds out whether it can.  A star stands for separators too.  So the segments of a pattern stand
for pieces of a path that may be longer than its segments, unless the path has no more segments than the
pattern.
-/

namespace ClassHarvest

/-! ## Texts cut at a separator -/

namespace Text

variable {c : CodePoint} {pieces : List Text}

theorem splitOn_eq (c : CodePoint) (t : Text) : t.splitOn c = List.splitOn c t := by
  induction t with
  | nil => rw [splitOn, List.splitOn_nil]
  | cons d t ih =>
      rw [splitOn, List.splitOn_cons_eq_if_modifyHead, ih]
      simp only [beq_iff_eq]
      split
      · rfl
      · obtain ⟨piece, more, shape⟩ := List.exists_cons_of_ne_nil (List.splitOn_ne_nil c t)
        rw [shape]
        rfl

theorem subset_of_mem_splitOn {t piece : Text} (mem : piece ∈ List.splitOn c t) : piece ⊆ t := by
  induction t generalizing piece with
  | nil =>
      rw [List.splitOn_nil, List.mem_singleton] at mem
      rw [mem]
      exact List.Subset.refl []
  | cons d t ih =>
      rw [List.splitOn_cons_eq_if_modifyHead] at mem
      split at mem
      · rcases List.mem_cons.mp mem with rfl | mem
        · exact List.nil_subset _
        · exact List.subset_cons_of_subset d (ih mem)
      · obtain ⟨first, more, shape⟩ := List.exists_cons_of_ne_nil (List.splitOn_ne_nil c t)
        rw [shape] at ih mem
        rcases List.mem_cons.mp mem with rfl | mem
        · exact List.cons_subset_cons d (ih List.mem_cons_self)
        · exact List.subset_cons_of_subset d (ih (List.mem_cons_of_mem first mem))

/-- A text that is put together from pieces is cut wherever a piece is. -/
theorem splitOn_intercalate (some : pieces ≠ []) :
    List.splitOn c (List.intercalate [c] pieces) = pieces.flatMap (List.splitOn c) := by
  induction pieces with
  | nil => exact absurd rfl some
  | cons piece pieces ih =>
      cases pieces with
      | nil => simp
      | cons next pieces =>
          rw [List.intercalate_cons_cons, List.append_assoc, List.singleton_append,
            List.splitOn_append_cons_self, ih (by simp)]
          rfl

theorem length_splitOn_pos (c : CodePoint) (t : Text) : 0 < (List.splitOn c t).length :=
  List.length_pos_of_ne_nil (List.splitOn_ne_nil c t)

theorem length_le_length_flatMap_splitOn (c : CodePoint) (pieces : List Text) :
    pieces.length ≤ (pieces.flatMap (List.splitOn c)).length := by
  induction pieces with
  | nil => exact Nat.le_refl 0
  | cons piece pieces ih =>
      have first := length_splitOn_pos c piece
      rw [List.flatMap_cons, List.length_append, List.length_cons]
      omega

theorem splitOn_eq_self_of_length {t : Text} (short : (List.splitOn c t).length ≤ 1) :
    List.splitOn c t = [t] := by
  obtain ⟨piece, only⟩ := List.length_eq_one_iff.mp (Nat.le_antisymm short (length_splitOn_pos c t))
  have whole : List.intercalate [c] (List.splitOn c t) = t := List.intercalate_splitOn c
  rw [only] at whole ⊢
  rw [← whole]
  simp

/-- Pieces are not cut if the cut text has no more pieces. -/
theorem flatMap_splitOn_eq_self (few : (pieces.flatMap (List.splitOn c)).length ≤ pieces.length) :
    pieces.flatMap (List.splitOn c) = pieces := by
  induction pieces with
  | nil => rfl
  | cons piece pieces ih =>
      have others := length_le_length_flatMap_splitOn c pieces
      have first := length_splitOn_pos c piece
      rw [List.flatMap_cons, List.length_append, List.length_cons] at few
      rw [List.flatMap_cons, splitOn_eq_self_of_length (by omega), ih (by omega)]
      rfl

end Text

/-! ## Patterns -/

namespace Glob

/-- A text can be cut into pieces for some parts, one behind the other. -/
inductive Stands : List Part → Text → Prop where
  /-- No parts stand for no text. -/
  | nil : Stands [] []
  /-- Any text stands in front. -/
  | anyText (front : Text) {ps : List Part} {back : Text} (others : Stands ps back) :
      Stands (.anyText :: ps) (front ++ back)
  /-- One character stands in front. -/
  | one {part : Part} {c : CodePoint} {ps : List Part} {back : Text}
      (admitted : part.admits c = true) (others : Stands ps back) : Stands (part :: ps) (c :: back)

/-- Whether some parts stand for a text as a whole. -/
def fits (ps : List Part) (t : Text) : Bool :=
  (ps.foldl behind [t]).any List.isEmpty

variable {part : Part} {ps qs : List Part} {c : CodePoint} {t : Text} {left : List Text}

/-! ### What parts stand for -/

theorem stands_nil_iff : Stands [] t ↔ t = [] := by
  constructor
  · rintro ⟨⟩
    rfl
  · rintro rfl
    exact .nil

theorem stands_anyText_cons_iff :
    Stands (.anyText :: ps) t ↔ ∃ back, back <:+ t ∧ Stands ps back := by
  constructor
  · intro stands
    cases stands with
    | anyText front others => exact ⟨_, List.suffix_append _ _, others⟩
    | one admitted others => cases admitted
  · rintro ⟨back, ⟨front, rfl⟩, others⟩
    exact .anyText front others

theorem stands_cons_iff (single : part ≠ .anyText) :
    Stands (part :: ps) t ↔ ∃ c back, t = c :: back ∧ part.admits c = true ∧ Stands ps back := by
  constructor
  · intro stands
    cases stands with
    | anyText front others => exact absurd rfl single
    | one admitted others => exact ⟨_, _, rfl, admitted, others⟩
  · rintro ⟨c, back, rfl, admitted, others⟩
    exact .one admitted others

theorem stands_literal_cons_iff :
    Stands (.literal c :: ps) t ↔ ∃ back, t = c :: back ∧ Stands ps back := by
  rw [stands_cons_iff (by simp)]
  constructor
  · rintro ⟨d, back, rfl, admitted, others⟩
    obtain rfl : d = c := of_decide_eq_true admitted
    exact ⟨back, rfl, others⟩
  · rintro ⟨back, rfl, others⟩
    exact ⟨c, back, rfl, decide_eq_true rfl, others⟩

/-- Parts behind other parts stand for a text behind another text. -/
theorem stands_append_iff :
    Stands (ps ++ qs) t ↔ ∃ front back, t = front ++ back ∧ Stands ps front ∧ Stands qs back := by
  constructor
  · intro stands
    generalize whole : ps ++ qs = all at stands
    induction stands generalizing ps with
    | nil =>
        obtain ⟨rfl, rfl⟩ := List.append_eq_nil_iff.mp whole
        exact ⟨[], [], rfl, .nil, .nil⟩
    | anyText first others ih =>
        rcases List.append_eq_cons_iff.mp whole with ⟨rfl, rfl⟩ | ⟨rest, rfl, rfl⟩
        · exact ⟨[], _, rfl, .nil, .anyText first others⟩
        · obtain ⟨front, back, rfl, inFront, behind⟩ := ih rfl
          exact ⟨first ++ front, back, (List.append_assoc _ _ _).symm, .anyText first inFront, behind⟩
    | one admitted others ih =>
        rcases List.append_eq_cons_iff.mp whole with ⟨rfl, rfl⟩ | ⟨rest, rfl, rfl⟩
        · exact ⟨[], _, rfl, .nil, .one admitted others⟩
        · obtain ⟨front, back, rfl, inFront, behind⟩ := ih rfl
          exact ⟨_ :: front, back, rfl, .one admitted inFront, behind⟩
  · rintro ⟨front, back, rfl, inFront, behind⟩
    induction inFront with
    | nil => exact behind
    | anyText first others ih =>
        rw [List.append_assoc]
        exact .anyText first ih
    | one admitted others ih => exact .one admitted ih

/-! ### The search along a pattern -/

/-- The texts that are left are ends of one text, the longest first. -/
def Nested (left : List Text) : Prop :=
  left.Pairwise fun longer shorter => shorter <:+ longer

theorem ends_eq_tails (t : Text) : ends t = t.tails := by
  induction t with
  | nil => rfl
  | cons c t ih => rw [ends, ih, List.tails_cons]

theorem nested_tails (t : Text) : Nested t.tails := by
  induction t with
  | nil => exact List.pairwise_singleton _ _
  | cons c t ih =>
      rw [List.tails_cons]
      refine List.pairwise_cons.mpr ⟨fun shorter mem => ?_, ih⟩
      exact ((List.mem_tails _ _).mp mem).trans (List.suffix_cons c t)

theorem mem_behind_anyText_iff (nested : Nested left) :
    t ∈ behind left .anyText ↔ ∃ before ∈ left, t <:+ before := by
  cases left with
  | nil => simp [behind]
  | cons longest left =>
      change t ∈ ends longest ↔ _
      rw [ends_eq_tails, List.mem_tails]
      constructor
      · exact fun isEnd => ⟨longest, List.mem_cons_self, isEnd⟩
      · rintro ⟨before, mem, isEnd⟩
        rcases List.mem_cons.mp mem with rfl | mem
        · exact isEnd
        · exact isEnd.trans ((List.pairwise_cons.mp nested).1 before mem)

/-- What is left of a text behind one character that a part stands for. -/
def next? (part : Part) : Text → Option Text
  | [] => none
  | c :: rest => if part.admits c then some rest else none

theorem behind_eq_filterMap (single : part ≠ .anyText) :
    behind left part = left.filterMap (next? part) := by
  have same : (fun t : Text => match t with
      | [] => none
      | c :: rest => if part.admits c then some rest else none) = next? part := by
    funext t
    cases t <;> rfl
  cases part with
  | anyText => exact absurd rfl single
  | _ => exact congrArg (left.filterMap ·) same

theorem next?_eq_some_iff {before : Text} :
    next? part before = some t ↔ ∃ c, before = c :: t ∧ part.admits c = true := by
  cases before with
  | nil => simp [next?]
  | cons c rest =>
      rw [next?, Option.ite_none_right_eq_some]
      constructor
      · rintro ⟨admitted, same⟩
        exact ⟨c, congrArg (c :: ·) (Option.some.inj same), admitted⟩
      · rintro ⟨d, same, admitted⟩
        obtain ⟨rfl, rfl⟩ := List.cons.inj same
        exact ⟨admitted, rfl⟩

theorem mem_behind_iff (single : part ≠ .anyText) :
    t ∈ behind left part ↔ ∃ c, c :: t ∈ left ∧ part.admits c = true := by
  simp only [behind_eq_filterMap single, List.mem_filterMap, next?_eq_some_iff]
  constructor
  · rintro ⟨before, mem, c, rfl, admitted⟩
    exact ⟨c, mem, admitted⟩
  · rintro ⟨c, mem, admitted⟩
    exact ⟨c :: t, mem, c, rfl, admitted⟩

/-- What is left behind a part are ends of one text again. -/
theorem Nested.behind (nested : Nested left) (part : Part) : Nested (behind left part) := by
  by_cases single : part = .anyText
  · subst single
    cases left with
    | nil => exact List.Pairwise.nil
    | cons longest left =>
        change Nested (ends longest)
        rw [ends_eq_tails]
        exact nested_tails longest
  · rw [behind_eq_filterMap single]
    refine List.Pairwise.filterMap (next? part) ?_ nested
    intro longer shorter isEnd rest isRest rest' isRest'
    obtain ⟨c, rfl, -⟩ := next?_eq_some_iff.mp isRest
    obtain ⟨d, rfl, -⟩ := next?_eq_some_iff.mp isRest'
    rcases List.suffix_cons_iff.mp isEnd with same | inside
    · rw [(List.cons.inj same).2]
    · exact (List.suffix_cons d rest').trans inside

theorem any_foldl_behind_iff (nested : Nested left) :
    (ps.foldl behind left).any List.isEmpty = true ↔ ∃ t ∈ left, Stands ps t := by
  induction ps generalizing left with
  | nil => simp [stands_nil_iff]
  | cons part ps ih =>
      rw [List.foldl_cons, ih (nested.behind part)]
      by_cases single : part = .anyText
      · subst single
        simp only [mem_behind_anyText_iff nested, stands_anyText_cons_iff]
        constructor
        · rintro ⟨back, ⟨t, mem, isEnd⟩, others⟩
          exact ⟨t, mem, back, isEnd, others⟩
        · rintro ⟨t, mem, back, isEnd, others⟩
          exact ⟨back, ⟨t, mem, isEnd⟩, others⟩
      · simp only [mem_behind_iff single, stands_cons_iff single]
        constructor
        · rintro ⟨back, ⟨c, mem, admitted⟩, others⟩
          exact ⟨c :: back, mem, c, back, rfl, admitted, others⟩
        · rintro ⟨_, mem, c, back, rfl, admitted, others⟩
          exact ⟨back, ⟨c, mem, admitted⟩, others⟩

/-- The search finds out what parts stand for. -/
theorem fits_iff_stands : fits ps t = true ↔ Stands ps t := by
  rw [fits, any_foldl_behind_iff (List.pairwise_singleton _ t)]
  simp

/-! ### Segments -/

/-- The parts of a pattern between the separators that stand outside of brackets. -/
def segments (pattern : Text) : List (List Part) :=
  (parts pattern).splitOn (.literal separator)

/-- Segments with separators between stand for pieces with separators between. -/
theorem stands_intercalate_iff {segments : List (List Part)} (some : segments ≠ []) :
    Stands (List.intercalate [.literal c] segments) t ↔
      ∃ pieces, t = List.intercalate [c] pieces ∧ List.Forall₂ Stands segments pieces := by
  induction segments generalizing t with
  | nil => exact absurd rfl some
  | cons segment segments ih =>
      cases segments with
      | nil => simp [List.forall₂_cons_left_iff]
      | cons next segments =>
          have others {t : Text} := ih (t := t) (by simp)
          simp only [List.intercalate_cons_cons, List.append_assoc, List.singleton_append,
            stands_append_iff, stands_literal_cons_iff, others]
          constructor
          · rintro ⟨front, _, rfl, first, _, rfl, pieces, rfl, behind⟩
            refine ⟨front :: pieces, ?_, .cons first behind⟩
            cases behind
            rw [List.intercalate_cons_cons, List.append_assoc, List.singleton_append]
          · rintro ⟨_, rfl, all⟩
            obtain ⟨front, pieces, first, behind, rfl⟩ := List.forall₂_cons_left_iff.mp all
            refine ⟨front, c :: List.intercalate [c] pieces, ?_, first, _, rfl, pieces, rfl, behind⟩
            cases behind
            rw [List.intercalate_cons_cons, List.append_assoc, List.singleton_append]

/-- A pattern stands for a path just if its segments stand for pieces of the path. -/
theorem matches_iff_exists_pieces (pattern path : Text) :
    Glob.matches pattern path = true ↔
      ∃ pieces, path = List.intercalate [separator] pieces ∧
        List.Forall₂ Stands (segments pattern) pieces := by
  have whole : List.intercalate [.literal separator] (segments pattern) = parts pattern :=
    List.intercalate_splitOn _
  change fits (parts pattern) path = true ↔ _
  rw [fits_iff_stands, ← whole]
  exact stands_intercalate_iff (List.splitOn_ne_nil _ _)

/-- A path that a pattern stands for has at least as many segments as the pattern.  If it has no more,
the segments of the pattern stand for its segments, one by one. -/
theorem matches_by_segments (pattern path : Text) :
    (Glob.matches pattern path = true →
      (segments pattern).length ≤ (path.splitOn separator).length) ∧
    ((path.splitOn separator).length ≤ (segments pattern).length →
      (Glob.matches pattern path = true ↔
        List.Forall₂ (fun segment name => fits segment name = true) (segments pattern)
          (path.splitOn separator))) := by
  have cut {pieces : List Text} (all : List.Forall₂ Stands (segments pattern) pieces) :
      List.splitOn separator (List.intercalate [separator] pieces) =
        pieces.flatMap (List.splitOn separator) := by
    apply Text.splitOn_intercalate
    rintro rfl
    exact List.splitOn_ne_nil _ _ (List.forall₂_nil_right_iff.mp all)
  rw [matches_iff_exists_pieces, Text.splitOn_eq]
  simp only [fits_iff_stands]
  constructor
  · rintro ⟨pieces, rfl, all⟩
    rw [cut all, all.length_eq]
    exact Text.length_le_length_flatMap_splitOn separator pieces
  · intro few
    constructor
    · rintro ⟨pieces, rfl, all⟩
      rw [cut all, all.length_eq] at few
      rw [cut all, Text.flatMap_splitOn_eq_self few]
      exact all
    · intro all
      exact ⟨List.splitOn separator path, (List.intercalate_splitOn separator).symm, all⟩

/-! ### Patterns without brackets -/

/-- The part for a character other than a bracket. -/
def plainPart (c : CodePoint) : Part :=
  match c.ascii with
  | '*' => .anyText
  | '?' => .anyChar
  | _ => .literal c

theorem plainPart_eq_separator_iff : plainPart c = plainPart separator ↔ c = separator := by
  constructor
  · intro same
    change plainPart c = .literal separator at same
    unfold plainPart at same
    split at same
    · cases same
    · cases same
    · exact (Part.literal.inj same)
  · rintro rfl
    rfl

theorem partsWithin_of_bracketless {bound : Nat} (enough : t.length ≤ bound)
    (plain : ('[' : CodePoint) ∉ t) : partsWithin bound t = t.map plainPart := by
  induction t generalizing bound with
  | nil => cases bound <;> rfl
  | cons c t ih =>
      obtain ⟨bound, rfl⟩ : ∃ b, bound = b + 1 := Nat.exists_eq_succ_of_ne_zero (by
        rintro rfl
        cases enough)
      rw [List.mem_cons, not_or] at plain
      have others := ih (Nat.le_of_succ_le_succ enough) plain.2
      rw [partsWithin, List.map_cons, plainPart]
      split
      · next star => simp only [others, star]
      · next mark => simp only [others, mark]
      · next bracket => exact absurd (CodePoint.eq_of_ascii_eq bracket (by decide)).symm plain.1
      · simp only [others]

theorem splitOn_map_plainPart (t : Text) :
    (t.map plainPart).splitOn (plainPart separator) =
      (List.splitOn separator t).map (List.map plainPart) := by
  induction t with
  | nil => rfl
  | cons c t ih =>
      rw [List.map_cons, List.splitOn_cons_eq_if_modifyHead, ih, List.splitOn_cons_eq_if_modifyHead]
      simp only [beq_iff_eq, plainPart_eq_separator_iff]
      split
      · rfl
      · obtain ⟨piece, more, shape⟩ := List.exists_cons_of_ne_nil (List.splitOn_ne_nil separator t)
        rw [shape]
        rfl

/-- A pattern without brackets is cut like a path. -/
theorem segments_of_bracketless {pattern : Text} (plain : ('[' : CodePoint) ∉ pattern) :
    segments pattern = (pattern.splitOn separator).map parts := by
  have each : ∀ piece ∈ List.splitOn separator pattern, parts piece = piece.map plainPart :=
    fun piece mem => partsWithin_of_bracketless (Nat.le_refl _) fun inside =>
      plain (Text.subset_of_mem_splitOn mem inside)
  rw [segments, parts, partsWithin_of_bracketless (Nat.le_refl _) plain, Text.splitOn_eq,
    List.map_congr_left each]
  exact splitOn_map_plainPart pattern

end Glob

/-! ## Rules -/

namespace IgnoreRule

theorem matches_of_anchored {rule : IgnoreRule} (anchored : rule.anchored = true) (path : Text)
    (isDirectory : Bool) :
    rule.matches path isDirectory = true ↔
      (rule.directoryOnly = true → isDirectory = true) ∧ Glob.matches rule.pattern path = true := by
  rw [IgnoreRule.matches, anchored, Bool.and_eq_true]
  cases rule.directoryOnly <;> simp

/-- A rule whose pattern is compared with the whole path matches no path with fewer segments than the
pattern has.  It matches one with as many just if each segment of the pattern stands for the segment in
its place.  The segments of the pattern stand between its separators, except for those in brackets. -/
theorem matches_segments_of_anchored {rule : IgnoreRule} (anchored : rule.anchored = true)
    (path : Text) (isDirectory : Bool) :
    (rule.matches path isDirectory = true →
      (Glob.segments rule.pattern).length ≤ (path.splitOn separator).length) ∧
    ((path.splitOn separator).length ≤ (Glob.segments rule.pattern).length →
      (rule.matches path isDirectory = true ↔
        (rule.directoryOnly = true → isDirectory = true) ∧
          List.Forall₂ (fun segment name => Glob.fits segment name = true)
            (Glob.segments rule.pattern) (path.splitOn separator))) ∧
    (('[' : CodePoint) ∉ rule.pattern →
      Glob.segments rule.pattern = (rule.pattern.splitOn separator).map Glob.parts) := by
  obtain ⟨enough, oneByOne⟩ := Glob.matches_by_segments rule.pattern path
  have matched := matches_of_anchored anchored path isDirectory
  refine ⟨fun isMatch => enough (matched.mp isMatch).2, fun few => ?_, Glob.segments_of_bracketless⟩
  rw [matched, oneByOne few]

/-- A rule with a set of capitals in the second segment. -/
def capitalsRule : IgnoreRule where
  pattern := "src/[A-C]*.cs"
  anchored := true

theorem matches_segments_of_anchored_capitals :
    parse "/src/[A-C]*.cs" = some capitalsRule ∧ capitalsRule.matches "src/App.cs" false = true ∧
      List.Forall₂ (fun segment name => Glob.fits segment name = true)
        (Glob.segments capitalsRule.pattern) ["src", "App.cs"] := by
  have isMatch : capitalsRule.matches "src/App.cs" false = true := by decide
  have anchored : capitalsRule.anchored = true := rfl
  have bySegments := (matches_segments_of_anchored anchored "src/App.cs" false).2.1
  exact ⟨by decide, isMatch, ((bySegments (by decide)).mp isMatch).2⟩

-- A star stands for separators too, so the rule reaches deeper than its pattern.
example : capitalsRule.matches "src/App/Views/Index.cs" false = true := by decide

end IgnoreRule
end ClassHarvest
