import ClassHarvest.Pattern.GroupName
import Mathlib.Data.List.Forall2
import Mathlib.Data.List.TakeWhile

/-!
# Cutting patterns into pieces

The pieces of a pattern are found from left to right, and what a group or a reference looks like is
settled before the next `(` or backslash.  So a pattern that is written down again piece by piece,
with other names for its groups, is cut at the same places.
-/

namespace ClassHarvest.Pattern

/-! ## Openings -/

/-- A name that a group or a reference may have: a letter or underscore of ASCII and word
characters behind it. -/
inductive IsGroupName : Text → Prop
  /-- The first character and the others. -/
  | mk {c : CodePoint} {others : Text} (first : c.isAsciiLetter = true ∨ c.val = 95)
      (words : ∀ d ∈ others, d.isWord = true) : IsGroupName (c :: others)

/-- A name between angle brackets. -/
def bracketed (name : Text) : Text :=
  ('<' : CodePoint) :: (name ++ [('>' : CodePoint)])

theorem bracketed_append (name after : Text) :
    bracketed name ++ after = ('<' : CodePoint) :: (name ++ ('>' : CodePoint) :: after) := by
  simp [bracketed]

theorem bracketedName_eq_some_iff {t name after : Text} :
    bracketedName? t = some (name, after) ↔ IsGroupName name ∧ t = bracketed name ++ after := by
  rw [bracketed_append]
  constructor
  · intro found
    match t with
    | [] => cases found
    | [_] => cases found
    | opening :: c :: rest =>
        rw [bracketedName?] at found
        split at found
        · next isOpening =>
            split at found
            · next closing behind left =>
                split at found
                · next isClosing =>
                    cases found
                    simp only [Bool.and_eq_true, decide_eq_true_eq, Bool.or_eq_true] at isOpening
                    have closes : closing = '>' := CodePoint.val_inj isClosing
                    have opens : opening = '<' := CodePoint.val_inj isOpening.1
                    have parts := List.takeWhile_append_dropWhile (p := CodePoint.isWord) (l := rest)
                    refine ⟨.mk isOpening.2 fun d mem => List.mem_takeWhile_imp mem, ?_⟩
                    rw [opens, ← closes, List.cons_append, ← left, parts]
                · cases found
            · cases found
        · cases found
  · rintro ⟨⟨first, words⟩, rfl⟩
    rename_i c others
    have stops : CodePoint.isWord '>' = false := by decide +kernel
    have before : (others ++ ('>' : CodePoint) :: after).takeWhile CodePoint.isWord = others := by
      rw [List.takeWhile_append_of_pos words, List.takeWhile_cons, stops]
      simp
    have behind : (others ++ ('>' : CodePoint) :: after).dropWhile CodePoint.isWord =
        ('>' : CodePoint) :: after := by
      rw [List.dropWhile_append_of_pos words, List.dropWhile_cons, stops]
      simp
    rw [List.cons_append, bracketedName?, if_pos (by simp [first]; rfl), behind, before]
    exact if_pos rfl

/-- A group is opened by `(?<name>` or `(?P<name>`. -/
theorem groupOpening_eq_some_iff {t name after : Text} :
    groupOpening? t = some (name, after) ↔ IsGroupName name ∧
      ∃ letter, (letter = [] ∨ letter = [('P' : CodePoint)]) ∧
        t = ('(' : CodePoint) :: ('?' : CodePoint) :: (letter ++ bracketed name) ++ after := by
  constructor
  · intro found
    match t with
    | [] => cases found
    | [_] => cases found
    | [a, b] =>
        rw [groupOpening?] at found
        split at found <;> cases found
    | a :: b :: c :: rest =>
        rw [groupOpening?] at found
        split at found
        · next opens =>
            simp only [Bool.and_eq_true, decide_eq_true_eq] at opens
            have isA : a = '(' := CodePoint.val_inj opens.1
            have isB : b = '?' := CodePoint.val_inj opens.2
            split at found
            · next isP =>
                have isC : c = 'P' := CodePoint.val_inj isP
                obtain ⟨isName, rfl⟩ := bracketedName_eq_some_iff.mp found
                exact ⟨isName, ['P'], Or.inr rfl, by rw [isA, isB, isC]; rfl⟩
            · obtain ⟨isName, same⟩ := bracketedName_eq_some_iff.mp found
              exact ⟨isName, [], Or.inl rfl, by rw [isA, isB, same]; rfl⟩
        · cases found
  · rintro ⟨isName, letter, rfl | rfl, rfl⟩
    · exact bracketedName_eq_some_iff.mpr ⟨isName, rfl⟩
    · exact bracketedName_eq_some_iff.mpr ⟨isName, rfl⟩

/-- A reference is `\\k<name>`. -/
theorem referenceOpening_eq_some_iff {t name after : Text} :
    referenceOpening? t = some (name, after) ↔ IsGroupName name ∧
      t = ('\\' : CodePoint) :: ('k' : CodePoint) :: (bracketed name ++ after) := by
  constructor
  · intro found
    match t with
    | [] => cases found
    | [_] => cases found
    | a :: b :: rest =>
        rw [referenceOpening?] at found
        split at found
        · next opens =>
            simp only [Bool.and_eq_true, decide_eq_true_eq] at opens
            have isA : a = '\\' := CodePoint.val_inj opens.1
            have isB : b = 'k' := CodePoint.val_inj opens.2
            obtain ⟨isName, rfl⟩ := bracketedName_eq_some_iff.mp found
            exact ⟨isName, by rw [isA, isB]⟩
        · cases found
  · rintro ⟨isName, rfl⟩
    exact bracketedName_eq_some_iff.mpr ⟨isName, rfl⟩

/-! ## What settles an opening -/

/-- A character that begins neither a group nor an escape. -/
def isPlain (c : CodePoint) : Bool :=
  c.val != 40 && c.val != 92

/-- What stands in front of a text up to the first `(` or backslash. -/
def front (t : Text) : Text :=
  t.takeWhile isPlain

theorem front_append {s : Text} (plain : ∀ c ∈ s, isPlain c = true) (t : Text) :
    front (s ++ t) = s ++ front t :=
  List.takeWhile_append_of_pos plain

/-- A text with the front of another begins as that one does, as far as plain characters go. -/
theorem exists_of_front_eq {s t u : Text} (plain : ∀ c ∈ s, isPlain c = true)
    (same : front t = front (s ++ u)) : ∃ v, t = s ++ v := by
  have parts := List.takeWhile_append_dropWhile (p := isPlain) (l := t)
  rw [← front, same, front_append plain, List.append_assoc] at parts
  exact ⟨_, parts.symm⟩

theorem isPlain_of_isWord {c : CodePoint} (isWord : c.isWord = true) : isPlain c = true := by
  have opens : CodePoint.isWord '(' = false := by decide +kernel
  have escapes : CodePoint.isWord '\\' = false := by decide +kernel
  have notOpening : c.val ≠ 40 := by
    intro same
    rw [show c = '(' from CodePoint.val_inj same, opens] at isWord
    cases isWord
  have notEscape : c.val ≠ 92 := by
    intro same
    rw [show c = '\\' from CodePoint.val_inj same, escapes] at isWord
    cases isWord
  simp [isPlain, notOpening, notEscape]

theorem IsGroupName.plain {name : Text} (isName : IsGroupName name) :
    ∀ c ∈ name, isPlain c = true := by
  cases isName with
  | mk first words =>
      rw [List.forall_mem_cons]
      refine ⟨?_, fun d mem => isPlain_of_isWord (words d mem)⟩
      simp only [CodePoint.isAsciiLetter, CodePoint.isAsciiUpper, CodePoint.isAsciiLower,
        Bool.or_eq_true, Bool.and_eq_true, decide_eq_true_eq, isPlain, bne_iff_ne] at first ⊢
      omega

/-- A character that ends a name does not stand in it. -/
theorem IsGroupName.ne_of_mem {name : Text} (isName : IsGroupName name) {terminator : CodePoint}
    (noLetter : terminator.isAsciiLetter = false) (noWord : terminator.isWord = false)
    (other : terminator.val ≠ 95) : ∀ c ∈ name, c.val ≠ 92 ∧ c ≠ terminator := by
  have proper : ∀ c ∈ name, c.val ≠ 92 := by
    intro c mem
    have plain := isName.plain c mem
    simp only [isPlain, Bool.and_eq_true, bne_iff_ne] at plain
    exact plain.2
  intro c mem
  refine ⟨proper c mem, ?_⟩
  rintro rfl
  cases isName with
  | mk first words =>
      rcases List.mem_cons.mp mem with rfl | mem
      · rcases first with letter | underscore
        · exact absurd letter (Bool.eq_false_iff.mp noLetter)
        · exact other underscore
      · exact absurd (words c mem) (Bool.eq_false_iff.mp noWord)

theorem IsGroupName.plain_bracketed {name : Text} (isName : IsGroupName name) :
    ∀ c ∈ bracketed name, isPlain c = true := by
  rw [bracketed, List.forall_mem_cons, List.forall_mem_append, List.forall_mem_singleton]
  exact ⟨by decide, isName.plain, by decide⟩

theorem groupOpening_eq_none_of_front {s t : Text} (same : front t = front s)
    (refuses : groupOpening? (('(' : CodePoint) :: s) = none) :
    groupOpening? (('(' : CodePoint) :: t) = none := by
  by_contra accepts
  obtain ⟨⟨name, after⟩, found⟩ := Option.ne_none_iff_exists'.mp accepts
  obtain ⟨isName, letter, isLetter, opened⟩ := groupOpening_eq_some_iff.mp found
  have isT : t = ('?' : CodePoint) :: (letter ++ bracketed name) ++ after := (List.cons.inj opened).2
  have plain : ∀ c ∈ ('?' : CodePoint) :: (letter ++ bracketed name), isPlain c = true := by
    rw [List.forall_mem_cons, List.forall_mem_append]
    exact ⟨by decide, by rcases isLetter with rfl | rfl <;> decide, isName.plain_bracketed⟩
  obtain ⟨behind, rfl⟩ := exists_of_front_eq plain (isT ▸ same.symm)
  have found := groupOpening_eq_some_iff.mpr
    ⟨isName, letter, isLetter, Eq.refl (('(' : CodePoint) :: ('?' : CodePoint) ::
      (letter ++ bracketed name) ++ behind)⟩
  exact absurd (refuses.symm.trans found) (by simp)

theorem referenceOpening_eq_none_of_front {s t : Text} (same : front t = front s)
    (refuses : referenceOpening? (('\\' : CodePoint) :: ('k' : CodePoint) :: s) = none) :
    referenceOpening? (('\\' : CodePoint) :: ('k' : CodePoint) :: t) = none := by
  by_contra accepts
  obtain ⟨⟨name, after⟩, found⟩ := Option.ne_none_iff_exists'.mp accepts
  obtain ⟨isName, opened⟩ := referenceOpening_eq_some_iff.mp found
  have isT : t = bracketed name ++ after := (List.cons.inj (List.cons.inj opened).2).2
  obtain ⟨behind, rfl⟩ := exists_of_front_eq isName.plain_bracketed (isT ▸ same.symm)
  have found := referenceOpening_eq_some_iff.mpr ⟨isName, Eq.refl (('\\' : CodePoint) ::
    ('k' : CodePoint) :: (bracketed name ++ behind))⟩
  exact absurd (refuses.symm.trans found) (by simp)

/-! ## The first piece -/

/-- What the first piece of a text is, and what follows it. -/
inductive Leads : Text → Fragment → Text → Prop
  /-- A reference. -/
  | reference {name rest : Text} (isName : IsGroupName name) :
      Leads (('\\' : CodePoint) :: ('k' : CodePoint) :: (bracketed name ++ rest)) (.reference name) rest
  /-- A group in either spelling. -/
  | group {letter name rest : Text} (isLetter : letter = [] ∨ letter = [('P' : CodePoint)])
      (isName : IsGroupName name) :
      Leads (('(' : CodePoint) :: ('?' : CodePoint) :: (letter ++ bracketed name) ++ rest)
        (.group name) rest
  /-- An escape, which no reference begins with. -/
  | escape {d : CodePoint} {rest : Text} (sameLine : d.val ≠ 10)
      (refuses : referenceOpening? (('\\' : CodePoint) :: d :: rest) = none) :
      Leads (('\\' : CodePoint) :: d :: rest) (.verbatim [('\\' : CodePoint), d]) rest
  /-- A single character, a backslash only at the end of a line. -/
  | single {c : CodePoint} {rest : Text} (refuses : groupOpening? (c :: rest) = none)
      (alone : c.val = 92 → ∀ d ∈ rest.head?, d.val = 10) :
      Leads (c :: rest) (.verbatim [c]) rest

theorem referenceOpening_eq_none_of_alone {c : CodePoint} {rest : Text}
    (alone : c.val = 92 → ∀ d ∈ rest.head?, d.val = 10) : referenceOpening? (c :: rest) = none := by
  by_contra accepts
  obtain ⟨⟨name, after⟩, found⟩ := Option.ne_none_iff_exists'.mp accepts
  obtain ⟨_, opened⟩ := referenceOpening_eq_some_iff.mp found
  obtain ⟨rfl, rfl⟩ := List.cons.inj opened
  exact absurd (alone rfl 'k' rfl) (by decide)

theorem groupOpening_eq_none_of_ne {c : CodePoint} (other : c.val ≠ 40) (rest : Text) :
    groupOpening? (c :: rest) = none := by
  by_contra accepts
  obtain ⟨⟨name, after⟩, found⟩ := Option.ne_none_iff_exists'.mp accepts
  obtain ⟨_, letter, _, opened⟩ := groupOpening_eq_some_iff.mp found
  obtain ⟨rfl, _⟩ := List.cons.inj opened
  exact other rfl

/-- What reads as a reference in the spelling of the reader is no group. -/
theorem groupOpening_eq_none_of_equals (rest : Text) : groupOpening? (('(' : CodePoint) ::
    ('?' : CodePoint) :: ('P' : CodePoint) :: ('=' : CodePoint) :: rest) = none := by
  by_contra accepts
  obtain ⟨⟨name, after⟩, found⟩ := Option.ne_none_iff_exists'.mp accepts
  obtain ⟨_, letter, rfl | rfl, opened⟩ := groupOpening_eq_some_iff.mp found
  · exact absurd (List.cons.inj (List.cons.inj (List.cons.inj opened).2).2).1 (by decide)
  · exact absurd (List.cons.inj (List.cons.inj (List.cons.inj (List.cons.inj opened).2).2).2).1
      (by decide)

theorem nextFragment_eq_some_iff {t rest : Text} {piece : Fragment} :
    nextFragment t = some (piece, rest) ↔ Leads t piece rest := by
  constructor
  · intro found
    cases t with
    | nil => cases found
    | cons c behind =>
        simp only [nextFragment.eq_def] at found
        cases isReference : referenceOpening? (c :: behind) with
        | some read =>
            rw [isReference] at found
            cases found
            obtain ⟨isName, same⟩ := referenceOpening_eq_some_iff.mp isReference
            rw [same]
            exact .reference isName
        | none =>
            rw [isReference] at found
            cases isGroup : groupOpening? (c :: behind) with
            | some read =>
                rw [isGroup] at found
                cases found
                obtain ⟨isName, letter, isLetter, same⟩ := groupOpening_eq_some_iff.mp isGroup
                rw [same]
                exact .group isLetter isName
            | none =>
                rw [isGroup] at found
                cases behind with
                | nil =>
                    cases found
                    exact .single isGroup fun _ d mem => nomatch mem
                | cons d after =>
                    simp only at found
                    split at found
                    · next escapes =>
                        cases found
                        simp only [Bool.and_eq_true, decide_eq_true_eq, bne_iff_ne] at escapes
                        obtain rfl : c = '\\' := CodePoint.val_inj escapes.1
                        exact .escape escapes.2 isReference
                    · next noEscape =>
                        cases found
                        refine .single isGroup fun isBackslash e mem => ?_
                        obtain rfl : d = e := Option.some.inj mem
                        simpa [isBackslash] using noEscape
  · intro leads
    cases leads with
    | reference isName =>
        simp only [nextFragment.eq_def, referenceOpening_eq_some_iff.mpr ⟨isName, rfl⟩]
    | @group letter name _ isLetter isName =>
        have isGroup := groupOpening_eq_some_iff.mpr ⟨isName, letter, isLetter,
          Eq.refl (('(' : CodePoint) :: ('?' : CodePoint) :: (letter ++ bracketed name) ++ rest)⟩
        have noReference (rest : Text) := @referenceOpening_eq_none_of_alone '(' rest
          fun same => absurd same (by decide)
        rw [List.cons_append] at isGroup ⊢
        simp only [nextFragment.eq_def, noReference, isGroup]
    | escape sameLine refuses =>
        have noGroup (rest : Text) := @groupOpening_eq_none_of_ne '\\' (by decide) rest
        simp only [nextFragment.eq_def, refuses, noGroup]
        exact if_pos (by simpa using ⟨rfl, sameLine⟩)
    | @single c rest refuses alone =>
        simp only [nextFragment.eq_def, referenceOpening_eq_none_of_alone alone, refuses]
        cases rest with
        | nil => rfl
        | cons d after =>
            have sameLine := fun same => alone same d rfl
            exact if_neg (by simpa using sameLine)

theorem Leads.shorter {t rest : Text} {piece : Fragment} (leads : Leads t piece rest) :
    rest.length < t.length := by
  cases leads <;> simp only [List.length_cons, List.length_append] <;> omega

theorem exists_leads (c : CodePoint) (t : Text) : ∃ piece rest, Leads (c :: t) piece rest := by
  have some : (nextFragment (c :: t)).isSome = true := by
    simp only [nextFragment.eq_def]
    split
    · rfl
    · rfl
    · cases t with
      | nil => rfl
      | cons d t => simp only; split <;> rfl
  obtain ⟨⟨piece, rest⟩, found⟩ := Option.isSome_iff_exists.mp some
  exact ⟨piece, rest, nextFragment_eq_some_iff.mp found⟩

/-! ## All pieces -/

/-- A text is cut into pieces. -/
inductive Cuts : Text → List Fragment → Prop
  /-- Nothing is left. -/
  | nil : Cuts [] []
  /-- The first piece and the others. -/
  | cons {t rest : Text} {piece : Fragment} {pieces : List Fragment} (leads : Leads t piece rest)
      (behind : Cuts rest pieces) : Cuts t (piece :: pieces)

theorem cuts_fragments (t : Text) : Cuts t (fragments t) := by
  suffices within : ∀ (bound : Nat) (t : Text), t.length ≤ bound → Cuts t (fragmentsWithin bound t) from
    within _ t (Nat.le_refl _)
  intro bound
  induction bound with
  | zero =>
      intro t empty
      rw [List.length_eq_zero_iff.mp (Nat.le_zero.mp empty), fragmentsWithin]
      exact .nil
  | succ bound ih =>
      intro t enough
      cases t with
      | nil => exact .nil
      | cons c t =>
          obtain ⟨piece, rest, leads⟩ := exists_leads c t
          have shorter := leads.shorter
          rw [fragmentsWithin, nextFragment_eq_some_iff.mpr leads]
          exact .cons leads (ih rest (by omega))

theorem Cuts.fragments_eq {t : Text} {pieces : List Fragment} (cuts : Cuts t pieces) :
    fragments t = pieces := by
  suffices within : ∀ bound, t.length ≤ bound → fragmentsWithin bound t = pieces from
    within _ (Nat.le_refl _)
  induction cuts with
  | nil =>
      intro bound _
      cases bound <;> rfl
  | cons leads _ ih =>
      intro bound enough
      have shorter := leads.shorter
      cases bound with
      | zero => omega
      | succ bound =>
          rw [fragmentsWithin, nextFragment_eq_some_iff.mpr leads]
          exact congrArg _ (ih bound (by omega))

/-- Plain characters are cut off one by one. -/
theorem Cuts.append_plain {s t : Text} {pieces : List Fragment} (cuts : Cuts t pieces)
    (plain : ∀ c ∈ s, isPlain c = true) :
    Cuts (s ++ t) (s.map (fun c => .verbatim [c]) ++ pieces) := by
  induction s with
  | nil => exact cuts
  | cons c s ih =>
      have isPlain := plain c List.mem_cons_self
      simp only [ClassHarvest.Pattern.isPlain, Bool.and_eq_true, bne_iff_ne] at isPlain
      refine .cons (.single (groupOpening_eq_none_of_ne isPlain.1 _) fun same => ?_)
        (ih fun d mem => plain d (List.mem_cons_of_mem c mem))
      exact absurd same isPlain.2

/-! ## Pieces written down -/

/-- A piece in the spelling of the reader. -/
def Fragment.written : Fragment → Text
  | .group name => ('(' : CodePoint) :: ('?' : CodePoint) :: ('P' : CodePoint) :: bracketed name
  | .reference name =>
    ('(' : CodePoint) :: ('?' : CodePoint) :: ('P' : CodePoint) :: ('=' : CodePoint) ::
      (name ++ [(')' : CodePoint)])
  | .verbatim text => text

/-- The pieces into which a written piece is cut. -/
def Fragment.recut : Fragment → List Fragment
  | .reference name => (Fragment.reference name).written.map fun c => .verbatim [c]
  | piece => [piece]

/-- Two pieces that differ at most in the name of a group. -/
inductive SamePiece : Fragment → Fragment → Prop
  /-- The names of a group. -/
  | group {name other : Text} (isName : IsGroupName other) : SamePiece (.group name) (.group other)
  /-- References have the same name. -/
  | reference {name : Text} : SamePiece (.reference name) (.reference name)
  /-- Other pieces are the same. -/
  | verbatim {text : Text} : SamePiece (.verbatim text) (.verbatim text)

/-- A pattern that is written down with other names for its groups is cut into the same pieces, except
that references are no pieces any more. -/
theorem Cuts.written {t : Text} {pieces others : List Fragment} (cuts : Cuts t pieces)
    (same : List.Forall₂ SamePiece pieces others) :
    Cuts (others.flatMap Fragment.written) (others.flatMap Fragment.recut) ∧
      front (others.flatMap Fragment.written) = front t := by
  induction cuts generalizing others with
  | nil =>
      cases same
      exact ⟨.nil, rfl⟩
  | @cons t rest piece pieces leads behind ih =>
      cases same with
      | @cons _ other _ others samePiece sames =>
      obtain ⟨cuts, sameFront⟩ := ih sames
      rw [List.flatMap_cons, List.flatMap_cons]
      cases leads with
      | @reference name _ isName =>
          cases samePiece
          have plain : ∀ c ∈ ('?' : CodePoint) :: ('P' : CodePoint) :: ('=' : CodePoint) ::
              (name ++ [(')' : CodePoint)]), isPlain c = true := by
            simp only [List.forall_mem_cons, List.forall_mem_append]
            exact ⟨by decide, by decide, by decide, isName.plain, by decide⟩
          exact ⟨.cons (.single (groupOpening_eq_none_of_equals _) fun isBackslash =>
            absurd isBackslash (by decide)) (cuts.append_plain plain), rfl⟩
      | group isLetter _ =>
          cases samePiece with
          | group isName => exact ⟨.cons (.group (Or.inr rfl) isName) cuts, rfl⟩
      | @escape d _ sameLine refuses =>
          cases samePiece
          refine ⟨.cons (.escape sameLine ?_) cuts, rfl⟩
          by_cases isK : d.val = 107
          · obtain rfl : d = 'k' := CodePoint.val_inj isK
            exact referenceOpening_eq_none_of_front sameFront refuses
          · exact if_neg (by simpa using fun _ => isK)
      | @single c _ refuses alone =>
          cases samePiece
          have sameFront' : front (c :: others.flatMap Fragment.written) = front (c :: rest) := by
            unfold front at sameFront ⊢
            rw [List.takeWhile_cons, List.takeWhile_cons, sameFront]
          refine ⟨.cons (.single ?_ fun isBackslash d mem => ?_) cuts, sameFront'⟩
          · by_cases opens : c.val = 40
            · obtain rfl : c = '(' := CodePoint.val_inj opens
              exact groupOpening_eq_none_of_front sameFront refuses
            · exact groupOpening_eq_none_of_ne opens _
          · cases behind with
            | nil =>
                cases sames
                cases mem
            | @cons _ _ _ _ leads _ =>
                obtain ⟨e, rest', rfl⟩ := List.exists_cons_of_length_pos (Nat.zero_lt_of_lt leads.shorter)
                have newline := alone isBackslash e rfl
                have plain : ∀ c ∈ [e], isPlain c = true := by simp [isPlain, newline]
                obtain ⟨after, isWritten⟩ := exists_of_front_eq plain sameFront
                rw [isWritten] at mem
                cases mem
                exact newline

end ClassHarvest.Pattern
