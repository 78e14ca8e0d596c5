import ClassHarvest.Pattern.ClassPattern
import ClassHarvest.Proofs.Pattern.Branches
import ClassHarvest.Proofs.Pattern.Definite
import ClassHarvest.Proofs.Pattern.Fragments
import Mathlib.Data.List.Nodup

/-!
# Patterns that differ in names

Two patterns that differ only in the names of groups, one standing alone and the other one inside a
group of a larger pattern, are read to expressions that differ only in the numbers of groups.
-/

namespace ClassHarvest.Pattern

/-! ## Texts -/

/-- A token that stands for itself outside of sets: no opening of a group or set and no number of a
group.  An escaped digit is none if it is zero, or one of the three digits of a character. -/
def Token.IsPart (octal : Prop) : Token → Prop
  | .plain c => c ∉ ("([" : Text)
  | .escaped c => c.isAsciiDigit = true → c.val = 48 ∨ c.isOctalDigit = true ∧ octal

theorem Token.IsPart.mono {octal octal' : Prop} {t : Token} (part : t.IsPart octal)
    (behind : octal → octal') : t.IsPart octal' := by
  cases t with
  | plain c => exact part
  | escaped c => exact fun isDigit => (part isDigit).imp_right fun digits => ⟨digits.1, behind digits.2⟩

/-- A text begins with two octal digits. -/
def BeginsOctal (rest : Text) : Prop :=
  ∃ a b behind, rest = a :: b :: behind ∧ a.isOctalDigit = true ∧ b.isOctalDigit = true

/-- Two patterns in the spelling of the reader with the names of their groups, which differ in these
names only.  Groups are called differently only if their names are not kept, and all references are to
names that are kept. -/
inductive Twins (kept : Text → Prop) : Text → List Text → Text → List Text → Prop
  /-- Nothing. -/
  | nil : Twins kept [] [] [] []
  /-- A token. -/
  | token {t : Token} {u u' : Text} {names names' : List Text} (proper : t.IsProper)
      (part : t.IsPart (BeginsOctal u)) (behind : Twins kept u names u' names') : Twins kept (t.text ++ u) names (t.text ++ u') names'
  /-- A set. -/
  | set {body : List Token} {u u' : Text} {names names' : List Text} (isBody : IsSetBody body)
      (proper : ∀ t ∈ body, t.IsProper) (behind : Twins kept u names u' names') :
      Twins kept (('[' : CodePoint) :: (texts body ++ (']' : CodePoint) :: u)) names
        (('[' : CodePoint) :: (texts body ++ (']' : CodePoint) :: u')) names'
  /-- The opening of a group without a name. -/
  | opening {u u' : Text} {names names' : List Text} (bare : u.head? ≠ some ('?' : CodePoint))
      (bare' : u'.head? ≠ some ('?' : CodePoint)) (behind : Twins kept u names u' names') :
      Twins kept (('(' : CodePoint) :: u) names (('(' : CodePoint) :: u') names'
  /-- The opening of a group that does not capture. -/
  | bundle {c : CodePoint} {u u' : Text} {names names' : List Text} (kind : c = ':' ∨ c = '>')
      (behind : Twins kept u names u' names') :
      Twins kept (('(' : CodePoint) :: ('?' : CodePoint) :: c :: u) names
        (('(' : CodePoint) :: ('?' : CodePoint) :: c :: u') names'
  /-- A comment. -/
  | comment {body : List Token} {u u' : Text} {names names' : List Text}
      (proper : ∀ t ∈ body, t.IsProper) (inside : .plain ')' ∉ body)
      (behind : Twins kept u names u' names') :
      Twins kept (('(' : CodePoint) :: ('?' : CodePoint) :: ('#' : CodePoint) ::
          (texts body ++ (')' : CodePoint) :: u)) names
        (('(' : CodePoint) :: ('?' : CodePoint) :: ('#' : CodePoint) ::
          (texts body ++ (')' : CodePoint) :: u')) names'
  /-- The opening of a group with a name. -/
  | group {name name' u u' : Text} {names names' : List Text} (isName : IsGroupName name)
      (isName' : IsGroupName name') (keeps : kept name → name' = name)
      (behind : Twins kept u names u' names') :
      Twins kept ((Fragment.group name).written ++ u) (name :: names)
        ((Fragment.group name').written ++ u') (name' :: names')
  /-- A reference. -/
  | reference {name u u' : Text} {names names' : List Text} (isName : IsGroupName name)
      (isKept : kept name) (behind : Twins kept u names u' names') :
      Twins kept ((Fragment.reference name).written ++ u) names
        ((Fragment.reference name).written ++ u') names'

variable {kept : Text → Prop} {u u' : Text} {names names' : List Text}

theorem stops_cons {c : CodePoint} (stop : c ∈ (")([]" : Text)) (rest : Text) : Stops (c :: rest) := by
  intro d mem
  obtain rfl : c = d := Option.some.inj mem
  exact stop

theorem stops_nil : Stops [] :=
  nofun

theorem Stops.append {rest : Text} (stops : Stops rest) (behind : Text) :
    Stops (rest ++ (')' : CodePoint) :: behind) := by
  cases rest with
  | nil => exact stops_cons (by decide) _
  | cons c rest => exact stops_cons (stops c rfl) _

/-- The tokens that both patterns begin with. -/
theorem Twins.exists_tokens (twins : Twins kept u names u' names') :
    ∃ ts rest rest', u = texts ts ++ rest ∧ u' = texts ts ++ rest' ∧ (∀ t ∈ ts, t.IsProper) ∧
      Stops rest ∧ Stops rest' ∧
        ∀ ts', ts' <:+ ts → Twins kept (texts ts' ++ rest) names (texts ts' ++ rest') names' := by
  have noTokens {c : CodePoint} {rest rest' : Text} {names names' : List Text}
      (stop : c ∈ (")([]" : Text)) (twins : Twins kept (c :: rest) names (c :: rest') names') :
      ∃ ts more more', c :: rest = texts ts ++ more ∧ c :: rest' = texts ts ++ more' ∧
        (∀ t ∈ ts, t.IsProper) ∧ Stops more ∧ Stops more' ∧
          ∀ ts', ts' <:+ ts → Twins kept (texts ts' ++ more) names (texts ts' ++ more') names' := by
    refine ⟨[], _, _, rfl, rfl, List.forall_mem_nil _, stops_cons stop _, stops_cons stop _, ?_⟩
    intro ts' suffix
    obtain rfl := List.suffix_nil.mp suffix
    exact twins
  induction twins with
  | nil =>
      refine ⟨[], [], [], rfl, rfl, List.forall_mem_nil _, stops_nil, stops_nil, ?_⟩
      intro ts' suffix
      obtain rfl := List.suffix_nil.mp suffix
      exact .nil
  | @token t _ _ _ _ proper part behind ih =>
      obtain ⟨ts, rest, rest', rfl, rfl, propers, stops, stops', ends⟩ := ih
      refine ⟨t :: ts, rest, rest', (texts_cons_append t ts rest).symm,
        (texts_cons_append t ts rest').symm, List.forall_mem_cons.mpr ⟨proper, propers⟩, stops, stops',
        fun ts' suffix => ?_⟩
      rcases List.suffix_cons_iff.mp suffix with rfl | suffix
      · rw [texts_cons_append, texts_cons_append]
        exact .token proper part (ends ts (List.suffix_refl ts))
      · exact ends ts' suffix
  | set isBody proper behind => exact noTokens (by decide) (.set isBody proper behind)
  | opening bare bare' behind => exact noTokens (by decide) (.opening bare bare' behind)
  | bundle kind behind => exact noTokens (by decide) (.bundle kind behind)
  | comment proper inside behind => exact noTokens (by decide) (.comment proper inside behind)
  | group isName isName' keeps behind => exact noTokens (by decide) (.group isName isName' keeps behind)
  | reference isName isKept behind => exact noTokens (by decide) (.reference isName isKept behind)

/-! ## Two readers -/

/-- Two patterns that are read side by side.  The first one stands alone, the second one inside a
group. -/
structure Comparison where
  /-- The pattern that stands alone. -/
  left : Array CodePoint
  /-- The pattern with the group. -/
  right : Array CodePoint
  /-- What follows the group. -/
  tail : Text
  /-- The number of groups in front of the group. -/
  amount : Nat
  /-- Their names. -/
  earlier : List (Text × Nat)
  /-- The names that are the same in both patterns. -/
  kept : Text → Prop
  /-- The names of all groups of the first pattern. -/
  names : List Text
  /-- The names of all groups of the second pattern up to the end of the group. -/
  names' : List Text

/-- The groups that both readers met, with the names of those that they will meet. -/
structure Comparison.Groups (w : Comparison) (names names' : List Text) (s s' : ReadState) : Prop where
  /-- The groups have the same numbers but for those of the groups in front. -/
  numbers : s'.widths.length = s.widths.length + w.amount
  /-- Group zero is open. -/
  begun : 0 < s.widths.length
  /-- The names of the groups. -/
  entries : ∃ own, s'.names = w.earlier ++ own ∧ List.Forall₂ (fun entry entry' : Text × Nat =>
    0 < entry.2 ∧ entry'.2 = entry.2 + w.amount ∧ (w.kept entry.1 → entry'.1 = entry.1)) s.names own
  /-- Groups are numbered as they are met. -/
  bounded : ∀ entry ∈ s.names, entry.2 < s.widths.length
  /-- No two groups of the first pattern have the same name. -/
  nodup : (s.names.map (·.1)).Nodup
  /-- No two groups of the second pattern have the same name. -/
  nodup' : (s'.names.map (·.1)).Nodup
  /-- The names of all groups of the first pattern. -/
  all : s.names.map (·.1) ++ names = w.names
  /-- The names of all groups of the second pattern. -/
  all' : s'.names.map (·.1) ++ names' = w.names'
  /-- The flags are those for class patterns. -/
  flags : s.flags = classFlags
  /-- The flags are those for class patterns. -/
  flags' : s'.flags = classFlags

/-- Both readers have come to the same place. -/
def Comparison.Abreast (w : Comparison) (s s' : ReadState) : Prop :=
  ∃ u names u' names', Twins w.kept u names u' names' ∧ s.Stands w.left u ∧
    s'.Stands w.right (u' ++ (')' : CodePoint) :: w.tail) ∧ w.Groups names names' s s'

section

variable {w : Comparison} {s s' t t' : ReadState} {α : Type}

theorem Comparison.Groups.of_same (groups : w.Groups names names' s s') (same : s.SameGroups t)
    (same' : s'.SameGroups t') : w.Groups names names' t t' where
  numbers := by rw [same.widths, same'.widths, groups.numbers]
  begun := by rw [same.widths]; exact groups.begun
  entries := by rw [same.names, same'.names]; exact groups.entries
  bounded := by rw [same.names, same.widths]; exact groups.bounded
  nodup := by rw [same.names]; exact groups.nodup
  nodup' := by rw [same'.names]; exact groups.nodup'
  all := by rw [same.names]; exact groups.all
  all' := by rw [same'.names]; exact groups.all'
  flags := same.flags.trans groups.flags
  flags' := same'.flags.trans groups.flags'

/-- Single parts are read in the same way on both sides. -/
theorem Comparison.Abreast.definite (abreast : w.Abreast s s') {x : Read α} (definite : Definite x)
    {a b : α} (given : x.Gives w.left s a t) (given' : x.Gives w.right s' b t') :
    b = a ∧ t.names = s.names ∧ w.Abreast t t' := by
  obtain ⟨u, names, u', names', twins, stands, stands', groups⟩ := abreast
  obtain ⟨ts, rest, rest', rfl, rfl, propers, stops, stops', ends⟩ := twins.exists_tokens
  let sides : Sides := ⟨w.left, w.right, rest, rest' ++ (')' : CodePoint) :: w.tail, stops, stops'.append _⟩
  have face : sides.Face ts s s' := ⟨propers, stands, by rwa [List.append_assoc] at stands'⟩
  obtain ⟨rfl, same, same', ts', suffix, face⟩ := definite.agree face _ _ _ _ given given'
  refine ⟨rfl, same.names, _, _, _, _, ends ts' suffix, face.left, ?_, groups.of_same same same'⟩
  rw [List.append_assoc]
  exact face.right

theorem next_of_plain {pattern : Array CodePoint} {c : CodePoint} {rest : Text} (proper : c.val ≠ 92)
    (stands : s.Stands pattern (c :: rest)) : s.next = some (.plain c) := by
  have isProper : (Token.plain c).IsProper := proper
  exact ReadState.Stands.next_token isProper
    (show s.Stands pattern ((Token.plain c).text ++ rest) from stands)

/-- A token other than an opening stands next in both patterns. -/
theorem Twins.exists_of_next (twins : Twins kept u names u' names') {pattern : Array CodePoint}
    (stands : s.Stands pattern u) {t : Token} (next : s.next = some t)
    (other : ∀ c ∈ ("([" : Text), t ≠ .plain c) : t.IsProper ∧ ∃ v v', u = t.text ++ v ∧
      u' = t.text ++ v' ∧ Twins kept v names v' names' := by
  have opens {c : CodePoint} {rest : Text} (isOpening : c ∈ ("([" : Text))
      (stands : s.Stands pattern (c :: rest)) : False := by
    have all : ∀ c ∈ ("([" : Text), c.val ≠ 92 := by decide
    have isNext := next_of_plain (all c isOpening) stands
    exact other c isOpening (Option.some.inj (next.symm.trans isNext))
  cases twins with
  | nil => cases next.symm.trans stands.next_nil
  | token proper part behind =>
      obtain rfl := Option.some.inj (next.symm.trans (stands.next_token proper))
      exact ⟨proper, _, _, rfl, rfl, behind⟩
  | set => exact (opens (by decide) stands).elim
  | opening => exact (opens (by decide) stands).elim
  | bundle => exact (opens (by decide) stands).elim
  | comment => exact (opens (by decide) stands).elim
  | group => exact (opens (by decide) stands).elim
  | reference => exact (opens (by decide) stands).elim

/-- The parenthesis that closes a group is read on both sides. -/
theorem Comparison.Abreast.closeParenthesis (abreast : w.Abreast s s') {start start' : Nat} {x x' : Unit}
    (given : (closeParenthesis start).Gives w.left s x t)
    (given' : (Pattern.closeParenthesis start').Gives w.right s' x' t') :
    t.names = s.names ∧ w.Abreast t t' := by
  obtain ⟨u, names, u', names', twins, stands, stands', groups⟩ := abreast
  rw [Read.gives_closeParenthesis] at given given'
  rcases Read.gives_accept.mp given with ⟨next, -, _, advances⟩ | ⟨_, fails, _⟩
  · rcases Read.gives_accept.mp given' with ⟨-, -, _, advances'⟩ | ⟨_, fails, _⟩
    · obtain ⟨proper, v, v', rfl, rfl, behind⟩ := twins.exists_of_next stands next (by decide)
      rw [List.append_assoc] at stands'
      obtain ⟨left, same⟩ := Read.stands_of_advance proper stands advances
      obtain ⟨right, same'⟩ := Read.stands_of_advance proper stands' advances'
      exact ⟨same.names, v, names, v', names', behind, left, right, groups.of_same same same'⟩
    · cases fails
  · cases fails

/-! ## Groups -/

theorem Comparison.Groups.open (groups : w.Groups names names' s s') : w.Groups names names'
    { s with widths := s.widths ++ [none] } { s' with widths := s'.widths ++ [none] } where
  numbers := by
    rw [List.length_append, List.length_append, groups.numbers]
    exact Nat.add_right_comm _ _ _
  begun := by
    rw [List.length_append]
    exact Nat.add_pos_left groups.begun _
  entries := groups.entries
  bounded entry mem := by
    rw [List.length_append]
    exact Nat.lt_add_right 1 (groups.bounded entry mem)
  nodup := groups.nodup
  nodup' := groups.nodup'
  all := groups.all
  all' := groups.all'
  flags := groups.flags
  flags' := groups.flags'

theorem nodup_of_lookup {entries : List (Text × Nat)} (nodup : (entries.map (·.1)).Nodup) {name : Text}
    (isNew : entries.lookup name = none) (number : Nat) :
    ((entries ++ [(name, number)]).map (·.1)).Nodup := by
  rw [List.map_append, List.map_singleton, List.nodup_append]
  refine ⟨nodup, List.nodup_singleton _, ?_⟩
  intro key mem other isName same
  obtain rfl := List.mem_singleton.mp isName
  obtain ⟨entry, isEntry, rfl⟩ := List.mem_map.mp mem
  have absent := List.lookup_eq_none_iff.mp isNew entry isEntry
  simp [same] at absent

theorem Comparison.Groups.openNamed {name name' : Text}
    (groups : w.Groups (name :: names) (name' :: names') s s') (keeps : w.kept name → name' = name)
    (isNew : s.names.lookup name = none) (isNew' : s'.names.lookup name' = none) :
    w.Groups names names'
      { s with widths := s.widths ++ [none], names := s.names ++ [(name, s.widths.length)] }
      { s' with widths := s'.widths ++ [none], names := s'.names ++ [(name', s'.widths.length)] } where
  numbers := groups.open.numbers
  begun := groups.open.begun
  entries := by
    obtain ⟨own, front, entries⟩ := groups.entries
    refine ⟨own ++ [(name', s'.widths.length)], by rw [front, List.append_assoc], ?_⟩
    exact List.rel_append entries (.cons ⟨groups.begun, groups.numbers, keeps⟩ .nil)
  bounded := by
    rw [List.forall_mem_append, List.forall_mem_singleton]
    refine ⟨groups.open.bounded, ?_⟩
    rw [List.length_append]
    exact Nat.lt_succ_self _
  nodup := nodup_of_lookup groups.nodup isNew _
  nodup' := nodup_of_lookup groups.nodup' isNew' _
  all := by rw [← groups.all, List.map_append, List.append_assoc]; rfl
  all' := by rw [← groups.all', List.map_append, List.append_assoc]; rfl
  flags := groups.flags
  flags' := groups.flags'

theorem Comparison.Groups.close (groups : w.Groups names names' s s') (index index' : Nat)
    (width width' : Option Width) : w.Groups names names'
      { s with widths := s.widths.set index width } { s' with widths := s'.widths.set index' width' } where
  numbers := by
    rw [List.length_set, List.length_set]
    exact groups.numbers
  begun := by
    rw [List.length_set]
    exact groups.begun
  entries := groups.entries
  bounded := by
    rw [List.length_set]
    exact groups.bounded
  nodup := groups.nodup
  nodup' := groups.nodup'
  all := groups.all
  all' := groups.all'
  flags := groups.flags
  flags' := groups.flags'

/-- Two readers of alternatives give the same expressions but for the numbers of groups, and leave the
same text.  If they give leaves only, they met no group with a name. -/
def Comparison.Reads (w : Comparison) (x y : Read (List Regex)) : Prop :=
  ∀ {s s'}, w.Abreast s s' → ∀ {a b t t'}, x.Gives w.left s a t → y.Gives w.right s' b t' →
    List.Forall₂ (Moved w.amount) a b ∧ w.Abreast t t' ∧ ((∀ r ∈ a, r.IsLeaf) → t.names = s.names)

variable {inner inner' : Readers} {start start' : Nat} {r r' : Regex}

/-- The rest of a group behind its opening. -/
theorem Comparison.Reads.readCapture (reads : w.Reads (inner.alternatives false false)
    (inner'.alternatives false false)) {name name' : Option Text}
    (opens : ∀ {index index' t t'}, (openGroup name).Gives w.left s index t →
      (openGroup name').Gives w.right s' index' t' → 0 < index ∧ index' = index + w.amount ∧ w.Abreast t t')
    (given : (readCapture inner false start name).Gives w.left s r t)
    (given' : (Pattern.readCapture inner' false start' name').Gives w.right s' r' t') :
    Moved w.amount r r' ∧ ¬ r.IsLeaf ∧ w.Abreast t t' := by
  unfold Pattern.readCapture at given given'
  obtain ⟨index, s₁, isOpened, given⟩ := Read.gives_bind.mp given
  obtain ⟨index', s₁', isOpened', given'⟩ := Read.gives_bind.mp given'
  obtain ⟨numbered, rfl, abreast⟩ := opens isOpened isOpened'
  obtain ⟨body, s₂, isRead, given⟩ := Read.gives_bind.mp given
  obtain ⟨body', s₂', isRead', given'⟩ := Read.gives_bind.mp given'
  obtain ⟨moved, abreast, -⟩ := reads abreast isRead isRead'
  obtain ⟨_, s₃, closes, given⟩ := Read.gives_bind.mp given
  obtain ⟨_, s₃', closes', given'⟩ := Read.gives_bind.mp given'
  obtain ⟨-, u, names, u', names', twins, stands, stands', groups⟩ :=
    abreast.closeParenthesis closes closes'
  rw [Read.gives_get_bind] at given given'
  unfold closeGroup at given given'
  obtain ⟨_, s₄, modifies, last⟩ := Read.gives_bind.mp given
  obtain ⟨_, s₄', modifies', last'⟩ := Read.gives_bind.mp given'
  obtain rfl := Read.gives_modify.mp modifies
  obtain rfl := Read.gives_modify.mp modifies'
  obtain ⟨rfl, rfl⟩ := Read.gives_pure.mp last
  obtain ⟨rfl, rfl⟩ := Read.gives_pure.mp last'
  refine ⟨.capture numbered (Moved.sequence moved), nofun, u, names, u', names', twins, ?_, ?_, ?_⟩
  · exact Read.stands_of_place stands rfl rfl
  · exact Read.stands_of_place stands' rfl rfl
  · exact groups.close _ _ _ _

/-! ## Extensions -/

/-- The same part of a branch, with the numbers of its groups moved up. -/
inductive MovedPiece (amount : Nat) : Piece → Piece → Prop
  /-- An expression. -/
  | single {r r' : Regex} (moved : Moved amount r r') : MovedPiece amount (.single r) (.single r')
  /-- The expressions of a group without number and flags. -/
  | bundle {rs rs' : List Regex} (moved : List.Forall₂ (Moved amount) rs rs') :
      MovedPiece amount (.bundle rs) (.bundle rs')

/-- The same addition to a branch, with the numbers of its groups moved up. -/
inductive MovedOpened (amount : Nat) : Opened → Opened → Prop
  /-- A part. -/
  | piece {piece piece' : Piece} (moved : MovedPiece amount piece piece') :
      MovedOpened amount (.piece piece) (.piece piece')
  /-- Nothing. -/
  | nothing : MovedOpened amount .nothing .nothing

/-- The parts that are added to a branch. -/
def Opened.parts : Opened → List Piece
  | .piece part => [part]
  | .nothing | .globalFlags => []

/-- All parts are leaves. -/
def Plain (pieces : List Piece) : Prop :=
  ∀ piece ∈ pieces, ∀ r ∈ piece.expressions, r.IsLeaf

theorem plain_cons {piece : Piece} {pieces : List Piece} :
    Plain (piece :: pieces) ↔ (∀ r ∈ piece.expressions, r.IsLeaf) ∧ Plain pieces :=
  List.forall_mem_cons

theorem plain_single {r : Regex} {pieces : List Piece} :
    Plain (.single r :: pieces) ↔ r.IsLeaf ∧ Plain pieces := by
  rw [plain_cons, Piece.expressions, List.forall_mem_singleton]

/-- Two readers add the same to a branch but for the numbers of groups, and leave the same text.  If
they add leaves only, they met no group with a name. -/
def Comparison.Opens (w : Comparison) (s s' : ReadState) (x y : Read Opened) : Prop :=
  ∀ {a b t t'}, x.Gives w.left s a t → y.Gives w.right s' b t' → MovedOpened w.amount a b ∧
    w.Abreast t t' ∧ (Plain a.parts → t.names = s.names)

/-- A group that does not capture. -/
theorem Comparison.Reads.opens_bundle (reads : w.Reads (inner.alternatives false false)
    (inner'.alternatives false false)) {c : CodePoint} (kind : c = ':' ∨ c = '>')
    (twins : Twins w.kept u names u' names') (stands : s.Stands w.left (c :: u))
    (stands' : s'.Stands w.right (c :: u' ++ (')' : CodePoint) :: w.tail))
    (groups : w.Groups names names' s s') :
    w.Opens s s' (readExtension inner false start) (readExtension inner' false start') := by
  intro a b t t' given given'
  unfold readExtension at given given'
  have isProper : (Token.plain c).IsProper :=
    Token.isProper_plain (by rcases kind with rfl | rfl <;> decide)
  obtain ⟨s₁, stands, same, given⟩ := Read.exists_of_take_bind isProper stands given
  obtain ⟨s₁', stands', same', given'⟩ := Read.exists_of_take_bind isProper stands' given'
  have abreast : w.Abreast s₁ s₁' :=
    ⟨u, names, u', names', twins, stands, stands', groups.of_same same same'⟩
  rcases kind with rfl | rfl
  · obtain ⟨body, s₂, isRead, given⟩ := Read.gives_bind.mp given
    obtain ⟨body', s₂', isRead', given'⟩ := Read.gives_bind.mp given'
    obtain ⟨moved, abreast, leaves⟩ := reads abreast isRead isRead'
    obtain ⟨_, s₃, closes, last⟩ := Read.gives_bind.mp given
    obtain ⟨_, s₃', closes', last'⟩ := Read.gives_bind.mp given'
    obtain ⟨kept, abreast⟩ := abreast.closeParenthesis closes closes'
    obtain ⟨rfl, rfl⟩ := Read.gives_pure.mp last
    obtain ⟨rfl, rfl⟩ := Read.gives_pure.mp last'
    exact ⟨.piece (.bundle moved), abreast, fun isLeaf =>
      kept.trans ((leaves (plain_cons.mp isLeaf).1).trans same.names)⟩
  · obtain ⟨body, s₂, isRead, given⟩ := Read.gives_bind.mp given
    obtain ⟨body', s₂', isRead', given'⟩ := Read.gives_bind.mp given'
    obtain ⟨moved, abreast, -⟩ := reads abreast isRead isRead'
    obtain ⟨_, s₃, closes, last⟩ := Read.gives_bind.mp given
    obtain ⟨_, s₃', closes', last'⟩ := Read.gives_bind.mp given'
    obtain ⟨-, abreast⟩ := abreast.closeParenthesis closes closes'
    obtain ⟨rfl, rfl⟩ := Read.gives_pure.mp last
    obtain ⟨rfl, rfl⟩ := Read.gives_pure.mp last'
    refine ⟨.piece (.single (.atomic (Moved.sequence moved))), abreast, fun isLeaf => ?_⟩
    cases (plain_single.mp isLeaf).1

/-- A comment. -/
theorem Comparison.opens_comment {body : List Token} (proper : ∀ t ∈ body, t.IsProper)
    (inside : .plain ')' ∉ body) (twins : Twins w.kept u names u' names')
    (stands : s.Stands w.left (('#' : CodePoint) :: (texts body ++ (')' : CodePoint) :: u)))
    (stands' : s'.Stands w.right (('#' : CodePoint) :: (texts body ++ (')' : CodePoint) ::
      (u' ++ (')' : CodePoint) :: w.tail))))
    (groups : w.Groups names names' s s') :
    w.Opens s s' (readExtension inner false start) (readExtension inner' false start') := by
  intro a b t t' given given'
  unfold readExtension at given given'
  have isProper : (Token.plain '#').IsProper := Token.isProper_plain (by decide)
  obtain ⟨s₁, stands, same, given⟩ := Read.exists_of_take_bind isProper stands given
  obtain ⟨s₁', stands', same', given'⟩ := Read.exists_of_take_bind isProper stands' given'
  obtain ⟨_, s₂, skips, last⟩ := Read.gives_bind.mp (Read.gives_rounds_bind.mp given)
  obtain ⟨_, s₂', skips', last'⟩ := Read.gives_bind.mp (Read.gives_rounds_bind.mp given')
  obtain ⟨rfl, rfl⟩ := Read.gives_pure.mp last
  obtain ⟨rfl, rfl⟩ := Read.gives_pure.mp last'
  obtain ⟨stands, more⟩ := stands_of_skipComment proper inside stands skips
  obtain ⟨stands', more'⟩ := stands_of_skipComment proper inside stands' skips'
  exact ⟨.nothing, ⟨u, names, u', names', twins, stands, stands',
    groups.of_same (same.trans more) (same'.trans more')⟩, fun _ => (same.trans more).names⟩

theorem lookup_of_mem {entries : List (Text × Nat)} (nodup : (entries.map (·.1)).Nodup) {name : Text}
    {number : Nat} (mem : (name, number) ∈ entries) : entries.lookup name = some number := by
  obtain ⟨front, behind, rfl⟩ := List.append_of_mem mem
  rw [List.lookup_eq_some_iff]
  refine ⟨front, behind, rfl, fun entry isEntry => ?_⟩
  rw [List.map_append, List.map_cons, List.nodup_append] at nodup
  simpa using (nodup.2.2 _ (List.mem_map_of_mem isEntry) _ List.mem_cons_self).symm

theorem mem_of_lookup {entries : List (Text × Nat)} {name : Text} {number : Nat}
    (found : entries.lookup name = some number) : (name, number) ∈ entries := by
  obtain ⟨front, behind, rfl, _⟩ := List.lookup_eq_some_iff.mp found
  exact List.mem_append_right front List.mem_cons_self

/-- A name that is kept refers to the same group in both patterns. -/
theorem Comparison.Groups.lookup (groups : w.Groups names names' s s') {name : Text}
    (isKept : w.kept name) {number number' : Nat} (found : s.names.lookup name = some number)
    (found' : s'.names.lookup name = some number') : 0 < number ∧ number' = number + w.amount := by
  obtain ⟨own, front, entries⟩ := groups.entries
  obtain ⟨i, inside, isEntry⟩ := List.getElem_of_mem (mem_of_lookup found)
  have inside' : i < own.length := entries.length_eq ▸ inside
  obtain ⟨numbered, moved, keeps⟩ := entries.get inside inside'
  rw [List.get_eq_getElem, List.get_eq_getElem, isEntry] at moved keeps
  rw [List.get_eq_getElem, isEntry] at numbered
  have same : own[i] = (name, number + w.amount) := Prod.ext (keeps isKept) moved
  have mem : (name, number + w.amount) ∈ s'.names := by
    rw [front, ← same]
    exact List.mem_append_right _ (List.getElem_mem _)
  have here := lookup_of_mem groups.nodup' mem
  exact ⟨numbered, Option.some.inj (found'.symm.trans here)⟩

/-- Behind its name a group is read as one that captures. -/
theorem exists_of_readNamed_group {pattern : Array CodePoint} {name rest : Text} {a : Opened}
    (isName : IsGroupName name) (stands : s.Stands pattern (('P' : CodePoint) :: (bracketed name ++ rest)))
    (given : (readExtension inner false start).Gives pattern s a t) :
    ∃ s₁ r, s₁.Stands pattern rest ∧ s.SameGroups s₁ ∧
      (readCapture inner false start (some name)).Gives pattern s₁ r t ∧ a = .piece (.single r) := by
  rw [bracketed_append] at stands
  unfold readExtension at given
  obtain ⟨s₁, stands, same, given⟩ :=
    Read.exists_of_take_bind (Token.isProper_plain (by decide)) stands given
  replace given : (readNamed inner false start).Gives pattern s₁ a t := given
  unfold readNamed at given
  obtain ⟨s₂, stands, same₂, given⟩ := Read.exists_of_accept_bind (by decide) stands given
  obtain ⟨name', s₃, isRead, given⟩ := Read.gives_bind.mp given
  have plain : ∀ c ∈ name, c.val ≠ 92 ∧ c ≠ ('>' : CodePoint) :=
    isName.ne_of_mem (by decide) (by decide +kernel) (by decide)
  obtain ⟨rfl, stands, same₃⟩ := Read.stands_of_groupName (by decide) plain stands isRead
  obtain ⟨r, s₄, captures, last⟩ := Read.gives_bind.mp given
  obtain ⟨rfl, rfl⟩ := Read.gives_pure.mp last
  exact ⟨s₃, r, stands, same.trans (same₂.trans same₃), captures, rfl⟩

/-- A group with a name. -/
theorem Comparison.Reads.opens_group (reads : w.Reads (inner.alternatives false false)
    (inner'.alternatives false false)) {name name' : Text} (isName : IsGroupName name)
    (isName' : IsGroupName name') (keeps : w.kept name → name' = name)
    (twins : Twins w.kept u names u' names')
    (stands : s.Stands w.left (('P' : CodePoint) :: (bracketed name ++ u)))
    (stands' : s'.Stands w.right (('P' : CodePoint) :: (bracketed name' ++
      (u' ++ (')' : CodePoint) :: w.tail))))
    (groups : w.Groups (name :: names) (name' :: names') s s') :
    w.Opens s s' (readExtension inner false start) (readExtension inner' false start') := by
  intro a b t t' given given'
  obtain ⟨s₁, r, stands, same, captures, rfl⟩ := exists_of_readNamed_group isName stands given
  obtain ⟨s₁', r', stands', same', captures', rfl⟩ := exists_of_readNamed_group isName' stands' given'
  have groups := groups.of_same same same'
  obtain ⟨moved, noLeaf, abreast⟩ := reads.readCapture (fun isOpened isOpened' => by
    obtain ⟨isNew, rfl, rfl⟩ := Read.gives_openGroup_some isOpened
    obtain ⟨isNew', rfl, rfl⟩ := Read.gives_openGroup_some isOpened'
    exact ⟨groups.begun, groups.numbers, u, names, u', names', twins,
      Read.stands_of_place stands rfl rfl, Read.stands_of_place stands' rfl rfl,
      groups.openNamed keeps isNew isNew'⟩) captures captures'
  exact ⟨.piece (.single moved), abreast, fun isLeaf =>
    absurd (plain_single.mp isLeaf).1 noLeaf⟩

/-- A reference is to the group of its name. -/
theorem exists_of_readNamed_reference {pattern : Array CodePoint} {name rest : Text} {a : Opened}
    (isName : IsGroupName name) (stands : s.Stands pattern (('P' : CodePoint) :: ('=' : CodePoint) ::
      (name ++ (')' : CodePoint) :: rest)))
    (given : (readExtension inner false start).Gives pattern s a t) :
    ∃ index, s.names.lookup name = some index ∧ a = .piece (.single (.backReference index)) ∧
      t.Stands pattern rest ∧ s.SameGroups t := by
  unfold readExtension at given
  obtain ⟨s₁, stands, same, given⟩ :=
    Read.exists_of_take_bind (Token.isProper_plain (by decide)) stands given
  replace given : (readNamed inner false start).Gives pattern s₁ a t := given
  unfold readNamed at given
  have next := next_of_plain (by decide) stands
  have given := Read.gives_of_refuse_bind (by rw [next]; decide) given
  obtain ⟨s₂, stands, same₂, given⟩ := Read.exists_of_accept_bind (by decide) stands given
  obtain ⟨r, s₃, isRead, last⟩ := Read.gives_bind.mp given
  obtain ⟨rfl, rfl⟩ := Read.gives_pure.mp last
  have plain : ∀ c ∈ name, c.val ≠ 92 ∧ c ≠ (')' : CodePoint) :=
    isName.ne_of_mem (by decide) (by decide +kernel) (by decide)
  obtain ⟨index, found, rfl, stands, same₃⟩ := Read.gives_namedReference plain stands isRead
  have same := same.trans same₂
  exact ⟨index, same.names ▸ found, rfl, stands, same.trans same₃⟩

/-- A reference. -/
theorem Comparison.opens_reference {name : Text} (isName : IsGroupName name) (isKept : w.kept name)
    (twins : Twins w.kept u names u' names')
    (stands : s.Stands w.left (('P' : CodePoint) :: ('=' : CodePoint) :: (name ++ (')' : CodePoint) :: u)))
    (stands' : s'.Stands w.right (('P' : CodePoint) :: ('=' : CodePoint) :: (name ++ (')' : CodePoint) ::
      (u' ++ (')' : CodePoint) :: w.tail))))
    (groups : w.Groups names names' s s') :
    w.Opens s s' (readExtension inner false start) (readExtension inner' false start') := by
  intro a b t t' given given'
  obtain ⟨index, found, rfl, stands, same⟩ := exists_of_readNamed_reference isName stands given
  obtain ⟨index', found', rfl, stands', same'⟩ := exists_of_readNamed_reference isName stands' given'
  obtain ⟨numbered, rfl⟩ := groups.lookup isKept found found'
  exact ⟨.piece (.single (.backReference numbered)), ⟨u, names, u', names', twins, stands, stands',
    groups.of_same same same'⟩, fun _ => same.names⟩

end

end ClassHarvest.Pattern
