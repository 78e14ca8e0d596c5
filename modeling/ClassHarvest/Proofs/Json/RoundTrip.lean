import ClassHarvest.Proofs.Gathering
import ClassHarvest.Proofs.Json.Strings
import ClassHarvest.Proofs.Text.Decimal
import ClassHarvest.Proofs.Text.Join
import Mathlib.Data.List.TakeDrop

/-!
# Reading what was written

Reading the document of a value without fractional numbers gives the value again, with three
differences: the members of objects come in the order of their names, pairs of surrogates are joined,
and a whole number with too many digits refuses the document.  `Value.reread` says what is read, and
`read_write` that it is.
-/

namespace ClassHarvest.Json

open Gathering

/-! ## Induction on values -/

/-- A property of all values follows from what items and members pass on to arrays and objects. -/
@[elab_as_elim]
theorem Value.inductionOn {motive : Value → Prop} (value : Value) (null : motive .null)
    (bool : ∀ b, motive (.bool b)) (int : ∀ n, motive (.int n)) (float : ∀ x, motive (.float x))
    (string : ∀ t, motive (.string t))
    (array : ∀ items, (∀ item ∈ items, motive item) → motive (.array items))
    (object : ∀ members : List (Text × Value), (∀ member ∈ members, motive member.2) →
      motive (.object members)) : motive value :=
  @Value.rec motive (fun items => ∀ item ∈ items, motive item)
    (fun members => ∀ member ∈ members, motive member.2) (fun member => motive member.2)
    null bool int float string array object
    (fun _ mem => absurd mem List.not_mem_nil)
    (fun _ _ first others item mem => by
      rcases List.mem_cons.mp mem with rfl | mem
      · exact first
      · exact others item mem)
    (fun _ mem => absurd mem List.not_mem_nil)
    (fun _ _ first others member mem => by
      rcases List.mem_cons.mp mem with rfl | mem
      · exact first
      · exact others member mem)
    (fun _ _ held => held) value

/-- A value that holds no number with a fraction or an exponent. -/
inductive Value.FloatFree : Value → Prop where
  | null : FloatFree .null
  | bool (b : Bool) : FloatFree (.bool b)
  | int (n : Int) : FloatFree (.int n)
  | string (t : Text) : FloatFree (.string t)
  | array {items : List Value} (all : ∀ item ∈ items, FloatFree item) : FloatFree (.array items)
  | object {members : List (Text × Value)} (all : ∀ member ∈ members, FloatFree member.2) :
      FloatFree (.object members)

/-! ## What is read -/

/-- A member whose value is read again. -/
def rereadMember (member : Text × Except Nat Value) : Except Nat (Text × Value) :=
  member.2.map (joinSurrogates member.1, ·)

mutual

/-- What becomes of a value that is written and read again; or the number of digits that refuses the
document. -/
def Value.reread : Value → Except Nat Value
  | .int n =>
    let digits := (Text.ofNat n.natAbs).length
    if Numeral.maxDigits < digits then .error digits else .ok (.int n)
  | .string t => .ok (.string (joinSurrogates t))
  | .array items => ((rereadItems items).mapM id).map .array
  | .object members =>
    ((rereadMembers members).sorted.mapM rereadMember).map fun members =>
      .object (Dictionary.ofPairs members)
  | value => .ok value

/-- What becomes of some items. -/
def rereadItems : List Value → List (Except Nat Value)
  | [] => []
  | item :: rest => item.reread :: rereadItems rest

/-- What becomes of the values of some members. -/
def rereadMembers : List (Text × Value) → Dictionary (Except Nat Value)
  | [] => []
  | (name, value) :: rest => (name, value.reread) :: rereadMembers rest

end

theorem rereadItems_eq_map (items : List Value) : rereadItems items = items.map Value.reread := by
  induction items with
  | nil => rfl
  | cons item items ih => rw [rereadItems, ih, List.map_cons]

theorem renderItems_eq_map (depth : Nat) (items : List Value) :
    renderItems depth items = items.map (Value.render depth) := by
  induction items with
  | nil => rfl
  | cons item items ih => rw [renderItems, ih, List.map_cons]

theorem sorted_map {α β : Type} (f : α → β) (d : Dictionary α) :
    Dictionary.sorted (d.map fun entry => (entry.1, f entry.2)) =
      (Dictionary.sorted d).map fun entry => (entry.1, f entry.2) := by
  rw [Dictionary.sorted, Dictionary.sorted, List.map_mergeSort]
  intro a _ b _
  rfl

theorem sorted_rereadMembers (members : List (Text × Value)) :
    (rereadMembers members).sorted =
      (Dictionary.sorted members).map fun member => (member.1, member.2.reread) := by
  have flat : rereadMembers members = members.map fun member => (member.1, member.2.reread) := by
    induction members with
    | nil => rfl
    | cons member members ih => rw [rereadMembers, ih, List.map_cons]
  rw [flat, sorted_map]

theorem sorted_renderMembers (depth : Nat) (members : List (Text × Value)) :
    (renderMembers depth members).sorted =
      (Dictionary.sorted members).map fun member => (member.1, member.2.render depth) := by
  have flat : renderMembers depth members =
      members.map fun member => (member.1, member.2.render depth) := by
    induction members with
    | nil => rfl
    | cons member members ih => rw [renderMembers, ih, List.map_cons]
  rw [flat, sorted_map]

/-! ## What may follow a value -/

/-- What follows a value in a document: nothing, a comma, or a new line. -/
def Closes (rest : Text) : Prop :=
  ∀ c, rest.head? = some c → c.val = 44 ∨ c.val = 10

theorem closes_nil : Closes [] := by
  intro c head
  cases head

theorem closes_lineStart (depth : Nat) (rest : Text) : Closes (lineStart depth ++ rest) := by
  intro c head
  simp only [lineStart, List.cons_append, List.head?_cons, Option.some.injEq] at head
  subst head
  exact Or.inr rfl

theorem closes_comma (rest : Text) : Closes (((',' : Char) : CodePoint) :: rest) := by
  intro c head
  simp only [List.head?_cons, Option.some.injEq] at head
  subst head
  exact Or.inl rfl

theorem skipBlank_lineStart (depth : Nat) (rest : Text) :
    skipBlank (lineStart depth ++ rest) = skipBlank rest := by
  have blank : ∀ c ∈ lineStart depth, isBlank c = true := by
    intro c mem
    rcases List.mem_cons.mp mem with rfl | mem
    · rfl
    · rw [List.eq_of_mem_replicate mem]
      rfl
  exact List.dropWhile_append_of_pos blank

theorem skipBlank_cons {c : CodePoint} (inked : isBlank c = false) (rest : Text) :
    skipBlank (c :: rest) = c :: rest :=
  List.dropWhile_cons_of_neg (by simp [inked])

/-! ## Whole numbers -/

theorem digits_append {ds rest : Text} (all : ∀ c ∈ ds, c.isAsciiDigit = true)
    (closes : Closes rest) : digits (ds ++ rest) = (ds, rest) := by
  have stop : rest.takeWhile CodePoint.isAsciiDigit = [] ∧
      rest.dropWhile CodePoint.isAsciiDigit = rest := by
    cases rest with
    | nil => exact ⟨rfl, rfl⟩
    | cons c rest =>
        have noDigit : ¬ c.isAsciiDigit = true := by
          rcases closes c rfl with value | value <;> simp [CodePoint.isAsciiDigit, value]
        exact ⟨List.takeWhile_cons_of_neg noDigit, List.dropWhile_cons_of_neg noDigit⟩
  rw [digits, List.span_eq_takeWhile_dropWhile, List.takeWhile_append_of_pos all,
    List.dropWhile_append_of_pos all, stop.1, stop.2, List.append_nil]

theorem wholeDigits?_ofNat (n : Nat) {rest : Text} (closes : Closes rest) :
    wholeDigits? (Text.ofNat n ++ rest) = some (Text.ofNat n, rest) := by
  have all := fun c mem => Text.isAsciiDigit_of_mem_ofNat (n := n) (c := c) mem
  cases shape : Text.ofNat n with
  | nil => exact absurd shape (Text.ofNat_ne_nil n)
  | cons c ds =>
      rw [List.cons_append, wholeDigits?]
      by_cases zero : c.val = 48
      · obtain rfl := Text.eq_zero_of_head?_ofNat (by rw [shape]; rfl) zero
        rw [Text.ofNat_of_lt_ten (by decide)] at shape
        injection shape with digit noMore
        subst digit
        subst noMore
        rfl
      · rw [if_neg zero, if_pos (all c (by simp [shape])), ← List.cons_append, ← shape,
          digits_append all closes]

theorem fraction?_eq_none {rest : Text} (closes : Closes rest) : fraction? rest = none := by
  cases rest with
  | nil => rfl
  | cons c rest =>
      rcases closes c rfl with value | value <;> simp [fraction?, value]

theorem exponent?_eq_none {rest : Text} (closes : Closes rest) : exponent? rest = none := by
  cases rest with
  | nil => rfl
  | cons c rest =>
      have noUpper : c.isAsciiUpper = false := by
        rcases closes c rfl with value | value <;> simp [CodePoint.isAsciiUpper, value]
      rcases closes c rfl with value | value <;>
        simp [exponent?, CodePoint.asciiLower, noUpper, value]

theorem word?_of_digit {c : CodePoint} (digit : c.isAsciiDigit = true) (rest : Text) :
    word? (c :: rest) = none ∧ word? (('-' : CodePoint) :: c :: rest) = none := by
  simp only [CodePoint.isAsciiDigit, Bool.and_eq_true, decide_eq_true_eq] at digit
  have other (n : Nat) (isLt : n < 0x110000) (outside : n < 48 ∨ 57 < n) :
      ((⟨n, isLt⟩ : CodePoint) = c) = False := by
    rw [eq_iff_iff, iff_false]
    rintro rfl
    exact absurd digit (by simp only; omega)
  constructor <;>
    simp [word?, words, Text.ofString, other, CodePoint.ofChar]

theorem readNumber_ofNat (place : Text) (negative : Bool) (n : Nat) {rest : Text}
    (closes : Closes rest) :
    readNumber place negative (Text.ofNat n ++ rest) =
      if Numeral.maxDigits < (Text.ofNat n).length then
        .error (.tooManyDigits (Text.ofNat n).length)
      else .ok (.int (if negative then -n else n), rest) := by
  simp only [readNumber, wholeDigits?_ofNat n closes, fraction?_eq_none closes, Option.map_none,
    Option.getD_none, exponent?_eq_none closes, Option.isNone_none, Bool.and_self, if_true,
    Text.decimalValue_ofNat]

/-- What is read of the digits of an integer. -/
theorem readScalar_ofInt (n : Int) {rest : Text} (closes : Closes rest) :
    readScalar (Text.ofInt n ++ rest) =
      if Numeral.maxDigits < (Text.ofNat n.natAbs).length then
        .error (.tooManyDigits (Text.ofNat n.natAbs).length)
      else .ok (.int n, rest) := by
  have all := fun k c mem => Text.isAsciiDigit_of_mem_ofNat (n := k) (c := c) mem
  cases n with
  | ofNat n =>
      rw [Text.ofInt]
      have number := fun place => readNumber_ofNat place false n closes
      cases shape : Text.ofNat n with
      | nil => exact absurd shape (Text.ofNat_ne_nil n)
      | cons c ds =>
          have digit := all n c (by simp [shape])
          rw [shape] at number
          rw [List.cons_append, readScalar, (word?_of_digit digit _).1, ← List.cons_append, number]
          simp only [CodePoint.isAsciiDigit, Bool.and_eq_true, decide_eq_true_eq] at digit
          have noQuote : c.val ≠ 34 := by omega
          have noMinus : c.val ≠ 45 := by omega
          simp [noQuote, noMinus, shape]
  | negSucc n =>
      have size : (Int.negSucc n).natAbs = n + 1 := rfl
      rw [Text.ofInt, size]
      have number := fun place => readNumber_ofNat place true (n + 1) closes
      cases shape : Text.ofNat (n + 1) with
      | nil => exact absurd shape (Text.ofNat_ne_nil (n + 1))
      | cons c ds =>
          have digit := all (n + 1) c (by simp [shape])
          rw [shape] at number
          rw [List.cons_append, List.cons_append, readScalar, (word?_of_digit digit _).2,
            ← List.cons_append, number]
          simp [CodePoint.ofChar, Int.negSucc_eq]

/-! ## Values -/

/-- What is read of a text that goes on with `rest`, when `result` is what becomes of a value. -/
def reading {α : Type} (rest : Text) (result : Except Nat α) : Reading α :=
  (result.mapError Fault.tooManyDigits).map (·, rest)

/-- A text that begins with neither white space nor a closing bracket. -/
def Opens (t : Text) : Prop :=
  ∃ c more, t = c :: more ∧ isBlank c = false ∧ c.val ≠ 93

theorem Opens.append {t : Text} (opens : Opens t) (rest : Text) : Opens (t ++ rest) := by
  obtain ⟨c, more, rfl, inked, other⟩ := opens
  exact ⟨c, more ++ rest, rfl, inked, other⟩

theorem Opens.skipBlank_eq {t : Text} (opens : Opens t) : skipBlank t = t := by
  obtain ⟨c, more, rfl, inked, _⟩ := opens
  exact skipBlank_cons inked more

theorem Opens.length_pos {t : Text} (opens : Opens t) : 0 < t.length := by
  obtain ⟨c, more, rfl, _, _⟩ := opens
  exact Nat.zero_lt_succ _

theorem opens_of_digit {c : CodePoint} (digit : c.isAsciiDigit = true) (more : Text) :
    Opens (c :: more) := by
  simp only [CodePoint.isAsciiDigit, Bool.and_eq_true, decide_eq_true_eq] at digit
  refine ⟨c, more, rfl, ?_, by omega⟩
  simp only [isBlank, Bool.or_eq_false_iff, decide_eq_false_iff_not]
  omega

theorem opens_ofInt (n : Int) : Opens (Text.ofInt n) := by
  cases n with
  | ofNat n =>
      rw [Text.ofInt]
      cases shape : Text.ofNat n with
      | nil => exact absurd shape (Text.ofNat_ne_nil n)
      | cons c ds => exact opens_of_digit (Text.isAsciiDigit_of_mem_ofNat (n := n) (by simp [shape])) ds
  | negSucc n => exact ⟨_, _, rfl, rfl, by decide⟩

theorem opens_enclose {opening : CodePoint} (inked : isBlank opening = false)
    (other : opening.val ≠ 93) (closing : CodePoint) (depth : Nat) (texts : List Text) :
    Opens (enclose opening closing depth texts) := by
  rw [enclose]
  split
  · exact ⟨opening, [closing], rfl, inked, other⟩
  · exact ⟨opening, _, rfl, inked, other⟩

theorem opens_render {value : Value} (plain : value.FloatFree) (depth : Nat) :
    Opens (value.render depth) := by
  cases plain with
  | null => exact ⟨_, _, rfl, rfl, by decide⟩
  | bool b => cases b <;> exact ⟨_, _, rfl, rfl, by decide⟩
  | int n => exact opens_ofInt n
  | string t => exact ⟨_, _, rfl, rfl, by decide⟩
  | array _ => exact opens_enclose rfl (by decide) _ _ _
  | object _ => exact opens_enclose rfl (by decide) _ _ _

/-- What is read of a value at a depth, whatever closes it. -/
def ReadsBack (value : Value) : Prop :=
  ∀ (depth bound : Nat) (rest : Text), Closes rest → (value.render depth).length ≤ bound →
    readValue bound (value.render depth ++ rest) = reading rest value.reread

theorem readValue_scalar {bound : Nat} {c : CodePoint} {t : Text} (noArray : c.val ≠ 91)
    (noObject : c.val ≠ 123) (pos : 0 < bound) :
    readValue bound (c :: t) = readScalar (c :: t) := by
  obtain ⟨bound, rfl⟩ := Nat.exists_eq_succ_of_ne_zero (Nat.ne_of_gt pos)
  rw [readValue]
  simp [noArray, noObject]

theorem readsBack_int (n : Int) : ReadsBack (.int n) := by
  intro depth bound rest closes enough
  rw [Value.render] at enough ⊢
  have scalar := readScalar_ofInt n closes
  obtain ⟨c, more, shape, inked, other⟩ := opens_ofInt n
  have head : c.val = 45 ∨ c.isAsciiDigit = true := by
    cases n with
    | ofNat n =>
        exact Or.inr (Text.isAsciiDigit_of_mem_ofNat (n := n) (by
          rw [Text.ofInt] at shape
          simp [shape]))
    | negSucc n =>
        rw [Text.ofInt, List.cons.injEq] at shape
        exact Or.inl (by rw [← shape.1]; rfl)
  simp only [CodePoint.isAsciiDigit, Bool.and_eq_true, decide_eq_true_eq] at head
  rw [shape, List.length_cons] at enough
  rw [shape, List.cons_append, readValue_scalar (by omega) (by omega) (by omega),
    ← List.cons_append, ← shape, scalar, Value.reread]
  split <;> rfl

theorem readsBack_string (t : Text) : ReadsBack (.string t) := by
  intro depth bound rest _ enough
  have string := readString_quoted t rest
  rw [Value.render] at enough ⊢
  have shape : quoted t ++ rest =
      ('"' : CodePoint) :: (t.flatMap escaped ++ ('"' : CodePoint) :: rest) := by
    simp [quoted]
  have pos : 0 < bound := Nat.lt_of_lt_of_le (by simp [quoted]) enough
  rw [shape] at string ⊢
  rw [readValue_scalar (by decide) (by decide) pos, readScalar, string]
  rfl

/-! ## Arrays -/

/-- What stands between two items or members at a depth. -/
def between (depth : Nat) : Text :=
  (',' : CodePoint) :: lineStart depth

theorem opens_join (separator : Text) {t : Text} (opens : Opens t) (ts : List Text) :
    Opens (Text.join separator (t :: ts)) := by
  cases ts with
  | nil => exact opens
  | cons u ts =>
      rw [Text.join_cons_cons]
      exact opens.append _

/-- The last item of an array. -/
theorem readItems_last {bound depth : Nat} {t rest : Text} {item : Except Nat Value}
    (first : readValue bound t = reading (lineStart depth ++ (']' : CodePoint) :: rest) item) :
    readItems (bound + 1) t = reading rest (item.map ([·])) := by
  rw [readItems, first]
  cases item with
  | error n => rfl
  | ok value =>
      simp only [reading, Except.mapError, Except.map, bind, Except.bind, skipBlank_lineStart,
        skipBlank_cons (c := ((']' : Char) : CodePoint)) rfl]
      exact if_pos rfl

/-- An item of an array and those behind it. -/
theorem readItems_more {bound depth : Nat} {t others rest : Text} {item : Except Nat Value}
    {items : Except Nat (List Value)} (opens : Opens others)
    (first : readValue bound t = reading (between depth ++ others) item)
    (behind : readItems bound others = reading rest items) :
    readItems (bound + 1) t =
      reading rest (item.bind fun value => items.map (value :: ·)) := by
  rw [readItems, first]
  cases item with
  | error n => rfl
  | ok value =>
      simp only [reading, Except.mapError, Except.map, bind, Except.bind, between, List.cons_append,
        skipBlank_cons (c := ((',' : Char) : CodePoint)) rfl, skipBlank_lineStart,
        opens.skipBlank_eq, behind]
      cases items with
      | error n => rfl
      | ok values => rfl

/-- What is read of the items of an array and its closing bracket. -/
theorem readItems_join (depth : Nat) (item : Value) (items : List Value)
    (plain : ∀ value ∈ item :: items, value.FloatFree)
    (back : ∀ value ∈ item :: items, ReadsBack value) (rest : Text) {bound : Nat}
    (enough : (Text.join (between (depth + 1))
      ((item :: items).map (Value.render (depth + 1)))).length < bound) :
    readItems bound (Text.join (between (depth + 1))
        ((item :: items).map (Value.render (depth + 1))) ++
          (lineStart depth ++ (']' : CodePoint) :: rest)) =
      reading rest ((item :: items).mapM Value.reread) := by
  obtain ⟨bound, rfl⟩ := Nat.exists_eq_succ_of_ne_zero (Nat.ne_of_gt (Nat.zero_lt_of_lt enough))
  induction items generalizing item bound with
  | nil =>
      have first := back item (by simp) (depth + 1) bound (lineStart depth ++ (']' : CodePoint) :: rest)
        (closes_lineStart depth _) (Nat.le_of_lt_succ enough)
      rw [mapM_cons_bind]
      refine (readItems_last first).trans ?_
      cases item.reread <;> rfl
  | cons next items ih =>
      rw [List.map_cons, List.map_cons, Text.join_cons_cons, List.length_append, List.length_append]
        at enough
      have nextPos : 0 < (between (depth + 1)).length := Nat.zero_lt_succ _
      obtain ⟨bound, rfl⟩ : ∃ left, bound = left + 1 := ⟨bound - 1, by omega⟩
      have behind := ih next (fun value mem => plain value (List.mem_cons_of_mem item mem))
        (fun value mem => back value (List.mem_cons_of_mem item mem)) bound
        (by rw [List.map_cons]; omega)
      rw [List.map_cons, List.map_cons, Text.join_cons_cons, List.append_assoc, List.append_assoc,
        mapM_cons_bind]
      refine readItems_more ?_ (back item (by simp) (depth + 1) (bound + 1) _ (closes_comma _)
        (by omega)) behind
      exact (opens_join _ (opens_render (plain next (by simp)) (depth + 1)) _).append _

/-! ## Objects -/

theorem readName_quoted (name : Text) {t : Text} (opens : Opens t) :
    readName (quoted name ++ ((": " : Text) ++ t)) = .ok (joinSurrogates name, t) := by
  have head : (quoted name ++ ((": " : Text) ++ t)).head?.any (·.val = 34) = true := rfl
  have colon : ((": " : Text) ++ t) = (':' : CodePoint) :: (' ' : CodePoint) :: t := rfl
  have space : skipBlank ((' ' : CodePoint) :: t) = skipBlank t :=
    List.dropWhile_cons_of_pos rfl
  rw [readName, if_pos head, readString_quoted, colon]
  simp only [bind, Except.bind, skipBlank_cons (c := ((':' : Char) : CodePoint)) rfl, space,
    opens.skipBlank_eq]
  exact if_pos rfl

/-- The last member of an object. -/
theorem readMembers_last {bound depth : Nat} {name t rest : Text} {value : Except Nat Value}
    (opens : Opens t)
    (first : readValue bound t = reading (lineStart depth ++ ('\x7d' : CodePoint) :: rest) value) :
    readMembers (bound + 1) (quoted name ++ ((": " : Text) ++ t)) =
      reading rest ((rereadMember (name, value)).map ([·])) := by
  rw [readMembers, readName_quoted name opens]
  simp only [bind, Except.bind, first]
  cases value with
  | error n => rfl
  | ok value =>
      simp only [reading, Except.mapError, Except.map, skipBlank_lineStart,
        skipBlank_cons (c := (('\x7d' : Char) : CodePoint)) rfl]
      exact if_pos rfl

/-- A member of an object and those behind it. -/
theorem readMembers_more {bound depth : Nat} {name t others rest : Text}
    {value : Except Nat Value} {members : Except Nat (List (Text × Value))} (opens : Opens t)
    (opensBehind : Opens others)
    (first : readValue bound t = reading (between depth ++ others) value)
    (behind : readMembers bound others = reading rest members) :
    readMembers (bound + 1) (quoted name ++ ((": " : Text) ++ t)) =
      reading rest ((rereadMember (name, value)).bind fun member =>
        members.map (member :: ·)) := by
  rw [readMembers, readName_quoted name opens]
  simp only [bind, Except.bind, first]
  cases value with
  | error n => rfl
  | ok value =>
      simp only [reading, Except.mapError, Except.map, between, List.cons_append,
        skipBlank_cons (c := ((',' : Char) : CodePoint)) rfl, skipBlank_lineStart,
        opensBehind.skipBlank_eq, behind]
      cases members with
      | error n => rfl
      | ok values => rfl

theorem opens_memberText (name text : Text) : Opens (memberText (name, text)) :=
  ⟨_, _, rfl, rfl, by decide⟩

/-- A member whose value is written at a depth. -/
def renderMember (depth : Nat) (member : Text × Value) : Text :=
  memberText (member.1, member.2.render depth)

/-- A member after it was written and read. -/
def rereadOf (member : Text × Value) : Except Nat (Text × Value) :=
  rereadMember (member.1, member.2.reread)

/-- What is read of the members of an object and its closing bracket. -/
theorem readMembers_join (depth : Nat) (member : Text × Value) (members : List (Text × Value))
    (plain : ∀ entry ∈ member :: members, entry.2.FloatFree)
    (back : ∀ entry ∈ member :: members, ReadsBack entry.2) (rest : Text) {bound : Nat}
    (enough : (Text.join (between (depth + 1))
      ((member :: members).map (renderMember (depth + 1)))).length < bound) :
    readMembers bound (Text.join (between (depth + 1))
        ((member :: members).map (renderMember (depth + 1))) ++
          (lineStart depth ++ ('\x7d' : CodePoint) :: rest)) =
      reading rest ((member :: members).mapM rereadOf) := by
  obtain ⟨bound, rfl⟩ := Nat.exists_eq_succ_of_ne_zero (Nat.ne_of_gt (Nat.zero_lt_of_lt enough))
  have shape (entry : Text × Value) (t : Text) : renderMember (depth + 1) entry ++ t =
      quoted entry.1 ++ ((": " : Text) ++ (entry.2.render (depth + 1) ++ t)) := by
    rw [renderMember, memberText, List.append_assoc, List.append_assoc]
  have size (entry : Text × Value) :
      (entry.2.render (depth + 1)).length ≤ (renderMember (depth + 1) entry).length := by
    rw [renderMember, memberText, List.length_append, List.length_append]
    exact Nat.le_add_left _ _
  induction members generalizing member bound with
  | nil =>
      rw [List.map_singleton, Text.join] at enough
      have first := back member (by simp) (depth + 1) bound
        (lineStart depth ++ ('\x7d' : CodePoint) :: rest) (closes_lineStart depth _)
        (Nat.le_trans (size member) (Nat.le_of_lt_succ enough))
      rw [mapM_cons_bind, List.map_singleton, Text.join, shape]
      refine (readMembers_last
        ((opens_render (plain member (by simp)) (depth + 1)).append _) first).trans ?_
      rw [rereadOf]
      cases rereadMember (member.1, member.2.reread) <;> rfl
  | cons next members ih =>
      rw [List.map_cons, List.map_cons, Text.join_cons_cons, List.length_append, List.length_append]
        at enough
      have nextPos : 0 < (between (depth + 1)).length := Nat.zero_lt_succ _
      have room := size member
      obtain ⟨bound, rfl⟩ : ∃ left, bound = left + 1 := ⟨bound - 1, by omega⟩
      have behind := ih next (fun entry mem => plain entry (List.mem_cons_of_mem member mem))
        (fun entry mem => back entry (List.mem_cons_of_mem member mem)) bound
        (by rw [List.map_cons]; omega)
      rw [List.map_cons, List.map_cons, Text.join_cons_cons, List.append_assoc, List.append_assoc, shape,
        mapM_cons_bind]
      refine readMembers_more ((opens_render (plain member (by simp)) (depth + 1)).append _) ?_
        (back member (by simp) (depth + 1) (bound + 1) _ (closes_comma _) (by omega)) behind
      exact (opens_join _ (opens_memberText next.1 _) _).append _

/-! ## Documents -/

theorem reread_array (items : List Value) :
    (Value.array items).reread = (items.mapM Value.reread).map .array := by
  rw [Value.reread, rereadItems_eq_map, mapM_map]
  rfl

theorem reread_object (members : List (Text × Value)) :
    (Value.object members).reread = ((Dictionary.sorted members).mapM rereadOf).map fun members =>
      .object (Dictionary.ofPairs members) := by
  rw [Value.reread, sorted_rereadMembers, mapM_map]
  rfl

theorem enclose_cons (opening closing : CodePoint) (depth : Nat) (t : Text) (ts : List Text)
    (rest : Text) : enclose opening closing depth (t :: ts) ++ rest =
      opening :: (lineStart (depth + 1) ++
        (Text.join (between (depth + 1)) (t :: ts) ++ (lineStart depth ++ closing :: rest))) := by
  simp [enclose, between]

theorem readValue_array {bound : Nat} (depth : Nat) {t : Text} (opens : Opens t) :
    readValue (bound + 1) (('[' : CodePoint) :: (lineStart depth ++ t)) =
      (readItems bound t).map fun (items, rest) => (.array items, rest) := by
  rw [readValue]
  simp only [skipBlank_lineStart, opens.skipBlank_eq]
  obtain ⟨c, more, rfl, _, other⟩ := opens
  rw [if_pos (by decide)]
  exact if_neg other

theorem readValue_object {bound : Nat} (depth : Nat) (name t : Text) :
    readValue (bound + 1) (('\x7b' : CodePoint) :: (lineStart depth ++ (quoted name ++ t))) =
      (readMembers bound (quoted name ++ t)).map fun (members, rest) =>
        (.object (Dictionary.ofPairs members), rest) := by
  rw [readValue]
  simp only [skipBlank_lineStart]
  rw [if_neg (by decide), if_pos (by decide)]
  rfl

theorem readsBack_array {items : List Value} (plain : ∀ item ∈ items, item.FloatFree)
    (back : ∀ item ∈ items, ReadsBack item) : ReadsBack (.array items) := by
  intro depth bound rest _ enough
  rw [Value.render, renderItems_eq_map] at enough ⊢
  rw [reread_array]
  cases items with
  | nil =>
      obtain ⟨bound, rfl⟩ : ∃ left, bound = left + 2 := ⟨bound - 2, (Nat.sub_add_cancel enough).symm⟩
      change readValue (bound + 2) (('[' : CodePoint) :: (']' : CodePoint) :: rest) = _
      rw [readValue]
      rfl
  | cons item items =>
      have shape := enclose_cons '[' ']' depth (item.render (depth + 1))
        (items.map (Value.render (depth + 1)))
      have size := congrArg List.length (shape [])
      rw [List.append_nil, List.length_cons, List.length_append, List.length_append] at size
      rw [List.map_cons] at enough ⊢
      obtain ⟨bound, rfl⟩ : ∃ left, bound = left + 1 := ⟨bound - 1, by omega⟩
      have opens := (opens_join (between (depth + 1))
        (opens_render (plain item (by simp)) (depth + 1)) (items.map (Value.render (depth + 1)))).append
          (lineStart depth ++ (']' : CodePoint) :: rest)
      have inside := readItems_join depth item items plain back rest
        (show _ < bound by rw [List.map_cons]; simp only [lineStart, List.length_cons] at size; omega)
      rw [List.map_cons] at inside
      rw [shape, readValue_array _ opens, inside]
      cases (item :: items).mapM Value.reread <;> rfl

theorem readsBack_object {members : List (Text × Value)}
    (plain : ∀ member ∈ members, member.2.FloatFree)
    (back : ∀ member ∈ members, ReadsBack member.2) : ReadsBack (.object members) := by
  intro depth bound rest _ enough
  have same : ∀ member, member ∈ Dictionary.sorted members ↔ member ∈ members :=
    fun member => List.mem_mergeSort
  have plain : ∀ member ∈ Dictionary.sorted members, member.2.FloatFree :=
    fun member mem => plain member ((same member).mp mem)
  have back : ∀ member ∈ Dictionary.sorted members, ReadsBack member.2 :=
    fun member mem => back member ((same member).mp mem)
  have texts : (renderMembers (depth + 1) members).sorted.map memberText =
      (Dictionary.sorted members).map (renderMember (depth + 1)) := by
    rw [sorted_renderMembers, List.map_map]
    rfl
  rw [Value.render, encloseMembers, texts] at enough ⊢
  rw [reread_object]
  cases ordered : Dictionary.sorted members with
  | nil =>
      rw [ordered] at enough
      obtain ⟨bound, rfl⟩ : ∃ left, bound = left + 2 := ⟨bound - 2, (Nat.sub_add_cancel enough).symm⟩
      change readValue (bound + 2) (('\x7b' : CodePoint) :: ('\x7d' : CodePoint) :: rest) = _
      rw [readValue]
      rfl
  | cons member others =>
      rw [ordered] at enough plain back
      have shape := enclose_cons '\x7b' '\x7d' depth (renderMember (depth + 1) member)
        (others.map (renderMember (depth + 1)))
      have size := congrArg List.length (shape [])
      rw [List.append_nil, List.length_cons, List.length_append, List.length_append] at size
      rw [List.map_cons] at enough ⊢
      obtain ⟨bound, rfl⟩ : ∃ left, bound = left + 1 := ⟨bound - 1, by omega⟩
      have inside := readMembers_join depth member others plain back rest
        (show _ < bound by rw [List.map_cons]; simp only [lineStart, List.length_cons] at size; omega)
      obtain ⟨t, begins⟩ : ∃ t, Text.join (between (depth + 1))
          ((member :: others).map (renderMember (depth + 1))) ++
            (lineStart depth ++ ('\x7d' : CodePoint) :: rest) = quoted member.1 ++ t := by
        cases others with
        | nil =>
            exact ⟨_, by
              rw [List.map_singleton, Text.join, renderMember, memberText, List.append_assoc,
                List.append_assoc]⟩
        | cons next others =>
            exact ⟨_, by
              rw [List.map_cons, List.map_cons, Text.join_cons_cons, renderMember, memberText,
                List.append_assoc, List.append_assoc, List.append_assoc]⟩
      rw [begins] at inside
      rw [shape, ← List.map_cons, begins, readValue_object, inside]
      cases (member :: others).mapM rereadOf <;> rfl

/-- Every value without fractional numbers is read back as it should be, at every depth. -/
theorem readsBack {value : Value} (plain : value.FloatFree) : ReadsBack value := by
  induction value using Value.inductionOn with
  | null =>
      intro depth bound rest _ enough
      have pos : 0 < bound := Nat.lt_of_lt_of_le (opens_render plain depth).length_pos enough
      exact readValue_scalar (by decide) (by decide) pos
  | bool b =>
      intro depth bound rest _ enough
      have pos : 0 < bound := Nat.lt_of_lt_of_le (opens_render plain depth).length_pos enough
      cases b <;> exact readValue_scalar (by decide) (by decide) pos
  | int n => exact readsBack_int n
  | float x => cases plain
  | string t => exact readsBack_string t
  | array items ih =>
      cases plain with
      | array all => exact readsBack_array all fun item mem => ih item mem (all item mem)
  | object members ih =>
      cases plain with
      | object all => exact readsBack_object all fun member mem => ih member mem (all member mem)

/-! ## Characters of a document -/

/-- A line feed or a printable ASCII character. -/
def IsPlain (c : CodePoint) : Prop :=
  c.val = 10 ∨ 32 ≤ c.val ∧ c.val ≤ 126

instance (c : CodePoint) : Decidable (IsPlain c) :=
  inferInstanceAs (Decidable (_ ∨ _))

theorem isPlain_hexDigit {d : Nat} (small : d < 16) : IsPlain (CodePoint.hexDigit d) := by
  have all : ∀ d < 16, IsPlain (CodePoint.hexDigit d) := by decide
  exact all d small

theorem isPlain_of_mem_unitEscape {n : Nat} {c : CodePoint} (mem : c ∈ unitEscape n) :
    IsPlain c := by
  rcases List.mem_append.mp mem with mem | mem
  · have all : ∀ c ∈ Text.ofString "\\u", IsPlain c := by decide
    exact all c mem
  · obtain ⟨d, small, rfl⟩ := Text.exists_hexDigit_of_mem_hex mem
    exact isPlain_hexDigit small

theorem isPlain_of_mem_escaped {c d : CodePoint} (mem : d ∈ escaped c) : IsPlain d := by
  have known {t : Text} (all : ∀ c ∈ t, IsPlain c) (mem : d ∈ t) : IsPlain d := all d mem
  unfold escaped at mem
  split at mem
  case h_8 =>
      split at mem
      · next printable =>
          simp only [Bool.and_eq_true, decide_eq_true_eq] at printable
          rw [List.mem_singleton] at mem
          exact Or.inr (by rw [mem]; exact printable)
      · split at mem
        · exact isPlain_of_mem_unitEscape mem
        · rcases List.mem_append.mp mem with mem | mem
          · exact isPlain_of_mem_unitEscape mem
          · exact isPlain_of_mem_unitEscape mem
  all_goals exact known (by decide) mem

theorem isPlain_of_mem_quoted {t : Text} {c : CodePoint} (mem : c ∈ quoted t) : IsPlain c := by
  have quote : IsPlain ('"' : CodePoint) := by decide
  simp only [quoted, List.cons_append, List.mem_cons, List.mem_append, List.mem_flatMap,
    List.not_mem_nil, or_false] at mem
  rcases mem with rfl | ⟨d, _, mem⟩ | rfl
  · exact quote
  · exact isPlain_of_mem_escaped mem
  · exact quote

theorem isPlain_of_mem_lineStart {depth : Nat} {c : CodePoint} (mem : c ∈ lineStart depth) :
    IsPlain c := by
  rcases List.mem_cons.mp mem with rfl | mem
  · exact Or.inl rfl
  · rw [List.eq_of_mem_replicate mem]
    decide

theorem isPlain_of_mem_enclose {opening closing : CodePoint} (opens : IsPlain opening)
    (closes : IsPlain closing) {depth : Nat} {texts : List Text}
    (all : ∀ t ∈ texts, ∀ c ∈ t, IsPlain c) :
    ∀ c ∈ enclose opening closing depth texts, IsPlain c := by
  have comma : IsPlain (',' : CodePoint) := by decide
  have inside := Text.forall_mem_join (show ∀ c ∈ between (depth + 1), IsPlain c by
    intro c mem
    rcases List.mem_cons.mp mem with rfl | mem
    · exact comma
    · exact isPlain_of_mem_lineStart mem) all
  intro c mem
  cases texts with
  | nil =>
      simp only [enclose, List.isEmpty_nil, if_true, List.mem_cons, List.not_mem_nil, or_false] at mem
      rcases mem with rfl | rfl
      · exact opens
      · exact closes
  | cons t texts =>
      have shape := enclose_cons opening closing depth t texts []
      rw [List.append_nil] at shape
      simp only [shape, List.mem_cons, List.mem_append, List.not_mem_nil, or_false] at mem
      rcases mem with rfl | mem | mem | mem | rfl
      · exact opens
      · exact isPlain_of_mem_lineStart mem
      · exact inside c mem
      · exact isPlain_of_mem_lineStart mem
      · exact closes

theorem isPlain_of_mem_ofInt {n : Int} {c : CodePoint} (mem : c ∈ Text.ofInt n) : IsPlain c := by
  have digit {k : Nat} {c : CodePoint} (mem : c ∈ Text.ofNat k) : IsPlain c := by
    have digit := Text.isAsciiDigit_of_mem_ofNat mem
    simp only [CodePoint.isAsciiDigit, Bool.and_eq_true, decide_eq_true_eq] at digit
    exact Or.inr (by omega)
  cases n with
  | ofNat n => exact digit mem
  | negSucc n =>
      rcases List.mem_cons.mp mem with rfl | mem
      · decide
      · exact digit mem

/-- A document holds nothing but line feeds and printable ASCII characters. -/
theorem isPlain_of_mem_render {value : Value} (plain : value.FloatFree) (depth : Nat) :
    ∀ c ∈ value.render depth, IsPlain c := by
  induction value using Value.inductionOn generalizing depth with
  | null =>
      change ∀ c ∈ Text.ofString "null", IsPlain c
      decide
  | bool b =>
      cases b with
      | false =>
          change ∀ c ∈ Text.ofString "false", IsPlain c
          decide
      | true =>
          change ∀ c ∈ Text.ofString "true", IsPlain c
          decide
  | int n => exact fun c mem => isPlain_of_mem_ofInt mem
  | float x => cases plain
  | string t => exact fun c mem => isPlain_of_mem_quoted mem
  | array items ih =>
      cases plain with
      | array all =>
          rw [Value.render, renderItems_eq_map]
          refine isPlain_of_mem_enclose (by decide) (by decide) fun t mem => ?_
          obtain ⟨item, itemMem, rfl⟩ := List.mem_map.mp mem
          exact ih item itemMem (all item itemMem) _
  | object members ih =>
      cases plain with
      | object all =>
          rw [Value.render, encloseMembers, sorted_renderMembers, List.map_map]
          refine isPlain_of_mem_enclose (by decide) (by decide) fun t mem => ?_
          obtain ⟨member, memberMem, rfl⟩ := List.mem_map.mp mem
          have inside := List.mem_mergeSort.mp memberMem
          intro c mem
          simp only [Function.comp, memberText, List.mem_append] at mem
          rcases mem with (mem | mem) | mem
          · exact isPlain_of_mem_quoted mem
          · have all : ∀ c ∈ Text.ofString ": ", IsPlain c := by decide
            exact all c mem
          · exact ih member inside (all member inside) _ c mem

/-- Reading what was written gives what `Value.reread` says. -/
theorem read_write {value : Value} (plain : value.FloatFree) :
    read (write value) = value.reread.mapError ReadError.tooManyDigits := by
  have opens := opens_render plain 0
  have back := readsBack plain 0 (2 * (value.render 0).length + 2) [] closes_nil (by omega)
  rw [List.append_nil] at back
  have noMark : (value.render 0).head?.any (·.val = 0xFEFF) = false := by
    obtain ⟨c, more, shape, _⟩ := opens
    have ascii := isPlain_of_mem_render plain 0 c (by simp [shape])
    rw [shape]
    simp only [IsPlain] at ascii
    simp
    omega
  rw [read, readDocument, write, noMark, opens.skipBlank_eq, back]
  cases value.reread <;> rfl

end ClassHarvest.Json
