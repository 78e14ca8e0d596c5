import ClassHarvest.Json.Reader
import ClassHarvest.Proofs.Dictionary
import ClassHarvest.Proofs.Gathering
import Mathlib.Data.List.TakeDrop
import Mathlib.Data.List.TakeWhile

/-!
# What a document is read as

In a value that is read from a text no object has two members of one name, and a text is refused for
a number with too many digits only if such a run of digits stands in it.  Both follow from what each
reader does with the text in front of it: it reads a beginning of the text and leaves an end of it.
-/

namespace ClassHarvest

namespace Dictionary

variable {α : Type}

theorem nodup_keys_ofPairs (pairs : List (Text × α)) : (keys (ofPairs pairs)).Nodup := by
  suffices all : ∀ d : Dictionary α, d.keys.Nodup →
      (keys (pairs.foldl (fun d pair => put pair.1 pair.2 d) d)).Nodup from all [] List.nodup_nil
  induction pairs with
  | nil => exact fun d nodup => nodup
  | cons pair pairs ih => exact fun d nodup => ih _ (nodup_keys_put nodup pair.1 pair.2)

theorem mem_of_mem_ofPairs {pairs : List (Text × α)} {pair : Text × α} (mem : pair ∈ ofPairs pairs) :
    pair ∈ pairs :=
  (of_mem_foldl_put mem).resolve_right List.not_mem_nil

end Dictionary

namespace Json

open Gathering

/-! ## Values -/

namespace Value

theorem object?_eq_some_iff {value : Value} {members : Object} :
    value.object? = some members ↔ value = .object members := by
  cases value <;> simp [object?]

theorem string?_eq_some_iff {value : Value} {text : Text} :
    value.string? = some text ↔ value = .string text := by
  cases value <;> simp [string?]

theorem isSome_string?_iff {value : Value} :
    value.string?.isSome = true ↔ ∃ text, value = .string text := by
  simp only [Option.isSome_iff_exists, string?_eq_some_iff]

theorem array?_eq_some_iff {value : Value} {items : List Value} :
    value.array? = some items ↔ value = .array items := by
  cases value <;> simp [array?]

end Value

/-- A value in which no object has two members of one name. -/
inductive Value.Distinct : Value → Prop where
  | null : Distinct .null
  | bool (b : Bool) : Distinct (.bool b)
  | int (n : Int) : Distinct (.int n)
  | float (x : Binary64) : Distinct (.float x)
  | string (t : Text) : Distinct (.string t)
  | array {items : List Value} (all : ∀ item ∈ items, Distinct item) : Distinct (.array items)
  | object {members : Object} (nodup : members.keys.Nodup)
      (all : ∀ member ∈ members, Distinct member.2) : Distinct (.object members)

theorem Value.Distinct.nodup {members : Object} (distinct : (Value.object members).Distinct) :
    members.keys.Nodup := by
  cases distinct with
  | object nodup _ => exact nodup

theorem Value.Distinct.get? {members : Object} {name : Text} {value : Value}
    (distinct : (Value.object members).Distinct) (found : members.get? name = some value) :
    value.Distinct := by
  cases distinct with
  | object _ all => exact all _ (Dictionary.mem_of_get?_eq_some found)

/-! ## What a reader does -/

/-- So many digits stand in a text one after the other, and they are too many for a number. -/
def HasLongRun (t : Text) (n : Nat) : Prop :=
  Numeral.maxDigits < n ∧ ∃ run, run <:+: t ∧ run.length = n ∧ ∀ c ∈ run, c.isAsciiDigit = true

theorem HasLongRun.of_suffix {t u : Text} {n : Nat} (long : HasLongRun u n) (behind : u <:+ t) :
    HasLongRun t n := by
  obtain ⟨many, run, inside, length, digits⟩ := long
  exact ⟨many, run, inside.trans behind.isInfix, length, digits⟩

/-- A reader that is given a text reads something good and leaves an end of the text, or it refuses the
text; for a number with too many digits, only if the text has such a run of digits. -/
structure Reads {α : Type} (Good : α → Prop) (t : Text) (reading : Reading α) : Prop where
  good : ∀ {x rest}, reading = .ok (x, rest) → Good x ∧ rest <:+ t
  long : ∀ {n}, reading = .error (.tooManyDigits n) → HasLongRun t n

namespace Reads

variable {α β : Type} {Good : α → Prop} {Better : β → Prop} {t u rest : Text}
  {reading : Except Fault (α × Text)}

theorem ok {x : α} (good : Good x) (behind : rest <:+ t) : Reads Good t (.ok (x, rest)) where
  good := by
    rintro _ _ ⟨⟩
    exact ⟨good, behind⟩
  long := by
    rintro _ ⟨⟩

theorem flawed (flaw : Flaw) (place : Text) : Reads Good t (.error (.flawed flaw place)) where
  good := by
    rintro _ _ ⟨⟩
  long := by
    rintro _ ⟨⟩

theorem tooManyDigits {n : Nat} (long : HasLongRun t n) :
    Reads Good t (.error (.tooManyDigits n)) where
  good := by
    rintro _ _ ⟨⟩
  long := by
    rintro _ ⟨⟩
    exact long

/-- Something may be passed over before the text that is read. -/
theorem behind (reads : Reads Good u reading) (behind : u <:+ t) : Reads Good t reading where
  good := fun isOk => ⟨(reads.good isOk).1, (reads.good isOk).2.trans behind⟩
  long := fun isError => (reads.long isError).of_suffix behind

theorem bind {next : α × Text → Except Fault (β × Text)} (reads : Reads Good t reading)
    (further : ∀ x rest, Good x → rest <:+ t → Reads Better rest (next (x, rest))) :
    Reads Better t (reading >>= next : Except Fault (β × Text)) := by
  cases reading with
  | error fault =>
      refine ⟨fun isOk => (by cases isOk), fun isError => reads.long ?_⟩
      cases isError
      rfl
  | ok found =>
      obtain ⟨x, rest⟩ := found
      obtain ⟨good, behind⟩ := reads.good rfl
      exact (further x rest good behind).behind behind

theorem map {f : α → β} (reads : Reads Good t reading) (image : ∀ x, Good x → Better (f x)) :
    Reads Better t (reading.map fun (x, rest) => (f x, rest)) := by
  cases reading with
  | error fault =>
      exact ⟨fun isOk => (by cases isOk), fun isError => reads.long (map_eq_error_iff.mp isError)⟩
  | ok found =>
      obtain ⟨x, rest⟩ := found
      obtain ⟨good, behind⟩ := reads.good rfl
      exact ok (image x good) behind

end Reads

theorem skipBlank_suffix (t : Text) : skipBlank t <:+ t :=
  List.dropWhile_suffix isBlank

/-- What is left behind a character that follows white space. -/
theorem suffix_of_skipBlank {t after : Text} {c : CodePoint} (next : skipBlank t = c :: after) :
    after <:+ t :=
  (List.suffix_cons c after).trans (next ▸ skipBlank_suffix t)

/-! ## Strings and numbers -/

theorem unit?_suffix {t rest : Text} {c : CodePoint} (found : unit? t = some (c, rest)) :
    rest <:+ t := by
  unfold unit? at found
  split at found
  · next a b c d next after =>
      split at found
      · cases found
        exact List.suffix_append [a, b, c, d] (next :: after)
      · cases found
  · cases found

theorem reads_readUnits (start : Text) (bound : Nat) (t : Text) :
    Reads (fun _ => True) t (readUnits start bound t) := by
  induction bound generalizing t with
  | zero => exact Reads.flawed _ _
  | succ bound ih =>
      cases t with
      | nil => exact Reads.flawed _ _
      | cons c rest =>
          have further (d : CodePoint) {after : Text} (behind : after <:+ c :: rest) :
              Reads (fun _ => True) (c :: rest)
                ((readUnits start bound after).map fun found => (d :: found.1, found.2)) :=
            ((ih after).map fun _ _ => trivial).behind behind
          unfold readUnits
          dsimp only
          split
          · exact Reads.ok trivial (List.suffix_cons c rest)
          split
          · exact Reads.flawed _ _
          split
          · cases rest with
            | nil => exact Reads.flawed _ _
            | cons e after =>
                have behind : after <:+ c :: e :: after := List.suffix_append [c, e] after
                dsimp only
                split
                · split
                  · next found => exact further _ ((unit?_suffix found).trans behind)
                  · exact Reads.flawed _ _
                · split
                  · exact further _ behind
                  · exact Reads.flawed _ _
          · exact further c (List.suffix_cons c rest)

theorem reads_readString (t : Text) : Reads (fun _ => True) t (readString t) :=
  ((reads_readUnits t t.length (t.drop 1)).map fun _ _ => trivial).behind (List.drop_suffix 1 t)

theorem digits_eq (t : Text) :
    digits t = (t.takeWhile CodePoint.isAsciiDigit, t.dropWhile CodePoint.isAsciiDigit) :=
  List.span_eq_takeWhile_dropWhile _ _

/-- The digits of a number are a beginning of the text. -/
theorem wholeDigits?_eq_some {t whole rest : Text} (found : wholeDigits? t = some (whole, rest)) :
    whole ++ rest = t ∧ ∀ c ∈ whole, c.isAsciiDigit = true := by
  unfold wholeDigits? at found
  split at found
  · cases found
  · next c after =>
      split at found
      · next isZero =>
          cases found
          refine ⟨rfl, fun d mem => ?_⟩
          rw [List.mem_singleton.mp mem]
          simp [CodePoint.isAsciiDigit, isZero]
      · split at found
        · rw [digits_eq] at found
          cases found
          exact ⟨List.takeWhile_append_dropWhile, fun d mem => List.mem_takeWhile_imp mem⟩
        · cases found

theorem fraction?_suffix {t more rest : Text} (found : fraction? t = some (more, rest)) :
    rest <:+ t := by
  unfold fraction? at found
  split at found
  · next c after =>
      split at found
      · rw [digits_eq] at found
        cases found
        exact (List.dropWhile_suffix _).trans (List.suffix_cons c after)
      · cases found
  · cases found

theorem exponent?_suffix {t rest : Text} {power : Int} (found : exponent? t = some (power, rest)) :
    rest <:+ t := by
  unfold exponent? at found
  split at found
  · next c after =>
      split at found
      · split at found
        next negative unsigned sign =>
        have behind : unsigned <:+ after := by
          split at sign
          · split at sign
            · cases sign
              exact List.suffix_cons _ _
            split at sign
            · cases sign
              exact List.suffix_cons _ _
            · cases sign
              exact List.suffix_refl _
          · cases sign
            exact List.suffix_refl _
        rw [digits_eq] at found
        dsimp only at found
        split at found
        · cases found
        · cases found
          exact ((List.dropWhile_suffix _).trans behind).trans (List.suffix_cons c after)
      · cases found
  · cases found

/-- Something that may be missing leaves an end of the text. -/
theorem getD_suffix {α : Type} {found : Option (α × Text)} {t : Text}
    (behind : ∀ {x rest}, found = some (x, rest) → rest <:+ t) :
    (found.map (·.2)).getD t <:+ t := by
  cases found with
  | none => exact List.suffix_refl t
  | some pair => exact behind rfl

theorem reads_readNumber (place : Text) (negative : Bool) (t : Text) :
    Reads Value.Distinct t (readNumber place negative t) := by
  unfold readNumber
  split
  · exact Reads.flawed _ _
  · next whole rest found =>
      obtain ⟨shape, areDigits⟩ := wholeDigits?_eq_some found
      have afterWhole : rest <:+ t := ⟨whole, shape⟩
      have afterFraction := (getD_suffix (fraction?_suffix (t := rest))).trans afterWhole
      have after := (getD_suffix exponent?_suffix).trans afterFraction
      dsimp only
      split
      · split
        · next many =>
            exact Reads.tooManyDigits ⟨many, whole, ⟨[], rest, shape⟩, rfl, areDigits⟩
        · exact Reads.ok (Value.Distinct.int _) after
      · exact Reads.ok (Value.Distinct.float _) after

theorem word?_eq_some {t rest : Text} {value : Value} (found : word? t = some (value, rest)) :
    value.Distinct ∧ rest <:+ t := by
  obtain ⟨⟨word, given⟩, mem, fits⟩ := List.exists_of_findSome?_eq_some found
  dsimp only at fits
  split at fits
  · cases fits
    refine ⟨?_, List.drop_suffix _ t⟩
    simp only [words, List.mem_cons, Prod.mk.injEq, List.not_mem_nil, or_false] at mem
    rcases mem with ⟨-, rfl⟩ | ⟨-, rfl⟩ | ⟨-, rfl⟩ | ⟨-, rfl⟩ | ⟨-, rfl⟩ | ⟨-, rfl⟩
    · exact Value.Distinct.null
    · exact Value.Distinct.bool true
    · exact Value.Distinct.bool false
    · exact Value.Distinct.float _
    · exact Value.Distinct.float _
    · exact Value.Distinct.float _
  · cases fits

theorem reads_readScalar (t : Text) : Reads Value.Distinct t (readScalar t) := by
  unfold readScalar
  split
  · exact Reads.flawed _ _
  · next c rest =>
      split
      · exact (reads_readString (c :: rest)).map fun s _ => Value.Distinct.string s
      split
      · next found isWord =>
          obtain ⟨distinct, behind⟩ := word?_eq_some isWord
          exact Reads.ok distinct behind
      · split
        · exact (reads_readNumber _ true rest).behind (List.suffix_cons c rest)
        · exact reads_readNumber _ false _

theorem reads_readName (t : Text) : Reads (fun _ => True) t (readName t) := by
  unfold readName
  split
  · refine (reads_readString t).bind fun name rest _ _ => ?_
    dsimp only
    split
    · next c after next =>
        split
        · exact Reads.ok trivial ((skipBlank_suffix after).trans (suffix_of_skipBlank next))
        · exact Reads.flawed _ _
    · exact Reads.flawed _ _
  · exact Reads.flawed _ _

/-! ## Values inside values -/

/-- The readers of values, of items and of members read what has distinct names.  They call each other
with the bound below theirs, so all three are taken together. -/
structure ReadsWithin (bound : Nat) : Prop where
  value : ∀ t, Reads Value.Distinct t (readValue bound t)
  items : ∀ t, Reads (fun items => ∀ item ∈ items, item.Distinct) t (readItems bound t)
  members : ∀ t, Reads (fun members => ∀ member ∈ members, member.2.Distinct) t
    (readMembers bound t)

namespace ReadsWithin

variable {bound : Nat}

theorem readValue_succ (within : ReadsWithin bound) (t : Text) :
    Reads Value.Distinct t (readValue (bound + 1) t) := by
  unfold readValue
  split
  · exact Reads.flawed _ _
  next c rest =>
  have inside {next : Text} (isNext : skipBlank rest = next) : next <:+ c :: rest :=
    (isNext ▸ skipBlank_suffix rest).trans (List.suffix_cons c rest)
  split
  · split
    · next d after isNext =>
        split
        · exact Reads.ok (Value.Distinct.array (by simp))
            ((List.suffix_cons d after).trans (inside isNext))
        · exact ((within.items _).map fun items all => Value.Distinct.array all).behind (inside isNext)
    · exact Reads.flawed _ _
  split
  · split
    · next d after isNext =>
        split
        · exact Reads.ok (Value.Distinct.object List.nodup_nil (by simp))
            ((List.suffix_cons d after).trans (inside isNext))
        · refine ((within.members _).map (f := fun members => Value.object (Dictionary.ofPairs members))
            fun members all => ?_).behind (inside isNext)
          exact Value.Distinct.object (Dictionary.nodup_keys_ofPairs members)
            fun member mem => all member (Dictionary.mem_of_mem_ofPairs mem)
    · exact Reads.flawed _ _
  · exact reads_readScalar _

theorem readItems_succ (within : ReadsWithin bound) (t : Text) :
    Reads (fun items => ∀ item ∈ items, item.Distinct) t (readItems (bound + 1) t) := by
  unfold readItems
  refine (within.value t).bind fun item rest distinct _ => ?_
  dsimp only
  split
  · next c after next =>
      split
      · exact Reads.ok (by simpa using distinct) (suffix_of_skipBlank next)
      split
      · refine Reads.bind ((within.items (skipBlank after)).behind
          ((skipBlank_suffix after).trans (suffix_of_skipBlank next))) fun items rest all _ => ?_
        exact Reads.ok (List.forall_mem_cons.mpr ⟨distinct, all⟩) (List.suffix_refl rest)
      · exact Reads.flawed _ _
  · exact Reads.flawed _ _

theorem readMembers_succ (within : ReadsWithin bound) (t : Text) :
    Reads (fun members => ∀ member ∈ members, member.2.Distinct) t
      (readMembers (bound + 1) t) := by
  unfold readMembers
  refine (reads_readName t).bind fun name afterName _ _ => ?_
  refine (within.value afterName).bind fun value rest distinct _ => ?_
  dsimp only
  split
  · next c after next =>
      split
      · exact Reads.ok (by simpa using distinct) (suffix_of_skipBlank next)
      split
      · refine Reads.bind ((within.members (skipBlank after)).behind
          ((skipBlank_suffix after).trans (suffix_of_skipBlank next))) fun members rest all _ => ?_
        exact Reads.ok (List.forall_mem_cons.mpr ⟨distinct, all⟩) (List.suffix_refl rest)
      · exact Reads.flawed _ _
  · exact Reads.flawed _ _

end ReadsWithin

theorem readsWithin (bound : Nat) : ReadsWithin bound := by
  induction bound with
  | zero =>
      refine ⟨fun t => ?_, fun t => ?_, fun t => ?_⟩
      · rw [readValue]
        exact Reads.flawed _ _
      · rw [readItems]
        exact Reads.flawed _ _
      · rw [readMembers]
        exact Reads.flawed _ _
  | succ bound ih => exact ⟨ih.readValue_succ, ih.readItems_succ, ih.readMembers_succ⟩

/-! ## Documents -/

/-- A document is a value with nothing but white space around it. -/
theorem readDocument_eq_ok {t : Text} {value : Value} (isRead : readDocument t = .ok value) :
    ∃ rest, readValue (2 * t.length + 2) (skipBlank t) = .ok (value, rest) := by
  unfold readDocument at isRead
  dsimp only at isRead
  split at isRead
  · cases isRead
  obtain ⟨⟨given, rest⟩, valueRead, isRead⟩ := bind_eq_ok_iff.mp isRead
  dsimp only at isRead
  split at isRead
  · cases isRead
    exact ⟨rest, valueRead⟩
  · cases isRead

theorem readDocument_eq_tooManyDigits {t : Text} {n : Nat}
    (refused : readDocument t = .error (.tooManyDigits n)) :
    readValue (2 * t.length + 2) (skipBlank t) = .error (.tooManyDigits n) := by
  unfold readDocument at refused
  dsimp only at refused
  split at refused
  · cases refused
  cases valueRead : readValue (2 * t.length + 2) (skipBlank t) with
  | error fault =>
      rw [valueRead] at refused
      cases refused
      rfl
  | ok found =>
      rw [valueRead] at refused
      dsimp only [bind, Except.bind] at refused
      split at refused <;> cases refused

/-- What is read as a document has distinct names. -/
theorem distinct_of_read {t : Text} {value : Value} (isRead : read t = .ok value) :
    value.Distinct := by
  rw [read, mapError_eq_ok_iff] at isRead
  obtain ⟨rest, valueRead⟩ := readDocument_eq_ok isRead
  exact (((readsWithin _).value _).good valueRead).1

/-- A document is refused for a number with too many digits only if it has such a run of digits. -/
theorem hasLongRun_of_read {t : Text} {n : Nat} (refused : read t = .error (.tooManyDigits n)) :
    HasLongRun t n := by
  unfold read at refused
  cases outcome : readDocument t with
  | ok value =>
      rw [outcome] at refused
      cases refused
  | error fault =>
      rw [outcome] at refused
      cases fault with
      | flawed flaw place => cases refused
      | tooManyDigits m =>
          cases refused
          exact (((readsWithin _).value _).long (readDocument_eq_tooManyDigits outcome)).of_suffix
            (skipBlank_suffix t)

end Json
end ClassHarvest
