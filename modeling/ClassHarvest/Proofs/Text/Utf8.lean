import ClassHarvest.Proofs.Json.Strings
import ClassHarvest.Text.Utf8

/-!
# UTF-8 read and written

The bytes of a text without surrogates are read as this text, and what is read of any bytes holds no
surrogate and has these bytes.  A text file is read with line feeds at all line ends, which changes
nothing in a text without carriage returns and nothing within a line.
-/

namespace ClassHarvest.Utf8

/-! ## Reading what was written -/

theorem toNat_ofNat {n : Nat} (small : n < 256) : (UInt8.ofNat n).toNat = n := by
  rw [UInt8.toNat_ofNat']
  exact Nat.mod_eq_of_lt small

theorem readCharacter_one {n : Nat} (small : n < 0x80) (rest : List UInt8) :
    readCharacter (UInt8.ofNat n) rest = .ok (.ofNat n, 0) := by
  have lead := toNat_ofNat (n := n) (by omega)
  simp [readCharacter, lead, small]

theorem readCharacter_two {a b : Nat} (lead : 0xC2 ≤ a ∧ a < 0xE0) (next : 0x80 ≤ b ∧ b ≤ 0xBF)
    (rest : List UInt8) :
    readCharacter (UInt8.ofNat a) (UInt8.ofNat b :: rest) =
      .ok (.ofNat ((a - 0xC0) * 64 + (b - 0x80)), 1) := by
  have first := toNat_ofNat (n := a) (by omega)
  have second := toNat_ofNat (n := b) (by omega)
  simp only [readCharacter, first, List.map_cons, second]
  grind

theorem readCharacter_three {a b c : Nat} (lead : 0xE0 ≤ a ∧ a < 0xF0)
    (next : 0x80 ≤ b ∧ b ≤ 0xBF) (narrow : (a = 0xE0 → 0xA0 ≤ b) ∧ (a = 0xED → b ≤ 0x9F))
    (last : 0x80 ≤ c ∧ c ≤ 0xBF) (rest : List UInt8) :
    readCharacter (UInt8.ofNat a) (UInt8.ofNat b :: UInt8.ofNat c :: rest) =
      .ok (.ofNat ((a - 0xE0) * 4096 + (b - 0x80) * 64 + (c - 0x80)), 2) := by
  have first := toNat_ofNat (n := a) (by omega)
  have second := toNat_ofNat (n := b) (by omega)
  have third := toNat_ofNat (n := c) (by omega)
  simp only [readCharacter, first, List.map_cons, second, third]
  grind

theorem readCharacter_four {a b c d : Nat} (lead : 0xF0 ≤ a ∧ a < 0xF5)
    (next : 0x80 ≤ b ∧ b ≤ 0xBF) (narrow : (a = 0xF0 → 0x90 ≤ b) ∧ (a = 0xF4 → b ≤ 0x8F))
    (third : 0x80 ≤ c ∧ c ≤ 0xBF) (last : 0x80 ≤ d ∧ d ≤ 0xBF) (rest : List UInt8) :
    readCharacter (UInt8.ofNat a) (UInt8.ofNat b :: UInt8.ofNat c :: UInt8.ofNat d :: rest) =
      .ok (.ofNat ((a - 0xF0) * 262144 + (b - 0x80) * 4096 + (c - 0x80) * 64 + (d - 0x80)), 3) := by
  have first := toNat_ofNat (n := a) (by omega)
  have second := toNat_ofNat (n := b) (by omega)
  have thirdByte := toNat_ofNat (n := c) (by omega)
  have fourth := toNat_ofNat (n := d) (by omega)
  simp only [readCharacter, first, List.map_cons, second, thirdByte, fourth]
  grind

/-- The bytes of a character, with others behind them, are read as this character. -/
theorem readCharacter_bytes {c : CodePoint} (whole : c.isSurrogate = false) (rest : List UInt8) :
    ∃ lead tail, bytes c = lead :: tail ∧
      readCharacter lead ((tail ++ rest).take 3) = .ok (c, tail.length) := by
  obtain ⟨n, isLt⟩ := c
  simp only [CodePoint.isSurrogate, Bool.and_eq_false_iff, decide_eq_false_iff_not] at whole
  have value {m : Nat} (same : m = n) : CodePoint.ofNat m = ⟨n, isLt⟩ := by
    rw [same]
    exact CodePoint.ofNat_val ⟨n, isLt⟩
  rw [bytes]
  simp only
  by_cases one : n < 0x80
  · rw [if_pos one]
    exact ⟨_, _, rfl, by rw [readCharacter_one one, value rfl]; rfl⟩
  by_cases two : n < 0x800
  · rw [if_neg one, if_pos two]
    refine ⟨_, _, rfl, ?_⟩
    rw [List.cons_append, List.take_succ_cons, readCharacter_two (by omega) (by omega),
      value (by omega)]
    rfl
  by_cases three : n < 0x10000
  · rw [if_neg one, if_neg two, if_pos three]
    refine ⟨_, _, rfl, ?_⟩
    rw [List.cons_append, List.cons_append, List.take_succ_cons, List.take_succ_cons,
      readCharacter_three (by omega) (by omega) (by omega) (by omega), value (by omega)]
    rfl
  · rw [if_neg one, if_neg two, if_neg three]
    refine ⟨_, _, rfl, ?_⟩
    rw [List.cons_append, List.cons_append, List.cons_append, List.take_succ_cons,
      List.take_succ_cons, List.take_succ_cons,
      readCharacter_four (by omega) (by omega) (by omega) (by omega) (by omega), value (by omega)]
    rfl

theorem decodeFrom_flatMap_bytes {t : Text} (whole : ∀ c ∈ t, c.isSurrogate = false)
    (position : Nat) : decodeFrom position (t.flatMap bytes) = .ok t := by
  induction t generalizing position with
  | nil =>
      rw [List.flatMap_nil, decodeFrom]
  | cons c t ih =>
      obtain ⟨lead, tail, shape, read⟩ :=
        readCharacter_bytes (whole c List.mem_cons_self) (t.flatMap bytes)
      rw [List.flatMap_cons, shape, List.cons_append, decodeFrom, read]
      simp only [List.drop_left]
      rw [ih fun d mem => whole d (List.mem_cons_of_mem c mem)]

theorem encode_eq_ok {t : Text} (whole : ∀ c ∈ t, c.isSurrogate = false) :
    encode t = .ok (t.flatMap bytes) := by
  have none : t.findIdx? CodePoint.isSurrogate = none := by
    rw [List.findIdx?_eq_none_iff]
    exact whole
  rw [encode, none]

/-- Only a text without surrogates has bytes. -/
theorem encode_eq_ok_iff {t : Text} {bs : List UInt8} :
    encode t = .ok bs ↔ (∀ c ∈ t, c.isSurrogate = false) ∧ t.flatMap bytes = bs := by
  constructor
  · intro written
    have whole : ∀ c ∈ t, c.isSurrogate = false := by
      rw [encode] at written
      split at written
      · next none => exact List.findIdx?_eq_none_iff.mp none
      · cases written
    rw [encode_eq_ok whole] at written
    exact ⟨whole, Except.ok.inj written⟩
  · rintro ⟨whole, rfl⟩
    exact encode_eq_ok whole

theorem decode_of_encode {t : Text} {bs : List UInt8} (written : encode t = .ok bs) :
    decode bs = .ok t := by
  obtain ⟨whole, rfl⟩ := encode_eq_ok_iff.mp written
  exact decodeFrom_flatMap_bytes whole 0

/-- Only the null character has a null byte. -/
theorem zero_not_mem_bytes {c : CodePoint} (nonzero : c.val ≠ 0) : (0 : UInt8) ∉ bytes c := by
  have small := c.isLt
  have other {n : Nat} (inRange : 0 < n ∧ n < 256) : (0 : UInt8) ≠ UInt8.ofNat n := by
    intro same
    have value := congrArg UInt8.toNat same
    rw [toNat_ofNat inRange.2] at value
    exact absurd value.symm (Nat.ne_of_gt inRange.1)
  rw [bytes]
  split
  · exact fun mem => other (by omega) (List.mem_singleton.mp mem)
  split
  · simp only [List.mem_cons, List.not_mem_nil, or_false, not_or]
    exact ⟨other (by omega), other (by omega)⟩
  split
  · simp only [List.mem_cons, List.not_mem_nil, or_false, not_or]
    exact ⟨other (by omega), other (by omega), other (by omega)⟩
  · simp only [List.mem_cons, List.not_mem_nil, or_false, not_or]
    exact ⟨other (by omega), other (by omega), other (by omega), other (by omega)⟩

/-! ## What is read -/

theorem isSurrogate_ofNat {n : Nat} (outside : n < 0xD800 ∨ 0xDFFF < n) :
    (CodePoint.ofNat n).isSurrogate = false := by
  rw [CodePoint.ofNat, CodePoint.ofNat?]
  split
  · simp only [CodePoint.isSurrogate, Option.getD_some, Bool.and_eq_false_iff,
      decide_eq_false_iff_not]
    omega
  · rfl

/-- The ranges of the second byte keep surrogates out. -/
theorem isSurrogate_of_readCharacter {lead : UInt8} {rest : List UInt8} {c : CodePoint}
    {further : Nat} (read : readCharacter lead rest = .ok (c, further)) : c.isSurrogate = false := by
  suffices number : ∃ n, c = .ofNat n ∧ (n < 0xD800 ∨ 0xDFFF < n) by
    obtain ⟨n, rfl, outside⟩ := number
    exact isSurrogate_ofNat outside
  unfold readCharacter at read
  simp only at read
  generalize lowIs : (if lead.toNat = 0xE0 then 0xA0 else if lead.toNat = 0xF0 then 0x90 else 0x80) =
    low at read
  generalize highIs : (if lead.toNat = 0xED then 0x9F else if lead.toNat = 0xF4 then 0x8F else 0xBF) =
    high at read
  split at read
  · cases read
    exact ⟨_, rfl, by omega⟩
  split at read
  · cases read
  split at read
  · cases read
  split at read
  · cases read
  split at read
  · simp only [Except.ok.injEq, Prod.mk.injEq] at read
    refine ⟨_, read.1.symm, ?_⟩
    grind
  split at read
  · cases read
  split at read
  · cases read
  split at read
  · simp only [Except.ok.injEq, Prod.mk.injEq] at read
    refine ⟨_, read.1.symm, ?_⟩
    grind
  split at read
  · cases read
  split at read
  · cases read
  · simp only [Except.ok.injEq, Prod.mk.injEq] at read
    refine ⟨_, read.1.symm, ?_⟩
    grind

/-- What is read holds no surrogate. -/
theorem isSurrogate_of_mem_decode {bs : List UInt8} {t : Text} (read : decode bs = .ok t) :
    ∀ c ∈ t, c.isSurrogate = false := by
  suffices all : ∀ position, decodeFrom position bs = .ok t → ∀ c ∈ t, c.isSurrogate = false from
    all 0 read
  clear read
  intro position read
  induction position, bs using decodeFrom.induct generalizing t with
  | case1 position =>
      rw [decodeFrom] at read
      cases read
      exact fun c mem => absurd mem List.not_mem_nil
  | case2 position lead rest fault size faulty =>
      rw [decodeFrom, faulty] at read
      cases read
  | case3 position lead rest c further first u others ih =>
      rw [decodeFrom, first] at read
      simp only [others] at read
      cases read
      intro d mem
      rcases List.mem_cons.mp mem with rfl | mem
      · exact isSurrogate_of_readCharacter first
      · exact ih others d mem
  | case4 position lead rest c further first error others ih =>
      rw [decodeFrom, first] at read
      simp only [others] at read
      cases read

/-! ## What is read was written -/

theorem bytes_one {a : UInt8} (lead : a.toNat < 0x80) : bytes (.ofNat a.toNat) = [a] := by
  rw [bytes, CodePoint.val_ofNat (by omega)]
  simp only [if_pos lead, UInt8.ofNat_toNat]

theorem bytes_two {a b : UInt8} (lead : 0xC2 ≤ a.toNat ∧ a.toNat < 0xE0)
    (next : 0x80 ≤ b.toNat ∧ b.toNat ≤ 0xBF) :
    bytes (.ofNat ((a.toNat - 0xC0) * 64 + (b.toNat - 0x80))) = [a, b] := by
  generalize number : (a.toNat - 0xC0) * 64 + (b.toNat - 0x80) = n
  have first : 0xC0 + n / 64 = a.toNat := by omega
  have second : 0x80 + n % 64 = b.toNat := by omega
  rw [bytes, CodePoint.val_ofNat (by omega), if_neg (by omega), if_pos (by omega), first, second,
    UInt8.ofNat_toNat, UInt8.ofNat_toNat]

theorem bytes_three {a b c : UInt8} (lead : 0xE0 ≤ a.toNat ∧ a.toNat < 0xF0)
    (next : 0x80 ≤ b.toNat ∧ b.toNat ≤ 0xBF) (wide : a.toNat = 0xE0 → 0xA0 ≤ b.toNat)
    (last : 0x80 ≤ c.toNat ∧ c.toNat ≤ 0xBF) :
    bytes (.ofNat ((a.toNat - 0xE0) * 4096 + (b.toNat - 0x80) * 64 + (c.toNat - 0x80))) =
      [a, b, c] := by
  generalize number : (a.toNat - 0xE0) * 4096 + (b.toNat - 0x80) * 64 + (c.toNat - 0x80) = n
  have first : 0xE0 + n / 4096 = a.toNat := by omega
  have second : 0x80 + n / 64 % 64 = b.toNat := by omega
  have third : 0x80 + n % 64 = c.toNat := by omega
  rw [bytes, CodePoint.val_ofNat (by omega), if_neg (by omega), if_neg (by omega),
    if_pos (by omega), first, second, third, UInt8.ofNat_toNat, UInt8.ofNat_toNat, UInt8.ofNat_toNat]

theorem bytes_four {a b c d : UInt8} (lead : 0xF0 ≤ a.toNat ∧ a.toNat < 0xF5)
    (next : 0x80 ≤ b.toNat ∧ b.toNat ≤ 0xBF)
    (narrow : (a.toNat = 0xF0 → 0x90 ≤ b.toNat) ∧ (a.toNat = 0xF4 → b.toNat ≤ 0x8F))
    (third : 0x80 ≤ c.toNat ∧ c.toNat ≤ 0xBF) (last : 0x80 ≤ d.toNat ∧ d.toNat ≤ 0xBF) :
    bytes (.ofNat ((a.toNat - 0xF0) * 262144 + (b.toNat - 0x80) * 4096 + (c.toNat - 0x80) * 64 +
      (d.toNat - 0x80))) = [a, b, c, d] := by
  generalize number : (a.toNat - 0xF0) * 262144 + (b.toNat - 0x80) * 4096 + (c.toNat - 0x80) * 64 +
    (d.toNat - 0x80) = n
  have firstByte : 0xF0 + n / 262144 = a.toNat := by omega
  have secondByte : 0x80 + n / 4096 % 64 = b.toNat := by omega
  have thirdByte : 0x80 + n / 64 % 64 = c.toNat := by omega
  have fourthByte : 0x80 + n % 64 = d.toNat := by omega
  rw [bytes, CodePoint.val_ofNat (by omega), if_neg (by omega), if_neg (by omega),
    if_neg (by omega), firstByte, secondByte, thirdByte, fourthByte, UInt8.ofNat_toNat,
    UInt8.ofNat_toNat, UInt8.ofNat_toNat, UInt8.ofNat_toNat]

/-- What is read as a character begins with the bytes of the character. -/
theorem bytes_of_readCharacter {lead : UInt8} {rest : List UInt8} {c : CodePoint} {further : Nat}
    (read : readCharacter lead rest = .ok (c, further)) :
    bytes c = lead :: rest.take further ∧ further ≤ 3 := by
  unfold readCharacter at read
  simp only at read
  generalize lowIs : (if lead.toNat = 0xE0 then 0xA0 else if lead.toNat = 0xF0 then 0x90 else 0x80) =
    low at read
  generalize highIs : (if lead.toNat = 0xED then 0x9F else if lead.toNat = 0xF4 then 0x8F else 0xBF) =
    high at read
  have lowest : 0x80 ≤ low ∧ (lead.toNat = 0xE0 → 0xA0 ≤ low) ∧ (lead.toNat = 0xF0 → 0x90 ≤ low) := by
    grind
  have highest : high ≤ 0xBF ∧ (lead.toNat = 0xF4 → high ≤ 0x8F) := by grind
  clear lowIs highIs
  split at read
  · next one =>
      cases read
      exact ⟨bytes_one one, by omega⟩
  split at read
  · cases read
  rename_i notOne inRange
  simp only [Bool.not_eq_true, Bool.or_eq_false_iff, decide_eq_false_iff_not] at inRange
  cases rest with
  | nil => cases read
  | cons b rest =>
  simp only [List.map_cons] at read
  split at read
  · cases read
  rename_i next
  simp only [Bool.not_eq_true, Bool.not_eq_false', Bool.and_eq_true, decide_eq_true_eq] at next
  split at read
  · simp only [Except.ok.injEq, Prod.mk.injEq] at read
    obtain ⟨rfl, rfl⟩ := read
    exact ⟨bytes_two (by omega) (by omega), by omega⟩
  cases rest with
  | nil => cases read
  | cons c rest =>
  simp only [List.map_cons] at read
  split at read
  · cases read
  rename_i third
  simp only [Bool.not_eq_true, Bool.not_eq_false', Bool.and_eq_true, decide_eq_true_eq] at third
  split at read
  · simp only [Except.ok.injEq, Prod.mk.injEq] at read
    obtain ⟨rfl, rfl⟩ := read
    exact ⟨bytes_three (by omega) (by omega) (by omega) (by omega), by omega⟩
  cases rest with
  | nil => cases read
  | cons d rest =>
  simp only [List.map_cons] at read
  split at read
  · cases read
  rename_i last
  simp only [Bool.not_eq_true, Bool.not_eq_false', Bool.and_eq_true, decide_eq_true_eq] at last
  simp only [Except.ok.injEq, Prod.mk.injEq] at read
  obtain ⟨rfl, rfl⟩ := read
  exact ⟨bytes_four (by omega) (by omega) (by omega) (by omega) (by omega), by omega⟩

/-- The bytes of what is read are those that it is read from. -/
theorem flatMap_bytes_of_decode {bs : List UInt8} {t : Text} (read : decode bs = .ok t) :
    t.flatMap bytes = bs := by
  suffices all : ∀ position, decodeFrom position bs = .ok t → t.flatMap bytes = bs from all 0 read
  clear read
  intro position read
  induction position, bs using decodeFrom.induct generalizing t with
  | case1 position =>
      rw [decodeFrom] at read
      cases read
      rfl
  | case2 position lead rest fault size faulty =>
      rw [decodeFrom, faulty] at read
      cases read
  | case3 position lead rest c further first u others ih =>
      rw [decodeFrom, first] at read
      simp only [others] at read
      cases read
      obtain ⟨shape, few⟩ := bytes_of_readCharacter first
      rw [List.flatMap_cons, shape, ih others, List.take_take, Nat.min_eq_left few, List.cons_append,
        List.take_append_drop]
  | case4 position lead rest c further first error others ih =>
      rw [decodeFrom, first] at read
      simp only [others] at read
      cases read

/-- A sequence of bytes is read as the text that has them. -/
theorem decode_eq_ok_iff {bs : List UInt8} {t : Text} : decode bs = .ok t ↔ encode t = .ok bs :=
  ⟨fun read => encode_eq_ok_iff.mpr ⟨isSurrogate_of_mem_decode read, flatMap_bytes_of_decode read⟩,
    decode_of_encode⟩

end ClassHarvest.Utf8

/-! ## Line ends -/

namespace ClassHarvest.Text

theorem universalNewlines_cons {c : CodePoint} (noReturn : c.val ≠ 13) (t : Text) :
    universalNewlines (c :: t) = c :: t.universalNewlines := by
  rw [universalNewlines.eq_def]
  simp [noReturn]

theorem universalNewlines_eq_self {t : Text} (noReturn : ∀ c ∈ t, c.val ≠ 13) :
    t.universalNewlines = t := by
  induction t with
  | nil => rfl
  | cons c t ih =>
      rw [universalNewlines_cons (noReturn c List.mem_cons_self),
        ih fun d mem => noReturn d (List.mem_cons_of_mem c mem)]

theorem mem_of_mem_universalNewlines {t : Text} {c : CodePoint} (mem : c ∈ t.universalNewlines) :
    c = ('\n' : CodePoint) ∨ c ∈ t ∧ c.val ≠ 13 := by
  induction t using universalNewlines.induct with
  | case1 => cases mem
  | case2 d isReturn e rest isFeed ih =>
      rw [universalNewlines, if_pos isReturn] at mem
      simp only [if_pos isFeed, List.mem_cons] at mem
      rcases mem with rfl | mem
      · exact Or.inl rfl
      · exact (ih mem).imp_right fun ⟨inside, value⟩ =>
          ⟨List.mem_cons_of_mem d (List.mem_cons_of_mem e inside), value⟩
  | case3 d isReturn e rest noFeed ih =>
      rw [universalNewlines, if_pos isReturn] at mem
      simp only [if_neg noFeed, List.mem_cons] at mem
      rcases mem with rfl | mem
      · exact Or.inl rfl
      · exact (ih mem).imp_right fun ⟨inside, value⟩ => ⟨List.mem_cons_of_mem d inside, value⟩
  | case4 d isReturn =>
      rw [universalNewlines, if_pos isReturn, List.mem_singleton] at mem
      exact Or.inl mem
  | case5 d rest noReturn ih =>
      rw [universalNewlines_cons noReturn] at mem
      rcases List.mem_cons.mp mem with rfl | mem
      · exact Or.inr ⟨List.mem_cons_self, noReturn⟩
      · exact (ih mem).imp_right fun ⟨inside, value⟩ => ⟨List.mem_cons_of_mem d inside, value⟩

theorem exists_universalNewlines_cons (c : CodePoint) (rest : Text) :
    ∃ d after, universalNewlines (c :: rest) = d :: universalNewlines after ∧ after <:+ rest ∧
      (d = c ∧ after = rest ∨ d = ('\n' : CodePoint)) := by
  by_cases isReturn : c.val = 13
  · rw [universalNewlines.eq_def]
    simp only [isReturn, if_true]
    cases rest with
    | nil => exact ⟨_, [], rfl, List.suffix_refl [], Or.inr rfl⟩
    | cons e after =>
        dsimp only
        split
        · exact ⟨_, after, rfl, List.suffix_cons e after, Or.inr rfl⟩
        · exact ⟨_, e :: after, rfl, List.suffix_refl _, Or.inr rfl⟩
  · exact ⟨c, rest, universalNewlines_cons isReturn rest, List.suffix_refl rest, Or.inl ⟨rfl, rfl⟩⟩

theorem prefix_of_prefix_universalNewlines {t run : Text} (noFeed : ('\n' : CodePoint) ∉ run)
    (front : run <+: t.universalNewlines) : run <+: t := by
  induction run generalizing t with
  | nil => exact List.nil_prefix
  | cons c run ih =>
      rw [List.mem_cons, not_or] at noFeed
      cases t with
      | nil => cases List.prefix_nil.mp front
      | cons d t =>
          obtain ⟨e, after, shape, -, ⟨rfl, rfl⟩ | isFeed⟩ := exists_universalNewlines_cons d t
          · rw [shape, List.cons_prefix_cons] at front
            exact List.cons_prefix_cons.mpr ⟨front.1, ih noFeed.2 front.2⟩
          · rw [shape, List.cons_prefix_cons] at front
            exact absurd (isFeed.symm.trans front.1.symm) noFeed.1

/-- What stands in a line of a text stands there whatever the line ends are. -/
theorem infix_of_infix_universalNewlines {t run : Text} (noFeed : ('\n' : CodePoint) ∉ run)
    (inside : run <:+: t.universalNewlines) : run <:+: t := by
  induction size : t.length using Nat.strongRecOn generalizing t with
  | _ n ih =>
      cases t with
      | nil => exact inside
      | cons c rest =>
          obtain ⟨d, after, shape, behind, -⟩ := exists_universalNewlines_cons c rest
          rw [shape, List.infix_cons_iff, ← shape] at inside
          rcases inside with front | inside
          · exact (prefix_of_prefix_universalNewlines noFeed front).isInfix
          · have shorter : after.length < n := by
              rw [← size, List.length_cons]
              exact Nat.lt_succ_of_le behind.length_le
            exact (ih after.length shorter inside rfl).trans
              (behind.trans (List.suffix_cons c rest)).isInfix

end ClassHarvest.Text
