import ClassHarvest.Text.Basic

/-!
# UTF-8

The bytes of a text and the text of a sequence of bytes.  Surrogates have no bytes; a faulty
sequence of bytes is refused with its place and the kind of the fault.
-/

namespace ClassHarvest.Utf8

/-! ## Writing -/

/-- The positions `first` to `last` of a text hold surrogates. -/
structure EncodeError where
  /-- The first surrogate. -/
  character : CodePoint
  /-- Its position. -/
  first : Nat
  /-- The position of the last surrogate of the same run. -/
  last : Nat
deriving DecidableEq, Repr

/-- The wording of a refusal to write. -/
def EncodeError.message (e : EncodeError) : Text :=
  if e.first = e.last then
    "'utf-8' codec can't encode character '\\u" ++ Text.hex 4 e.character.val ++ "' in position "
      ++ Text.ofNat e.first ++ ": surrogates not allowed"
  else
    "'utf-8' codec can't encode characters in position " ++ Text.ofNat e.first ++ "-"
      ++ Text.ofNat e.last ++ ": surrogates not allowed"

/-- The bytes of one code point, as if surrogates had bytes too. -/
def bytes (c : CodePoint) : List UInt8 :=
  let n := c.val
  if n < 0x80 then [UInt8.ofNat n]
  else if n < 0x800 then [UInt8.ofNat (0xC0 + n / 64), UInt8.ofNat (0x80 + n % 64)]
  else if n < 0x10000 then
    [UInt8.ofNat (0xE0 + n / 4096), UInt8.ofNat (0x80 + n / 64 % 64), UInt8.ofNat (0x80 + n % 64)]
  else
    [UInt8.ofNat (0xF0 + n / 262144), UInt8.ofNat (0x80 + n / 4096 % 64),
      UInt8.ofNat (0x80 + n / 64 % 64), UInt8.ofNat (0x80 + n % 64)]

/-- The bytes of a text without surrogates. -/
def encode (t : Text) : Except EncodeError (List UInt8) :=
  match t.findIdx? CodePoint.isSurrogate with
  | none => .ok (t.flatMap bytes)
  | some first =>
    let run := (t.drop first).takeWhile CodePoint.isSurrogate
    .error ⟨run.headD default, first, first + run.length - 1⟩

/-! ## Reading -/

/-- What is wrong with a sequence of bytes. -/
inductive Fault where
  /-- A byte that starts no character. -/
  | startByte
  /-- A character that is broken off by a byte which does not continue it. -/
  | continuationByte
  /-- A character that is broken off by the end. -/
  | endOfData
deriving DecidableEq, Repr

/-- The faulty bytes of a sequence. -/
structure DecodeError where
  /-- The kind of the fault. -/
  fault : Fault
  /-- The first faulty byte. -/
  byte : UInt8
  /-- Its position. -/
  first : Nat
  /-- The number of faulty bytes. -/
  size : Nat
deriving DecidableEq, Repr

/-- The wording of a fault. -/
def Fault.message : Fault → Text
  | .startByte => "invalid start byte"
  | .continuationByte => "invalid continuation byte"
  | .endOfData => "unexpected end of data"

/-- The wording of a refusal to read. -/
def DecodeError.message (e : DecodeError) : Text :=
  if e.size = 1 then
    "'utf-8' codec can't decode byte 0x" ++ Text.hex 2 e.byte.toNat ++ " in position "
      ++ Text.ofNat e.first ++ ": " ++ e.fault.message
  else
    "'utf-8' codec can't decode bytes in position " ++ Text.ofNat e.first ++ "-"
      ++ Text.ofNat (e.first + e.size - 1) ++ ": " ++ e.fault.message

/-- The first character of a sequence that starts with `lead`: its code point and the number of
further bytes, or the fault and the number of faulty bytes. -/
def readCharacter (lead : UInt8) (rest : List UInt8) : Except (Fault × Nat) (CodePoint × Nat) :=
  let a := lead.toNat
  let tail (n : Nat) : Bool := 0x80 ≤ n && n ≤ 0xBF
  if a < 0x80 then .ok (.ofNat a, 0)
  else if a < 0xC2 || 0xF5 ≤ a then .error (.startByte, 1)
  else
    -- The second byte has a narrower range after some first bytes.
    let low := if a = 0xE0 then 0xA0 else if a = 0xF0 then 0x90 else 0x80
    let high := if a = 0xED then 0x9F else if a = 0xF4 then 0x8F else 0xBF
    match rest.map UInt8.toNat with
    | [] => .error (.endOfData, 1)
    | b :: rest =>
      if !(low ≤ b && b ≤ high) then .error (.continuationByte, 1)
      else if a < 0xE0 then .ok (.ofNat ((a - 0xC0) * 64 + (b - 0x80)), 1)
      else
        match rest with
        | [] => .error (.endOfData, 2)
        | c :: rest =>
          if !tail c then .error (.continuationByte, 2)
          else if a < 0xF0 then
            .ok (.ofNat ((a - 0xE0) * 4096 + (b - 0x80) * 64 + (c - 0x80)), 2)
          else
            match rest with
            | [] => .error (.endOfData, 3)
            | d :: _ =>
              if !tail d then .error (.continuationByte, 3)
              else
                .ok (.ofNat ((a - 0xF0) * 262144 + (b - 0x80) * 4096 + (c - 0x80) * 64
                  + (d - 0x80)), 3)

/-- The text of the bytes from a position on. -/
def decodeFrom (position : Nat) : List UInt8 → Except DecodeError Text
  | [] => .ok []
  | lead :: rest =>
    match readCharacter lead (rest.take 3) with
    | .error (fault, size) => .error ⟨fault, lead, position, size⟩
    | .ok (c, further) =>
      match decodeFrom (position + further + 1) (rest.drop further) with
      | .ok t => .ok (c :: t)
      | .error e => .error e
termination_by bs => bs.length
decreasing_by simp only [List.length_drop, List.length_cons]; omega

/-- The text of a sequence of bytes. -/
def decode (bs : List UInt8) : Except DecodeError Text :=
  decodeFrom 0 bs

end ClassHarvest.Utf8
