import ClassHarvest.Number.Notation
import ClassHarvest.Number.Shortest
import ClassHarvest.Text.Case
import ClassHarvest.Yaml.Node

/-!
# Values

What the nodes of a document stand for.  A scalar stands for a value of its own.  A collection may hold
itself, so a document is a table of collections by the numbers of their nodes.

Collections are filled in the order in which they are met, level by level: the first fault in this order
is the one that is reported.
-/

namespace ClassHarvest.Yaml

/-! ## Scalars -/

/-- The value of a scalar. -/
inductive Scalar where
  /-- Nothing. -/
  | null
  /-- A truth value. -/
  | bool (value : Bool)
  /-- A whole number. -/
  | int (value : Int)
  /-- A floating-point number. -/
  | float (value : Binary64)
  /-- A text. -/
  | text (value : Text)
  /-- Bytes. -/
  | bytes (value : List UInt8)
  /-- A date, or a date and time. -/
  | timestamp (value : Timestamp)
deriving DecidableEq, Repr

namespace Scalar

/-- The value of a truth value as a number. -/
def bit (value : Bool) : Int :=
  if value then 1 else 0

/-- Whether two scalars are the same key: numbers are compared by value, whatever their kind. -/
def isSameKey : Scalar → Scalar → Bool
  | .bool a, .int b | .int b, .bool a => bit a = b
  | .bool a, .float b | .float b, .bool a => b.equalsInt (bit a)
  | .int a, .float b | .float b, .int a => b.equalsInt a
  | .float a, .float b => a = b || (a.isZero && b.isZero)
  | a, b => a = b

/-! ### Numbers -/

/-- A text without underscores. -/
def withoutUnderscores (t : Text) : Text :=
  t.filter fun c => c.val ≠ 95

/-- The whole number to a base that a text is the writing of. -/
def readWhole (base : Nat) (t : Text) : Except LoadError Int :=
  match Numeral.read base t with
  | .ok n => .ok n
  | .error .malformed => .error (.noInteger base t)
  | .error (.tooManyDigits digits) => .error (.tooManyDigits digits)

/-- The floating-point number that a text is the writing of. -/
def readFloat (t : Text) : Except LoadError Binary64 :=
  match Binary64.ofText? t with
  | some x => .ok x
  | none => .error (.noFloat t)

/-- A whole number: binary, octal, decimal, hexadecimal or to the base sixty. -/
def int? (written : Text) : Except LoadError Int := do
  let t := withoutUnderscores written
  if t.isEmpty then throw .emptyNumber
  let (negative, body) := Numeral.splitSign t
  let first ← match body with
    | [] => throw .emptyNumber
    | c :: _ => pure c
  let n ←
    if Text.ofString "0b" <+: body then readWhole 2 (body.drop 2)
    else if Text.ofString "0x" <+: body then readWhole 16 (body.drop 2)
    else if first.val = 48 then readWhole 8 body
    else if body.any (·.val = 58) then do
      let digits ← (body.splitOn ':').mapM (readWhole 10)
      pure (digits.foldl (fun n digit => n * 60 + digit) 0)
    else readWhole 10 body
  return if negative then -n else n

/-- A sum of digits, the last first, each times its power of sixty. -/
def sumOfSixtieths (power : Int) (sum : Binary64) : List Binary64 → Binary64
  | [] => sum
  | digit :: rest => sumOfSixtieths (power * 60) (sum.add (digit.mul (.ofInt power))) rest

/-- A floating-point number: decimal or to the base sixty. -/
def float? (written : Text) : Except LoadError Binary64 := do
  let t := Text.lower (withoutUnderscores written)
  if t.isEmpty then throw .emptyNumber
  let (negative, body) := Numeral.splitSign t
  let x ←
    if body = (".inf" : Text) then pure (.infinite false)
    else if body = (".nan" : Text) then pure .nan
    else if body.any (·.val = 58) then do
      let digits ← (body.splitOn ':').mapM readFloat
      pure (sumOfSixtieths 1 (.zero false) digits.reverse)
    else readFloat body
  return if negative then x.neg else x

/-! ### Words, bytes and times -/

/-- The truth values of words in small letters. -/
def truths : List (Text × Bool) := [
  ("yes", true), ("no", false), ("true", true), ("false", false), ("on", true), ("off", false)]

/-- A truth value. -/
def bool? (t : Text) : Except LoadError Bool :=
  let word := Text.lower t
  match truths.lookup word with
  | some value => .ok value
  | none => .error (.noTruthValue word)

/-- The value of a digit to the base sixty-four. -/
def sextet? (c : CodePoint) : Option Nat :=
  let n := c.val
  if c.isAsciiUpper then some (n - 65)
  else if c.isAsciiLower then some (n - 71)
  else if c.isAsciiDigit then some (n + 4)
  else if n = 43 then some 62
  else if n = 47 then some 63
  else none

/-- The bytes that a text stands for to the base sixty-four: `held` are the digits of the current group
of four in reverse, `pads` the signs that fill it up.  Other characters do not count. -/
def bytesFrom (held : List Nat) (pads : Nat) : Text → Option (List UInt8)
  | [] => if held.isEmpty then some [] else none
  | c :: rest =>
    if c.val = 61 then
      if 2 ≤ held.length && 4 ≤ held.length + pads + 1 then some []
      else bytesFrom held (if 2 ≤ held.length then pads + 1 else pads) rest
    else
      match sextet? c, held with
      | none, _ => bytesFrom held pads rest
      | some n, [] => bytesFrom [n] 0 rest
      | some n, [a] => do
        return UInt8.ofNat (a * 4 + n / 16) :: (← bytesFrom [n, a] 0 rest)
      | some n, [b, a] => do
        return UInt8.ofNat (b % 16 * 16 + n / 4) :: (← bytesFrom [n, b, a] 0 rest)
      | some n, b :: _ => do
        return UInt8.ofNat (b % 4 * 64 + n) :: (← bytesFrom [] 0 rest)

/-- Bytes. -/
def bytes? (t : Text) : Except LoadError (List UInt8) :=
  if t.all (·.val < 128) then
    match bytesFrom [] 0 t with
    | some value => .ok value
    | none => .error .malformed
  else .error .malformed

/-- A date, or a date and time. -/
def timestamp? (t : Text) : Except LoadError Timestamp :=
  match TimeParts.ofText? (Tag.withoutLastBreak t) with
  | some parts => parts.check.mapError .time
  | none => .error .noTime

/-! ### Display -/

/-- A floating-point number in the fewest digits. -/
def floatText (x : Binary64) : Text :=
  x.text "inf" "nan"

/-- A byte as it stands between quotes. -/
def quotedByte (quote : CodePoint) (byte : UInt8) : Text :=
  if byte.toNat < 127 then Text.quotedPoint quote (.ofNat byte.toNat)
  else "\\x" ++ Text.hex 2 byte.toNat

/-- Bytes in quotes. -/
def bytesText (bytes : List UInt8) : Text :=
  let quote := Text.quoteFor (bytes.map fun byte => .ofNat byte.toNat)
  ("b" : Text) ++ quote :: bytes.flatMap (quotedByte quote) ++ [quote]

/-- A whole number in decimal. -/
def wholeText (n : Int) : Except LoadError Text :=
  match Numeral.write? n with
  | some digits => .ok digits
  | none => .error .tooGreatToWrite

/-- A scalar as it stands inside a collection. -/
def quoted : Scalar → Except LoadError Text
  | .null => return "None"
  | .bool value => return if value then "True" else "False"
  | .int value => wholeText value
  | .float value => return floatText value
  | .text value => return value.quoted
  | .bytes value => return bytesText value
  | .timestamp value => return value.partsText

/-- A scalar as a text. -/
def display : Scalar → Except LoadError Text
  | .text value => return value
  | .timestamp value => return value.text
  | value => value.quoted

end Scalar

/-! ## Collections -/

/-- A value: a scalar, or a collection by its number. -/
inductive Value where
  /-- A scalar. -/
  | scalar (value : Scalar)
  /-- A collection. -/
  | collection (id : NodeId)
deriving DecidableEq, Repr

/-- What a collection holds. -/
inductive Collection where
  /-- Values in order. -/
  | sequence (items : List Value)
  /-- Values by key. -/
  | mapping (entries : List (Scalar × Value))
  /-- Keys alone. -/
  | set (members : List Scalar)
  /-- Pairs in order. -/
  | pairs (pairs : List (Value × Value))
deriving DecidableEq, Repr

/-- The values in a collection that are no keys. -/
def Collection.values : Collection → List Value
  | .sequence items => items
  | .mapping entries => entries.map (·.2)
  | .set _ => []
  | .pairs list => list.flatMap fun (a, b) => [a, b]

/-- A value with the collections that it leads to. -/
structure Document where
  /-- The value. -/
  root : Value
  /-- The collections by number. -/
  collections : List (NodeId × Collection)
deriving Repr

/-! ## From nodes to values -/

namespace Graph

/-- The text of a scalar; a mapping stands for the value under the key `=`. -/
def scalarText (graph : Graph) : Nat → NodeId → Except LoadError Text
  | 0, _ => .error .malformed
  | bound + 1, id =>
    match (graph.node id).body with
    | .scalar text => .ok text
    | .sequence _ => .error .malformed
    | .mapping pairs =>
      match pairs.find? fun (key, _) => (graph.node key).tag = .value with
      | some (_, value) => graph.scalarText bound value
      | none => .error .malformed

/-- The value of a node, whose collection is not yet filled. -/
def valueOf (graph : Graph) (id : NodeId) : Except LoadError Value := do
  let text := graph.scalarText (graph.nodes.size + 1) id
  match (graph.node id).tag with
  | .null =>
    let _ ← text
    return .scalar .null
  | .bool => return .scalar (.bool (← Scalar.bool? (← text)))
  | .int => return .scalar (.int (← Scalar.int? (← text)))
  | .float => return .scalar (.float (← Scalar.float? (← text)))
  | .binary => return .scalar (.bytes (← Scalar.bytes? (← text)))
  | .timestamp => return .scalar (.timestamp (← Scalar.timestamp? (← text)))
  | .str => return .scalar (.text (← text))
  | .seq | .map | .set | .omap | .pairs => return .collection id
  | .merge | .value | .other => throw .malformed

/-- The value of a node that stands for a key. -/
def keyOf (graph : Graph) (id : NodeId) : Except LoadError Scalar := do
  if (graph.node id).tag = .value then
    return .text (← graph.scalarText (graph.nodes.size + 1) id)
  match ← graph.valueOf id with
  | .scalar key => return key
  | .collection _ => throw .malformed

/-- The pairs of a mapping, those of other mappings that are taken over first.  The mappings in `around`
are being looked at already; of them only their own pairs are taken. -/
def mergedPairs (graph : Graph) :
    Nat → List NodeId → NodeId → Except LoadError (List (NodeId × NodeId))
  | 0, _, _ => .error .malformed
  | bound + 1, around, id => do
    match (graph.node id).body with
    | .mapping pairs =>
      let isMerge : NodeId × NodeId → Bool := fun (key, _) => (graph.node key).tag = .merge
      let own := pairs.filter fun pair => !isMerge pair
      if around.contains id then return own
      let taken ← (pairs.filter isMerge).mapM fun (_, value) => do
        match (graph.node value).body with
        | .mapping _ => graph.mergedPairs bound (id :: around) value
        | .sequence items =>
          let parts ← items.mapM (graph.mergedPairs bound (id :: around))
          return parts.reverse.flatten
        | .scalar _ => throw .malformed
      return taken.flatten ++ own
    | _ => throw .malformed

/-- Put an entry into a mapping: an earlier key stays, the later value counts. -/
def putEntry (key : Scalar) (value : Value) : List (Scalar × Value) → List (Scalar × Value)
  | [] => [(key, value)]
  | (k, v) :: rest =>
    if k.isSameKey key then (k, value) :: rest else (k, v) :: putEntry key value rest

/-- The entries of a mapping. -/
def entriesOf (graph : Graph) (id : NodeId) : Except LoadError (List (Scalar × Value)) := do
  let pairs ← graph.mergedPairs (graph.nodes.size + 1) [] id
  let entries ← pairs.mapM fun (key, value) => do
    let key ← graph.keyOf key
    return (key, ← graph.valueOf value)
  return entries.foldl (fun done (key, value) => putEntry key value done) []

/-- A pair that a mapping of one entry stands for. -/
def pairOf (graph : Graph) (id : NodeId) : Except LoadError (Value × Value) := do
  match (graph.node id).body with
  | .mapping [(key, value)] =>
    let key ← graph.valueOf key
    return (key, ← graph.valueOf value)
  | _ => throw .malformed

/-- What the collection of a node holds. -/
def collectionOf (graph : Graph) (id : NodeId) : Except LoadError Collection := do
  let node := graph.node id
  match node.tag, node.body with
  | .seq, .sequence items => return .sequence (← items.mapM graph.valueOf)
  | .map, .mapping _ => return .mapping (← graph.entriesOf id)
  | .set, .mapping _ => return .set ((← graph.entriesOf id).map (·.1))
  | .omap, .sequence items | .pairs, .sequence items => return .pairs (← items.mapM graph.pairOf)
  | _, _ => throw .malformed

/-- The numbers of collections that are met for the first time. -/
def unseen (seen : List NodeId) (values : List Value) : List NodeId :=
  values.foldl (fun found value =>
    match value with
    | .collection id => if seen.contains id || found.contains id then found else found ++ [id]
    | .scalar _ => found) []

/-- Fill the collections that wait, in their order. -/
def fill (graph : Graph) (seen : List NodeId) :
    Nat → List NodeId → Except LoadError (List (NodeId × Collection))
  | _, [] => .ok []
  | 0, _ => .ok []
  | bound + 1, id :: waiting => do
    let collection ← graph.collectionOf id
    let found := unseen seen collection.values
    return (id, collection) :: (← graph.fill (seen ++ found) bound (waiting ++ found))

/-- The document that a graph stands for. -/
def document (graph : Graph) : Except LoadError Document := do
  let root ← graph.valueOf graph.root
  let first := unseen [] [root]
  return ⟨root, ← graph.fill first graph.nodes.size first⟩

end Graph

namespace Document

/-- The document that a text holds; nothing for an empty one. -/
def ofText (t : Text) : Except LoadError Document := do
  match ← Graph.ofText t with
  | some graph => graph.document
  | none => return ⟨.scalar .null, []⟩

/-- What a value holds, if it is a collection. -/
def collection? (document : Document) : Value → Option Collection
  | .scalar _ => none
  | .collection id => document.collections.lookup id

/-- The entries of a mapping. -/
def mapping? (document : Document) (value : Value) : Option (List (Scalar × Value)) :=
  match document.collection? value with
  | some (.mapping entries) => some entries
  | _ => none

/-! ## Display -/

/-- What stands in the place of a collection inside itself. -/
def insideItself : Collection → Text
  | .sequence _ | .pairs _ => "[...]"
  | .mapping _ => "\x7b...\x7d"
  | .set _ => "set(...)"

/-- Texts with commas between them and brackets around. -/
def bracketed (left right : Text) (items : List Text) : Text :=
  left ++ Text.join ", " items ++ right

/-- A value as it stands inside a collection; the collections in `around` stand around it. -/
def quotedIn (document : Document) (around : List NodeId) :
    Nat → Value → Except LoadError Text
  | _, .scalar value => value.quoted
  | 0, .collection _ => .ok []
  | bound + 1, .collection id => do
    match document.collections.lookup id with
    | none => return []
    | some collection =>
      if around.contains id then return insideItself collection
      let item := document.quotedIn (id :: around) bound
      match collection with
      | .sequence items => return bracketed "[" "]" (← items.mapM item)
      | .mapping entries =>
        return bracketed "\x7b" "\x7d" (← entries.mapM fun (key, value) => do
          return (← key.quoted) ++ (": " : Text) ++ (← item value))
      | .set members =>
        if members.isEmpty then return "set()"
        return bracketed "\x7b" "\x7d" (← members.mapM Scalar.quoted)
      | .pairs pairs =>
        return bracketed "[" "]" (← pairs.mapM fun (a, b) => do
          return bracketed "(" ")" [← item a, ← item b])

/-- A value as a text. -/
def display (document : Document) : Value → Except LoadError Text
  | .scalar value => value.display
  | value => document.quotedIn [] (document.collections.length + 1) value

end Document
end ClassHarvest.Yaml
