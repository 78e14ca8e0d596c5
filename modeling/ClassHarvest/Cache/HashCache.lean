import ClassHarvest.Digest.Sha256
import ClassHarvest.Files.Disk
import ClassHarvest.Json.Reader
import ClassHarvest.Json.Writer
import ClassHarvest.Log

/-!
# The cache of hashes

The hash of a file is kept with its size and the time of its last change, so that a file of which
neither is different need not be read again.
-/

namespace ClassHarvest

open Json (Value)

/-- What is kept of a file. -/
structure HashEntry where
  /-- Its size. -/
  size : Int
  /-- The time of its last change. -/
  stamp : Int
  /-- Its hash. -/
  hash : Text
deriving DecidableEq, Repr

namespace HashEntry

/-- The entry that an object stands for. -/
def ofJson? (value : Value) : Option HashEntry := do
  let members ← value.object?
  return {
    size := ← (← members.get? "size").whole?
    stamp := ← (← members.get? "mtime_ns").whole?
    hash := ← (← members.get? "hash").string? }

/-- The object that stands for an entry. -/
def toJson (entry : HashEntry) : Value :=
  .object [("size", .int entry.size), ("mtime_ns", .int entry.stamp), ("hash", .string entry.hash)]

/-- Whether an entry was made of a file as it is now. -/
def isOf (entry : HashEntry) (content : FileContent) : Bool :=
  entry.size = content.bytes.length && entry.stamp = content.stamp

/-- The entry of a file with a hash. -/
def ofFile (content : FileContent) (hash : Text) : HashEntry :=
  ⟨content.bytes.length, content.stamp, hash⟩

end HashEntry

/-- Entries by path. -/
abbrev HashCache := Dictionary HashEntry

namespace HashCache

/-- The format of the file. -/
def formatVersion : Int := 1

/-- The entries of a document; none if it has another format. -/
def ofDocument (document : Value) : HashCache :=
  let entries? : Option HashCache := do
    let members ← document.object?
    guard (← members.get? "version").isOne
    let entries ← (← members.get? "files").object?
    return entries.filterMap fun (path, value) => (HashEntry.ofJson? value).map (path, ·)
  entries?.getD []

/-- The document with some entries. -/
def toDocument (cache : HashCache) : Value :=
  .object [("version", .int formatVersion),
    ("files", .object (cache.map fun (path, entry) => (path, entry.toJson)))]

/-- The entries in a file; none if it cannot be read. -/
def load (disk : Disk) (path : Path) : HashCache :=
  match disk.readText path with
  | .error _ => []
  | .ok text =>
    match Json.read text with
    | .error _ => []
    | .ok document => ofDocument document

/-- The hash of a file: the one that is kept, if it was made of the file as it is now. -/
def hashOf (cache : HashCache) (path : Text) (content : FileContent) : Text :=
  match (cache.get? path).filter (·.isOf content) with
  | some entry => entry.hash
  | none => Sha256.hexDigest content.bytes

/-- Write entries to a file.  It is only reported if this cannot be done. -/
def save (cache : HashCache) (disk : Disk) (path : Path) : Disk × Log :=
  let failed (reason : Text) : Log := [⟨.debug, "Could not store manifest cache: " ++ reason⟩]
  match disk.ensureDirectory path.parent with
  | (disk, .error error) => (disk, failed error.message)
  | (disk, .ok ()) =>
    match disk.writeText path (Json.write cache.toDocument) with
    | (disk, .error error) => (disk, failed error.message)
    | (disk, .ok ()) => (disk, [])

end HashCache
end ClassHarvest
