import ClassHarvest.Files.Path
import ClassHarvest.Files.Tree
import ClassHarvest.Number.Numeral
import ClassHarvest.Text.Quoted
import ClassHarvest.Text.Utf8

/-!
# The disk

All files and directories, and the accesses to them.  An access that cannot be made is refused with
its cause and the path that it was tried on.
-/

namespace ClassHarvest

/-- All files and directories. -/
structure Disk where
  /-- The directory at the top. -/
  top : Tree
  /-- The stamp of what is written next. -/
  clock : Nat
deriving Repr

/-! ## Refusals -/

/-- Why an access is refused. -/
inductive FileFault where
  /-- There is nothing at a path. -/
  | notFound
  /-- There is something at a path already. -/
  | exists
  /-- A directory is needed where there is a file. -/
  | notDirectory
  /-- A file is needed where there is a directory. -/
  | isDirectory
deriving DecidableEq, Repr

namespace FileFault

/-- The number of a fault. -/
def number : FileFault → Nat
  | .notFound => 2
  | .exists => 17
  | .notDirectory => 20
  | .isDirectory => 21

/-- What a fault is called. -/
def description : FileFault → Text
  | .notFound => "No such file or directory"
  | .exists => "File exists"
  | .notDirectory => "Not a directory"
  | .isDirectory => "Is a directory"

end FileFault

/-- A refusal of an access. -/
structure FileError where
  /-- The cause. -/
  fault : FileFault
  /-- The path. -/
  path : Path
  /-- The new path, if something was to be moved. -/
  target : Option Path := none
deriving DecidableEq, Repr

/-- The wording of a refusal. -/
def FileError.message (error : FileError) : Text :=
  let places := match error.target with
    | none => error.path.text.quoted
    | some target => error.path.text.quoted ++ (" -> " : Text) ++ target.text.quoted
  "[Errno " ++ Text.ofNat error.fault.number ++ "] " ++ error.fault.description ++ (": " : Text) ++
    places

/-- Why a text cannot be read. -/
inductive FileReadError where
  /-- The file cannot be accessed. -/
  | access (error : FileError)
  /-- The file holds no text. -/
  | decoding (error : Utf8.DecodeError)
deriving DecidableEq, Repr

/-- The wording of a refusal. -/
def FileReadError.message : FileReadError → Text
  | .access error => error.message
  | .decoding error => error.message

/-- Why a text cannot be written. -/
inductive FileWriteError where
  /-- The file cannot be accessed. -/
  | access (error : FileError)
  /-- The text has no bytes. -/
  | encoding (error : Utf8.EncodeError)
  /-- The text would hold a number that has too many digits. -/
  | tooManyDigits
deriving DecidableEq, Repr

/-- The wording of a refusal. -/
def FileWriteError.message : FileWriteError → Text
  | .access error => error.message
  | .encoding error => error.message
  | .tooManyDigits => Numeral.writeMessage

namespace Disk

/-! ## Looking -/

/-- Why a sequence of names leads no further than to something of this kind. -/
def blocked : Option Tree → Option FileFault
  | none => some .notFound
  | some tree => if tree.isDirectory then none else some .notDirectory

/-- Follow names from a directory; every name but the last must lead to a directory. -/
def follow (disk : Disk) (above : List Text) : List Text → Except FileFault (List Text)
  | [] => .ok above
  | name :: rest =>
    match blocked (disk.top.get? above) with
    | some fault => .error fault
    | none =>
      if name = Path.parentName then follow disk above.dropLast rest
      else follow disk (above ++ [name]) rest

/-- The names, free of names of the directory around, that an absolute path leads along. -/
def locate (disk : Disk) (path : Path) : Except FileFault (List Text) :=
  disk.follow [] path.names

/-- What is at a path. -/
def status (disk : Disk) (path : Path) : Except FileFault Tree := do
  match disk.top.get? (← disk.locate path) with
  | some tree => return tree
  | none => throw .notFound

/-- Whether there is something at a path. -/
def «exists» (disk : Disk) (path : Path) : Bool :=
  (disk.status path).toOption.isSome

/-- Whether there is a directory at a path. -/
def isDirectory (disk : Disk) (path : Path) : Bool :=
  (disk.status path).toOption.any Tree.isDirectory

/-- Whether there is a file at a path. -/
def isFile (disk : Disk) (path : Path) : Bool :=
  (disk.status path).toOption.any fun tree => !tree.isDirectory

/-- What the directory at a path holds. -/
def entries (disk : Disk) (path : Path) : Dictionary Tree :=
  match disk.status path with
  | .ok tree => tree.entries
  | .error _ => []

/-- The bytes of the file at a path. -/
def read (disk : Disk) (path : Path) : Except FileError (List UInt8) :=
  match disk.status path with
  | .ok (.file content) => .ok content.bytes
  | .ok (.directory _) => .error ⟨.isDirectory, path, none⟩
  | .error fault => .error ⟨fault, path, none⟩

/-- The text of the file at a path, every line end as a line feed. -/
def readText (disk : Disk) (path : Path) : Except FileReadError Text :=
  match disk.read path with
  | .error error => .error (.access error)
  | .ok bytes =>
    match Utf8.decode bytes with
    | .error error => .error (.decoding error)
    | .ok text => .ok text.universalNewlines

/-! ## Changing -/

/-- The disk with a file put somewhere. -/
def putFile (disk : Disk) (names : List Text) (bytes : List UInt8) : Disk :=
  ⟨disk.top.put names (.file ⟨bytes, disk.clock⟩), disk.clock + 1⟩

/-- The names at which a file may be written. -/
def writable (disk : Disk) (path : Path) : Except FileFault (List Text) := do
  let names ← disk.locate path
  match disk.top.get? names with
  | some (.directory _) => throw .isDirectory
  | _ => return names

/-- The disk with a text written to a file.  The file is emptied first, and stays so if the text has
no bytes. -/
def writeText (disk : Disk) (path : Path) (text : Text) : Disk × Except FileWriteError Unit :=
  match disk.writable path with
  | .error fault => (disk, .error (.access ⟨fault, path, none⟩))
  | .ok names =>
    match Utf8.encode text with
    | .ok bytes => (disk.putFile names bytes, .ok ())
    | .error error => (disk.putFile names [], .error (.encoding error))

/-- The disk with a new directory. -/
def makeDirectory (disk : Disk) (path : Path) : Except FileFault Disk := do
  let names ← disk.locate path
  match disk.top.get? names with
  | some _ => throw .exists
  | none => return { disk with top := disk.top.put names (.directory []) }

/-- The disk with a directory, and with those around it, made if they are missing.  The names of the
path are given from the last one on. -/
def ensureNames (anchor : Text) : List Text → Disk → Disk × Except FileError Unit
  | [], disk => (disk, .ok ())
  | name :: above, disk =>
    let path : Path := ⟨anchor, (name :: above).reverse⟩
    let settled (disk : Disk) (fault : FileFault) : Disk × Except FileError Unit :=
      if disk.isDirectory path then (disk, .ok ()) else (disk, .error ⟨fault, path, none⟩)
    match disk.makeDirectory path with
    | .ok disk => (disk, .ok ())
    | .error .notFound =>
      match ensureNames anchor above disk with
      | (disk, .error error) => (disk, .error error)
      | (disk, .ok ()) =>
        match disk.makeDirectory path with
        | .ok disk => (disk, .ok ())
        | .error fault => settled disk fault
    | .error fault => settled disk fault

/-- The disk with a directory, and with those around it, made if they are missing. -/
def ensureDirectory (disk : Disk) (path : Path) : Disk × Except FileError Unit :=
  ensureNames path.anchor path.names.reverse disk

/-- The disk without what is at a path. -/
def remove (disk : Disk) (path : Path) : Disk :=
  match disk.locate path with
  | .ok names => { disk with top := disk.top.erase names }
  | .error _ => disk

/-- The disk with a file moved to another path, where it takes the place of a file. -/
def replace (disk : Disk) (path target : Path) : Disk × Except FileError Unit :=
  match disk.status path, disk.writable target with
  | .ok tree, .ok names => ({ disk with top := (disk.remove path).top.put names tree }, .ok ())
  | .error fault, _ | .ok _, .error fault => (disk, .error ⟨fault, path, some target⟩)

end Disk
end ClassHarvest
