import ClassHarvest.Cache.HashCache
import ClassHarvest.Files.Kind
import ClassHarvest.Files.Walk

/-!
# Manifests

The manifest of a project lists its files with their sizes, kinds and hashes.
-/

namespace ClassHarvest

/-- A file of a project. -/
structure FileRecord where
  /-- Where it is below the root. -/
  path : Text
  /-- The number of its bytes. -/
  size : Nat
  /-- Its kind. -/
  kind : FileKind
  /-- The hash of its bytes. -/
  hash : Text
deriving DecidableEq, Repr

/-- The files of a project in the order of their paths. -/
structure Manifest where
  /-- The directory of the project. -/
  root : Path
  /-- Its files. -/
  files : List FileRecord
deriving Repr

namespace Manifest

/-- The name of the file in which hashes are kept. -/
def cacheName : Text := "manifest_cache.json"

/-- The name of the file with ignore rules. -/
def ignoreFile : Text := ".gitignore"

/-- Where hashes are kept. -/
def cachePath (root : Path) : Path :=
  (root.child Walk.stateDirectory).child cacheName

/-- The ignore rules of a project: those of its ignore file, then others that are excluded. -/
def rules (disk : Disk) (root : Path) (excluded : List Text) : Except FileReadError IgnoreRules :=
  let path := root.child ignoreFile
  if disk.isFile path then
    (disk.readText path).map fun text => IgnoreRules.ofLines (text.lines ++ excluded)
  else .ok (IgnoreRules.ofLines excluded)

/-- A file as it is recorded. -/
def record (cache : HashCache) (found : Walk.Found) : FileRecord where
  path := found.path
  size := found.content.bytes.length
  kind := .ofPath found.path
  hash := cache.hashOf found.path found.content

/-- The hashes of some files as they are kept. -/
def hashes (cache : HashCache) (found : List Walk.Found) : HashCache :=
  found.map fun file =>
    (file.path, .ofFile file.content (cache.hashOf file.path file.content))

/-- What is reported of a manifest. -/
def log (manifest : Manifest) : Log :=
  [⟨.debug, "Manifest for " ++ manifest.root.text ++ " holds " ++
    Text.ofNat manifest.files.length ++ " files"⟩]

/-- The files of a kind. -/
def ofKind (manifest : Manifest) (kind : FileKind) : List FileRecord :=
  manifest.files.filter (·.kind = kind)

/-! ## Scanning a project -/

/-- Why there is no manifest of a project. -/
inductive ScanError where
  /-- There is nothing at the path. -/
  | notFound (path : Text)
  /-- There is a file at the path. -/
  | notDirectory (path : Text)
  /-- The ignore file cannot be read. -/
  | ignoreFile (error : FileReadError)
deriving DecidableEq, Repr

/-- The wording of a refusal. -/
def ScanError.message : ScanError → Text
  | .notFound path => "Project path not found: " ++ path
  | .notDirectory path => "Project path is not a directory: " ++ path
  | .ignoreFile error => error.message

/-- The manifest of the project in a directory, and the disk and what is reported.  A refusal names
the directory as it was given.  With `persist` the hashes are kept for the next time. -/
def scan (disk : Disk) (given : Text) (root : Path) (excluded : List Text) (persist : Bool) :
    Except ScanError (Manifest × Disk × Log) :=
  match disk.status root with
  | .error _ => .error (.notFound given)
  | .ok (.file _) => .error (.notDirectory given)
  | .ok (.directory entries) =>
    match rules disk root excluded with
    | .error error => .error (.ignoreFile error)
    | .ok rules =>
      let cache := HashCache.load disk (cachePath root)
      let found := Walk.files rules (.directory entries)
      let manifest : Manifest := ⟨root, found.map (record cache)⟩
      let (disk, saving) :=
        if persist then HashCache.save (hashes cache found) disk (cachePath root) else (disk, [])
      .ok (manifest, disk, saving ++ manifest.log)

end Manifest
end ClassHarvest
