import ModuleGraph.Package.Manifest
import ModuleGraph.Resolve.Error

/-!
# The store of manifests

Manifests are read once. The store remembers for a directory the manifest found there, or that
there was none; failures are not remembered. Directories are known by their components, so two
spellings of one directory share an entry.

The scope of a directory is the nearest directory with a manifest on the way up. A directory
that packages are installed in ends the search, since what lies below belongs to other packages.
-/

set_option autoImplicit false

namespace ModuleGraph

/-- What has been read: for each directory its manifest, or none. -/
structure Store where
  entries : List (List FilePath.Component × Option Manifest) := []
  deriving Inhabited

/-- A computation that may fail and reads manifests through the store. What it has read stays in
the store when it fails. -/
abbrev Resolution (α : Type) := ExceptT ResolveError (StateM Store) α

/-- A result that the store has no part in. -/
def Resolution.ofExcept {α : Type} (result : Except ResolveError α) : Resolution α :=
  ExceptT.mk (pure result)

/-- The outcome of a computation as a value, with what it has read. -/
def Resolution.outcome {α : Type} (x : Resolution α) : Resolution (Except ResolveError α) :=
  ExceptT.lift x.run

namespace Store

/-- The entry of a directory. -/
def find? (store : Store) (dir : FilePath) : Option (Option Manifest) :=
  store.entries.lookup dir.components

/-- Remembers what is in a directory, unless that is known. -/
def remember (store : Store) (dir : FilePath) (manifest : Option Manifest) : Store :=
  match store.find? dir with
  | some _ => store
  | none => ⟨(dir.components, manifest) :: store.entries⟩

/-- Whether a directory has a manifest: by its entry if there is one, by the file system
otherwise. -/
def hasManifest (fs : FileSystem) (store : Store) (dir : FilePath) : Bool :=
  match store.find? dir with
  | some manifest => manifest.isSome
  | none => fs.isPresent (dir.join manifestName)

/-- The first directory with a manifest in a list that leads up, if no directory for packages
comes before it or is it. -/
def firstScope? (fs : FileSystem) (store : Store) : List FilePath → Option FilePath
  | [] => none
  | dir :: rest =>
      if dir.fileName? = some packagesName.bytes then none
      else if hasManifest fs store dir then some dir
      else firstScope? fs store rest

/-- The scope of a directory. -/
def scope? (fs : FileSystem) (store : Store) (dir : FilePath) : Option FilePath :=
  firstScope? fs store dir.ancestors

/-- Reads the manifest at a path from the file system. -/
def loadManifest (fs : FileSystem) (path : FilePath) : Except ResolveError Manifest :=
  let fault (cause : String) : ResolveError :=
    ⟨.invalidConfiguration, path.display ++ ": " ++ cause⟩
  match fs.readText path with
  | .error cause => .error (fault cause)
  | .ok source =>
      match Manifest.parse path source with
      | .error e => .error (fault e.message)
      | .ok manifest => .ok manifest

/-- What the file system has in a directory: its manifest, or none. -/
def load (fs : FileSystem) (dir : FilePath) : Except ResolveError (Option Manifest) :=
  let path := dir.join manifestName
  if fs.isPresent path then (loadManifest fs path).map some else .ok none

/-- The manifest of a directory itself. -/
def read (fs : FileSystem) (dir : FilePath) : Resolution (Option Manifest) := do
  match (← get).find? dir with
  | some manifest => return manifest
  | none =>
      -- a failure leaves here, before anything is remembered
      let manifest ← Resolution.ofExcept (load fs dir)
      modify fun store => store.remember dir manifest
      return manifest

/-- The scope of a directory as the store and the file system show it now. -/
def currentScope? (fs : FileSystem) (dir : FilePath) : Resolution (Option FilePath) := do
  return (← get).scope? fs dir

/-- The manifest of the scope of a directory. -/
def find (fs : FileSystem) (dir : FilePath) : Resolution (Option Manifest) := do
  match ← currentScope? fs dir with
  | some scope => read fs scope
  | none => return none

/-- Forgets everything. -/
def clear : Store := {}

end Store

end ModuleGraph
