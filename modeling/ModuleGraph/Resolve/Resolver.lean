import ModuleGraph.Resolve.Format
import ModuleGraph.Resolve.Package

/-!
# The resolver

From a specifier and the module that imports it to a location and a format. What a specifier
denotes is found by its look; a file is then checked and given its canonical location, so that
one file has one location whatever links lead to it.
-/

set_option autoImplicit false

namespace ModuleGraph

/-- A location and how it is loaded. -/
structure Resolved where
  location : Url
  format : Format
  deriving DecidableEq, Repr

/-- What all resolutions of one run share. -/
structure Resolver where
  fs : FileSystem
  platform : Platform
  /-- The conditions used unless others are given. -/
  conditions : ConditionSet
  /-- The directory that paths of users are meant from. -/
  cwd : FilePath

namespace Resolver

/-- The resolver for a platform and the conditions a user adds. -/
def ofOptions (fs : FileSystem) (platform : Platform) (conditions : List String)
    (cwd : FilePath) : Resolver :=
  { fs, platform, conditions := ConditionSet.forImport platform conditions, cwd }

/-- What a specifier denotes, before anything is checked. A specifier that is a URL without a
hierarchy is followed from the parent as a path is. -/
def locate (r : Resolver) (specifier : String) (parent : Url) (conditions : ConditionSet) :
    Resolution Url :=
  match SpecifierKind.of specifier with
  | .url | .path =>
      match parent.join? specifier with
      | some location => pure location
      | none => throw ⟨.invalidSpecifier, specifier⟩
  | .subpathImport => Package.resolveImports r.fs r.platform specifier parent conditions
  | .bare => Package.resolveBare r.fs r.platform specifier parent conditions

/-- The canonical location of a file, with the query and fragment it was asked for with. -/
def canonicalFile (fs : FileSystem) (location : Url) : Except ResolveError Url :=
  if location.hasEncodedSeparator then
    .error ⟨.invalidSpecifier, location.href ++
      " must not include encoded \"/\" or \"\\\" characters"⟩
  else
    match location.toFilePath? with
    | none => .error ⟨.invalidSpecifier, location.href⟩
    | some path =>
        -- a directory is told apart from nothing at all
        if fs.isDir path then .error ⟨.directoryImport, path.display⟩
        else if !fs.isPresent path then .error ⟨.moduleNotFound, path.display⟩
        else
          match fs.canonicalize path with
          | .error cause => .error ⟨.moduleNotFound, path.display ++ ": " ++ cause⟩
          | .ok real =>
              match Url.ofFilePath? real with
              | none => .error ⟨.moduleNotFound, real.display⟩
              | some url =>
                  .ok { url with query := location.query, fragment := location.fragment }

/-- Checks a location and adds its format. -/
def finalize (r : Resolver) (location : Url) : Resolution Resolved := do
  let location ←
    if location.isFile then Resolution.ofExcept (canonicalFile r.fs location) else pure location
  return { location, format := ← Format.classify r.fs location }

/-- Resolves a specifier of the module at `parent` under the given conditions. -/
def resolveWith (r : Resolver) (specifier : String) (parent : Url) (conditions : ConditionSet) :
    Resolution Resolved := do
  r.finalize (← r.locate specifier parent conditions)

/-- Resolves a specifier of the module at `parent`. -/
def resolve (r : Resolver) (specifier : String) (parent : Url) : Resolution Resolved :=
  r.resolveWith specifier parent r.conditions

/-- The location that specifiers of a module are followed from; without a module, the working
directory. -/
def parentUrl? (r : Resolver) : Option FilePath → Option Url
  | some importer => Url.ofFilePath? importer
  | none => Url.ofDirPath? r.cwd

/-- Resolves a specifier of the module at the path `importer`, or of a module in the working
directory. -/
def resolvePath (r : Resolver) (specifier : String) (importer : Option FilePath) :
    Resolution Resolved :=
  match r.parentUrl? importer with
  | some parent => r.resolve specifier parent
  | none =>
      throw ⟨.moduleNotFound, specifier ++ " (importer " ++ (importer.getD r.cwd).display ++
        " is not an absolute path)"⟩

end Resolver

end ModuleGraph
