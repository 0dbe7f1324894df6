import ModuleGraph.FilePath
import ModuleGraph.Resolve.Error
import ModuleGraph.Resolve.Format
import ModuleGraph.Text.Blank

/-!
# The module graph

Modules by their place in the table, with the imports that connect them. A file is known by its
canonical path and everything else by its URL; what is no file is *external*, part of the graph
but never loaded.
-/

set_option autoImplicit false

namespace ModuleGraph

open Text

/-- The identity of a module: a path for a file, a URL for everything else. -/
abbrev ModuleId := String

namespace ModuleId

/-- The path of a file from the working directory, the same on every machine. Other identities
are their own. -/
def stable (cwd : FilePath) (id : ModuleId) : String :=
  let path := FilePath.ofString id
  if path.isAbsolute then (path.relativeTo cwd).display else id

/-- How a module is shown to users. Data, which may be long, is bracketed. -/
def shown (cwd : FilePath) (id : ModuleId) : String :=
  if startsWith (id.toList.dropWhile isBlank) ['d', 'a', 't', 'a', ':'] then "<" ++ id ++ ">"
  else stable cwd id

end ModuleId

/-- What a specifier was resolved to. -/
structure ModuleRef where
  id : ModuleId
  format : Format
  isExternal : Bool
  deriving DecidableEq, Repr

/-- The two kinds of static import. -/
inductive ImportKind where
  | importStatement
  | exportFrom
  deriving DecidableEq, Repr

/-- The name of a kind of import. -/
def ImportKind.name : ImportKind → String
  | .importStatement => "import-statement"
  | .exportFrom => "export-from"

/-- An edge of the graph: how a module imports the one at a place of the table. -/
structure ImportRecord where
  specifier : String
  kind : ImportKind
  target : Nat
  deriving DecidableEq, Repr

/-- A module that has been loaded. -/
structure LoadedModule where
  idx : Nat
  id : ModuleId
  stableId : String
  format : Format
  isEntry : Bool
  hasExports : Bool
  imports : List ImportRecord
  /-- The modules that import this one, in order of discovery, each once. -/
  importers : List ModuleId
  deriving DecidableEq, Repr

/-- A module that is not loaded. -/
structure ExternalModule where
  idx : Nat
  id : ModuleId
  format : Format
  deriving DecidableEq, Repr

/-- A node of the graph. -/
inductive Module where
  | loaded (module : LoadedModule)
  | external (module : ExternalModule)
  deriving DecidableEq, Repr

namespace Module

/-- The place of a module in the table. -/
def idx : Module → Nat
  | loaded m => m.idx
  | external m => m.idx

/-- The identity of a module. -/
def id : Module → ModuleId
  | loaded m => m.id
  | external m => m.id

/-- The identity of a module on every machine. -/
def stableId : Module → String
  | loaded m => m.stableId
  | external m => m.id

/-- The format of a module. -/
def format : Module → Format
  | loaded m => m.format
  | external m => m.format

/-- The imports of a module. What is not loaded has none. -/
def imports : Module → List ImportRecord
  | loaded m => m.imports
  | external _ => []

/-- Whether a module is not loaded. -/
def isExternal : Module → Bool
  | loaded _ => false
  | external _ => true

end Module

/-- A module the user asked for, under the name given to it. -/
structure EntryPoint where
  idx : Nat
  name : Option String
  deriving DecidableEq, Repr

/-- A remark that does not keep the graph from being built. -/
inductive Warning where
  /-- The format of a module is not known, so nobody has looked for its imports. -/
  | unknownFormat (module : String)
  deriving DecidableEq, Repr

/-- The wording of a remark. -/
def Warning.message : Warning → String
  | .unknownFormat module =>
      "Unknown format of " ++ module ++ ", its dependencies are not scanned."

/-- The modules reachable from the entries, each at its place in order of discovery. -/
structure Graph where
  modules : List Module
  entries : List EntryPoint
  warnings : List Warning
  deriving Repr

namespace Graph

/-- The first module with an identity. -/
def moduleById? (g : Graph) (id : ModuleId) : Option Module := g.modules.find? fun m => m.id = id

/-- The modules the entries name. -/
def entryModules (g : Graph) : List Module := g.entries.filterMap fun e => g.modules[e.idx]?

/-- The modules a module imports, in source order. -/
def dependencies (g : Graph) (m : Module) : List Module :=
  m.imports.filterMap fun record => g.modules[record.target]?

end Graph

/-- Why a graph cannot be built. -/
inductive BuildError where
  | noEntry
  /-- An entry that is not a file. -/
  | externalEntry (specifier : String) (id : ModuleId)
  | unresolvedEntry (specifier : String) (cause : ResolveError)
  /-- A module whose text cannot be read, with the module that first asked for it. -/
  | unreadable (module : String) (importer : Option String) (cause : String)
  | unparsable (module : String)
  | unresolved (specifier module : String) (cause : ResolveError)
  deriving DecidableEq, Repr

namespace BuildError

/-- The resolution failure behind an error. -/
def resolveError? : BuildError → Option ResolveError
  | .unresolvedEntry _ cause => some cause
  | .unresolved _ _ cause => some cause
  | _ => none

/-- What was being done when the error arose, or the error itself if nothing is behind it. -/
def context : BuildError → String
  | .noEntry => "No entry given, pass at least one input module"
  | .externalEntry specifier id =>
      "Entry " ++ quoted specifier ++ " resolved to " ++ id ++ ", not a file"
  | .unresolvedEntry specifier _ => "Could not resolve entry " ++ quoted specifier
  | .unreadable module importer cause =>
      let importedBy :=
        match importer with
        | some importer => " (imported by " ++ importer ++ ")"
        | none => ""
      "Could not load " ++ module ++ importedBy ++ " - " ++ cause ++ "."
  | .unparsable module => "Failed to parse " ++ module
  | .unresolved specifier module _ => "Could not resolve " ++ quoted specifier ++ " from " ++ module

/-- The wording of an error with the failure behind it. -/
def message (e : BuildError) : String :=
  match e.resolveError? with
  | some cause => e.context ++ ": " ++ cause.message
  | none => e.context

end BuildError

end ModuleGraph
