import ModuleGraph.Graph.Basic
import ModuleGraph.Resolve.Resolver
import ModuleGraph.Script.Summary

/-!
# Loading the graph

The loader keeps a table of places, one for every identity met so far. A new identity gets the
next place and, unless it is external, a *task* that loads it. `Task.run` reads the module, looks
up its imports and answers with a message; `Loader.handle` files the message, and with it come new
identities and new tasks. Tasks may report in any order; `Loader.run` takes them first come,
first served, which numbers the graph breadth first.
-/

set_option autoImplicit false

namespace ModuleGraph

/-- What all tasks of one scan share. -/
structure LoadContext where
  resolver : Resolver
  /-- The summary of a source text, or none if it does not follow its grammar. -/
  summarize : Script.Dialect → String → Option Script.Summary

/-! ## Resolving for the graph -/

/-- The node of the graph that a resolved location stands for: files by path, all else by URL. -/
def ModuleRef.ofResolved (resolved : Resolved) : ModuleRef :=
  match resolved.location.toFilePath? with
  | some path =>
      if resolved.location.isFile then
        { id := path.display, format := resolved.format, isExternal := false }
      else { id := resolved.location.href, format := resolved.format, isExternal := true }
  | none => { id := resolved.location.href, format := resolved.format, isExternal := true }

/-- Resolves a specifier of a module that has been loaded. -/
def Resolver.resolveImport (r : Resolver) (specifier : String) (importer : ModuleId) :
    Resolution ModuleRef := do
  return ModuleRef.ofResolved (← r.resolvePath specifier (some (FilePath.ofString importer)))

/-- Resolves an entry from the working directory. A name that leads to no package may be that of
a file: if so it counts, and if not the package is what was not found. -/
def Resolver.resolveEntry (r : Resolver) (specifier : String) : Resolution ModuleRef := do
  match ← (r.resolvePath specifier none).outcome with
  | .ok resolved => return ModuleRef.ofResolved resolved
  | .error e =>
      if SpecifierKind.of specifier = .bare then
        match ← (r.resolvePath ("./" ++ specifier) none).outcome with
        | .ok resolved => return ModuleRef.ofResolved resolved
        | .error _ => throw e
      else throw e

/-! ## Tasks -/

/-- The loading of one module. -/
structure Task where
  idx : Nat
  target : ModuleRef
  /-- The stable identity of the module that first imported it, none for an entry. -/
  owner : Option String
  isEntry : Bool
  deriving DecidableEq, Repr

/-- An import of a loaded module and what it was resolved to. -/
structure ResolvedImport where
  specifier : String
  kind : ImportKind
  target : ModuleRef
  deriving DecidableEq, Repr

/-- What a task reports. -/
inductive Message where
  /-- The module, still without its edges, and what the edges lead to. -/
  | done (module : LoadedModule) (imports : List ResolvedImport) (warnings : List Warning)
  | failed (errors : List BuildError)
  deriving DecidableEq, Repr

/-- The language of the modules of a format, none if their imports cannot be seen. -/
def Format.dialect? : Format → Option Script.Dialect
  | .module => some .module
  | .commonJs => some .script
  | _ => none

namespace Task

/-- The stable identity of the module a task loads. -/
def stableId (ctx : LoadContext) (task : Task) : String :=
  ModuleId.stable ctx.resolver.cwd task.target.id

/-- The summary of the text of a module. A format whose imports cannot be seen has none. -/
def summary (ctx : LoadContext) (task : Task) (source : String) :
    Except BuildError Script.Summary :=
  match task.target.format.dialect? with
  | none => .ok { imports := [], hasExports := false }
  | some dialect =>
      match ctx.summarize dialect source with
      | some summary => .ok summary
      | none => .error (.unparsable (task.stableId ctx))

/-- The summary of the module a task loads, read from its file. -/
def load (ctx : LoadContext) (task : Task) : Except BuildError Script.Summary :=
  match ctx.resolver.fs.readText (FilePath.ofString task.target.id) with
  | .error cause =>
      .error (.unreadable (ModuleId.shown ctx.resolver.cwd task.target.id) task.owner cause)
  | .ok source => task.summary ctx source

/-- The kind of an import of a source text. -/
def kindOf (i : Script.Import) : ImportKind :=
  if i.isReexport then .exportFrom else .importStatement

/-- Resolves the imports of a module in source order, collecting what was found and what was
not. -/
def resolveImports (ctx : LoadContext) (task : Task) :
    List Script.Import → StateM Store (List ResolvedImport × List BuildError)
  | [] => return ([], [])
  | i :: rest => do
      -- a failure does not keep the imports behind it from being resolved
      let outcome ← (ctx.resolver.resolveImport i.specifier task.target.id).run
      let (found, errors) ← resolveImports ctx task rest
      match outcome with
      | .ok target =>
          return ({ specifier := i.specifier, kind := kindOf i, target } :: found, errors)
      | .error cause =>
          return (found, .unresolved i.specifier (task.stableId ctx) cause :: errors)

/-- What a task has to remark on. -/
def warnings (ctx : LoadContext) (task : Task) : List Warning :=
  if task.target.format = .undefined then [.unknownFormat (task.stableId ctx)] else []

/-- The module of a task before its edges are known. -/
def bareModule (ctx : LoadContext) (task : Task) (hasExports : Bool) : LoadedModule :=
  { idx := task.idx
    id := task.target.id
    stableId := task.stableId ctx
    format := task.target.format
    isEntry := task.isEntry
    hasExports
    imports := []
    importers := [] }

/-- Loads a module and resolves its imports. A module fails as a whole: one that cannot be read
or parsed with that error, one with imports that lead nowhere with an error for each of them. -/
def run (ctx : LoadContext) (task : Task) : StateM Store Message := do
  match task.load ctx with
  | .error e => return .failed [e]
  | .ok summary =>
      let (found, errors) ← task.resolveImports ctx summary.imports
      if errors.isEmpty then
        return .done (task.bareModule ctx summary.hasExports) found (task.warnings ctx)
      else return .failed errors

end Task

/-! ## The loader -/

/-- The state of a scan. Places and importers run in parallel; a place is empty until the module
at it has been loaded. -/
structure Loader where
  places : List (Option Module) := []
  importers : List (List ModuleId) := []
  /-- The place of every identity met so far. -/
  visited : List (ModuleId × Nat) := []
  /-- The tasks that have not reported, in the order in which they were started. -/
  pending : List Task := []
  /-- The number of messages that are still to come. -/
  remaining : Nat := 0
  errors : List BuildError := []
  warnings : List Warning := []

namespace Loader

/-- The loader with a place for an identity, and the place. A new identity takes the next one;
a file then starts a task. -/
def visit (s : Loader) (target : ModuleRef) (owner : Option String) (isEntry : Bool) :
    Loader × Nat :=
  match s.visited.lookup target.id with
  | some idx => (s, idx)
  | none =>
      -- the place is taken before the task has run, so that a second importer finds it
      let idx := s.places.length
      let s :=
        { s with
          importers := s.importers ++ [[]]
          visited := (target.id, idx) :: s.visited }
      if target.isExternal then
        let module := Module.external { idx, id := target.id, format := target.format }
        ({ s with places := s.places ++ [some module] }, idx)
      else
        let task : Task := { idx, target, owner, isEntry }
        ({ s with
            places := s.places ++ [none]
            pending := s.pending ++ [task]
            remaining := s.remaining + 1 }, idx)

/-- Records that the module at a place is imported. -/
def addImporter (s : Loader) (idx : Nat) (importer : ModuleId) : Loader :=
  { s with importers := s.importers.modify idx (· ++ [importer]) }

/-- Follows the imports of a module in source order, answering its edges. -/
def connect (s : Loader) (importer : LoadedModule) : List ResolvedImport → Loader × List ImportRecord
  | [] => (s, [])
  | i :: rest =>
      let (s, idx) := s.visit i.target (some importer.stableId) false
      let (s, records) := (s.addImporter idx importer.id).connect importer rest
      (s, { specifier := i.specifier, kind := i.kind, target := idx } :: records)

/-- Files a message. -/
def handle (s : Loader) : Message → Loader
  | .failed errors =>
      { s with errors := s.errors ++ errors, remaining := s.remaining - 1 }
  | .done module imports warnings =>
      let s := { s with warnings := s.warnings ++ warnings }
      let (s, records) := s.connect module imports
      { s with
        places := s.places.set module.idx (some (.loaded { module with imports := records }))
        remaining := s.remaining - 1 }

/-- The loader after the entries have been visited, and their places. -/
def start (entries : List (Option String × ModuleRef)) : Loader × List EntryPoint :=
  entries.foldl (fun (s, points) (name, target) =>
    let (s, idx) := s.visit target none true
    (s, points ++ [{ idx, name }])) ({}, [])

/-- Lets the oldest task report. -/
def step (ctx : LoadContext) (s : Loader) : StateM Store Loader :=
  match s.pending with
  | [] => return s
  | task :: rest => return { s with pending := rest }.handle (← task.run ctx)

/-- Lets tasks report until none is left, at most `limit` of them. -/
def run (ctx : LoadContext) : Nat → Loader → StateM Store Loader
  | 0, s => return s
  | limit + 1, s =>
      if s.remaining = 0 then return s
      else do run ctx limit (← s.step ctx)

/-- The module at a place with the modules that import it, each once. -/
def withImporters (module : Module) (importers : List ModuleId) : Module :=
  match module with
  | .loaded m => .loaded { m with importers := importers.eraseDups }
  | .external m => .external m

/-- The table of a loader, if no place is empty. -/
def table? (s : Loader) : Option (List Module) :=
  (s.places.zip s.importers).mapM fun (place, importers) =>
    place.map fun module => withImporters module importers

end Loader

end ModuleGraph
