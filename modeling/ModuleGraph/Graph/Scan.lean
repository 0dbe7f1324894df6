import ModuleGraph.Graph.Loader

/-!
# Scanning

From what a user asks for to a module graph: the entries are resolved, all of them before
anything is loaded, and the loader does the rest.
-/

set_option autoImplicit false

namespace ModuleGraph

/-- A module a user asks for, under a name of his own if he gives one. -/
structure EntryRequest where
  name : Option String := none
  specifier : String
  deriving DecidableEq, Repr

namespace Scan

/-- The outcome of resolving one entry. Entries have to be files. -/
def checkEntry (request : EntryRequest) (outcome : Except ResolveError ModuleRef) :
    Except BuildError (Option String × ModuleRef) :=
  match outcome with
  | .error cause => .error (.unresolvedEntry request.specifier cause)
  | .ok target =>
      if target.isExternal then .error (.externalEntry request.specifier target.id)
      else .ok (request.name, target)

/-- Resolves the entries in order, collecting what was found and what was not. -/
def resolveEntries (r : Resolver) : List EntryRequest →
    StateM Store (List (Option String × ModuleRef) × List BuildError)
  | [] => return ([], [])
  | request :: rest => do
      -- all entries are looked at, so that every failure is told at once
      let outcome ← (r.resolveEntry request.specifier).run
      let (found, errors) ← resolveEntries r rest
      match checkEntry request outcome with
      | .ok entry => return (entry :: found, errors)
      | .error e => return (found, e :: errors)

/-- What a loader that waits for no message has to show: the errors, if there are any, otherwise
the graph with the given entries. -/
def outcome? (s : Loader) (points : List EntryPoint) :
    Option (Except (List BuildError) Graph) :=
  if s.errors ≠ [] then some (.error s.errors)
  else s.table?.map fun modules => .ok { modules, entries := points, warnings := s.warnings }

/-- The graph reachable from entries that have been resolved. The scan is unfinished, and the
answer none, if it takes more than `limit` modules. -/
def loadGraph (ctx : LoadContext) (limit : Nat) (entries : List (Option String × ModuleRef)) :
    StateM Store (Option (Except (List BuildError) Graph)) := do
  let (s, points) := Loader.start entries
  let s ← Loader.run ctx limit s
  return if s.remaining ≠ 0 then none else outcome? s points

/-- The graph reachable from the entries a user asks for. -/
def run (ctx : LoadContext) (limit : Nat) (requests : List EntryRequest) :
    StateM Store (Option (Except (List BuildError) Graph)) := do
  if requests.isEmpty then return some (.error [.noEntry])
  else
    let (entries, errors) ← resolveEntries ctx.resolver requests
    if errors.isEmpty then loadGraph ctx limit entries
    else return some (.error errors)

end Scan

end ModuleGraph
