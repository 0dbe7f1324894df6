import ModuleGraph.CommandLine.Options
import ModuleGraph.CommandLine.Report
import ModuleGraph.Graph.Scan

/-!
# Running a command line

What comes of a command line over a file system, with the code and the text it ends with.
-/

set_option autoImplicit false

namespace ModuleGraph.CommandLine

/-- What a command line runs in. -/
structure Environment where
  fs : FileSystem
  /-- The directory it was given in. -/
  cwd : FilePath
  /-- The summary of a source text, or none if it does not follow its grammar. -/
  summarize : Script.Dialect → String → Option Script.Summary
  /-- The number of modules a scan may load. -/
  limit : Nat

/-- What comes of a command line. -/
inductive Outcome where
  | help
  | version
  | misuse
  /-- The directory to work in cannot be found. -/
  | badDirectory (cause : String)
  | located (resolved : Resolved)
  | unlocated (error : ResolveError)
  | scanned (graph : Graph)
  | failed (errors : List BuildError)
  /-- The scan would have loaded more modules than it may. -/
  | unfinished

namespace Outcome

/-- The code a command line ends with. -/
def exitCode : Outcome → Nat
  | help | version | located _ | scanned _ => 0
  | badDirectory _ | unlocated _ | failed _ | unfinished => 1
  | misuse => 2

/-- How a command line is written. -/
def usage : String :=
  line "Usage: [--cwd DIR] [-i FILE...] [-p PLATFORM] [-C CONDITION] [--resolve SPECIFIER]"

/-- The text a command line ends with. -/
def text (elapsed : String) : Outcome → String
  | help => usage
  | version => line "1.0.0"
  | misuse => ""
  | badDirectory cause => Report.error ("Invalid --cwd: " ++ cause)
  | located resolved => Report.location resolved
  | unlocated error => Report.resolveError error
  | scanned graph => Report.graph graph elapsed
  | failed errors => String.join (errors.map fun e => Report.error e.message)
  | unfinished => Report.error "Too many modules"

end Outcome

namespace Options

/-- The directory to work in. One that is given is looked for from where the command line was
given, and known by its canonical path. -/
def directory (o : Options) (env : Environment) : Except String FilePath :=
  match o.cwd with
  | some dir => env.fs.canonicalize (env.cwd.joinText dir)
  | none => .ok env.cwd

/-- The resolver for a working directory. -/
def resolver (o : Options) (env : Environment) (cwd : FilePath) : Resolver :=
  Resolver.ofOptions env.fs (o.platform.getD .node) o.conditions cwd

/-- The module that a single specifier is resolved from: the first input, as it is spelled. -/
def importer? (o : Options) (cwd : FilePath) : Option FilePath := o.inputs.head?.map cwd.joinText

/-- Resolves a single specifier. -/
def locate (o : Options) (env : Environment) (cwd : FilePath) (specifier : String) : Outcome :=
  match (((o.resolver env cwd).resolvePath specifier (o.importer? cwd)).run.run {}).1 with
  | .ok resolved => .located resolved
  | .error e => .unlocated e

/-- Scans from the inputs. -/
def scan (o : Options) (env : Environment) (cwd : FilePath) : Outcome :=
  let ctx : LoadContext := { resolver := o.resolver env cwd, summarize := env.summarize }
  let requests := o.inputs.map fun specifier => { specifier : EntryRequest }
  match ((Scan.run ctx env.limit requests).run {}).1 with
  | none => .unfinished
  | some (.ok graph) => .scanned graph
  | some (.error errors) => .failed errors

/-- What comes of options. -/
def run (o : Options) (env : Environment) : Outcome :=
  match o.directory env with
  | .error cause => .badDirectory cause
  | .ok cwd =>
      match o.resolve with
      | some specifier => o.locate env cwd specifier
      | none => o.scan env cwd

end Options

/-- What comes of the words of a command line. -/
def run (env : Environment) (words : List String) : Outcome :=
  match Request.ofWords words with
  | .run options => options.run env
  | .help => .help
  | .version => .version
  | .misuse => .misuse

end ModuleGraph.CommandLine
