import ModuleGraph.Text.Split

/-!
# Specifiers

What a specifier looks like decides how it is resolved: a URL or a path is followed from the
importing module, a `#` name goes through the `imports` of the enclosing package, and everything
else names a package.
-/

set_option autoImplicit false

namespace ModuleGraph

open Text

/-- The four looks of a specifier. -/
inductive SpecifierKind where
  | url
  | path
  | subpathImport
  | bare
  deriving DecidableEq, Repr

namespace SpecifierKind

/-- The schemes that make a specifier a URL. They are compared in lower case only. -/
def schemes : List (List Char) :=
  [['f', 'i', 'l', 'e', ':'], ['d', 'a', 't', 'a', ':'], ['n', 'o', 'd', 'e', ':']]

/-- The openings that make a specifier a path. -/
def pathOpenings : List (List Char) := [['/'], ['.', '/'], ['.', '.', '/']]

/-- The look of a specifier. -/
def of (specifier : String) : SpecifierKind :=
  let cs := specifier.toList
  if schemes.any (startsWith cs) then .url
  else if pathOpenings.any (startsWith cs) then .path
  else if cs.head? = some '#' then .subpathImport
  else .bare

end SpecifierKind

/-- The modules that come with the platform and can be imported without the scheme `node:`. -/
def builtinModules : List String :=
  ["assert", "assert/strict", "async_hooks", "buffer", "child_process", "cluster", "console",
    "constants", "crypto", "dgram", "diagnostics_channel", "dns", "dns/promises", "domain",
    "events", "fs", "fs/promises", "http", "http2", "https", "inspector", "inspector/promises",
    "module", "net", "os", "path", "path/posix", "path/win32", "perf_hooks", "process",
    "punycode", "querystring", "readline", "readline/promises", "repl", "stream",
    "stream/consumers", "stream/promises", "stream/web", "string_decoder", "sys", "timers",
    "timers/promises", "tls", "trace_events", "tty", "url", "util", "util/types", "v8", "vm",
    "wasi", "worker_threads", "zlib"]

/-- Whether a name is that of a module of the platform. -/
def isBuiltinModule (name : String) : Bool := builtinModules.contains name

end ModuleGraph
