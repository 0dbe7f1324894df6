/-!
# What a source text imports

The part of a source text that the module graph is built from: its static imports in source
order, and whether it exports anything.
-/

set_option autoImplicit false

namespace ModuleGraph.Script

/-- The languages a source text can be written in. -/
inductive Dialect where
  /-- A module of the language. -/
  | module
  /-- A script, where `await` is a name like any other. -/
  | script
  /-- A module with type annotations. -/
  | typed
  deriving DecidableEq, Repr

/-- A static import: what it names, where the name stands in the source in octets with its
quotes, and whether it is part of an export. -/
structure Import where
  specifier : String
  start : Nat
  stop : Nat
  isReexport : Bool
  deriving DecidableEq, Repr, Inhabited

/-- The static imports of a source text and whether it has export declarations. -/
structure Summary where
  imports : List Import
  hasExports : Bool
  deriving DecidableEq, Repr, Inhabited

end ModuleGraph.Script
