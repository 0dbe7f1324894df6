import ModuleGraph.Text.Quoted

/-!
# Resolution failures

A resolution fails for one of seven kinds of reason. The detail of a failure is the specifier,
target or file at fault, in words where that alone does not tell.
-/

set_option autoImplicit false

namespace ModuleGraph

open Text

/-- The kinds of failure. -/
inductive ResolveError.Kind where
  /-- A specifier that is empty or malformed, or that would leave its package. -/
  | invalidSpecifier
  | directoryImport
  | moduleNotFound
  | importNotDefined
  | pathNotExported
  /-- A target that leaves its package, or has a form no target may have. -/
  | invalidTarget
  /-- A manifest that cannot be read, or contradicts itself. -/
  | invalidConfiguration
  deriving DecidableEq, Repr

/-- A failure and what was at fault. -/
structure ResolveError where
  kind : ResolveError.Kind
  detail : String
  deriving DecidableEq, Repr

namespace ResolveError

/-- The code of a kind. -/
def Kind.code : Kind → String
  | .invalidSpecifier => "ERR_INVALID_MODULE_SPECIFIER"
  | .directoryImport => "ERR_UNSUPPORTED_DIR_IMPORT"
  | .moduleNotFound => "ERR_MODULE_NOT_FOUND"
  | .importNotDefined => "ERR_PACKAGE_IMPORT_NOT_DEFINED"
  | .pathNotExported => "ERR_PACKAGE_PATH_NOT_EXPORTED"
  | .invalidTarget => "ERR_INVALID_PACKAGE_TARGET"
  | .invalidConfiguration => "ERR_INVALID_PACKAGE_CONFIG"

/-- The wording of a failure. -/
def message (e : ResolveError) : String :=
  let detail := quoted e.detail
  match e.kind with
  | .invalidSpecifier => "Invalid module specifier " ++ detail
  | .directoryImport => "Directory import " ++ detail ++ " is not supported"
  | .moduleNotFound => "Cannot find module " ++ detail
  | .importNotDefined => "Package import specifier " ++ detail ++ " is not defined"
  | .pathNotExported => "Package subpath " ++ detail ++ " is not exported"
  | .invalidTarget => "Invalid package target " ++ detail
  | .invalidConfiguration => "Invalid package configuration " ++ detail

end ResolveError

end ModuleGraph
