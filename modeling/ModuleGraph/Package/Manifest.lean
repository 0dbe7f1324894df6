import ModuleGraph.FileSystem.Basic
import ModuleGraph.Json.Parser
import ModuleGraph.Package.Target

/-!
# Package manifests

The five fields of a `package.json` that take part in resolution. A field of an unexpected kind
counts as absent; only a text that is no JSON object is an error.
-/

set_option autoImplicit false

namespace ModuleGraph

/-- How a package wants its `.js` files to be loaded. -/
inductive PackageType where
  | module
  | commonJs
  deriving DecidableEq, Repr

/-- The type of a name. -/
def PackageType.ofName? : String → Option PackageType
  | "module" => some .module
  | "commonjs" => some .commonJs
  | _ => none

/-- What a manifest says about its package. -/
structure Manifest where
  path : FilePath
  name : Option String
  type : Option PackageType
  main : Option String
  exports : Option Target
  imports : Option TargetMap

/-- Why a text is no manifest. -/
inductive ManifestError where
  | malformed
  | notAnObject
  deriving DecidableEq, Repr

/-- The wording of a fault. -/
def ManifestError.message : ManifestError → String
  | .malformed => "malformed JSON"
  | .notAnObject => "expected a JSON object"

namespace Manifest

/-- What `exports` offers. A null offers nothing, as if it were absent. -/
def exportsOf? : Json → Option Target
  | .null => none
  | value => some (Target.ofJson value)

/-- What `imports` maps, if it is an object. -/
def importsOf? : Json → Option TargetMap
  | .object members => some (Target.ofMembers members)
  | _ => none

/-- The manifest the members of an object describe. -/
def ofMembers (path : FilePath) (members : List (String × Json)) : Manifest :=
  let field (key : String) : Option Json := members.lookup key
  { path
    name := (field "name").bind Json.string?
    type := ((field "type").bind Json.string?).bind PackageType.ofName?
    main := (field "main").bind Json.string?
    exports := (field "exports").bind exportsOf?
    imports := (field "imports").bind importsOf? }

/-- How deep the containers of a manifest may nest. -/
def depthLimit : Nat := 127

/-- Reads the text of a manifest. -/
def parse (path : FilePath) (source : String) : Except ManifestError Manifest :=
  match Json.parse? depthLimit source with
  | none => .error .malformed
  | some (.object members) => .ok (ofMembers path members)
  | some _ => .error .notAnObject

end Manifest

end ModuleGraph
