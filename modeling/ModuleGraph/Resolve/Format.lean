import ModuleGraph.Package.Store
import ModuleGraph.Text.Blank
import ModuleGraph.Url.File

/-!
# Formats

How a runtime loads what is at a location. Files are judged by extension; `.js` and files
without an extension follow the package they belong to. Other locations are judged by scheme.
-/

set_option autoImplicit false

namespace ModuleGraph

open Text

/-- The ways to load a module. -/
inductive Format where
  | module
  | commonJs
  | json
  /-- Part of the platform. -/
  | builtin
  /-- Not known before it is loaded. -/
  | undefined
  deriving DecidableEq, Repr, Inhabited

namespace Format

/-- The name of a format. -/
def name : Format → String
  | .module => "module"
  | .commonJs => "commonjs"
  | .json => "json"
  | .builtin => "builtin"
  | .undefined => "undefined"

/-- The format of a data URL, judged by the media type in front of its first comma or
semicolon. -/
def ofMediaType (path : String) : Format :=
  let mime := trimBlank (path.toList.takeWhile fun c => c != ',' && c != ';')
  match String.ofList (mime.map Char.toLower) with
  | "text/javascript" => .module
  | "application/json" => .json
  | _ => .undefined

/-- The format of a location that is no file. -/
def ofScheme (location : Url) : Format :=
  match location.scheme with
  | "node" => .builtin
  | "data" => ofMediaType location.pathText
  | _ => .undefined

/-- The format of a file that follows its package. -/
def ofPackage : Option PackageType → Format
  | some .module => .module
  | _ => .commonJs

/-- The type of the package a location belongs to. -/
def packageType (fs : FileSystem) (location : Url) : Resolution (Option PackageType) := do
  match location.dirPath? with
  | none => return none
  | some dir => return (← Store.find fs dir).bind Manifest.type

/-- The format of a location. -/
def classify (fs : FileSystem) (location : Url) : Resolution Format := do
  if location.isFile then
    match location.extension? with
    | some "mjs" => return .module
    | some "cjs" => return .commonJs
    | some "json" => return .json
    | some "js" | none => return ofPackage (← packageType fs location)
    | some _ => return .undefined
  else return ofScheme location

end Format

end ModuleGraph
