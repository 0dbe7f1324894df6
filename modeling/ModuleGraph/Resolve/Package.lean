import ModuleGraph.Package.Name
import ModuleGraph.Package.Pattern
import ModuleGraph.Resolve.Specifier
import ModuleGraph.Resolve.Target
import ModuleGraph.Url.File

/-!
# Resolving through packages

A bare specifier is answered by one package: the enclosing one if it bears that name and has
`exports`, otherwise the first installed one on the way up from the importing module. What has
`exports` is entered through them alone. A `#` specifier goes through the `imports` of the
enclosing package, and only there may a target lead on to another package.
-/

set_option autoImplicit false

namespace ModuleGraph

open Text

namespace Package

/-- The location of a directory. -/
def dirUrl (dir : FilePath) : Except ResolveError Url :=
  match Url.ofDirPath? dir with
  | some url => .ok url
  | none => .error ⟨.moduleNotFound, dir.display⟩

/-- A place in a package that has no say in it. -/
def place (packageUrl : Url) (path : String) : Except ResolveError Url :=
  match packageUrl.join? path with
  | some url => .ok url
  | none => .error ⟨.invalidSpecifier, path⟩

/-- Looks a key up in `exports` or `imports`: the key itself first, unless it holds a star, then
the most specific pattern. -/
def resolveKey (ctx : TargetContext) (key : String) (map : TargetMap) :
    Resolution (Option Url) :=
  let exact := if key.toList.contains '*' then none else map.lookup key
  match exact with
  | some target => target.resolve { ctx with captured := none }
  | none => do
      match ← Resolution.ofExcept (Pattern.match? key map) with
      | some found => found.target.resolve { ctx with captured := some found.captured }
      | none => return none

/-- Whether a key of `exports` names a place in the package. -/
def isSubpathKey (key : String) : Bool := key.toList.head? = some '.'

/-- What `exports` is made of. -/
inductive ExportsForm where
  /-- Entry points by subpath. -/
  | subpaths (map : TargetMap)
  /-- One target for the package itself. -/
  | root (target : Target)
  /-- Some keys are subpaths and some are not. -/
  | mixed

/-- The form of `exports`. -/
def ExportsForm.of (exports : Target) : ExportsForm :=
  match exports with
  | .conditional branches =>
      if branches.any fun branch => isSubpathKey branch.1 then
        if branches.all fun branch => isSubpathKey branch.1 then .subpaths branches else .mixed
      else .root exports
  | _ => .root exports

/-- What `exports` offers under a subpath, if anything. -/
def exported (packageUrl : Url) (subpath : String) (exports : Target)
    (conditions : ConditionSet) : Resolution (Option Url) :=
  let ctx : TargetContext := { packageUrl, captured := none, conditions, enter := none }
  match ExportsForm.of exports with
  | .mixed =>
      throw ⟨.invalidConfiguration, packageUrl.href ++
        "package.json \"exports\" cannot mix keys starting with '.' and others"⟩
  | .root target =>
      if subpath = PackageSpecifier.rootSubpath then target.resolve ctx else pure none
  | .subpaths map =>
      if subpath = PackageSpecifier.rootSubpath then
        match map.lookup PackageSpecifier.rootSubpath with
        | some target => target.resolve ctx
        | none => pure none
      else resolveKey ctx subpath map

/-- Enters a package through its `exports`. -/
def resolveExports (packageUrl : Url) (subpath : String) (exports : Target)
    (conditions : ConditionSet) : Resolution Url := do
  match ← exported packageUrl subpath exports conditions with
  | some location => return location
  | none => throw ⟨.pathNotExported, subpath⟩

/-- Enters an installed package: through `exports` if it has them, otherwise its `main` or the
place the subpath names. -/
def enter (packageUrl : Url) (subpath : String) (manifest : Option Manifest)
    (conditions : ConditionSet) : Resolution Url :=
  match manifest.bind Manifest.exports with
  | some exports => resolveExports packageUrl subpath exports conditions
  | none =>
      match manifest.bind Manifest.main with
      | some main =>
          Resolution.ofExcept
            (place packageUrl (if subpath = PackageSpecifier.rootSubpath then main else subpath))
      | none => Resolution.ofExcept (place packageUrl subpath)

/-- The directory a package would be installed in. -/
def installDir (name : String) (dir : FilePath) : FilePath := (dir.join packagesName).joinText name

/-- The nearest installed package of a name on the way up from a directory. -/
def installed? (fs : FileSystem) (name : String) (dir : FilePath) : Option FilePath :=
  (dir.ancestors.map (installDir name)).find? fs.isDir

/-- The enclosing package, if it bears a name and has `exports`. -/
def resolveSelf (fs : FileSystem) (specifier : PackageSpecifier) (parent : Url)
    (conditions : ConditionSet) : Resolution (Option Url) := do
  match parent.dirPath? with
  | none => return none
  | some dir =>
      match ← Store.currentScope? fs dir with
      | none => return none
      | some scope =>
          match ← Store.read fs scope with
          | none => return none
          | some manifest =>
              match manifest.exports with
              | none => return none
              | some exports =>
                  if manifest.name = some specifier.name then
                    let packageUrl ← Resolution.ofExcept (dirUrl scope)
                    return some (← resolveExports packageUrl specifier.subpath exports conditions)
                  else return none

/-- The failure of a specifier that leads nowhere from a module. -/
def notFoundFrom (specifier : String) (parent : Url) : ResolveError :=
  ⟨.moduleNotFound, specifier ++ " imported from " ++ parent.href⟩

/-- The nearest installed package of the specifier's name. -/
def resolveInstalled (fs : FileSystem) (specifier : String) (parts : PackageSpecifier)
    (parent : Url) (conditions : ConditionSet) : Resolution Url := do
  match parent.dirPath?.bind (installed? fs parts.name) with
  | none => throw (notFoundFrom specifier parent)
  | some dir =>
      -- the nearest package answers, even if what it answers is a failure
      let packageUrl ← Resolution.ofExcept (dirUrl dir)
      let manifest ← Store.read fs dir
      enter packageUrl parts.subpath manifest conditions

/-- Whether a specifier names a module of the platform. -/
def isBuiltin (platform : Platform) (specifier : String) : Bool :=
  platform = .node && isBuiltinModule specifier

/-- Resolves a bare specifier. -/
def resolveBare (fs : FileSystem) (platform : Platform) (specifier : String) (parent : Url)
    (conditions : ConditionSet) : Resolution Url := do
  if specifier = "" then throw ⟨.invalidSpecifier, ""⟩
  else if isBuiltin platform specifier then
    match Url.parse? ("node:" ++ specifier) with
    | some location => return location
    | none => throw ⟨.invalidSpecifier, specifier⟩
  else
    let parts ← Resolution.ofExcept (PackageSpecifier.parse specifier)
    match ← resolveSelf fs parts parent conditions with
    | some location => return location
    | none => resolveInstalled fs specifier parts parent conditions

/-- Whether a specifier is nothing but `#`, or `#` and a path. -/
def isBadImportsName (specifier : String) : Bool :=
  specifier = "#" || startsWith specifier.toList ['#', '/']

/-- Resolves a `#` specifier through the `imports` of the enclosing package. -/
def resolveImports (fs : FileSystem) (platform : Platform) (specifier : String) (parent : Url)
    (conditions : ConditionSet) : Resolution Url := do
  if isBadImportsName specifier then
    throw ⟨.invalidSpecifier, specifier ++ " is not a valid internal imports specifier name"⟩
  else
    match ← lookUp with
    | some location => return location
    | none => throw ⟨.importNotDefined, specifier ++ " imported from " ++ parent.href⟩
where
  /-- What the enclosing package maps the specifier to. -/
  lookUp : Resolution (Option Url) := do
    match parent.dirPath? with
    | none => return none
    | some dir =>
        match ← Store.currentScope? fs dir with
        | none => return none
        | some scope =>
            match (← Store.read fs scope).bind Manifest.imports with
            | none => return none
            | some imports =>
                let packageUrl ← Resolution.ofExcept (dirUrl scope)
                let enter (bare : String) := resolveBare fs platform bare packageUrl conditions
                resolveKey { packageUrl, captured := none, conditions, enter := some enter }
                  specifier imports

end Package

end ModuleGraph
