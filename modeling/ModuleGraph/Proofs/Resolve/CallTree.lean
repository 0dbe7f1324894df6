import ModuleGraph.Proofs.Store.Coupling
import ModuleGraph.Resolve.Resolver
import Mathlib.Logic.Relation

/-!
# Trees of calls

Packages and targets are resolved by procedures that call each other. Here each of them is written
as a `Program`, a text in which a call is no more than a request: what it asks for is data
(`Call`), and nothing is said about how it is answered. A run of a program (`Program.Runs`) answers
each request by a run of the procedure that is called, and keeps the tree of calls. Whether there is
a run at all, and how deep its trees are, is therefore not built in.

A target is resolved by one procedure for `exports` and `imports`. A flag tells which, and is all
that keeps the literals of `exports` from leading on to another package.
-/

set_option autoImplicit false

namespace ModuleGraph

open Relation Text

namespace Package

/-- Where a target stands: in which package, behind what star, and whether under `imports`. -/
structure TargetSite where
  packageUrl : Url
  captured : Option String
  conditions : ConditionSet
  isImports : Bool

/-- The procedures that call each other, with what they are called for. -/
inductive Call where
  /-- A bare specifier of the module at `parent`. -/
  | bare (specifier : String) (parent : Url) (conditions : ConditionSet)
  /-- A subpath of a package with `exports`. -/
  | exports (packageUrl : Url) (subpath : String) (exports : Target) (conditions : ConditionSet)
  /-- A `#` specifier of the module at `parent`. -/
  | imports (specifier : String) (parent : Url) (conditions : ConditionSet)
  /-- A key of the map under `exports` or `imports`. -/
  | key (site : TargetSite) (key : String) (map : TargetMap)
  | target (site : TargetSite) (target : Target)

/-- What a call answers. -/
abbrev Call.Answer : Call → Type
  | bare .. => Url
  | exports .. => Url
  | imports .. => Url
  | key .. => Option Url
  | target .. => Option Url

/-- Whether a call is for a bare specifier, which a package has to be found for. -/
def Call.isBare : Call → Bool
  | bare .. => true
  | _ => false

/-- Whether a call is for a `#` specifier. -/
def Call.isSubpathImport : Call → Bool
  | imports .. => true
  | _ => false

/-- The text of a procedure: it answers, does something that takes no call, or calls and goes on
with what has become of the call. -/
inductive Program (α : Type) : Type 1 where
  | answer (a : α)
  | perform {β : Type} (x : Resolution β) (next : β → Program α)
  | call (c : Call) (next : Except ResolveError c.Answer → Program α)

namespace Program

variable {α β : Type}

/-- One program behind another. -/
def bind : Program α → (α → Program β) → Program β
  | answer a, f => f a
  | perform x next, f => perform x fun b => (next b).bind f
  | call c next, f => call c fun outcome => (next outcome).bind f

instance : Monad Program where
  pure := answer
  bind := bind

/-- A step that takes no call. -/
def lift (x : Resolution α) : Program α := perform x answer

/-- A failure. -/
def fail (kind : ResolveError.Kind) (detail : String) : Program α := lift (throw ⟨kind, detail⟩)

/-- A call of which a failure is a failure of the caller. -/
def ofCall (c : Call) : Program c.Answer := call c fun outcome => lift (.ofExcept outcome)

/-- A call of which a failure is told to the caller. -/
def attempt (c : Call) : Program (Except ResolveError c.Answer) := call c answer

end Program

/-! ## The procedures -/

/-- A target without a way to another package. -/
def TargetSite.context (site : TargetSite) : TargetContext :=
  { packageUrl := site.packageUrl, captured := site.captured, conditions := site.conditions
    enter := none }

/-- A literal is a file of the package, or a bare specifier if it stands under `imports`. -/
def literalProgram (site : TargetSite) (text : String) : Program Url :=
  match stripFront? ['.', '/'] text.toList with
  | some inner => .lift (.ofExcept (site.context.innerLocation text inner))
  | none =>
      if !site.isImports || TargetContext.isUnfitForPackage text then .fail .invalidTarget text
      else .ofCall (.bare (substitute? site.captured text) site.packageUrl site.conditions)

/-- The branches of a conditional from some point on. -/
def branchesProgram (site : TargetSite) : TargetMap → Program (Option Url)
  | [] => return none
  | (condition, target) :: rest =>
      if site.conditions.holds condition then do
        match ← Program.ofCall (.target site target) with
        | some location => return some location
        | none => branchesProgram site rest
      else branchesProgram site rest

/-- The items of a list from some point on. -/
def itemsProgram (site : TargetSite) : List Target → Program (Option Url)
  | [] => return none
  | target :: rest => do
      match ← Program.attempt (.target site target) with
      | .ok (some location) => return some location
      | .ok none => itemsProgram site rest
      | .error e => if e.kind = .invalidTarget then itemsProgram site rest else .lift (throw e)

/-- A target. -/
def targetProgram (site : TargetSite) : Target → Program (Option Url)
  | .literal text => return some (← literalProgram site text)
  | .conditional branches =>
      match branches.find? fun branch => isArrayIndex branch.1 with
      | some (key, _) => .lift (throw (site.context.numericKey key))
      | none => branchesProgram site branches
  | .list items => itemsProgram site items
  | .null => return none
  | .invalid text => .fail .invalidTarget text

/-- A key of a map: the entry of the key itself, or else of the most specific pattern. -/
def keyProgram (site : TargetSite) (key : String) (map : TargetMap) : Program (Option Url) :=
  match if key.toList.contains '*' then none else map.lookup key with
  | some target => .ofCall (.target { site with captured := none } target)
  | none => do
      match ← Program.lift (.ofExcept (Pattern.match? key map)) with
      | some found =>
          .ofCall (.target { site with captured := some found.captured } found.target)
      | none => return none

/-- What is exported under a subpath. -/
def exportedProgram (packageUrl : Url) (subpath : String) (exports : Target)
    (conditions : ConditionSet) : Program (Option Url) :=
  let site : TargetSite := { packageUrl, captured := none, conditions, isImports := false }
  match ExportsForm.of exports with
  | .mixed =>
      .fail .invalidConfiguration (packageUrl.href ++
        "package.json \"exports\" cannot mix keys starting with '.' and others")
  | .root target =>
      if subpath = PackageSpecifier.rootSubpath then .ofCall (.target site target) else pure none
  | .subpaths map =>
      if subpath = PackageSpecifier.rootSubpath then
        match map.lookup PackageSpecifier.rootSubpath with
        | some target => .ofCall (.target site target)
        | none => pure none
      else .ofCall (.key site subpath map)

/-- A subpath of a package with `exports`. -/
def exportsProgram (packageUrl : Url) (subpath : String) (exports : Target)
    (conditions : ConditionSet) : Program Url := do
  match ← exportedProgram packageUrl subpath exports conditions with
  | some location => return location
  | none => .fail .pathNotExported subpath

/-- The enclosing package under its own name. -/
def selfProgram (fs : FileSystem) (parts : PackageSpecifier) (parent : Url)
    (conditions : ConditionSet) : Program (Option Url) := do
  match parent.dirPath? with
  | none => return none
  | some dir =>
      match ← Program.lift (Store.currentScope? fs dir) with
      | none => return none
      | some scope =>
          match ← Program.lift (Store.read fs scope) with
          | none => return none
          | some manifest =>
              match manifest.exports with
              | none => return none
              | some exports =>
                  if manifest.name = some parts.name then
                    let packageUrl ← Program.lift (.ofExcept (dirUrl scope))
                    return some (← Program.ofCall
                      (.exports packageUrl parts.subpath exports conditions))
                  else return none

/-- An installed package whose manifest has been read. -/
def enterProgram (packageUrl : Url) (subpath : String) (manifest : Option Manifest)
    (conditions : ConditionSet) : Program Url :=
  match manifest.bind Manifest.exports with
  | some exports => .ofCall (.exports packageUrl subpath exports conditions)
  | none =>
      match manifest.bind Manifest.main with
      | some main =>
          .lift (.ofExcept
            (place packageUrl (if subpath = PackageSpecifier.rootSubpath then main else subpath)))
      | none => .lift (.ofExcept (place packageUrl subpath))

/-- The nearest installed package. -/
def installedProgram (fs : FileSystem) (specifier : String) (parts : PackageSpecifier)
    (parent : Url) (conditions : ConditionSet) : Program Url :=
  match parent.dirPath?.bind (installed? fs parts.name) with
  | none => .lift (throw (notFoundFrom specifier parent))
  | some dir => do
      let packageUrl ← Program.lift (.ofExcept (dirUrl dir))
      let manifest ← Program.lift (Store.read fs dir)
      enterProgram packageUrl parts.subpath manifest conditions

/-- A bare specifier. -/
def bareProgram (fs : FileSystem) (platform : Platform) (specifier : String) (parent : Url)
    (conditions : ConditionSet) : Program Url :=
  if specifier = "" then .fail .invalidSpecifier ""
  else if isBuiltin platform specifier then
    match Url.parse? ("node:" ++ specifier) with
    | some location => return location
    | none => .fail .invalidSpecifier specifier
  else do
    let parts ← Program.lift (.ofExcept (PackageSpecifier.parse specifier))
    match ← selfProgram fs parts parent conditions with
    | some location => return location
    | none => installedProgram fs specifier parts parent conditions

/-- What the enclosing package maps a `#` specifier to. -/
def mappedProgram (fs : FileSystem) (specifier : String) (parent : Url)
    (conditions : ConditionSet) : Program (Option Url) := do
  match parent.dirPath? with
  | none => return none
  | some dir =>
      match ← Program.lift (Store.currentScope? fs dir) with
      | none => return none
      | some scope =>
          match (← Program.lift (Store.read fs scope)).bind Manifest.imports with
          | none => return none
          | some imports =>
              let packageUrl ← Program.lift (.ofExcept (dirUrl scope))
              Program.ofCall (.key { packageUrl, captured := none, conditions, isImports := true }
                specifier imports)

/-- A `#` specifier. -/
def importsProgram (fs : FileSystem) (specifier : String) (parent : Url)
    (conditions : ConditionSet) : Program Url :=
  if isBadImportsName specifier then
    .fail .invalidSpecifier (specifier ++ " is not a valid internal imports specifier name")
  else do
    match ← mappedProgram fs specifier parent conditions with
    | some location => return location
    | none => .fail .importNotDefined (specifier ++ " imported from " ++ parent.href)

/-- The procedure that a call is for, as a resolver has it. -/
def Call.program (r : Resolver) : (c : Call) → Program c.Answer
  | bare specifier parent conditions =>
      bareProgram r.fs r.platform specifier parent conditions
  | exports packageUrl subpath offered conditions =>
      exportsProgram packageUrl subpath offered conditions
  | imports specifier parent conditions => importsProgram r.fs specifier parent conditions
  | key site asked map => keyProgram site asked map
  | target site tree => targetProgram site tree

/-- What a specifier denotes is found by its look. -/
def locateProgram (specifier : String) (parent : Url) (conditions : ConditionSet) : Program Url :=
  match SpecifierKind.of specifier with
  | .url | .path =>
      match parent.join? specifier with
      | some location => return location
      | none => .fail .invalidSpecifier specifier
  | .subpathImport => .ofCall (.imports specifier parent conditions)
  | .bare => .ofCall (.bare specifier parent conditions)

end Package

/-- A resolution: what the specifier denotes is checked. -/
def Resolver.program (r : Resolver) (specifier : String) (parent : Url)
    (conditions : ConditionSet) : Package.Program Resolved := do
  .lift (r.finalize (← Package.locateProgram specifier parent conditions))

namespace Package

/-! ## Runs -/

/-- A call with the calls that have been made for it, in order. -/
inductive CallTree where
  | node (call : Call) (inner : List CallTree)

namespace CallTree

/-- The call at the root. -/
def call : CallTree → Call
  | node call _ => call

/-- The calls made for the one at the root. -/
def inner : CallTree → List CallTree
  | node _ inner => inner

/-- A call of the tree, the root included. -/
def Holds : CallTree → CallTree → Prop := ReflTransGen fun t u => u ∈ t.inner

/-- A call of the tree that is not its root: it has been made while the root was under way. -/
def Encloses : CallTree → CallTree → Prop := TransGen fun t u => u ∈ t.inner

end CallTree

/-- A run of a program from a store: the trees of the calls it makes, in order, what it answers and
the store it leaves. A call is answered by a run of its own. -/
inductive Program.Runs (r : Resolver) :
    {α : Type} → Program α → Store → List CallTree → Except ResolveError α × Store → Prop
  | answer {α : Type} (a : α) (s : Store) : Runs r (.answer a) s [] (.ok a, s)
  | failed {α β : Type} {x : Resolution β} {next : β → Program α} {s t : Store}
      {e : ResolveError} : x.run.run s = (.error e, t) → Runs r (.perform x next) s [] (.error e, t)
  | perform {α β : Type} {x : Resolution β} {next : β → Program α} {s t : Store} {b : β}
      {trees : List CallTree} {result : Except ResolveError α × Store} :
      x.run.run s = (.ok b, t) → Runs r (next b) t trees result →
      Runs r (.perform x next) s trees result
  | call {α : Type} {c : Call} {next : Except ResolveError c.Answer → Program α} {s t : Store}
      {inner trees : List CallTree} {outcome : Except ResolveError c.Answer}
      {result : Except ResolveError α × Store} :
      Runs r (c.program r) s inner (outcome, t) → Runs r (next outcome) t trees result →
      Runs r (.call c next) s (.node c inner :: trees) result

variable {r : Resolver} {α β : Type}

/-- A program has no more than one run from a store. -/
theorem Program.Runs.unique {p : Program α} {s : Store} {trees trees' : List CallTree}
    {result result' : Except ResolveError α × Store} (h : p.Runs r s trees result)
    (h' : p.Runs r s trees' result') : trees = trees' ∧ result = result' := by
  induction h generalizing trees' with
  | answer a s =>
      cases h'
      exact ⟨rfl, rfl⟩
  | failed hx =>
      cases h' with
      | failed hx' =>
          obtain ⟨he, rfl⟩ := Prod.mk.inj (hx.symm.trans hx')
          rw [Except.error.inj he]
          exact ⟨rfl, rfl⟩
      | perform hx' => cases hx.symm.trans hx'
  | perform hx _ ih =>
      cases h' with
      | failed hx' => cases hx.symm.trans hx'
      | perform hx' hnext =>
          obtain ⟨hb, rfl⟩ := Prod.mk.inj (hx.symm.trans hx')
          obtain rfl := Except.ok.inj hb
          exact ih hnext
  | call _ _ ihInner ihNext =>
      cases h' with
      | call hinner hnext =>
          obtain ⟨rfl, hresult⟩ := ihInner hinner
          obtain ⟨rfl, rfl⟩ := Prod.mk.inj hresult
          obtain ⟨rfl, rfl⟩ := ihNext hnext
          exact ⟨rfl, rfl⟩

end Package

end ModuleGraph
