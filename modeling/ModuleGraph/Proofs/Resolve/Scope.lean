import ModuleGraph.Proofs.FilePath.Ancestors
import ModuleGraph.Proofs.Store.Transparency
import ModuleGraph.Resolve.Package

/-!
# The scope of a directory

The search for a scope goes up from a directory by its parents, and asks in each place first whether
it is one that packages are installed in and then for a manifest. What it finds is told here without
the search (`Store.IsScope`). A directory asked for its manifest is judged by the same entry, or by
the same look at the file system, as in the search. So a scope that has been found is never read as
a directory without a manifest, and what would be done in that case is never done.
-/

set_option autoImplicit false

namespace ModuleGraph

open FilePath

theorem Resolution.ext {α : Type} {x y : Resolution α}
    (h : ∀ store, x.run.run store = y.run.run store) : x = y :=
  funext h

namespace Store

variable {fs : FileSystem} {store : Store} {dir scope : FilePath}

/-- The scope of `dir` is the nearest directory with a manifest on the way up, if neither it nor any
directory before it is one that packages are installed in. -/
structure IsScope (fs : FileSystem) (store : Store) (dir scope : FilePath) : Prop where
  ascends : dir.Ascends scope
  hasManifest : store.hasManifest fs scope = true
  nearest : ∀ between, dir.Ascends between → between.Ascends scope → between ≠ scope →
    store.hasManifest fs between = false
  inside : ∀ between, dir.Ascends between → between.Ascends scope →
    between.fileName? ≠ some packagesName.bytes

/-- What the search does in one place. -/
theorem scope?_step (fs : FileSystem) (store : Store) (dir : FilePath) :
    store.scope? fs dir =
      if dir.fileName? = some packagesName.bytes then none
      else if store.hasManifest fs dir then some dir
      else dir.parent?.bind (store.scope? fs) := by
  cases hup : dir.parent? with
  | none =>
      rw [scope?, ancestors_of_no_parent hup]
      rfl
  | some up =>
      rw [scope?, ancestors_of_parent? hup]
      rfl

/-- A directory is its own scope, or has that of its parent. -/
theorem isScope_iff : IsScope fs store dir scope ↔
    dir.fileName? ≠ some packagesName.bytes ∧
      ((store.hasManifest fs dir = true ∧ dir = scope) ∨
        (store.hasManifest fs dir = false ∧
          ∃ up, dir.parent? = some up ∧ IsScope fs store up scope)) := by
  constructor
  · intro h
    refine ⟨h.inside dir .refl h.ascends, ?_⟩
    rcases Relation.ReflTransGen.cases_head h.ascends with rfl | ⟨up, hup, hscope⟩
    · exact Or.inl ⟨h.hasManifest, rfl⟩
    · have hne : dir ≠ scope := by
        rintro rfl
        exact absurd (Ascends.length_lt_of_parent? hup hscope) (Nat.lt_irrefl _)
      refine Or.inr ⟨h.nearest dir .refl h.ascends hne, up, hup, ?_⟩
      exact {
        ascends := hscope
        hasManifest := h.hasManifest
        nearest := fun between hbetween => h.nearest between (.head hup hbetween)
        inside := fun between hbetween => h.inside between (.head hup hbetween) }
  · rintro ⟨hname, ⟨hmanifest, rfl⟩ | ⟨hnone, up, hup, hscope⟩⟩
    · -- nothing is between a directory and itself
      have hself : ∀ between, dir.Ascends between → between.Ascends dir → between = dir :=
        fun between hbetween hback => hback.antisymm hbetween
      exact {
        ascends := .refl
        hasManifest := hmanifest
        nearest := fun between hbetween hback hne => absurd (hself between hbetween hback) hne
        inside := fun between hbetween hback => hself between hbetween hback ▸ hname }
    · -- what is on the way is the directory itself or on the way from its parent
      have hway : ∀ between, dir.Ascends between → between = dir ∨ up.Ascends between := by
        intro between hbetween
        rcases Relation.ReflTransGen.cases_head hbetween with heq | ⟨up', hup', hbetween⟩
        · exact Or.inl heq.symm
        · exact Or.inr (Option.some.inj (hup'.symm.trans hup) ▸ hbetween)
      refine ⟨.head hup hscope.ascends, hscope.hasManifest, ?_, ?_⟩
      · intro between hbetween hback hne
        rcases hway between hbetween with rfl | hbetween
        · exact hnone
        · exact hscope.nearest between hbetween hback hne
      · intro between hbetween hback
        rcases hway between hbetween with rfl | hbetween
        · exact hname
        · exact hscope.inside between hbetween hback

/-- The search finds the scope, and finds nothing only where there is none. -/
theorem scope?_eq_some_iff : store.scope? fs dir = some scope ↔ IsScope fs store dir scope := by
  induction dir using induction_up with
  | step dir ih =>
      rw [scope?_step, isScope_iff]
      by_cases hname : dir.fileName? = some packagesName.bytes
      · rw [if_pos hname]
        exact iff_of_false (by simp) fun h => h.1 hname
      · rw [if_neg hname]
        cases hmanifest : store.hasManifest fs dir with
        | true => simp [hname]
        | false =>
            cases hup : dir.parent? with
            | none => simp
            | some up => simp [hname, ih up hup]

/-- Below a directory that packages are installed in a scope is farther down than that directory. -/
theorem IsScope.exists_below (h : IsScope fs store dir scope) {front back : List Component}
    (hdir : dir.components = front ++ .normal packagesName.bytes :: back) :
    ∃ below, below ≠ [] ∧ scope.components = front ++ .normal packagesName.bytes :: below := by
  obtain ⟨packages, hpackages, hcomp⟩ :=
    @exists_ascends dir (front ++ [.normal packagesName.bytes]) (by simp) ⟨back, by simp [hdir]⟩
  have hname : packages.fileName? = some packagesName.bytes :=
    fileName?_eq_some_iff.2 ⟨front, hcomp⟩
  -- the directory of packages is not on the way to the scope, so it is above the scope
  have habove : ¬ packages.Ascends scope := fun hscope => h.inside packages hpackages hscope hname
  have hscope := (Ascends.total hpackages h.ascends).resolve_left habove
  obtain ⟨below, hbelow⟩ := hscope.exists_components
  refine ⟨below, ?_, by rw [hbelow, hcomp, List.append_assoc, List.singleton_append]⟩
  rintro rfl
  rw [List.append_nil, hcomp] at hbelow
  exact h.inside scope h.ascends .refl (fileName?_eq_some_iff.2 ⟨front, hbelow⟩)

/-! ## Reading the scope -/

/-- A directory that has a manifest for the search is read from its entry, which then holds one, or
from the file of that name. -/
theorem run_read_of_hasManifest (h : store.hasManifest fs dir = true) :
    (∃ manifest, store.find? dir = some (some manifest) ∧
        (read fs dir).run.run store = (.ok (some manifest), store)) ∨
      (store.find? dir = none ∧ fs.isPresent (dir.join manifestName) = true ∧
        ((read fs dir).run.run store).1 = (loadManifest fs (dir.join manifestName)).map some) := by
  rw [hasManifest] at h
  rw [run_read]
  cases hentry : store.find? dir with
  | some entry =>
      rw [hentry] at h
      obtain ⟨manifest, rfl⟩ := Option.isSome_iff_exists.1 h
      exact Or.inl ⟨manifest, rfl, rfl⟩
  | none =>
      rw [hentry] at h
      have hpresent : fs.isPresent (dir.join manifestName) = true := h
      refine Or.inr ⟨rfl, hpresent, ?_⟩
      rw [load, if_pos hpresent]
      cases loadManifest fs (dir.join manifestName) with
      | ok manifest => rfl
      | error e => rfl

/-- A scope has a manifest when it is read, or cannot be read. -/
theorem run_read_scope (h : store.scope? fs dir = some scope) :
    (∃ manifest, ((read fs scope).run.run store).1 = .ok (some manifest)) ∨
      ∃ e, ((read fs scope).run.run store).1 = .error e := by
  rcases run_read_of_hasManifest (scope?_eq_some_iff.1 h).hasManifest with
    ⟨manifest, -, hread⟩ | ⟨-, -, hread⟩
  · exact Or.inl ⟨manifest, by rw [hread]⟩
  · rw [hread]
    cases loadManifest fs (scope.join manifestName) with
    | ok manifest => exact Or.inl ⟨manifest, rfl⟩
    | error e => exact Or.inr ⟨e, rfl⟩

/-- Where there is a scope its manifest is what is found. -/
theorem run_find_of_scope (h : store.scope? fs dir = some scope) :
    (find fs dir).run.run store = (read fs scope).run.run store := by
  rw [run_find, h]

/-- Nothing is found exactly where there is no scope. -/
theorem run_find_eq_none_iff :
    ((find fs dir).run.run store).1 = .ok none ↔ store.scope? fs dir = none := by
  rw [run_find]
  cases hscope : store.scope? fs dir with
  | none => exact iff_of_true rfl rfl
  | some scope =>
      refine iff_of_false ?_ (Option.some_ne_none scope)
      dsimp only
      rcases run_read_scope hscope with ⟨manifest, hread⟩ | ⟨e, hread⟩ <;> rw [hread] <;> simp

/-- What is done behind a scope is told by what is done with its manifest. -/
theorem bind_currentScope?_congr {α : Type} (fs : FileSystem) (dir : FilePath)
    (outside : Resolution α) {next next' : FilePath → Option Manifest → Resolution α}
    (h : ∀ scope manifest, next scope (some manifest) = next' scope (some manifest)) :
    (do match ← currentScope? fs dir with
      | none => outside
      | some scope => do next scope (← read fs scope)) =
    (do match ← currentScope? fs dir with
      | none => outside
      | some scope => do next' scope (← read fs scope)) := by
  refine Resolution.ext fun store => ?_
  rw [Resolution.run_bind, Resolution.run_bind, run_currentScope?]
  dsimp only
  cases hscope : store.scope? fs dir with
  | none => rfl
  | some scope =>
      dsimp only
      rw [Resolution.run_bind, Resolution.run_bind]
      rcases run_read_scope hscope with ⟨manifest, hread⟩ | ⟨e, hread⟩
      · rw [← Prod.eta ((read fs scope).run.run store)]
        simp only [hread, h]
      · rw [← Prod.eta ((read fs scope).run.run store)]
        simp only [hread]

end Store

namespace Package

/-- The enclosing package under its own name, with `fallback` for a scope that turns out to have no
manifest. -/
def resolveSelfOr (fallback : Resolution (Option Url)) (fs : FileSystem)
    (specifier : PackageSpecifier) (parent : Url) (conditions : ConditionSet) :
    Resolution (Option Url) := do
  match parent.dirPath? with
  | none => return none
  | some dir =>
      match ← Store.currentScope? fs dir with
      | none => return none
      | some scope =>
          match ← Store.read fs scope with
          | none => fallback
          | some manifest =>
              match manifest.exports with
              | none => return none
              | some exports =>
                  if manifest.name = some specifier.name then
                    let packageUrl ← Resolution.ofExcept (dirUrl scope)
                    return some (← resolveExports packageUrl specifier.subpath exports conditions)
                  else return none

/-- What the enclosing package maps a `#` specifier to, with `fallback` for a scope that turns out
to have no manifest. -/
def lookUpOr (fallback : Resolution (Option Url)) (fs : FileSystem) (platform : Platform)
    (specifier : String) (parent : Url) (conditions : ConditionSet) :
    Resolution (Option Url) := do
  match parent.dirPath? with
  | none => return none
  | some dir =>
      match ← Store.currentScope? fs dir with
      | none => return none
      | some scope =>
          match ← Store.read fs scope with
          | none => fallback
          | some manifest =>
              match manifest.imports with
              | none => return none
              | some imports =>
                  let packageUrl ← Resolution.ofExcept (dirUrl scope)
                  let enter (bare : String) := resolveBare fs platform bare packageUrl conditions
                  resolveKey { packageUrl, captured := none, conditions, enter := some enter }
                    specifier imports

theorem resolveSelfOr_eq (fallback : Resolution (Option Url)) (fs : FileSystem)
    (specifier : PackageSpecifier) (parent : Url) (conditions : ConditionSet) :
    resolveSelfOr fallback fs specifier parent conditions =
      resolveSelf fs specifier parent conditions := by
  unfold resolveSelfOr resolveSelf
  cases parent.dirPath? with
  | none => rfl
  | some dir =>
      refine Store.bind_currentScope?_congr fs dir (pure none) fun scope manifest => ?_
      rfl

theorem lookUpOr_eq (fallback : Resolution (Option Url)) (fs : FileSystem) (platform : Platform)
    (specifier : String) (parent : Url) (conditions : ConditionSet) :
    lookUpOr fallback fs platform specifier parent conditions =
      resolveImports.lookUp fs platform specifier parent conditions := by
  unfold lookUpOr resolveImports.lookUp
  cases parent.dirPath? with
  | none => rfl
  | some dir =>
      refine Store.bind_currentScope?_congr fs dir (pure none) fun scope manifest => ?_
      rfl

end Package

/-- The scope of a directory is the nearest directory with a manifest, up to one that packages are
installed in, and it is read as one with a manifest.

The search finds it if there is one, and nothing otherwise. From below a directory of packages it is
farther down than that directory. Read in the same state the scope shows its manifest or a failure:
the manifest its entry holds, and without an entry what the file of that name is read as. That is
what is found for the directory, so nothing is found only where there is no scope, and whatever the
enclosing package were to do about a scope without a manifest, under its own name or for a `#`
specifier, would never be done. -/
theorem Store.scope_is_nearest (fs : FileSystem) (store : Store) (dir : FilePath) :
    (∀ scope, store.scope? fs dir = some scope ↔ IsScope fs store dir scope) ∧
    (∀ front back scope, dir.components = front ++ .normal packagesName.bytes :: back →
      store.scope? fs dir = some scope →
      ∃ below, below ≠ [] ∧ scope.components = front ++ .normal packagesName.bytes :: below) ∧
    (∀ scope, store.scope? fs dir = some scope →
      ((∃ manifest, ((read fs scope).run.run store).1 = .ok (some manifest)) ∨
        ∃ e, ((read fs scope).run.run store).1 = .error e) ∧
      ((∃ manifest, store.find? scope = some (some manifest) ∧
          (read fs scope).run.run store = (.ok (some manifest), store)) ∨
        (store.find? scope = none ∧ fs.isPresent (scope.join manifestName) = true ∧
          ((read fs scope).run.run store).1 =
            (loadManifest fs (scope.join manifestName)).map some)) ∧
      (find fs dir).run.run store = (read fs scope).run.run store) ∧
    (((find fs dir).run.run store).1 = .ok none ↔ store.scope? fs dir = none) ∧
    (∀ fallback specifier parent conditions,
      Package.resolveSelfOr fallback fs specifier parent conditions =
        Package.resolveSelf fs specifier parent conditions) ∧
    (∀ fallback platform specifier parent conditions,
      Package.lookUpOr fallback fs platform specifier parent conditions =
        Package.resolveImports.lookUp fs platform specifier parent conditions) := by
  refine ⟨fun scope => scope?_eq_some_iff, ?below, ?read, run_find_eq_none_iff, ?self, ?imports⟩
  case below =>
    intro front back scope hdir hscope
    exact (scope?_eq_some_iff.1 hscope).exists_below hdir
  case read =>
    intro scope hscope
    have hmanifest := (scope?_eq_some_iff.1 hscope).hasManifest
    exact ⟨run_read_scope hscope, run_read_of_hasManifest hmanifest, run_find_of_scope hscope⟩
  case self =>
    intro fallback specifier parent conditions
    exact Package.resolveSelfOr_eq fallback fs specifier parent conditions
  case imports =>
    intro fallback platform specifier parent conditions
    exact Package.lookUpOr_eq fallback fs platform specifier parent conditions

/-- A package `/p` with a manifest, in which a package `q` is installed whose manifest is no
object. -/
def FileSystem.ofInstalled : FileSystem where
  isPresent path := path ∈ [.ofString "/p/package.json", .ofString "/p/node_modules/q/package.json"]
  isDir _ := false
  readText path := .ok (if path = .ofString "/p/package.json" then "\x7b\x7d" else "[]")
  canonicalize := .ok

theorem FileSystem.loadManifest_ofInstalled :
    Store.loadManifest ofInstalled (.ofString "/p/package.json") =
        .ok { path := .ofString "/p/package.json", name := none, type := none, main := none
              exports := none, imports := none } ∧
      Store.loadManifest ofInstalled (.ofString "/p/node_modules/q/package.json") =
        .error ⟨.invalidConfiguration,
          "/p/node_modules/q/package.json: expected a JSON object"⟩ := by
  have hobject : Json.parse? Manifest.depthLimit "\x7b\x7d" = some (.object []) := by cbv
  have harray : Json.parse? Manifest.depthLimit "[]" = some (.array []) := by cbv
  have hother :
      FilePath.ofString "/p/node_modules/q/package.json" ≠ .ofString "/p/package.json" := by decide
  have hdetail : (FilePath.ofString "/p/node_modules/q/package.json").display ++ ": " ++
      ManifestError.notAnObject.message =
        "/p/node_modules/q/package.json: expected a JSON object" := by decide +kernel
  constructor
  · simp only [Store.loadManifest, ofInstalled, if_true, Manifest.parse, hobject]
    rfl
  · simp only [Store.loadManifest, ofInstalled, if_neg hother, Manifest.parse, harray, hdetail]

/-- A directory for packages hides the manifest beside it. A manifest that is remembered is found
whatever the file says, one that is no object is told as a fault, and a miss that is remembered
hides a manifest that has been written since. -/
theorem Store.scope_is_nearest_ofInstalled :
    let own : FilePath := .ofString "/p"
    let lib : FilePath := .ofString "/p/src/lib"
    let known : Manifest :=
      { path := .ofString "/p/package.json", name := some "p", type := none, main := none
        exports := none, imports := none }
    let remembers (entry : Option Manifest) : Store := ⟨[(own.components, entry)]⟩
    (Store.scope? .ofInstalled {} lib = some own ∧
      ((find .ofInstalled lib).run.run {}).1 = .ok (some { known with name := none }) ∧
      (find .ofInstalled lib).run.run (remembers known) = (.ok (some known), remembers known)) ∧
    (Store.scope? .ofInstalled {} (.ofString "/p/node_modules/q/lib") =
        some (.ofString "/p/node_modules/q") ∧
      ((read .ofInstalled (.ofString "/p/node_modules/q")).run.run {}).1 =
        .error ⟨.invalidConfiguration,
          "/p/node_modules/q/package.json: expected a JSON object"⟩) ∧
    ((find .ofInstalled (.ofString "/p/node_modules/r")).run.run {}).1 = .ok none ∧
    ((find .ofInstalled lib).run.run (remembers none)).1 = .ok none := by
  intro own lib known remembers
  have hown : own.join manifestName = .ofString "/p/package.json" := by decide +kernel
  obtain ⟨hload, hfault⟩ := FileSystem.loadManifest_ofInstalled
  refine ⟨?fresh, ?installed, ?apart, ?missed⟩
  case fresh =>
    have hscope : Store.scope? .ofInstalled {} lib = some own := by decide +kernel
    have hscope' : (remembers known).scope? .ofInstalled lib = some own := by decide +kernel
    obtain ⟨-, -, hread, -⟩ := scope_is_nearest .ofInstalled {} lib
    obtain ⟨-, hentry, hfind⟩ := hread own hscope
    obtain ⟨-, -, hread', -⟩ := scope_is_nearest .ofInstalled (remembers known) lib
    obtain ⟨-, hentry', hfind'⟩ := hread' own hscope'
    refine ⟨hscope, ?_, ?_⟩
    · rcases hentry with ⟨_, hnone, -⟩ | ⟨-, -, hdisk⟩
      · cases hnone
      · rw [hfind, hdisk, hown, hload]
        rfl
    · rcases hentry' with ⟨found, hfound, hcached⟩ | ⟨hnone, -⟩
      · obtain rfl : known = found := by simpa [remembers, Store.find?] using hfound
        rw [hfind', hcached]
      · simp [remembers, Store.find?] at hnone
  case installed =>
    have hscope : Store.scope? .ofInstalled {} (.ofString "/p/node_modules/q/lib") =
        some (.ofString "/p/node_modules/q") := by decide +kernel
    obtain ⟨-, -, hread, -⟩ := scope_is_nearest .ofInstalled {} (.ofString "/p/node_modules/q/lib")
    obtain ⟨-, hentry, -⟩ := hread _ hscope
    refine ⟨hscope, ?_⟩
    rcases hentry with ⟨_, hnone, -⟩ | ⟨-, -, hdisk⟩
    · cases hnone
    · have hpath : (FilePath.ofString "/p/node_modules/q").join manifestName =
          .ofString "/p/node_modules/q/package.json" := by decide +kernel
      rw [hdisk, hpath, hfault]
      rfl
  case apart =>
    obtain ⟨-, -, -, hnone, -⟩ := scope_is_nearest .ofInstalled {} (.ofString "/p/node_modules/r")
    exact hnone.2 (by decide +kernel)
  case missed =>
    obtain ⟨-, -, -, hnone, -⟩ := scope_is_nearest .ofInstalled (remembers none) lib
    exact hnone.2 (by decide +kernel)

end ModuleGraph
