import ModuleGraph.Proofs.Resolve.Coupling
import ModuleGraph.Proofs.Store.Transparency
import Mathlib.Control.Monad.Basic

/-!
# One package answers

A bare specifier is answered by the enclosing package, if it bears the name and has `exports`, and
by the nearest installed package otherwise. Nothing but the scope, its manifest, the places of the
nearer packages and the manifest of the one that answers is looked at, so two file systems that
have these in common answer alike. The answer is final: where it is a failure, no package farther
up is tried.
-/

set_option autoImplicit false

namespace ModuleGraph

open Store (load scope?)

/-! ## What is looked at -/

/-- Two file systems that show one scope for a directory, with the same manifest. -/
structure FileSystem.SameScope (fs fs' : FileSystem) (dir : FilePath) : Prop where
  scope : scope? fs' {} dir = scope? fs {} dir
  manifest : ∀ scope, scope? fs {} dir = some scope → load fs' scope = load fs scope

theorem Store.load_congr {fs fs' : FileSystem} (hpresent : fs'.isPresent = fs.isPresent)
    (htext : fs'.readText = fs.readText) (dir : FilePath) : load fs' dir = load fs dir := by
  unfold load loadManifest
  rw [hpresent, htext]

/-- Where directories are is of no account to scopes and manifests. -/
theorem FileSystem.SameScope.of_isPresent {fs fs' : FileSystem}
    (hpresent : fs'.isPresent = fs.isPresent) (htext : fs'.readText = fs.readText)
    (dir : FilePath) : fs.SameScope fs' dir where
  scope := by
    unfold Store.scope?
    induction dir.ancestors with
    | nil => rfl
    | cons dir rest ih =>
        unfold Store.firstScope? Store.hasManifest
        rw [hpresent, ih]
  manifest scope _ := Store.load_congr hpresent htext scope

namespace Package

/-- The enclosing package of a directory bears the name and has `exports`. -/
structure IsOwnScope (fs : FileSystem) (dir : FilePath) (name : String) (scope : FilePath) :
    Prop where
  isScope : scope? fs {} dir = some scope
  manifest : ∃ manifest exports, load fs scope = .ok (some manifest) ∧
    manifest.exports = some exports ∧ manifest.name = some name

/-- On the way up from a directory a package of the name is found first in `found`, behind the
directories of `nearer`. -/
structure FoundBehind (fs : FileSystem) (name : String) (dir : FilePath)
    (nearer : List FilePath) (found : FilePath) : Prop where
  way : ∃ ancestor farther, dir.ancestors = nearer ++ ancestor :: farther ∧
    installDir name ancestor = found
  nearer : ∀ ancestor ∈ nearer, fs.isDir (installDir name ancestor) = false
  found : fs.isDir found = true

/-- Two file systems with the same package in `found`, and with the same directories in the places
that come before it. -/
structure SameFound (fs fs' : FileSystem) (name : String) (nearer : List FilePath)
    (found : FilePath) : Prop where
  nearer : ∀ ancestor ∈ nearer,
    fs'.isDir (installDir name ancestor) = fs.isDir (installDir name ancestor)
  isDir : fs'.isDir found = fs.isDir found
  manifest : load fs' found = load fs found

/-- What the package in a directory answers, if reading its manifest comes out as given. -/
def answer (dir : FilePath) (manifest : Except ResolveError (Option Manifest)) (subpath : String)
    (conditions : ConditionSet) : Except ResolveError Url := do
  let packageUrl ← dirUrl dir
  let manifest ← manifest
  ((enter packageUrl subpath manifest conditions).run.run {}).1

/-- The answer to a bare specifier while nothing has been read, and what is read for it. -/
def freshBare (fs : FileSystem) (platform : Platform) (specifier : String) (parent : Url)
    (conditions : ConditionSet) : Except ResolveError Url × Store :=
  (resolveBare fs platform specifier parent conditions).run.run {}

variable {fs fs' : FileSystem} {platform : Platform} {specifier : String} {parent : Url}
  {dir : FilePath} {parts : PackageSpecifier} {conditions : ConditionSet}

theorem FoundBehind.installed? {name : String} {nearer : List FilePath} {found : FilePath}
    (h : FoundBehind fs name dir nearer found) : installed? fs name dir = some found := by
  obtain ⟨ancestor, farther, hway, rfl⟩ := h.way
  have hnearer : (nearer.map (installDir name)).find? fs.isDir = none := by
    rw [List.find?_eq_none]
    intro place hplace
    obtain ⟨a, ha, rfl⟩ := List.mem_map.1 hplace
    rw [h.nearer a ha]
    exact Bool.false_ne_true
  rw [Package.installed?, hway, List.map_append, List.map_cons, List.find?_append, hnearer,
    Option.none_or, List.find?_cons_of_pos h.found]

theorem FoundBehind.of_same {name : String} {nearer : List FilePath} {found : FilePath}
    (h : FoundBehind fs name dir nearer found) (hsame : SameFound fs fs' name nearer found) :
    FoundBehind fs' name dir nearer found where
  way := h.way
  nearer ancestor hancestor := (hsame.nearer ancestor hancestor).trans (h.nearer ancestor hancestor)
  found := hsame.isDir.trans h.found

/-! ## The enclosing package -/

/-- What a package answers does not depend on what has been read. -/
theorem enter_outcome (packageUrl : Url) (subpath : String) (manifest : Option Manifest)
    (conditions : ConditionSet) (store : Store) :
    ((enter packageUrl subpath manifest conditions).run.run store).1 =
      ((enter packageUrl subpath manifest conditions).run.run {}).1 := by
  have hsame : Option.Rel (Manifest.AnswersAlike (fun _ _ => True) Eq conditions conditions)
      manifest manifest := by
    cases manifest with
    | none => exact .none
    | some m =>
        exact .some (((Manifest.Alike.refl m).interchangeable
          ResolveError.keepsKinds_eq).answersAlike ResolveError.keepsKinds_eq conditions)
  have hagree := agree_enter ResolveError.keepsKinds_eq packageUrl subpath hsame
  exact (hagree.coupled True.intro).1.eq

/-- A package with `exports` is entered through them. -/
theorem enter_of_exports {m : Manifest} {exports : Target} (hexports : m.exports = some exports)
    (packageUrl : Url) (subpath : String) (conditions : ConditionSet) :
    enter packageUrl subpath (some m) conditions =
      resolveExports packageUrl subpath exports conditions := by
  rw [enter, Option.bind_some, hexports]

/-- What follows once the manifest of the enclosing package has been read. -/
def selfAnswer (scope : FilePath) (parts : PackageSpecifier) (conditions : ConditionSet) :
    Option Manifest → Resolution (Option Url)
  | none => return none
  | some manifest =>
      match manifest.exports with
      | none => return none
      | some exports =>
          if manifest.name = some parts.name then do
            let packageUrl ← Resolution.ofExcept (dirUrl scope)
            return some (← resolveExports packageUrl parts.subpath exports conditions)
          else return none

theorem resolveSelf_eq (hdir : parent.dirPath? = some dir) :
    resolveSelf fs parts parent conditions = (do
      match ← Store.currentScope? fs dir with
      | none => return none
      | some scope => selfAnswer scope parts conditions (← Store.read fs scope)) := by
  unfold resolveSelf
  rw [hdir]
  rfl

theorem run_resolveSelf (hdir : parent.dirPath? = some dir) :
    (resolveSelf fs parts parent conditions).run.run {} =
      match scope? fs {} dir with
      | none => (.ok none, {})
      | some scope =>
          match load fs scope with
          | .error e => (.error e, {})
          | .ok manifest =>
              (selfAnswer scope parts conditions manifest).run.run
                (({} : Store).remember scope manifest) := by
  have hscope : (Store.currentScope? fs dir).run.run {} = (.ok (scope? fs {} dir), {}) := rfl
  rw [resolveSelf_eq hdir, ExceptT.run_bind, Store.run_bind, hscope]
  cases scope? fs {} dir with
  | none => rfl
  | some scope =>
      have hread : (Store.read fs scope).run.run {} = _ := Store.run_read {} scope
      have hnone : ({} : Store).find? scope = none := rfl
      dsimp only
      rw [ExceptT.run_bind, Store.run_bind, hread, hnone]
      cases load fs scope with
      | error e => rfl
      | ok manifest => rfl

theorem run_resolveSelf_of_none (hdir : parent.dirPath? = some dir)
    (hscope : scope? fs {} dir = none) :
    (resolveSelf fs parts parent conditions).run.run {} = (.ok none, {}) := by
  rw [run_resolveSelf hdir, hscope]

theorem run_resolveSelf_of_unreadable (hdir : parent.dirPath? = some dir) {scope : FilePath}
    {e : ResolveError} (hscope : scope? fs {} dir = some scope) (hload : load fs scope = .error e) :
    (resolveSelf fs parts parent conditions).run.run {} = (.error e, {}) := by
  rw [run_resolveSelf hdir, hscope]
  dsimp only
  rw [hload]

theorem run_resolveSelf_of_scope (hdir : parent.dirPath? = some dir) {scope : FilePath}
    {manifest : Option Manifest} (hscope : scope? fs {} dir = some scope)
    (hload : load fs scope = .ok manifest) :
    (resolveSelf fs parts parent conditions).run.run {} =
      (selfAnswer scope parts conditions manifest).run.run
        (({} : Store).remember scope manifest) := by
  rw [run_resolveSelf hdir, hscope]
  dsimp only
  rw [hload]

theorem run_resolveSelf_congr (hdir : parent.dirPath? = some dir) (h : fs.SameScope fs' dir) :
    (resolveSelf fs' parts parent conditions).run.run {} =
      (resolveSelf fs parts parent conditions).run.run {} := by
  rw [run_resolveSelf hdir, run_resolveSelf hdir, h.scope]
  cases hscope : scope? fs {} dir with
  | none => rfl
  | some scope =>
      dsimp only
      rw [h.manifest scope hscope]

/-- The enclosing package keeps out unless it bears the name and has `exports`. -/
theorem selfAnswer_eq_none (scope : FilePath) {manifest : Option Manifest}
    (h : ∀ m exports, manifest = some m → m.exports = some exports → m.name ≠ some parts.name) :
    selfAnswer scope parts conditions manifest = pure none := by
  unfold selfAnswer
  cases manifest with
  | none => rfl
  | some m =>
      dsimp only
      cases hexports : m.exports with
      | none => rfl
      | some exports => exact if_neg (h m exports rfl hexports)

theorem run_selfAnswer_own (scope : FilePath) {m : Manifest} {exports : Target}
    (hexports : m.exports = some exports) (hname : m.name = some parts.name)
    (conditions : ConditionSet) (store : Store) :
    ((selfAnswer scope parts conditions (some m)).run.run store).1 =
      (answer scope (.ok (some m)) parts.subpath conditions).map some := by
  have hself : selfAnswer scope parts conditions (some m) = (do
      let packageUrl ← Resolution.ofExcept (dirUrl scope)
      let location ← enter packageUrl parts.subpath (some m) conditions
      return some location) := by
    simp only [enter_of_exports hexports, selfAnswer, hexports, if_pos hname]
  rw [hself, Resolution.run_bind, Resolution.run_ofExcept]
  unfold answer
  cases dirUrl scope with
  | error e => rfl
  | ok packageUrl =>
      dsimp only
      rw [Resolution.run_bind]
      have houtcome := enter_outcome packageUrl parts.subpath (some m) conditions store
      show _ = Except.map some ((enter packageUrl parts.subpath (some m) conditions).run.run {}).1
      rw [← houtcome]
      cases (enter packageUrl parts.subpath (some m) conditions).run.run store with
      | mk outcome t =>
          cases outcome with
          | ok location => rfl
          | error e => rfl

/-- A package of the name that has `exports` answers, and not with nothing. -/
theorem exists_run_resolveSelf_own (hdir : parent.dirPath? = some dir) {scope : FilePath}
    (hown : IsOwnScope fs dir parts.name scope) (conditions : ConditionSet) :
    ∃ store, (resolveSelf fs parts parent conditions).run.run {} =
      ((answer scope (load fs scope) parts.subpath conditions).map some, store) := by
  obtain ⟨m, exports, hload, hexports, hname⟩ := hown.manifest
  have hself := run_selfAnswer_own scope hexports hname conditions
    (({} : Store).remember scope (some m))
  rw [run_resolveSelf_of_scope hdir hown.isScope hload, hload, ← hself]
  exact ⟨_, rfl⟩

theorem run_resolveSelf_other (hdir : parent.dirPath? = some dir) {scope : FilePath}
    {manifest : Option Manifest} (hscope : scope? fs {} dir = some scope)
    (hload : load fs scope = .ok manifest) (hother : ¬ IsOwnScope fs dir parts.name scope) :
    (resolveSelf fs parts parent conditions).run.run {} =
      (.ok none, ({} : Store).remember scope manifest) := by
  have hnone : selfAnswer scope parts conditions manifest = pure none := by
    refine selfAnswer_eq_none scope ?_
    rintro m exports rfl hexports hname
    exact hother ⟨hscope, m, exports, hload, hexports, hname⟩
  rw [run_resolveSelf_of_scope hdir hscope hload, hnone]
  rfl

/-! ## The nearest installed package -/

theorem resolveInstalled_eq (hdir : parent.dirPath? = some dir) {found : FilePath}
    (hfound : installed? fs parts.name dir = some found) :
    resolveInstalled fs specifier parts parent conditions = (do
      let packageUrl ← Resolution.ofExcept (dirUrl found)
      let manifest ← Store.read fs found
      enter packageUrl parts.subpath manifest conditions) := by
  rw [resolveInstalled, hdir, Option.bind_some, hfound]

/-- The installed package answers, whatever has been read before. -/
theorem run_resolveInstalled (hdir : parent.dirPath? = some dir) {found : FilePath}
    (hfound : installed? fs parts.name dir = some found) (store : Store) :
    ((resolveInstalled fs specifier parts parent conditions).run.run store).1 =
      answer found ((Store.read fs found).run.run store).1 parts.subpath conditions := by
  rw [resolveInstalled_eq hdir hfound, Resolution.run_bind, Resolution.run_ofExcept]
  unfold answer
  cases dirUrl found with
  | error e => rfl
  | ok packageUrl =>
      dsimp only
      rw [Resolution.run_bind]
      cases (Store.read fs found).run.run store with
      | mk outcome t =>
          cases outcome with
          | error e => rfl
          | ok manifest => exact enter_outcome packageUrl parts.subpath manifest conditions t

theorem run_read_empty (found : FilePath) :
    ((Store.read fs found).run.run {}).1 = load fs found := by
  have hnone : ({} : Store).find? found = none := rfl
  rw [Store.run_read, hnone]
  dsimp only
  cases load fs found with
  | ok manifest => rfl
  | error e => rfl

/-- A manifest that has been read is not read again, under whatever spelling of its directory. -/
theorem exists_run_read_remember {scope : FilePath} {manifest : Option Manifest}
    (hload : load fs scope = .ok manifest) (found : FilePath) :
    ∃ place : FilePath, place.components = found.components ∧ (place = found ∨ place = scope) ∧
      ((Store.read fs found).run.run (({} : Store).remember scope manifest)).1 =
        load fs place := by
  have hentry : (({} : Store).remember scope manifest).find? found =
      if found.components = scope.components then some manifest else none := by
    show List.lookup found.components [(scope.components, manifest)] = _
    rw [List.lookup_cons]
    by_cases heq : found.components = scope.components
    · rw [beq_iff_eq.2 heq, if_pos heq]
    · rw [beq_eq_false_iff_ne.2 heq, if_neg heq]
      rfl
  rw [Store.run_read, hentry]
  by_cases heq : found.components = scope.components
  · refine ⟨scope, heq.symm, Or.inr rfl, ?_⟩
    rw [if_pos heq, hload]
  · refine ⟨found, rfl, Or.inl rfl, ?_⟩
    rw [if_neg heq]
    dsimp only
    cases load fs found with
    | ok manifest => rfl
    | error e => rfl

theorem resolveInstalled_congr (hdir : parent.dirPath? = some dir) {nearer : List FilePath}
    {found : FilePath} (hfound : FoundBehind fs parts.name dir nearer found)
    (hsame : SameFound fs fs' parts.name nearer found) :
    resolveInstalled fs' specifier parts parent conditions =
      resolveInstalled fs specifier parts parent conditions := by
  have hread : Store.read fs' found = Store.read fs found := by
    unfold Store.read
    rw [hsame.manifest]
  rw [resolveInstalled_eq hdir hfound.installed?,
    resolveInstalled_eq hdir (hfound.of_same hsame).installed?, hread]

/-! ## Bare specifiers -/

theorem run_resolveBare (hne : specifier ≠ "") (hbuiltin : isBuiltin platform specifier = false)
    (hparts : PackageSpecifier.parse specifier = .ok parts) :
    freshBare fs platform specifier parent conditions =
      match (resolveSelf fs parts parent conditions).run.run {} with
      | (.ok (some location), store) => (.ok location, store)
      | (.ok none, store) =>
          (resolveInstalled fs specifier parts parent conditions).run.run store
      | (.error e, store) => (.error e, store) := by
  unfold freshBare resolveBare
  rw [if_neg hne, hbuiltin, if_neg Bool.false_ne_true, hparts, Resolution.run_bind,
    Resolution.run_ofExcept]
  dsimp only
  rw [Resolution.run_bind]
  cases (resolveSelf fs parts parent conditions).run.run {} with
  | mk outcome store =>
      cases outcome with
      | error e => rfl
      | ok found =>
          cases found with
          | none => rfl
          | some location => rfl

/-- A package of the name that has `exports` gives the answer, be it a failure. -/
theorem freshBare_own (hdir : parent.dirPath? = some dir)
    (hparts : PackageSpecifier.parse specifier = .ok parts)
    (hbuiltin : isBuiltin platform specifier = false) (hne : specifier ≠ "") {scope : FilePath}
    (hown : IsOwnScope fs dir parts.name scope) :
    (freshBare fs platform specifier parent conditions).1 =
      answer scope (load fs scope) parts.subpath conditions := by
  obtain ⟨store, hself⟩ := exists_run_resolveSelf_own hdir hown conditions
  rw [run_resolveBare hne hbuiltin hparts, hself]
  cases answer scope (load fs scope) parts.subpath conditions with
  | ok location => rfl
  | error e => rfl

theorem freshBare_congr_own (hdir : parent.dirPath? = some dir)
    (hparts : PackageSpecifier.parse specifier = .ok parts)
    (hbuiltin : isBuiltin platform specifier = false) {scope : FilePath}
    (hown : IsOwnScope fs dir parts.name scope) (hsame : fs.SameScope fs' dir) :
    freshBare fs' platform specifier parent conditions =
      freshBare fs platform specifier parent conditions := by
  by_cases hne : specifier = ""
  · unfold freshBare resolveBare
    rw [if_pos hne, if_pos hne]
  · obtain ⟨store, hself⟩ := exists_run_resolveSelf_own hdir hown conditions
    rw [run_resolveBare hne hbuiltin hparts, run_resolveBare hne hbuiltin hparts,
      run_resolveSelf_congr hdir hsame, hself]
    -- with an answer or a failure the installed packages are not looked at
    cases answer scope (load fs scope) parts.subpath conditions with
    | ok location => rfl
    | error e => rfl

theorem freshBare_congr_installed (hdir : parent.dirPath? = some dir)
    (hparts : PackageSpecifier.parse specifier = .ok parts)
    (hbuiltin : isBuiltin platform specifier = false) {nearer : List FilePath} {found : FilePath}
    (hfound : FoundBehind fs parts.name dir nearer found) (hscope : fs.SameScope fs' dir)
    (hsame : SameFound fs fs' parts.name nearer found) :
    freshBare fs' platform specifier parent conditions =
      freshBare fs platform specifier parent conditions := by
  by_cases hne : specifier = ""
  · unfold freshBare resolveBare
    rw [if_pos hne, if_pos hne]
  · rw [run_resolveBare hne hbuiltin hparts, run_resolveBare hne hbuiltin hparts,
      run_resolveSelf_congr hdir hscope, resolveInstalled_congr hdir hfound hsame]

theorem freshBare_unreadable (hdir : parent.dirPath? = some dir)
    (hparts : PackageSpecifier.parse specifier = .ok parts)
    (hbuiltin : isBuiltin platform specifier = false) (hne : specifier ≠ "") {scope : FilePath}
    {e : ResolveError} (hscope : scope? fs {} dir = some scope) (hload : load fs scope = .error e) :
    (freshBare fs platform specifier parent conditions).1 = .error e := by
  rw [run_resolveBare hne hbuiltin hparts, run_resolveSelf_of_unreadable hdir hscope hload]

/-- The nearest installed package gives the answer, be it a failure. -/
theorem freshBare_installed (hdir : parent.dirPath? = some dir)
    (hparts : PackageSpecifier.parse specifier = .ok parts)
    (hbuiltin : isBuiltin platform specifier = false) (hne : specifier ≠ "")
    (hother : ∀ scope, ¬ IsOwnScope fs dir parts.name scope) {nearer : List FilePath}
    {found : FilePath} (hfound : FoundBehind fs parts.name dir nearer found)
    (hreadable : ∀ scope e, scope? fs {} dir = some scope → load fs scope ≠ .error e) :
    ∃ place : FilePath, place.components = found.components ∧
      (place = found ∨ scope? fs {} dir = some place) ∧
      (freshBare fs platform specifier parent conditions).1 =
        answer found (load fs place) parts.subpath conditions := by
  rw [run_resolveBare hne hbuiltin hparts]
  cases hscope : scope? fs {} dir with
  | none =>
      refine ⟨found, rfl, Or.inl rfl, ?_⟩
      rw [run_resolveSelf_of_none hdir hscope]
      dsimp only
      rw [run_resolveInstalled hdir hfound.installed?, run_read_empty]
  | some scope =>
      cases hload : load fs scope with
      | error e => exact absurd hload (hreadable scope e hscope)
      | ok manifest =>
          obtain ⟨place, hplace, horigin, hread⟩ := exists_run_read_remember hload found
          refine ⟨place, hplace, horigin.imp_right (congrArg some ·.symm), ?_⟩
          rw [run_resolveSelf_other hdir hscope hload (hother scope)]
          dsimp only
          rw [run_resolveInstalled hdir hfound.installed?, hread]

/-- One package answers. If the enclosing package bears the name and has `exports`, its answer is
the answer, and any file system with the same scope gives it. Otherwise the nearest installed
package answers, and any file system with the same scope and the same way to that package does the
same; only a scope that cannot be read comes before it. Of the scope and the package found the
manifest is read once if they are one directory in two spellings. -/
theorem nearest_package_answers (hdir : parent.dirPath? = some dir)
    (hparts : PackageSpecifier.parse specifier = .ok parts)
    (hbuiltin : isBuiltin platform specifier = false) (conditions : ConditionSet) :
    (∀ scope, IsOwnScope fs dir parts.name scope →
      (specifier ≠ "" → (freshBare fs platform specifier parent conditions).1 =
        answer scope (load fs scope) parts.subpath conditions) ∧
      ∀ fs', fs.SameScope fs' dir →
        freshBare fs' platform specifier parent conditions =
          freshBare fs platform specifier parent conditions) ∧
    ((∀ scope, ¬ IsOwnScope fs dir parts.name scope) → ∀ nearer found,
      FoundBehind fs parts.name dir nearer found →
      (specifier ≠ "" →
        (∀ scope e, scope? fs {} dir = some scope → load fs scope = .error e →
          (freshBare fs platform specifier parent conditions).1 = .error e) ∧
        ((∀ scope e, scope? fs {} dir = some scope → load fs scope ≠ .error e) →
          ∃ place : FilePath, place.components = found.components ∧
            (place = found ∨ scope? fs {} dir = some place) ∧
            (freshBare fs platform specifier parent conditions).1 =
              answer found (load fs place) parts.subpath conditions)) ∧
      ∀ fs', fs.SameScope fs' dir → SameFound fs fs' parts.name nearer found →
        freshBare fs' platform specifier parent conditions =
          freshBare fs platform specifier parent conditions) := by
  constructor
  · intro scope hown
    refine ⟨fun hne => freshBare_own hdir hparts hbuiltin hne hown, fun fs' hsame => ?_⟩
    exact freshBare_congr_own hdir hparts hbuiltin hown hsame
  · intro hother nearer found hfound
    refine ⟨fun hne => ⟨?_, ?_⟩, fun fs' hscope hsame => ?_⟩
    · intro scope e hscope hload
      exact freshBare_unreadable hdir hparts hbuiltin hne hscope hload
    · intro hreadable
      exact freshBare_installed hdir hparts hbuiltin hne hother hfound hreadable
    · exact freshBare_congr_installed hdir hparts hbuiltin hfound hscope hsame

/-- Directories, and a package `/s` that bears the name `a` and has `exports`. -/
def exampleTree (dirs : List String) : FileSystem where
  isPresent path := path = .ofString "/s/package.json"
  isDir path := dirs.any fun dir => path = .ofString dir
  readText _ := .ok "\x7b\"name\":\"a\",\"exports\":\"./x.js\"\x7d"
  canonicalize := .ok

theorem isPresent_exampleTree (dirs dirs' : List String) :
    (exampleTree dirs).isPresent = (exampleTree dirs').isPresent := rfl

theorem readText_exampleTree (dirs dirs' : List String) :
    (exampleTree dirs).readText = (exampleTree dirs').readText := rfl

theorem sameScope_exampleTree (dirs dirs' : List String) (dir : FilePath) :
    (exampleTree dirs).SameScope (exampleTree dirs') dir :=
  .of_isPresent (isPresent_exampleTree ..) (readText_exampleTree ..) dir

theorem isOwnScope_exampleTree (dirs : List String) :
    IsOwnScope (exampleTree dirs) (.ofString "/s") "a" (.ofString "/s") := by
  have hsame := sameScope_exampleTree [] dirs (.ofString "/s")
  have hscope : scope? (exampleTree []) {} (.ofString "/s") = some (.ofString "/s") := by
    decide +kernel
  have hload : (load (exampleTree []) (.ofString "/s")).toOption.any
      (Option.any fun m => m.exports.isSome && m.name = some "a") = true := by decide +kernel
  refine ⟨hsame.scope.trans hscope, ?_⟩
  rw [hsame.manifest _ hscope]
  cases hfound : load (exampleTree []) (.ofString "/s") with
  | error e =>
      rw [hfound] at hload
      cases hload
  | ok found =>
      rw [hfound] at hload
      cases found with
      | none => cases hload
      | some m =>
          obtain ⟨hexports, hname⟩ := (Bool.and_eq_true _ _).mp hload
          obtain ⟨exports, hexports⟩ := Option.isSome_iff_exists.1 hexports
          exact ⟨m, exports, rfl, hexports, of_decide_eq_true hname⟩

/-- Packages of the name in other places change neither the answer of the installed package that
comes first nor that of the enclosing package. -/
theorem nearest_package_answers_among_others :
    let near := exampleTree ["/p/node_modules/a"]
    let far := exampleTree ["/p/node_modules/a", "/node_modules/a", "/s/node_modules/a"]
    let file (segs : List String) : Url :=
      { scheme := "file", authority := some { host := "" }, path := .segments segs }
    let bare (fs : FileSystem) (specifier : String) (parent : Url) :=
      freshBare fs .node specifier parent (.ofList [])
    (bare near "a/x.js" (file ["p", "q", "m.js"])).1 =
        .ok (file ["p", "node_modules", "a", "x.js"]) ∧
      bare far "a/x.js" (file ["p", "q", "m.js"]) = bare near "a/x.js" (file ["p", "q", "m.js"]) ∧
      bare far "a" (file ["s", "m.js"]) = bare near "a" (file ["s", "m.js"]) := by
  intro near far file bare
  have hdir : (file ["p", "q", "m.js"]).dirPath? = some (.ofString "/p/q") := by decide +kernel
  have hdir' : (file ["s", "m.js"]).dirPath? = some (.ofString "/s") := by decide +kernel
  have hparts : PackageSpecifier.parse "a/x.js" = .ok ⟨"a", "./x.js"⟩ := by decide +kernel
  have hparts' : PackageSpecifier.parse "a" = .ok ⟨"a", "."⟩ := by decide +kernel
  have hbuiltin : isBuiltin .node "a/x.js" = false := by decide +kernel
  have hbuiltin' : isBuiltin .node "a" = false := by decide +kernel
  have hfound : FoundBehind near "a" (.ofString "/p/q") [.ofString "/p/q"]
      (.ofString "/p/node_modules/a") :=
    ⟨⟨.ofString "/p", [.ofString "/"], by decide +kernel, by decide +kernel⟩, by decide +kernel,
      by decide +kernel⟩
  have hother : ∀ scope, ¬ IsOwnScope near (.ofString "/p/q") "a" scope := by
    have hscope : scope? near {} (.ofString "/p/q") = none := by decide +kernel
    intro scope h
    rw [h.isScope] at hscope
    cases hscope
  have hsame (dir : FilePath) : near.SameScope far dir := sameScope_exampleTree _ _ dir
  have hplace : SameFound near far "a" [.ofString "/p/q"] (.ofString "/p/node_modules/a") := by
    refine ⟨by decide +kernel, by decide +kernel, ?_⟩
    exact Store.load_congr (isPresent_exampleTree ..) (readText_exampleTree ..) _
  obtain ⟨-, hinstalled⟩ := nearest_package_answers hdir hparts hbuiltin (.ofList [])
  obtain ⟨hown, -⟩ := nearest_package_answers hdir' hparts' hbuiltin' (.ofList [])
  refine ⟨by decide +kernel, ?_, ?_⟩
  · exact (hinstalled hother _ _ hfound).2 far (hsame _) hplace
  · exact (hown _ (isOwnScope_exampleTree _)).2 far (hsame _)

end Package

end ModuleGraph
