import ModuleGraph.Proofs.Store.Coupling
import ModuleGraph.Resolve.Resolver

/-!
# Agreeing resolutions

The resolver looks at the store in two ways only: it asks for the scope of a directory and it
reads the manifest of one. Of a manifest only the fields count, and of the maps among them only
what they answer for a key (`Manifest.Interchangeable`). Two file systems that have the same files
in the same places, and whose scopes and manifests agree (`FileSystem.Agree`), are therefore the
same to every resolution. Failures are compared by a relation that keeps their kinds, since a list
of targets goes on behind a failure of one kind only.

Conditions count in the targets of manifests and nowhere else, so the same holds of two sets of
conditions under which the manifests answer alike (`Manifest.AnswersAlike`,
`FileSystem.AgreeUnder`).
-/

set_option autoImplicit false

namespace ModuleGraph

/-- A relation on failures that holds of each and itself, and never of two kinds. -/
structure ResolveError.KeepsKinds (E : ResolveError → ResolveError → Prop) : Prop where
  refl : ∀ e, E e e
  kind : ∀ {e e' : ResolveError}, E e e' → e.kind = e'.kind

theorem ResolveError.keepsKinds_eq : KeepsKinds Eq := ⟨fun _ => rfl, congrArg ResolveError.kind⟩

/-- Two maps have the same entries, and every key matches the same of them by pattern. -/
structure TargetMap.Interchangeable (E : ResolveError → ResolveError → Prop)
    (map map' : TargetMap) : Prop where
  lookup : ∀ key, map.lookup key = map'.lookup key
  match? : ∀ key, OutcomeRel E Eq (Pattern.match? key map) (Pattern.match? key map')

/-- Two forms of `exports` that offer the same. -/
inductive Package.ExportsForm.Interchangeable (E : ResolveError → ResolveError → Prop) :
    ExportsForm → ExportsForm → Prop
  | refl (form : ExportsForm) : Interchangeable E form form
  | subpaths {map map' : TargetMap} : TargetMap.Interchangeable E map map' →
      Interchangeable E (.subpaths map) (.subpaths map')

/-- Two manifests that say the same about their packages. -/
structure Manifest.Interchangeable (E : ResolveError → ResolveError → Prop)
    (m n : Manifest) : Prop where
  name : m.name = n.name
  type : m.type = n.type
  main : m.main = n.main
  exports : Option.Rel (fun a b : Target => (Package.ExportsForm.of a).Interchangeable E
    (Package.ExportsForm.of b)) m.exports n.exports
  imports : Option.Rel (TargetMap.Interchangeable E) m.imports n.imports

/-- Two file systems with the same files in the same places. From stores related by `S` they show
the same scopes and interchangeable manifests, and reading keeps the stores related. -/
structure FileSystem.Agree (S : Store → Store → Prop) (E : ResolveError → ResolveError → Prop)
    (fs fs' : FileSystem) : Prop where
  isPresent : ∀ path, fs.isPresent path = fs'.isPresent path
  isDir : ∀ path, fs.isDir path = fs'.isDir path
  canonicalize : ∀ path, fs.canonicalize path = fs'.canonicalize path
  scope : ∀ dir, Resolution.Agree S E Eq (Store.currentScope? fs dir) (Store.currentScope? fs' dir)
  read : ∀ dir, Resolution.Agree S E (Option.Rel (Manifest.Interchangeable E))
    (Store.read fs dir) (Store.read fs' dir)

/-- Two ways to enter another package, or none on both sides. -/
def Resolution.EntersAlike (S : Store → Store → Prop) (E : ResolveError → ResolveError → Prop)
    (enter enter' : Option (String → Resolution Url)) : Prop :=
  Option.Rel (fun f g => ∀ bare, Resolution.Agree S E Eq (f bare) (g bare)) enter enter'

/-- Two manifests that answer alike, each under its own conditions: they bear the same name, and
every way to enter one of the packages is answered in the other. -/
structure Manifest.AnswersAlike (S : Store → Store → Prop)
    (E : ResolveError → ResolveError → Prop) (conditions conditions' : ConditionSet)
    (m n : Manifest) : Prop where
  name : m.name = n.name
  type : m.type = n.type
  main : m.main = n.main
  exports : Option.Rel (fun a b : Target => ∀ packageUrl subpath, Resolution.Agree S E Eq
    (Package.resolveExports packageUrl subpath a conditions)
    (Package.resolveExports packageUrl subpath b conditions')) m.exports n.exports
  imports : Option.Rel (fun a b : TargetMap => ∀ packageUrl enter enter' key,
    Resolution.EntersAlike S E enter enter' → Resolution.Agree S E Eq
      (Package.resolveKey { packageUrl, captured := none, conditions, enter } key a)
      (Package.resolveKey
        { packageUrl, captured := none, conditions := conditions', enter := enter' } key b))
    m.imports n.imports

/-- Two file systems with the same files in the same places, whose manifests answer alike, each
under its own conditions. -/
structure FileSystem.AgreeUnder (S : Store → Store → Prop)
    (E : ResolveError → ResolveError → Prop) (conditions conditions' : ConditionSet)
    (fs fs' : FileSystem) : Prop where
  isPresent : ∀ path, fs.isPresent path = fs'.isPresent path
  isDir : ∀ path, fs.isDir path = fs'.isDir path
  canonicalize : ∀ path, fs.canonicalize path = fs'.canonicalize path
  scope : ∀ dir, Resolution.Agree S E Eq (Store.currentScope? fs dir) (Store.currentScope? fs' dir)
  read : ∀ dir, Resolution.Agree S E (Option.Rel (Manifest.AnswersAlike S E conditions conditions'))
    (Store.read fs dir) (Store.read fs' dir)

variable {S : Store → Store → Prop} {E : ResolveError → ResolveError → Prop}

theorem Resolution.agree_ofExcept (hE : ResolveError.KeepsKinds E) {α : Type}
    (x : Except ResolveError α) : Resolution.Agree S E Eq (.ofExcept x) (.ofExcept x) :=
  .ofExcept (.of_eq hE.refl rfl)

/-! ## Targets -/

section Targets

variable (ctx : TargetContext) {enter' : Option (String → Resolution Url)}

theorem TargetContext.agree_literal (hE : ResolveError.KeepsKinds E)
    (henter : Resolution.EntersAlike S E ctx.enter enter') (text : String) :
    Resolution.Agree S E Eq (ctx.literal text) ({ ctx with enter := enter' }.literal text) := by
  obtain ⟨packageUrl, captured, conditions, enter⟩ := ctx
  unfold TargetContext.literal
  split
  · exact Resolution.agree_ofExcept hE _
  · cases henter with
    | none => exact .throw (hE.refl _)
    | some hfg =>
        dsimp only
        split
        · exact .throw (hE.refl _)
        · exact hfg _

mutual

theorem Target.agree_resolve (hE : ResolveError.KeepsKinds E)
    (henter : Resolution.EntersAlike S E ctx.enter enter') (target : Target) :
    Resolution.Agree S E Eq (target.resolve ctx) (target.resolve { ctx with enter := enter' }) := by
  cases target with
  | literal text =>
      simp only [Target.resolve]
      refine (TargetContext.agree_literal ctx hE henter text).bind fun u _ huv => ?_
      exact .pure (congrArg some huv)
  | conditional branches =>
      simp only [Target.resolve]
      split
      · exact .throw (hE.refl _)
      · exact Target.agree_resolveBranches hE henter branches
  | list items =>
      simp only [Target.resolve]
      exact Target.agree_resolveItems hE henter items
  | null =>
      simp only [Target.resolve]
      exact .pure rfl
  | invalid text =>
      simp only [Target.resolve]
      exact .throw (hE.refl _)

theorem Target.agree_resolveBranches (hE : ResolveError.KeepsKinds E)
    (henter : Resolution.EntersAlike S E ctx.enter enter') (branches : TargetMap) :
    Resolution.Agree S E Eq (Target.resolveBranches ctx branches)
      (Target.resolveBranches { ctx with enter := enter' } branches) := by
  cases branches with
  | nil =>
      simp only [Target.resolveBranches]
      exact .pure rfl
  | cons branch rest =>
      obtain ⟨condition, target⟩ := branch
      simp only [Target.resolveBranches]
      split
      · refine (Target.agree_resolve hE henter target).bind fun u _ huv => ?_
        subst huv
        cases u with
        | some location => exact .pure rfl
        | none => exact Target.agree_resolveBranches hE henter rest
      · exact Target.agree_resolveBranches hE henter rest

theorem Target.agree_resolveItems (hE : ResolveError.KeepsKinds E)
    (henter : Resolution.EntersAlike S E ctx.enter enter') (items : List Target) :
    Resolution.Agree S E Eq (Target.resolveItems ctx items)
      (Target.resolveItems { ctx with enter := enter' } items) := by
  cases items with
  | nil =>
      simp only [Target.resolveItems]
      exact .pure rfl
  | cons target rest =>
      simp only [Target.resolveItems]
      refine (Target.agree_resolve hE henter target).outcome.bind fun u _ huv => ?_
      cases huv with
      | @ok a b hab =>
          subst hab
          cases a with
          | some location => exact .pure rfl
          | none => exact Target.agree_resolveItems hE henter rest
      | @error e e' he =>
          -- the list goes on behind a malformed item, and stops at any other failure
          dsimp only
          rw [← hE.kind he]
          by_cases hk : e.kind = .invalidTarget
          · simp only [if_pos hk]
            exact Target.agree_resolveItems hE henter rest
          · simp only [if_neg hk]
            exact .throw he

end

end Targets

/-! ## Packages -/

namespace Package

theorem agree_resolveKey (ctx : TargetContext) (hE : ResolveError.KeepsKinds E)
    {enter' : Option (String → Resolution Url)}
    (henter : Resolution.EntersAlike S E ctx.enter enter') (key : String) {map map' : TargetMap}
    (hmap : TargetMap.Interchangeable E map map') :
    Resolution.Agree S E Eq (resolveKey ctx key map)
      (resolveKey { ctx with enter := enter' } key map') := by
  simp only [resolveKey, ← hmap.lookup]
  split
  · next target _ => exact Target.agree_resolve { ctx with captured := none } hE henter _
  · refine (Resolution.Agree.ofExcept (hmap.match? key)).bind fun found _ heq => ?_
    subst heq
    cases found with
    | some found =>
        exact Target.agree_resolve { ctx with captured := some found.captured } hE henter _
    | none => exact .pure rfl

/-- What `exports` holds under its keys, for the package itself or for another subpath. -/
theorem agree_exportedKeys (ctx : TargetContext) (hE : ResolveError.KeepsKinds E)
    (henter : ctx.enter = none) (subpath : String) {map map' : TargetMap}
    (hmap : TargetMap.Interchangeable E map map') :
    Resolution.Agree S E Eq
      (if subpath = PackageSpecifier.rootSubpath then
        match map.lookup PackageSpecifier.rootSubpath with
        | some target => target.resolve ctx
        | none => pure none
      else resolveKey ctx subpath map)
      (if subpath = PackageSpecifier.rootSubpath then
        match map'.lookup PackageSpecifier.rootSubpath with
        | some target => target.resolve ctx
        | none => pure none
      else resolveKey ctx subpath map') := by
  -- `exports` leads on to no other package
  have hentersAlike : Resolution.EntersAlike S E ctx.enter ctx.enter := henter ▸ .none
  rw [hmap.lookup]
  split
  · split
    · exact Target.agree_resolve ctx hE hentersAlike _
    · exact .pure rfl
  · exact agree_resolveKey ctx hE hentersAlike subpath hmap

theorem agree_exported (hE : ResolveError.KeepsKinds E) (packageUrl : Url) (subpath : String)
    {exports exports' : Target}
    (h : (ExportsForm.of exports).Interchangeable E (ExportsForm.of exports'))
    (conditions : ConditionSet) :
    Resolution.Agree S E Eq (exported packageUrl subpath exports conditions)
      (exported packageUrl subpath exports' conditions) := by
  unfold exported
  generalize ExportsForm.of exports = form at h ⊢
  generalize ExportsForm.of exports' = form' at h ⊢
  cases h with
  | refl =>
      cases form with
      | mixed => exact .throw (hE.refl _)
      | root target =>
          dsimp only
          split
          · exact Target.agree_resolve { packageUrl, captured := none, conditions, enter := none }
              hE .none target
          · exact .pure rfl
      | subpaths map =>
          exact agree_exportedKeys _ hE rfl subpath ⟨fun _ => rfl, fun _ => .of_eq hE.refl rfl⟩
  | subpaths hmap => exact agree_exportedKeys _ hE rfl subpath hmap

theorem agree_resolveExports (hE : ResolveError.KeepsKinds E) (packageUrl : Url)
    (subpath : String) {exports exports' : Target}
    (h : (ExportsForm.of exports).Interchangeable E (ExportsForm.of exports'))
    (conditions : ConditionSet) :
    Resolution.Agree S E Eq (resolveExports packageUrl subpath exports conditions)
      (resolveExports packageUrl subpath exports' conditions) := by
  unfold resolveExports
  refine (agree_exported hE packageUrl subpath h conditions).bind fun found _ heq => ?_
  subst heq
  cases found with
  | some location => exact .pure rfl
  | none => exact .throw (hE.refl _)

end Package

/-! ## Manifests -/

section Manifests

variable {conditions conditions' : ConditionSet}

/-- Interchangeable manifests answer alike under any conditions. -/
theorem Manifest.Interchangeable.answersAlike (hE : ResolveError.KeepsKinds E) {m n : Manifest}
    (h : m.Interchangeable E n) (conditions : ConditionSet) :
    m.AnswersAlike S E conditions conditions n where
  name := h.name
  type := h.type
  main := h.main
  exports := by
    have hexports := h.exports
    generalize m.exports = exports at hexports ⊢
    generalize n.exports = exports' at hexports ⊢
    cases hexports with
    | none => exact .none
    | some hform =>
        refine .some fun packageUrl subpath => ?_
        exact Package.agree_resolveExports hE packageUrl subpath hform conditions
  imports := by
    have himports := h.imports
    generalize m.imports = imports at himports ⊢
    generalize n.imports = imports' at himports ⊢
    cases himports with
    | none => exact .none
    | some hmap =>
        refine .some fun packageUrl enter enter' key henter => ?_
        exact Package.agree_resolveKey
          { packageUrl, captured := none, conditions, enter } hE henter key hmap

theorem FileSystem.Agree.under (hE : ResolveError.KeepsKinds E) {fs fs' : FileSystem}
    (hfs : fs.Agree S E fs') (conditions : ConditionSet) :
    fs.AgreeUnder S E conditions conditions fs' where
  isPresent := hfs.isPresent
  isDir := hfs.isDir
  canonicalize := hfs.canonicalize
  scope := hfs.scope
  read dir := by
    refine Coupled.mono (hfs.read dir) fun x y hxy => ?_
    cases hxy with
    | error he => exact .error he
    | ok hmn =>
        cases hmn with
        | none => exact .ok .none
        | some hmn => exact .ok (.some (hmn.answersAlike hE conditions))

theorem Manifest.AnswersAlike.main_eq {m n : Option Manifest}
    (h : Option.Rel (AnswersAlike S E conditions conditions') m n) :
    m.bind Manifest.main = n.bind Manifest.main := by
  cases h with
  | none => rfl
  | some h => exact h.main

theorem Manifest.AnswersAlike.type_eq {m n : Option Manifest}
    (h : Option.Rel (AnswersAlike S E conditions conditions') m n) :
    m.bind Manifest.type = n.bind Manifest.type := by
  cases h with
  | none => rfl
  | some h => exact h.type

end Manifests

/-! ## Resolving through packages -/

namespace Package

variable {fs fs' : FileSystem} {conditions conditions' : ConditionSet}

/-- Manifests that answer alike are entered in the same way. -/
theorem agree_enter (hE : ResolveError.KeepsKinds E) (packageUrl : Url) (subpath : String)
    {m n : Option Manifest}
    (h : Option.Rel (Manifest.AnswersAlike S E conditions conditions') m n) :
    Resolution.Agree S E Eq (enter packageUrl subpath m conditions)
      (enter packageUrl subpath n conditions') := by
  have hexports : Option.Rel (fun a b : Target => ∀ packageUrl subpath, Resolution.Agree S E Eq
      (resolveExports packageUrl subpath a conditions)
      (resolveExports packageUrl subpath b conditions'))
      (m.bind Manifest.exports) (n.bind Manifest.exports) := by
    cases h with
    | none => exact .none
    | some h => exact h.exports
  unfold enter
  generalize m.bind Manifest.exports = exports at hexports ⊢
  generalize n.bind Manifest.exports = exports' at hexports ⊢
  cases hexports with
  | some hexports => exact hexports packageUrl subpath
  | none =>
      rw [Manifest.AnswersAlike.main_eq h]
      cases n.bind Manifest.main with
      | some main => exact Resolution.agree_ofExcept hE _
      | none => exact Resolution.agree_ofExcept hE _

theorem agree_resolveSelf (hE : ResolveError.KeepsKinds E)
    (hfs : fs.AgreeUnder S E conditions conditions' fs') (specifier : PackageSpecifier)
    (parent : Url) :
    Resolution.Agree S E Eq (resolveSelf fs specifier parent conditions)
      (resolveSelf fs' specifier parent conditions') := by
  unfold resolveSelf
  cases parent.dirPath? with
  | none => exact .pure rfl
  | some dir =>
      refine (hfs.scope dir).bind fun scope _ heq => ?_
      subst heq
      cases scope with
      | none => exact .pure rfl
      | some scope =>
          refine (hfs.read scope).bind fun m n hmn => ?_
          cases hmn with
          | none => exact .pure rfl
          | @some m n hmn =>
              have hexports := hmn.exports
              dsimp only
              rw [hmn.name]
              generalize m.exports = exports at hexports ⊢
              generalize n.exports = exports' at hexports ⊢
              cases hexports with
              | none => exact .pure rfl
              | some hexports =>
                  dsimp only
                  split
                  · refine (Resolution.agree_ofExcept hE _).bind fun packageUrl _ heq => ?_
                    subst heq
                    refine (hexports _ _).bind fun u _ heq => ?_
                    exact .pure (congrArg some heq)
                  · exact .pure rfl

theorem agree_resolveInstalled (hE : ResolveError.KeepsKinds E)
    (hfs : fs.AgreeUnder S E conditions conditions' fs') (specifier : String)
    (parts : PackageSpecifier) (parent : Url) :
    Resolution.Agree S E Eq (resolveInstalled fs specifier parts parent conditions)
      (resolveInstalled fs' specifier parts parent conditions') := by
  have hdir : installed? fs parts.name = installed? fs' parts.name := by
    funext dir
    rw [installed?, installed?, funext hfs.isDir]
  unfold resolveInstalled
  rw [hdir]
  cases parent.dirPath?.bind (installed? fs' parts.name) with
  | none => exact .throw (hE.refl _)
  | some dir =>
      refine (Resolution.agree_ofExcept hE _).bind fun packageUrl _ heq => ?_
      subst heq
      refine (hfs.read dir).bind fun m n hmn => ?_
      exact agree_enter hE packageUrl parts.subpath hmn

theorem agree_resolveBare (hE : ResolveError.KeepsKinds E)
    (hfs : fs.AgreeUnder S E conditions conditions' fs') (platform : Platform)
    (specifier : String) (parent : Url) :
    Resolution.Agree S E Eq (resolveBare fs platform specifier parent conditions)
      (resolveBare fs' platform specifier parent conditions') := by
  unfold resolveBare
  split
  · exact .throw (hE.refl _)
  · split
    · split
      · exact .pure rfl
      · exact .throw (hE.refl _)
    · refine (Resolution.agree_ofExcept hE _).bind fun parts _ heq => ?_
      subst heq
      refine (agree_resolveSelf hE hfs parts parent).bind fun found _ heq => ?_
      subst heq
      cases found with
      | some location => exact .pure rfl
      | none => exact agree_resolveInstalled hE hfs ..

theorem agree_lookUp (hE : ResolveError.KeepsKinds E)
    (hfs : fs.AgreeUnder S E conditions conditions' fs') (platform : Platform)
    (specifier : String) (parent : Url) :
    Resolution.Agree S E Eq (resolveImports.lookUp fs platform specifier parent conditions)
      (resolveImports.lookUp fs' platform specifier parent conditions') := by
  unfold resolveImports.lookUp
  cases parent.dirPath? with
  | none => exact .pure rfl
  | some dir =>
      refine (hfs.scope dir).bind fun scope _ heq => ?_
      subst heq
      cases scope with
      | none => exact .pure rfl
      | some scope =>
          refine (hfs.read scope).bind fun m n hmn => ?_
          -- a manifest that is missing maps nothing, as one without `imports` does
          have himports : m.bind Manifest.imports = none ∧ n.bind Manifest.imports = none ∨
              ∃ a b, m.bind Manifest.imports = some a ∧ n.bind Manifest.imports = some b ∧
                ∀ packageUrl enter enter' key, Resolution.EntersAlike S E enter enter' →
                  Resolution.Agree S E Eq
                    (resolveKey { packageUrl, captured := none, conditions, enter } key a)
                    (resolveKey ⟨packageUrl, none, conditions', enter'⟩ key b) := by
            cases hmn with
            | none => exact Or.inl ⟨rfl, rfl⟩
            | @some m n h =>
                have himports := h.imports
                rw [Option.bind_some, Option.bind_some]
                generalize m.imports = imports at himports ⊢
                generalize n.imports = imports' at himports ⊢
                cases himports with
                | none => exact Or.inl ⟨rfl, rfl⟩
                | some hkeys => exact Or.inr ⟨_, _, rfl, rfl, hkeys⟩
          dsimp only
          rcases himports with ⟨hm, hn⟩ | ⟨a, b, hm, hn, hkeys⟩
          · rw [hm, hn]
            exact .pure rfl
          · rw [hm, hn]
            refine (Resolution.agree_ofExcept hE _).bind fun packageUrl _ heq => ?_
            subst heq
            -- a target that leads on to another package enters it through the same store
            refine hkeys packageUrl _ _ specifier (.some fun bare => ?_)
            exact agree_resolveBare hE hfs platform bare packageUrl

theorem agree_resolveImports (hE : ResolveError.KeepsKinds E)
    (hfs : fs.AgreeUnder S E conditions conditions' fs') (platform : Platform)
    (specifier : String) (parent : Url) :
    Resolution.Agree S E Eq (resolveImports fs platform specifier parent conditions)
      (resolveImports fs' platform specifier parent conditions') := by
  unfold resolveImports
  split
  · exact .throw (hE.refl _)
  · refine (agree_lookUp hE hfs ..).bind fun found _ heq => ?_
    subst heq
    cases found with
    | some location => exact .pure rfl
    | none => exact .throw (hE.refl _)

end Package

/-! ## Locations -/

section Locations

variable {fs fs' : FileSystem} {conditions conditions' : ConditionSet}

theorem Store.agree_find (hfs : fs.AgreeUnder S E conditions conditions' fs') (dir : FilePath) :
    Resolution.Agree S E (Option.Rel (Manifest.AnswersAlike S E conditions conditions'))
      (Store.find fs dir) (Store.find fs' dir) := by
  unfold Store.find
  refine (hfs.scope dir).bind fun scope _ heq => ?_
  subst heq
  cases scope with
  | none => exact .pure .none
  | some scope => exact hfs.read scope

theorem Format.agree_classify (hfs : fs.AgreeUnder S E conditions conditions' fs')
    (location : Url) :
    Resolution.Agree S E Eq (Format.classify fs location) (Format.classify fs' location) := by
  have htype : Resolution.Agree S E Eq (Format.packageType fs location)
      (Format.packageType fs' location) := by
    unfold Format.packageType
    cases location.dirPath? with
    | none => exact .pure rfl
    | some dir =>
        refine (Store.agree_find hfs dir).bind fun m n hmn => ?_
        exact .pure (Manifest.AnswersAlike.type_eq hmn)
  have hpackage : Resolution.Agree S E Eq
      (do return Format.ofPackage (← Format.packageType fs location))
      (do return Format.ofPackage (← Format.packageType fs' location)) :=
    htype.bind fun _ _ heq => .pure (congrArg Format.ofPackage heq)
  unfold Format.classify
  split
  · split
    all_goals first | exact .pure rfl | exact hpackage
  · exact .pure rfl

namespace Resolver

theorem canonicalFile_eq (hfs : fs.AgreeUnder S E conditions conditions' fs') (location : Url) :
    canonicalFile fs location = canonicalFile fs' location := by
  simp only [canonicalFile, hfs.isDir, hfs.isPresent, hfs.canonicalize]

variable {r r' : Resolver}

theorem agree_finalize (hE : ResolveError.KeepsKinds E)
    (hfs : r.fs.AgreeUnder S E conditions conditions' r'.fs) (location : Url) :
    Resolution.Agree S E Eq (r.finalize location) (r'.finalize location) := by
  have hformat (location : Url) :
      Resolution.Agree S E Eq
        (do return (⟨location, ← Format.classify r.fs location⟩ : Resolved))
        (do return ⟨location, ← Format.classify r'.fs location⟩) :=
    (Format.agree_classify hfs location).bind fun _ _ heq =>
      .pure (congrArg (Resolved.mk location) heq)
  simp only [finalize, canonicalFile_eq hfs]
  split
  · refine (Resolution.agree_ofExcept hE _).bind fun location _ heq => ?_
    subst heq
    exact hformat location
  · rw [pure_bind, pure_bind]
    exact hformat location

theorem agree_locate_under (hE : ResolveError.KeepsKinds E)
    (hfs : r.fs.AgreeUnder S E conditions conditions' r'.fs)
    (hplatform : r.platform = r'.platform) (specifier : String) (parent : Url) :
    Resolution.Agree S E Eq (r.locate specifier parent conditions)
      (r'.locate specifier parent conditions') := by
  unfold locate
  rw [hplatform]
  cases SpecifierKind.of specifier with
  | url | path =>
      cases parent.join? specifier with
      | some location => exact .pure rfl
      | none => exact .throw (hE.refl _)
  | subpathImport => exact Package.agree_resolveImports hE hfs ..
  | bare => exact Package.agree_resolveBare hE hfs ..

theorem agree_resolveWith_under (hE : ResolveError.KeepsKinds E)
    (hfs : r.fs.AgreeUnder S E conditions conditions' r'.fs)
    (hplatform : r.platform = r'.platform) (specifier : String) (parent : Url) :
    Resolution.Agree S E Eq (r.resolveWith specifier parent conditions)
      (r'.resolveWith specifier parent conditions') := by
  refine (agree_locate_under hE hfs hplatform specifier parent).bind fun location _ heq => ?_
  subst heq
  exact agree_finalize hE hfs location

theorem agree_locate (hE : ResolveError.KeepsKinds E) (hfs : r.fs.Agree S E r'.fs)
    (hplatform : r.platform = r'.platform) (specifier : String) (parent : Url)
    (conditions : ConditionSet) :
    Resolution.Agree S E Eq (r.locate specifier parent conditions)
      (r'.locate specifier parent conditions) :=
  agree_locate_under hE (hfs.under hE conditions) hplatform specifier parent

theorem agree_resolveWith (hE : ResolveError.KeepsKinds E) (hfs : r.fs.Agree S E r'.fs)
    (hplatform : r.platform = r'.platform) (specifier : String) (parent : Url)
    (conditions : ConditionSet) :
    Resolution.Agree S E Eq (r.resolveWith specifier parent conditions)
      (r'.resolveWith specifier parent conditions) :=
  agree_resolveWith_under hE (hfs.under hE conditions) hplatform specifier parent

end Resolver

end Locations

end ModuleGraph
