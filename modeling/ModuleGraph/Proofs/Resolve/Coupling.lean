import ModuleGraph.Proofs.Resolve.Agreement

/-!
# Coupled resolutions

A relation on stores that couples the two looks at the store with themselves (`Store.Couples`)
couples every resolution with itself: that is agreement of a file system with itself, down to the
failures. Where the file of a manifest was first found is of no account to a resolution, so
manifests need only be `Manifest.Alike`.
-/

set_option autoImplicit false

namespace ModuleGraph

/-- Manifests with the same fields, of files whose paths have the same components. -/
structure Manifest.Alike (m n : Manifest) : Prop where
  path : m.path.components = n.path.components
  name : m.name = n.name
  type : m.type = n.type
  main : m.main = n.main
  exports : m.exports = n.exports
  imports : m.imports = n.imports

theorem Manifest.Alike.refl (m : Manifest) : m.Alike m := ⟨rfl, rfl, rfl, rfl, rfl, rfl⟩

theorem Manifest.Alike.rel_refl (m : Option Manifest) : Option.Rel Alike m m := by
  cases m with
  | none => exact .none
  | some m => exact .some (refl m)

theorem Manifest.Alike.rel_symm {m n : Option Manifest} (h : Option.Rel Alike m n) :
    Option.Rel Alike n m := by
  cases h with
  | none => exact .none
  | some h =>
      exact .some ⟨h.path.symm, h.name.symm, h.type.symm, h.main.symm, h.exports.symm,
        h.imports.symm⟩

theorem Manifest.Alike.rel_trans {l m n : Option Manifest} (hlm : Option.Rel Alike l m)
    (hmn : Option.Rel Alike m n) : Option.Rel Alike l n := by
  cases hlm with
  | none => exact hmn
  | some h =>
      cases hmn with
      | some h' =>
          exact .some ⟨h.path.trans h'.path, h.name.trans h'.name, h.type.trans h'.type,
            h.main.trans h'.main, h.exports.trans h'.exports, h.imports.trans h'.imports⟩

/-- Alike manifests say the same, whatever failures count as the same. -/
theorem Manifest.Alike.interchangeable {E : ResolveError → ResolveError → Prop}
    (hE : ResolveError.KeepsKinds E) {m n : Manifest} (h : m.Alike n) :
    m.Interchangeable E n where
  name := h.name
  type := h.type
  main := h.main
  exports := by
    rw [h.exports]
    cases n.exports with
    | none => exact .none
    | some exports => exact .some (.refl _)
  imports := by
    rw [h.imports]
    cases n.imports with
    | none => exact .none
    | some imports => exact .some ⟨fun _ => rfl, fun _ => .of_eq hE.refl rfl⟩

/-- Related stores show the same scopes and hold alike manifests, now and after reading. -/
structure Store.Couples (fs : FileSystem) (S : Store → Store → Prop) : Prop where
  scope : ∀ dir, Resolution.Coupled S Eq (currentScope? fs dir) (currentScope? fs dir)
  read : ∀ dir, Resolution.Coupled S (Option.Rel Manifest.Alike) (read fs dir) (read fs dir)

theorem Store.Couples.agree {fs : FileSystem} {S : Store → Store → Prop}
    (hS : Store.Couples fs S) : fs.Agree S Eq fs where
  isPresent _ := rfl
  isDir _ := rfl
  canonicalize _ := rfl
  scope dir := .of_coupled (fun _ => rfl) (hS.scope dir)
  read dir := by
    refine .of_coupled (fun _ => rfl) (Coupled.mono (hS.read dir) fun x y hxy => ?_)
    cases hxy with
    | error e => exact .error e
    | ok hmn =>
        cases hmn with
        | none => exact .ok .none
        | some hmn => exact .ok (.some (hmn.interchangeable ResolveError.keepsKinds_eq))

variable {fs : FileSystem} {S : Store → Store → Prop}

theorem Store.coupled_find (hS : Store.Couples fs S) (dir : FilePath) :
    Resolution.Coupled S (Option.Rel Manifest.Alike) (Store.find fs dir) (Store.find fs dir) := by
  unfold Store.find
  refine (hS.scope dir).bind fun scope _ heq => ?_
  subst heq
  cases scope with
  | none => exact .pure .none
  | some scope => exact hS.read scope

theorem Format.coupled_classify (hS : Store.Couples fs S) (location : Url) :
    Resolution.Coupled S Eq (Format.classify fs location) (Format.classify fs location) := by
  -- any conditions would do: a format does not depend on them
  have hfs := hS.agree.under ResolveError.keepsKinds_eq (.ofList [])
  exact (agree_classify hfs location).coupled

namespace Resolver

variable {r : Resolver}

theorem coupled_finalize (hS : Store.Couples r.fs S) (location : Url) :
    Resolution.Coupled S Eq (r.finalize location) (r.finalize location) :=
  (agree_finalize ResolveError.keepsKinds_eq
    (hS.agree.under ResolveError.keepsKinds_eq r.conditions) location).coupled

theorem coupled_locate (hS : Store.Couples r.fs S) (specifier : String) (parent : Url)
    (conditions : ConditionSet) :
    Resolution.Coupled S Eq (r.locate specifier parent conditions)
      (r.locate specifier parent conditions) :=
  (agree_locate ResolveError.keepsKinds_eq hS.agree rfl specifier parent conditions).coupled

theorem coupled_resolveWith (hS : Store.Couples r.fs S) (specifier : String) (parent : Url)
    (conditions : ConditionSet) :
    Resolution.Coupled S Eq (r.resolveWith specifier parent conditions)
      (r.resolveWith specifier parent conditions) :=
  (agree_resolveWith ResolveError.keepsKinds_eq hS.agree rfl specifier parent conditions).coupled

theorem coupled_resolvePath (hS : Store.Couples r.fs S) (specifier : String)
    (importer : Option FilePath) :
    Resolution.Coupled S Eq (r.resolvePath specifier importer)
      (r.resolvePath specifier importer) := by
  unfold resolvePath
  split
  · exact coupled_resolveWith hS ..
  · exact .throw _

end Resolver

end ModuleGraph
