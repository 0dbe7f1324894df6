import ModuleGraph.Proofs.Resolve.Encapsulation
import ModuleGraph.Proofs.Resolve.Evaluation

/-!
# Exports on their own

Where a subpath of a package leads is told from its exports alone: nothing is read on the way, and
the store stays as it is. Exports that are one target stand for a map whose only entry is the
package itself, so every other subpath is refused by both in the same words.
-/

set_option autoImplicit false

namespace ModuleGraph.Package

variable {exports : Target}

/-! ## Nothing is read -/

theorem ignoresStore_resolveKey {ctx : TargetContext} (henter : ctx.enter = none) (key : String)
    (map : TargetMap) : (resolveKey ctx key map).IgnoresStore := by
  have htarget (captured : Option String) (target : Target) :
      (target.resolve { ctx with captured }).IgnoresStore :=
    @Target.ignoresStore_resolve { ctx with captured } henter target
  unfold resolveKey
  dsimp only
  split
  · exact htarget none _
  · refine (Resolution.IgnoresStore.ofExcept _).bind fun found => ?_
    cases found with
    | some found => exact htarget (some found.captured) found.target
    | none => exact .pure none

theorem ignoresStore_exported (packageUrl : Url) (subpath : String) (exports : Target)
    (conditions : ConditionSet) :
    (exported packageUrl subpath exports conditions).IgnoresStore := by
  unfold exported
  dsimp only
  split
  · exact .throw _
  · split
    · exact Target.ignoresStore_resolve rfl _
    · exact .pure none
  · split
    · split
      · exact Target.ignoresStore_resolve rfl _
      · exact .pure none
    · exact ignoresStore_resolveKey rfl subpath _

/-- A package is entered through its exports, or refused, without a look at the store. -/
theorem ignoresStore_resolveExports (packageUrl : Url) (subpath : String) (exports : Target)
    (conditions : ConditionSet) :
    (resolveExports packageUrl subpath exports conditions).IgnoresStore := by
  refine (ignoresStore_exported packageUrl subpath exports conditions).bind fun found => ?_
  cases found with
  | some location => exact .pure location
  | none => exact .throw _

/-! ## One target for a package -/

/-- A map with the one entry `.` has subpaths. -/
theorem ExportsForm.of_rootEntry (target : Target) :
    ExportsForm.of (.conditional [(PackageSpecifier.rootSubpath, target)]) =
      .subpaths [(PackageSpecifier.rootSubpath, target)] := by
  have hkey : isSubpathKey PackageSpecifier.rootSubpath = true := by decide
  exact ExportsForm.of_subpaths (List.forall_mem_singleton.2 hkey) (List.cons_ne_nil _ _)

/-- A map with the one entry `.` has nothing for other subpaths, by name or by pattern. -/
theorem resolveKey_rootEntry (ctx : TargetContext) (target : Target) {subpath : String}
    (hother : subpath ≠ PackageSpecifier.rootSubpath) :
    resolveKey ctx subpath [(PackageSpecifier.rootSubpath, target)] = pure none := by
  have hlookup : [(PackageSpecifier.rootSubpath, target)].lookup subpath = none := by
    rw [List.lookup_cons, beq_eq_false_iff_ne.2 hother]
    rfl
  have hroot : Pattern.starCount PackageSpecifier.rootSubpath = 0 := by decide
  have hzero : ∀ k ∈ [(PackageSpecifier.rootSubpath, target)].map Prod.fst,
      Pattern.starCount k = 0 :=
    List.forall_mem_singleton.2 hroot
  have hmatch : Pattern.match? subpath [(PackageSpecifier.rootSubpath, target)] = .ok none := by
    rw [Pattern.match?_eq_none_iff fun k hk => (hzero k hk).le.trans (Nat.zero_le 1)]
    intro pattern hpattern front captured back hcuts
    have hstar := hcuts.one_le_starCount
    rw [hzero pattern hpattern] at hstar
    exact absurd hstar (by omega)
  rw [resolveKey, exactEntry_eq_none_iff.2 (Or.inr hlookup), hmatch]
  rfl

/-- Exports that are one target, a conditional without subpaths among its keys included, offer what
they offer as the entry `.` of a map. -/
theorem exported_rootEntry
    (h : ∀ map, exports = .conditional map → ∀ branch ∈ map, isSubpathKey branch.1 = false)
    (packageUrl : Url) (subpath : String) (conditions : ConditionSet) :
    exported packageUrl subpath exports conditions =
      exported packageUrl subpath (.conditional [(PackageSpecifier.rootSubpath, exports)])
        conditions := by
  rw [exported, exported, ExportsForm.of_root h, ExportsForm.of_rootEntry]
  dsimp only
  by_cases hroot : subpath = PackageSpecifier.rootSubpath
  · rw [if_pos hroot, if_pos hroot]
    rfl
  · rw [if_neg hroot, if_neg hroot, resolveKey_rootEntry _ _ hroot]

/-- A package whose exports are one target is entered, or refused in the same words, as if they
were a map from `.` to that target. -/
theorem resolveExports_eq_of_root
    (h : ∀ map, exports = .conditional map → ∀ branch ∈ map, isSubpathKey branch.1 = false)
    (packageUrl : Url) (subpath : String) (conditions : ConditionSet) :
    resolveExports packageUrl subpath exports conditions =
      resolveExports packageUrl subpath (.conditional [(PackageSpecifier.rootSubpath, exports)])
        conditions := by
  rw [resolveExports, resolveExports, exported_rootEntry h]

/-- Behind a branch that does not hold stands a conditional with a key that looks like an array
index. Both ways of writing the exports fail at it for the package itself, and refuse a subpath with
a star. -/
theorem resolveExports_eq_of_root_numeric :
    let packageUrl : Url := { scheme := "file", authority := some { host := "" },
                              path := .segments ["node_modules", "pkg", ""] }
    let exports : Target := .conditional
      [("browser", .literal "./web.js"), ("default", .conditional [("0", .literal "./a.js")])]
    let conditions := ConditionSet.ofList ["node", "import"]
    let outcome (subpath : String) (exports : Target) :=
      ((resolveExports packageUrl subpath exports conditions).run.run {}).1
    outcome "." exports = outcome "." (.conditional [(".", exports)]) ∧
      outcome "." (.conditional [(".", exports)]) = .error ⟨.invalidConfiguration,
        "file:///node_modules/pkg/package.json \"exports\" cannot contain numeric property key " ++
          "\"0\""⟩ ∧
      outcome "./lib/*.js" (.conditional [(".", exports)]) =
        .error ⟨.pathNotExported, "./lib/*.js"⟩ ∧
      outcome "./lib/*.js" exports = outcome "./lib/*.js" (.conditional [(".", exports)]) := by
  intro packageUrl exports conditions outcome
  have hroot : ∀ map, exports = .conditional map →
      ∀ branch ∈ map, isSubpathKey branch.1 = false := by
    intro map hmap
    obtain rfl := Target.conditional.inj hmap
    simp [isSubpathKey]
  have hsame (subpath : String) :
      outcome subpath exports = outcome subpath (.conditional [(".", exports)]) :=
    congrArg (fun x : Resolution Url => (x.run.run {}).1)
      (resolveExports_eq_of_root hroot packageUrl subpath conditions)
  exact ⟨hsame ".", by decide +kernel, by decide +kernel, hsame "./lib/*.js"⟩

end ModuleGraph.Package
