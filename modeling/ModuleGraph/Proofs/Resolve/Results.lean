import ModuleGraph.Proofs.Store.Results
import ModuleGraph.Proofs.Url.File
import ModuleGraph.Proofs.Url.Regular
import ModuleGraph.Resolve.Resolver

/-!
# What can be answered

A target answers nothing but what one of its literals stands for. Along the branches of a
resolution the location comes from one of a few places, so a property of locations that these
places have is one of every answer.
-/

set_option autoImplicit false

namespace ModuleGraph

/-! ## Targets -/

namespace Target

mutual

/-- The literals at the leaves of a target, in the order of declaration. -/
def literals : Target → List String
  | .literal text => [text]
  | .conditional branches => branchLiterals branches
  | .list items => itemLiterals items
  | .null => []
  | .invalid _ => []

/-- The literals of branches. -/
def branchLiterals : TargetMap → List String
  | [] => []
  | (_, target) :: rest => literals target ++ branchLiterals rest

/-- The literals of alternatives. -/
def itemLiterals : List Target → List String
  | [] => []
  | target :: rest => literals target ++ itemLiterals rest

end

variable {P : Url → Prop} {ctx : TargetContext}

mutual

/-- What holds of the places of all literals holds of what a target resolves to. -/
theorem yields_resolve (target : Target)
    (h : ∀ text ∈ target.literals, (ctx.literal text).Yields P) :
    (target.resolve ctx).Yields (fun found => ∀ u ∈ found, P u) := by
  cases target with
  | literal text =>
      simp only [resolve]
      refine (h text (by simp [literals])).bind fun u hu => .pure ?_
      intro v hv
      exact Option.some.inj hv ▸ hu
  | conditional branches =>
      simp only [resolve]
      split
      · exact .throw _
      · exact yields_resolveBranches branches fun text htext => h text (by rwa [literals])
  | list items =>
      simp only [resolve]
      exact yields_resolveItems items fun text htext => h text (by rwa [literals])
  | null =>
      simp only [resolve]
      exact .pure (by simp)
  | invalid text =>
      simp only [resolve]
      exact .throw _

theorem yields_resolveBranches (branches : TargetMap)
    (h : ∀ text ∈ branchLiterals branches, (ctx.literal text).Yields P) :
    (resolveBranches ctx branches).Yields (fun found => ∀ u ∈ found, P u) := by
  cases branches with
  | nil =>
      simp only [resolveBranches]
      exact .pure (by simp)
  | cons branch rest =>
      obtain ⟨condition, target⟩ := branch
      have hrest := yields_resolveBranches rest fun text htext =>
        h text (by rw [branchLiterals]; exact List.mem_append_right _ htext)
      simp only [resolveBranches]
      split
      · refine (yields_resolve target fun text htext => h text ?_).bind fun found hfound => ?_
        · rw [branchLiterals]
          exact List.mem_append_left _ htext
        · cases found with
          | some location => exact .pure hfound
          | none => exact hrest
      · exact hrest

theorem yields_resolveItems (items : List Target)
    (h : ∀ text ∈ itemLiterals items, (ctx.literal text).Yields P) :
    (resolveItems ctx items).Yields (fun found => ∀ u ∈ found, P u) := by
  cases items with
  | nil =>
      simp only [resolveItems]
      exact .pure (by simp)
  | cons target rest =>
      have hrest := yields_resolveItems rest fun text htext =>
        h text (by rw [itemLiterals]; exact List.mem_append_right _ htext)
      simp only [resolveItems]
      refine (yields_resolve target fun text htext => h text ?_).outcome.bind
        fun result hresult => ?_
      · rw [itemLiterals]
        exact List.mem_append_left _ htext
      · cases result with
        | ok found =>
            cases found with
            | some location => exact .pure (hresult _ rfl)
            | none => exact hrest
        | error e =>
            -- a malformed item is passed over, and any other failure ends the list
            by_cases hkind : e.kind = .invalidTarget
            · simp only [if_pos hkind]
              exact hrest
            · simp only [if_neg hkind]
              exact .throw _

end

theorem literals_subset_of_mem {map : TargetMap} {branch : String × Target}
    (h : branch ∈ map) : branch.2.literals ⊆ branchLiterals map := by
  induction map with
  | nil => exact absurd h List.not_mem_nil
  | cons first rest ih =>
      obtain ⟨condition, target⟩ := first
      rw [branchLiterals]
      rcases List.mem_cons.1 h with rfl | h
      · exact List.subset_append_left _ _
      · exact List.subset_append_of_subset_right _ (ih h)

theorem literals_subset_of_mem_items {items : List Target} {target : Target}
    (h : target ∈ items) : target.literals ⊆ itemLiterals items := by
  induction items with
  | nil => exact absurd h List.not_mem_nil
  | cons first rest ih =>
      rw [itemLiterals]
      rcases List.mem_cons.1 h with rfl | h
      · exact List.subset_append_left _ _
      · exact List.subset_append_of_subset_right _ (ih h)

theorem literals_subset_of_lookup {map : TargetMap} {key : String} {target : Target}
    (h : map.lookup key = some target) : target.literals ⊆ branchLiterals map := by
  obtain ⟨front, back, rfl, -⟩ := List.lookup_eq_some_iff.1 h
  have hmem : (key, target) ∈ front ++ (key, target) :: back :=
    List.mem_append_right _ List.mem_cons_self
  exact literals_subset_of_mem hmem

end Target

/-! ## Packages -/

namespace Pattern

/-- What a key matches by pattern is an entry of the map, with what its star stands for. -/
theorem exists_of_firstMatch? {key : String} {map : TargetMap} {patterns : List String}
    {found : Match} (h : firstMatch? key map patterns = some found) :
    ∃ pattern ∈ patterns, capture? pattern key = some found.captured ∧
      map.lookup pattern = some found.target := by
  induction patterns with
  | nil => cases h
  | cons pattern rest ih =>
      rw [firstMatch?] at h
      split at h
      · next captured target hcapture hlookup =>
          obtain rfl := Option.some.inj h
          exact ⟨pattern, List.mem_cons_self, hcapture, hlookup⟩
      · obtain ⟨other, hother, hmatch⟩ := ih h
        exact ⟨other, List.mem_cons_of_mem _ hother, hmatch⟩

theorem exists_of_match? {key : String} {map : TargetMap} {found : Match}
    (h : match? key map = .ok (some found)) :
    ∃ pattern, capture? pattern key = some found.captured ∧
      map.lookup pattern = some found.target := by
  unfold match? at h
  dsimp only at h
  split at h
  · cases h
  · obtain ⟨pattern, -, hmatch⟩ := exists_of_firstMatch? (Except.ok.inj h)
    exact ⟨pattern, hmatch⟩

end Pattern

namespace Package

open Resolution

variable {P : Url → Prop}

theorem yields_resolveKey (ctx : TargetContext) {map : TargetMap}
    (h : ∀ captured, ∀ text ∈ Target.branchLiterals map,
      (TargetContext.literal { ctx with captured } text).Yields P) (key : String) :
    (resolveKey ctx key map).Yields (fun found => ∀ u ∈ found, P u) := by
  have htarget (captured : Option String) {target : Target} {k : String}
      (hlookup : map.lookup k = some target) :
      (target.resolve { ctx with captured }).Yields (fun found => ∀ u ∈ found, P u) :=
    target.yields_resolve fun text htext =>
      h captured text (Target.literals_subset_of_lookup hlookup htext)
  simp only [resolveKey]
  split
  · next target hexact =>
      split at hexact
      · cases hexact
      · exact htarget none hexact
  · have hmatch : (ofExcept (Pattern.match? key map)).Yields
        (fun found => ∀ m ∈ found, ∃ pattern, map.lookup pattern = some m.target) := by
      refine .ofExcept fun found hfound m hm => ?_
      obtain rfl := Option.mem_def.1 hm
      obtain ⟨pattern, -, hlookup⟩ := Pattern.exists_of_match? hfound
      exact ⟨pattern, hlookup⟩
    refine hmatch.bind fun found hfound => ?_
    cases found with
    | none => exact .pure (by simp)
    | some found =>
        obtain ⟨pattern, hlookup⟩ := hfound found rfl
        exact htarget (some found.captured) hlookup

theorem ExportsForm.of_eq_root {exports target : Target}
    (h : ExportsForm.of exports = .root target) : target = exports := by
  unfold ExportsForm.of at h
  split at h
  · split at h
    · split at h
      · cases h
      · cases h
    · exact (ExportsForm.root.inj h).symm
  · exact (ExportsForm.root.inj h).symm

theorem ExportsForm.of_eq_subpaths {exports : Target} {map : TargetMap}
    (h : ExportsForm.of exports = .subpaths map) : exports = .conditional map := by
  unfold ExportsForm.of at h
  split at h
  · split at h
    · split at h
      · exact congrArg Target.conditional (ExportsForm.subpaths.inj h)
      · cases h
    · cases h
  · cases h

theorem ExportsForm.of_subpaths {map : TargetMap}
    (h : ∀ branch ∈ map, isSubpathKey branch.1 = true) (hne : map ≠ []) :
    ExportsForm.of (.conditional map) = .subpaths map := by
  have hall : map.all (fun branch => isSubpathKey branch.1) = true := List.all_eq_true.2 h
  have hany : map.any (fun branch => isSubpathKey branch.1) = true := by
    obtain ⟨branch, hbranch⟩ := List.exists_mem_of_ne_nil map hne
    exact List.any_eq_true.2 ⟨branch, hbranch, h branch hbranch⟩
  simp only [ExportsForm.of, hall, hany, if_true]

theorem yields_resolveExports {packageUrl : Url} {exports : Target} {conditions : ConditionSet}
    (h : ∀ captured, ∀ text ∈ exports.literals,
      (TargetContext.literal { packageUrl, captured, conditions, enter := none } text).Yields P)
    (subpath : String) :
    (resolveExports packageUrl subpath exports conditions).Yields P := by
  unfold resolveExports
  refine Yields.bind (P := fun found : Option Url => ∀ u ∈ found, P u) ?_ fun found hfound => ?_
  · have hnone : Yields (fun found : Option Url => ∀ u ∈ found, P u) (pure none) :=
      .pure (by simp)
    unfold exported
    cases hform : ExportsForm.of exports with
    | mixed => exact .throw _
    | root target =>
        obtain rfl := ExportsForm.of_eq_root hform
        dsimp only
        split
        · exact target.yields_resolve (h none)
        · exact hnone
    | subpaths map =>
        obtain rfl := ExportsForm.of_eq_subpaths hform
        rw [Target.literals] at h
        dsimp only
        split
        · split
          · next target hlookup =>
              exact target.yields_resolve fun text htext =>
                h none text (Target.literals_subset_of_lookup hlookup htext)
          · exact hnone
        · exact yields_resolveKey ⟨packageUrl, none, conditions, none⟩ h subpath
  · cases found with
    | some location => exact .pure (hfound location rfl)
    | none => exact .throw _

/-- A package is entered through a literal of its `exports`, or at the place of its `main` or of
the subpath. -/
theorem yields_enter {packageUrl : Url} {subpath : String} {manifest : Option Manifest}
    {conditions : ConditionSet}
    (hexports : ∀ exports, manifest.bind Manifest.exports = some exports →
      ∀ captured, ∀ text ∈ exports.literals,
        (TargetContext.literal { packageUrl, captured, conditions, enter := none } text).Yields P)
    (hplace : manifest.bind Manifest.exports = none → ∀ path,
      path = subpath ∨ subpath = PackageSpecifier.rootSubpath →
        (ofExcept (place packageUrl path)).Yields P) :
    (enter packageUrl subpath manifest conditions).Yields P := by
  unfold enter
  cases hfound : manifest.bind Manifest.exports with
  | some exports => exact yields_resolveExports (hexports exports hfound) subpath
  | none =>
      dsimp only
      split
      · refine hplace hfound _ ?_
        by_cases hroot : subpath = PackageSpecifier.rootSubpath
        · exact Or.inr hroot
        · exact Or.inl (if_neg hroot)
      · exact hplace hfound subpath (Or.inl rfl)

end Package

/-! ## Places of packages -/

/-- The property holds of every location that is read on its own or followed from a directory. -/
structure Url.OfReading (P : Url → Prop) : Prop where
  parse : ∀ {s : String} {u : Url}, parse? s = some u → P u
  join : ∀ {dir : FilePath} {base u : Url} {s : String}, ofDirPath? dir = some base →
    base.join? s = some u → P u

theorem Url.ofReading_legible : OfReading Legible where
  parse := legible_of_parse?
  join hdir hjoin := legible_of_join? (isFile_ofDirPath? hdir) hjoin

section Places

open Resolution

variable {P : Url → Prop}

/-- Whatever a literal stands for is followed from the package or found in another one. -/
theorem TargetContext.yields_literal {ctx : TargetContext}
    (hpackage : ∀ {s : String} {u : Url}, ctx.packageUrl.join? s = some u → P u)
    (henter : ∀ enter ∈ ctx.enter, ∀ bare, (enter bare).Yields P) (text : String) :
    (ctx.literal text).Yields P := by
  unfold literal
  split
  · refine .ofExcept fun u hu => ?_
    unfold innerLocation at hu
    split at hu
    · cases hu
    · split at hu
      · cases hu
      · dsimp only at hu
        split at hu
        · next hjoin =>
            obtain rfl := Except.ok.inj hu
            exact hpackage hjoin
        · cases hu
  · split
    · exact .throw _
    · next enter h =>
        split
        · exact .throw _
        · exact henter enter h _

namespace Package

theorem ofDirPath?_of_dirUrl {dir : FilePath} {u : Url} (h : dirUrl dir = .ok u) :
    Url.ofDirPath? dir = some u := by
  unfold dirUrl at h
  split at h
  · next hdir =>
      obtain rfl := Except.ok.inj h
      exact hdir
  · cases h

variable (hP : Url.OfReading P)
include hP

theorem yields_place {dir : FilePath} {packageUrl : Url}
    (hpackage : Url.ofDirPath? dir = some packageUrl) (path : String) :
    (ofExcept (place packageUrl path)).Yields P := by
  refine .ofExcept fun u hu => ?_
  unfold place at hu
  split at hu
  · next hjoin =>
      obtain rfl := Except.ok.inj hu
      exact hP.join hpackage hjoin
  · cases hu

theorem yields_resolveExports_of_dir {dir : FilePath} {packageUrl : Url}
    (hpackage : Url.ofDirPath? dir = some packageUrl) (subpath : String) (exports : Target)
    (conditions : ConditionSet) :
    (resolveExports packageUrl subpath exports conditions).Yields P :=
  yields_resolveExports
    (fun _ text _ => TargetContext.yields_literal (hP.join hpackage) (by simp) text) subpath

theorem yields_enter_of_dir {dir : FilePath} {packageUrl : Url}
    (hpackage : Url.ofDirPath? dir = some packageUrl) (subpath : String)
    (manifest : Option Manifest) (conditions : ConditionSet) :
    (enter packageUrl subpath manifest conditions).Yields P :=
  yields_enter
    (fun _ _ _ text _ => TargetContext.yields_literal (hP.join hpackage) (by simp) text)
    fun _ path _ => yields_place hP hpackage path

variable {fs : FileSystem}

theorem yields_resolveSelf (specifier : PackageSpecifier) (parent : Url)
    (conditions : ConditionSet) :
    (resolveSelf fs specifier parent conditions).Yields (fun found => ∀ u ∈ found, P u) := by
  have hnone : Yields (fun found : Option Url => ∀ u ∈ found, P u) (pure none) :=
    .pure (by simp)
  unfold resolveSelf
  split
  · exact hnone
  · refine (Yields.trivial _).bind fun scope _ => ?_
    cases scope with
    | none => exact hnone
    | some scope =>
        refine (Yields.trivial _).bind fun manifest _ => ?_
        cases manifest with
        | none => exact hnone
        | some manifest =>
            dsimp only
            split
            · exact hnone
            · split
              · refine (Yields.ofExcept fun u hu => ofDirPath?_of_dirUrl hu).bind
                  fun packageUrl hurl => ?_
                refine (yields_resolveExports_of_dir hP hurl _ _ _).bind fun u hu => .pure ?_
                intro v hv
                exact Option.some.inj hv ▸ hu
              · exact hnone

theorem yields_resolveInstalled (specifier : String) (parts : PackageSpecifier) (parent : Url)
    (conditions : ConditionSet) :
    (resolveInstalled fs specifier parts parent conditions).Yields P := by
  unfold resolveInstalled
  split
  · exact .throw _
  · refine (Yields.ofExcept fun u hu => ofDirPath?_of_dirUrl hu).bind fun packageUrl hurl => ?_
    refine (Yields.trivial _).bind fun manifest _ => ?_
    exact yields_enter_of_dir hP hurl _ _ _

theorem yields_resolveBare (platform : Platform) (specifier : String) (parent : Url)
    (conditions : ConditionSet) :
    (resolveBare fs platform specifier parent conditions).Yields P := by
  unfold resolveBare
  split
  · exact .throw _
  · split
    · split
      · next hparse => exact .pure (hP.parse hparse)
      · exact .throw _
    · refine (Yields.trivial _).bind fun parts _ => ?_
      refine (yields_resolveSelf hP parts parent conditions).bind fun found hfound => ?_
      cases found with
      | some location => exact .pure (hfound location rfl)
      | none => exact yields_resolveInstalled hP _ _ _ _

theorem yields_resolveImports (platform : Platform) (specifier : String) (parent : Url)
    (conditions : ConditionSet) :
    (resolveImports fs platform specifier parent conditions).Yields P := by
  have hnone : Yields (fun found : Option Url => ∀ u ∈ found, P u) (pure none) :=
    .pure (by simp)
  unfold resolveImports
  split
  · exact .throw _
  · refine Yields.bind (P := fun found : Option Url => ∀ u ∈ found, P u) ?_
      fun found hfound => ?_
    · unfold resolveImports.lookUp
      split
      · exact hnone
      · refine (Yields.trivial _).bind fun scope _ => ?_
        cases scope with
        | none => exact hnone
        | some scope =>
            refine (Yields.trivial _).bind fun manifest _ => ?_
            dsimp only
            split
            · exact hnone
            · refine (Yields.ofExcept fun u hu => ofDirPath?_of_dirUrl hu).bind
                fun packageUrl hurl => ?_
              -- what a target leads on to is again found in a package
              refine yields_resolveKey _ (fun captured text _ => ?_) specifier
              refine TargetContext.yields_literal (hP.join hurl) (fun enter henter bare => ?_) text
              cases henter
              exact yields_resolveBare hP _ _ _ _
    · cases found with
      | some location => exact .pure (hfound location rfl)
      | none => exact .throw _

end Package

/-- What a specifier denotes has every property of what is read, if what is followed from the
parent has it. -/
theorem Resolver.yields_locate {r : Resolver} {parent : Url} (hP : Url.OfReading P)
    (hparent : ∀ {s : String} {u : Url}, parent.join? s = some u → P u)
    (specifier : String) (conditions : ConditionSet) :
    (r.locate specifier parent conditions).Yields P := by
  unfold locate
  cases SpecifierKind.of specifier with
  | url | path =>
      cases hlocation : parent.join? specifier with
      | some location => exact .pure (hparent hlocation)
      | none => exact .throw _
  | subpathImport => exact Package.yields_resolveImports hP _ _ _ _
  | bare => exact Package.yields_resolveBare hP _ _ _ _

end Places

/-! ## Files -/

/-- A file that is given its canonical location has a path, with a file at it that is not a
directory. -/
theorem Resolver.exists_of_canonicalFile {fs : FileSystem} {location u : Url}
    (h : canonicalFile fs location = .ok u) :
    ∃ path real v, location.toFilePath? = some path ∧ fs.isDir path = false ∧
      fs.isPresent path = true ∧ fs.canonicalize path = .ok real ∧
      Url.ofFilePath? real = some v ∧
      u = { v with query := location.query, fragment := location.fragment } := by
  unfold canonicalFile at h
  split at h
  · cases h
  · split at h
    · cases h
    · next path hpath =>
        split at h
        · cases h
        · next hdir =>
            split at h
            · cases h
            · next hpresent =>
                split at h
                · cases h
                · next real hreal =>
                    split at h
                    · cases h
                    · next v hv =>
                        exact ⟨path, real, v, hpath, by simpa using hdir, by simpa using hpresent,
                          hreal, hv, (Except.ok.inj h).symm⟩

end ModuleGraph
