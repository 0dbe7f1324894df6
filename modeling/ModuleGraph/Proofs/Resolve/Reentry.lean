import ModuleGraph.Proofs.Resolve.CallTree
import ModuleGraph.Proofs.Resolve.Exports

/-!
# Packages enter no packages

The way from a bare specifier to a package ends in its `exports`, and the flag of a target cuts
every way from `exports` back to a bare specifier. So a tree of calls holds no bare specifier within
another, whatever the manifests that are read on the way say of each other. Each procedure has a run
from every store, in which it comes out as the definition that stands for it (`Call.resolution`);
how many bare specifiers it may have under way at a time is told from the call
(`Call.allowance`).
-/

set_option autoImplicit false

namespace ModuleGraph

open Relation

namespace Package

/-! ## How deep a tree is -/

/-- No more than `n` calls for bare specifiers are under way at a time, and none for a `#`
specifier. -/
inductive CallTree.Within : Nat → CallTree → Prop
  | bare {n : Nat} {c : Call} {inner : List CallTree} : c.isBare = true →
      c.isSubpathImport = false → (∀ t ∈ inner, Within n t) → Within (n + 1) (.node c inner)
  | other {n : Nat} {c : Call} {inner : List CallTree} : c.isBare = false →
      c.isSubpathImport = false → (∀ t ∈ inner, Within n t) → Within n (.node c inner)

/-- No bare specifier is resolved while another one is, and no `#` specifier while anything else
is. -/
structure CallTree.EntersOnce (t : CallTree) : Prop where
  bare : ∀ outer inner, t.Holds outer → outer.Encloses inner → outer.call.isBare = true →
    inner.call.isBare = false
  imports : ∀ inner, t.Encloses inner → inner.call.isSubpathImport = false

namespace CallTree

variable {n : Nat} {t u : CallTree}

theorem encloses_iff : t.Encloses u ↔ ∃ v ∈ t.inner, v.Holds u := by
  rw [Encloses, TransGen.head'_iff]
  rfl

theorem holds_iff : t.Holds u ↔ t = u ∨ ∃ v ∈ t.inner, v.Holds u := by
  rw [← encloses_iff, Holds, reflTransGen_iff_eq_or_transGen, eq_comm]
  rfl

namespace Within

theorem isSubpathImport (h : t.Within n) : t.call.isSubpathImport = false := by
  cases h with
  | bare _ hnot _ => exact hnot
  | other _ hnot _ => exact hnot

theorem isBare (h : t.Within 0) : t.call.isBare = false := by
  cases h with
  | other hbare _ _ => exact hbare

/-- What is called is no deeper, and less deep if it is called for a bare specifier. -/
theorem exists_inner (h : t.Within n) (hu : u ∈ t.inner) :
    ∃ m, u.Within m ∧ m ≤ n ∧ (t.call.isBare = true → m < n) := by
  cases h with
  | @bare n c inner _ _ hinner => exact ⟨n, hinner u hu, by omega, fun _ => by omega⟩
  | @other n c inner hbare _ hinner =>
      refine ⟨n, hinner u hu, by omega, fun htrue => ?_⟩
      cases hbare.symm.trans htrue

theorem exists_holds (h : t.Within n) (hu : t.Holds u) : ∃ m, u.Within m ∧ m ≤ n := by
  induction hu with
  | refl => exact ⟨n, h, Nat.le_refl n⟩
  | tail _ hu ih =>
      obtain ⟨m, hm, hle⟩ := ih
      obtain ⟨k, hk, hkm, -⟩ := hm.exists_inner hu
      exact ⟨k, hk, hkm.trans hle⟩

/-- With one bare specifier at a time there is none within another. -/
theorem isBare_of_encloses {m : Nat} (h : t.Within m) (hm : m ≤ 1) (hu : t.Encloses u)
    (hbare : t.call.isBare = true) : u.call.isBare = false := by
  obtain ⟨v, hv, hvu⟩ := encloses_iff.1 hu
  obtain ⟨k, hk, -, hlt⟩ := h.exists_inner hv
  obtain ⟨l, hl, hle⟩ := hk.exists_holds hvu
  have hkm := hlt hbare
  obtain rfl : l = 0 := by omega
  exact hl.isBare

end Within

/-- Below its root a tree holds at most one bare specifier at a time, and none below the root of a
bare specifier. -/
theorem EntersOnce.of_inner {c : Call} {inner : List CallTree} (hn : n ≤ 1)
    (hbare : c.isBare = true → n = 0) (hinner : ∀ t ∈ inner, t.Within n) :
    EntersOnce (.node c inner) where
  bare outer u houter hu hcall := by
    rcases holds_iff.1 houter with rfl | ⟨t, ht, houter⟩
    · obtain ⟨t, ht, htu⟩ := encloses_iff.1 hu
      obtain ⟨m, hm, hle⟩ := (hinner t ht).exists_holds htu
      have hzero := hbare hcall
      obtain rfl : m = 0 := by omega
      exact hm.isBare
    · obtain ⟨m, hm, hle⟩ := (hinner t ht).exists_holds houter
      exact hm.isBare_of_encloses (hle.trans hn) hu hcall
  imports u hu := by
    obtain ⟨t, ht, htu⟩ := encloses_iff.1 hu
    obtain ⟨m, hm, -⟩ := (hinner t ht).exists_holds htu
    exact hm.isSubpathImport

end CallTree

/-! ## Programs and what they compute -/

namespace Program

variable {r : Resolver} {P Q : CallTree → Prop} {α β : Type} {s t : Store}

theorem Runs.bind_ok {p : Program α} {f : α → Program β} {trees trees' : List CallTree} {a : α}
    {result : Except ResolveError β × Store} (h : p.Runs r s trees (.ok a, t))
    (hf : (f a).Runs r t trees' result) : (p.bind f).Runs r s (trees ++ trees') result := by
  induction p generalizing s trees with
  | answer b =>
      cases h
      exact hf
  | perform x next ih =>
      cases h with
      | perform hx hnext => exact .perform hx (ih _ hnext)
  | call c next ih =>
      cases h with
      | call hinner hnext => exact .call hinner (ih _ hnext)

theorem Runs.bind_error {p : Program α} {trees : List CallTree} {e : ResolveError}
    (h : p.Runs r s trees (.error e, t)) (f : α → Program β) :
    (p.bind f).Runs r s trees (.error e, t) := by
  induction p generalizing s trees with
  | answer b => cases h
  | perform x next ih =>
      cases h with
      | failed hx => exact .failed hx
      | perform hx hnext => exact .perform hx (ih _ hnext)
  | call c next ih =>
      cases h with
      | call hinner hnext => exact .call hinner (ih _ hnext)

/-- From every store the program has a run that comes out as the computation does, and all calls
that it makes have the property. -/
def Realizes (r : Resolver) (P : CallTree → Prop) (p : Program α) (x : Resolution α) : Prop :=
  ∀ s, ∃ trees, p.Runs r s trees (x.run.run s) ∧ ∀ t ∈ trees, P t

namespace Realizes

theorem pure (a : α) : Realizes r P (Pure.pure a) (Pure.pure a) :=
  fun s => ⟨[], .answer a s, fun _ ht => absurd ht List.not_mem_nil⟩

theorem lift (x : Resolution α) : Realizes r P (.lift x) x := by
  intro s
  refine ⟨[], ?_, fun _ ht => absurd ht List.not_mem_nil⟩
  cases hx : x.run.run s with
  | mk outcome t =>
      cases outcome with
      | ok a => exact .perform hx (.answer a t)
      | error e => exact .failed hx

theorem fail (kind : ResolveError.Kind) (detail : String) :
    Realizes r P (.fail kind detail : Program α) (throw ⟨kind, detail⟩) := lift _

theorem bind {p : Program α} {x : Resolution α} {f : α → Program β} {y : α → Resolution β}
    (hp : Realizes r P p x) (hf : ∀ a, Realizes r P (f a) (y a)) :
    Realizes r P (p >>= f) (x >>= y) := by
  intro s
  obtain ⟨trees, hrun, htrees⟩ := hp s
  rw [Resolution.run_bind]
  cases hx : x.run.run s with
  | mk outcome t =>
      rw [hx] at hrun
      cases outcome with
      | error e => exact ⟨trees, hrun.bind_error f, htrees⟩
      | ok a =>
          obtain ⟨trees', hrun', htrees'⟩ := hf a t
          refine ⟨trees ++ trees', hrun.bind_ok hrun', fun t ht => ?_⟩
          rcases List.mem_append.1 ht with ht | ht
          · exact htrees t ht
          · exact htrees' t ht

/-- A call comes out as its procedure does. -/
theorem ofCall {c : Call} {x : Resolution c.Answer} (hc : Realizes r Q (c.program r) x)
    (hnode : ∀ inner, (∀ t ∈ inner, Q t) → P (.node c inner)) : Realizes r P (.ofCall c) x := by
  intro s
  obtain ⟨inner, hrun, hinner⟩ := hc s
  refine ⟨[.node c inner], ?_, List.forall_mem_singleton.2 (hnode inner hinner)⟩
  cases hx : x.run.run s with
  | mk outcome t =>
      rw [hx] at hrun
      cases outcome with
      | ok a => exact .call hrun (.perform rfl (.answer a t))
      | error e => exact .call hrun (.failed rfl)

/-- What has become of a call is no failure of the one that asks. -/
theorem attempt {c : Call} {x : Resolution c.Answer} (hc : Realizes r Q (c.program r) x)
    (hnode : ∀ inner, (∀ t ∈ inner, Q t) → P (.node c inner)) :
    Realizes r P (.attempt c) x.outcome := by
  intro s
  obtain ⟨inner, hrun, hinner⟩ := hc s
  exact ⟨[.node c inner], .call hrun (.answer _ _),
    List.forall_mem_singleton.2 (hnode inner hinner)⟩

end Realizes

end Program

/-! ## The procedures -/

/-- A target with the way to another package that its flag leaves open. -/
def TargetSite.contextIn (site : TargetSite) (r : Resolver) : TargetContext :=
  { site.context with
    enter :=
      if site.isImports then
        some fun bare => resolveBare r.fs r.platform bare site.packageUrl site.conditions
      else none }

/-- The definition that stands for a procedure. -/
def Call.resolution (r : Resolver) : (c : Call) → Resolution c.Answer
  | bare specifier parent conditions => resolveBare r.fs r.platform specifier parent conditions
  | exports packageUrl subpath offered conditions =>
      resolveExports packageUrl subpath offered conditions
  | imports specifier parent conditions =>
      resolveImports r.fs r.platform specifier parent conditions
  | key site asked map => resolveKey (site.contextIn r) asked map
  | target site tree => tree.resolve (site.contextIn r)

/-- How many bare specifiers may be under way at a time within a call. -/
def Call.allowance : Call → Nat
  | bare .. => 0
  | exports .. => 0
  | imports .. => 1
  | key site _ _ => if site.isImports then 1 else 0
  | target site _ => if site.isImports then 1 else 0

open Program (Realizes)

variable {r : Resolver} {n : Nat} {site : TargetSite}

/-- The bare specifiers to which the flag of a target leaves the way open are resolved as they
should be, with calls no deeper than `n`. -/
def TargetSite.EntersWithin (site : TargetSite) (r : Resolver) (n : Nat) : Prop :=
  site.isImports = true → ∀ specifier, Realizes r (CallTree.Within n)
    (.ofCall (.bare specifier site.packageUrl site.conditions))
    (resolveBare r.fs r.platform specifier site.packageUrl site.conditions)

/-! ## Targets -/

/-- A call of a target is as deep as the calls of its procedure. -/
theorem realizes_target_call {target : Target}
    (h : Realizes r (CallTree.Within n) (targetProgram site target)
      (target.resolve (site.contextIn r))) :
    Realizes r (CallTree.Within n) (.ofCall (.target site target))
      (target.resolve (site.contextIn r)) :=
  Realizes.ofCall (c := .target site target) h fun _ hinner => .other rfl rfl hinner

theorem realizes_literal (hsite : site.EntersWithin r n) (text : String) :
    Realizes r (CallTree.Within n) (literalProgram site text)
      ((site.contextIn r).literal text) := by
  unfold literalProgram TargetContext.literal
  cases Text.stripFront? ['.', '/'] text.toList with
  | some inner => exact .lift _
  | none =>
      dsimp only [TargetSite.contextIn]
      cases hflag : site.isImports with
      | false => exact .fail _ _
      | true =>
          by_cases hunfit : TargetContext.isUnfitForPackage text = true
          · rw [hunfit]
            exact .fail _ _
          · rw [Bool.eq_false_iff.2 hunfit]
            exact hsite hflag _

mutual

/-- A target makes no call for a bare specifier unless it stands under `imports`. -/
theorem realizes_target (hsite : site.EntersWithin r n) (target : Target) :
    Realizes r (CallTree.Within n) (targetProgram site target)
      (target.resolve (site.contextIn r)) := by
  cases target with
  | literal text =>
      rw [Target.resolve]
      exact (realizes_literal hsite text).bind fun location => .pure (some location)
  | conditional branches =>
      rw [Target.resolve, targetProgram]
      cases branches.find? fun branch => isArrayIndex branch.1 with
      | some branch => exact .lift _
      | none => exact realizes_branches hsite branches
  | list items =>
      rw [Target.resolve]
      exact realizes_items hsite items
  | null =>
      rw [Target.resolve]
      exact .pure none
  | invalid text =>
      rw [Target.resolve]
      exact .fail _ _

theorem realizes_branches (hsite : site.EntersWithin r n) (branches : TargetMap) :
    Realizes r (CallTree.Within n) (branchesProgram site branches)
      (Target.resolveBranches (site.contextIn r) branches) := by
  cases branches with
  | nil =>
      rw [Target.resolveBranches]
      exact .pure none
  | cons branch rest =>
      obtain ⟨condition, target⟩ := branch
      have hrest := realizes_branches hsite rest
      rw [Target.resolveBranches, branchesProgram]
      by_cases hholds : site.conditions.holds condition = true
      · rw [if_pos hholds]
        have hcond : (site.contextIn r).conditions.holds condition = true := hholds
        rw [if_pos hcond]
        refine (realizes_target_call (realizes_target hsite target)).bind fun found => ?_
        cases found with
        | some location => exact .pure (some location)
        | none => exact hrest
      · rw [if_neg hholds]
        have hcond : ¬ (site.contextIn r).conditions.holds condition = true := hholds
        rw [if_neg hcond]
        exact hrest

theorem realizes_items (hsite : site.EntersWithin r n) (items : List Target) :
    Realizes r (CallTree.Within n) (itemsProgram site items)
      (Target.resolveItems (site.contextIn r) items) := by
  cases items with
  | nil =>
      rw [Target.resolveItems]
      exact .pure none
  | cons target rest =>
      have hrest := realizes_items hsite rest
      rw [Target.resolveItems, itemsProgram]
      have hattempt := Realizes.attempt (c := .target site target) (P := CallTree.Within n)
        (realizes_target hsite target) fun _ hinner => .other rfl rfl hinner
      refine hattempt.bind fun result => ?_
      cases result with
      | error e =>
          by_cases hkind : e.kind = .invalidTarget
          · simp only [if_pos hkind]
            exact hrest
          · simp only [if_neg hkind]
            exact .lift _
      | ok found =>
          cases found with
          | some location => exact .pure (some location)
          | none => exact hrest

end

theorem realizes_key (hsite : site.EntersWithin r n) (key : String) (map : TargetMap) :
    Realizes r (CallTree.Within n) (keyProgram site key map)
      (resolveKey (site.contextIn r) key map) := by
  -- whatever the star stands for, the flag is the same
  have htarget (captured : Option String) (target : Target) :
      Realizes r (CallTree.Within n) (.ofCall (.target { site with captured } target))
        (target.resolve ({ site with captured }.contextIn r)) :=
    realizes_target_call (@realizes_target r n { site with captured } hsite target)
  unfold keyProgram resolveKey
  cases (if key.toList.contains '*' then none else map.lookup key) with
  | some target => exact htarget none target
  | none =>
      refine (Realizes.lift _).bind fun found => ?_
      cases found with
      | some found => exact htarget (some found.captured) found.target
      | none => exact .pure none

/-! ## Exports and packages -/

/-- Below a package's exports there is no bare specifier. -/
theorem realizes_exports (packageUrl : Url) (subpath : String) (exports : Target)
    (conditions : ConditionSet) :
    Realizes r (CallTree.Within 0) (exportsProgram packageUrl subpath exports conditions)
      (resolveExports packageUrl subpath exports conditions) := by
  let site : TargetSite := { packageUrl, captured := none, conditions, isImports := false }
  have hsite : site.EntersWithin r 0 := fun hfalse => absurd hfalse Bool.false_ne_true
  have htarget (target : Target) : Realizes r (CallTree.Within 0) (.ofCall (.target site target))
      (target.resolve (site.contextIn r)) :=
    realizes_target_call (realizes_target hsite target)
  have hkey (map : TargetMap) : Realizes r (CallTree.Within 0) (.ofCall (.key site subpath map))
      (resolveKey (site.contextIn r) subpath map) :=
    Realizes.ofCall (c := .key site subpath map) (realizes_key hsite subpath map)
      fun _ hinner => .other rfl rfl hinner
  refine Realizes.bind (x := exported packageUrl subpath exports conditions) ?_ fun found => ?_
  · unfold exportedProgram exported
    dsimp only
    cases ExportsForm.of exports with
    | mixed => exact .fail _ _
    | root target =>
        dsimp only
        by_cases hroot : subpath = PackageSpecifier.rootSubpath
        · rw [if_pos hroot, if_pos hroot]
          exact htarget target
        · rw [if_neg hroot, if_neg hroot]
          exact .pure none
    | subpaths map =>
        dsimp only
        by_cases hroot : subpath = PackageSpecifier.rootSubpath
        · rw [if_pos hroot, if_pos hroot]
          cases map.lookup PackageSpecifier.rootSubpath with
          | some target => exact htarget target
          | none => exact .pure none
        · rw [if_neg hroot, if_neg hroot]
          exact hkey map
  · cases found with
    | some location => exact .pure location
    | none => exact .fail _ _

theorem realizes_exports_call (packageUrl : Url) (subpath : String) (exports : Target)
    (conditions : ConditionSet) :
    Realizes r (CallTree.Within 0) (.ofCall (.exports packageUrl subpath exports conditions))
      (resolveExports packageUrl subpath exports conditions) :=
  Realizes.ofCall (c := .exports packageUrl subpath exports conditions)
    (realizes_exports packageUrl subpath exports conditions) fun _ hinner => .other rfl rfl hinner

theorem realizes_self (parts : PackageSpecifier) (parent : Url) (conditions : ConditionSet) :
    Realizes r (CallTree.Within 0) (selfProgram r.fs parts parent conditions)
      (resolveSelf r.fs parts parent conditions) := by
  unfold selfProgram resolveSelf
  cases parent.dirPath? with
  | none => exact .pure none
  | some dir =>
      refine (Realizes.lift _).bind fun scope => ?_
      cases scope with
      | none => exact .pure none
      | some scope =>
          refine (Realizes.lift _).bind fun manifest => ?_
          cases manifest with
          | none => exact .pure none
          | some manifest =>
              dsimp only
              cases manifest.exports with
              | none => exact .pure none
              | some exports =>
                  dsimp only
                  by_cases hname : manifest.name = some parts.name
                  · rw [if_pos hname, if_pos hname]
                    refine (Realizes.lift _).bind fun packageUrl => ?_
                    have hcall :=
                      realizes_exports_call (r := r) packageUrl parts.subpath exports conditions
                    exact hcall.bind fun location => .pure (some location)
                  · rw [if_neg hname, if_neg hname]
                    exact .pure none

theorem realizes_installed (specifier : String) (parts : PackageSpecifier) (parent : Url)
    (conditions : ConditionSet) :
    Realizes r (CallTree.Within 0) (installedProgram r.fs specifier parts parent conditions)
      (resolveInstalled r.fs specifier parts parent conditions) := by
  unfold installedProgram resolveInstalled
  cases parent.dirPath?.bind (installed? r.fs parts.name) with
  | none => exact .lift _
  | some dir =>
      refine (Realizes.lift _).bind fun packageUrl => ?_
      refine (Realizes.lift _).bind fun manifest => ?_
      unfold enterProgram enter
      cases manifest.bind Manifest.exports with
      | some exports =>
          exact realizes_exports_call packageUrl parts.subpath exports conditions
      | none =>
          cases manifest.bind Manifest.main with
          | some main => exact .lift _
          | none => exact .lift _

/-- Below a bare specifier there is no other one. -/
theorem realizes_bare (specifier : String) (parent : Url) (conditions : ConditionSet) :
    Realizes r (CallTree.Within 0) (bareProgram r.fs r.platform specifier parent conditions)
      (resolveBare r.fs r.platform specifier parent conditions) := by
  unfold bareProgram resolveBare
  by_cases hempty : specifier = ""
  · rw [if_pos hempty, if_pos hempty]
    exact .fail _ _
  · rw [if_neg hempty, if_neg hempty]
    by_cases hbuiltin : isBuiltin r.platform specifier = true
    · rw [if_pos hbuiltin, if_pos hbuiltin]
      cases Url.parse? ("node:" ++ specifier) with
      | some location => exact .pure location
      | none => exact .fail _ _
    · rw [if_neg hbuiltin, if_neg hbuiltin]
      refine (Realizes.lift _).bind fun parts => ?_
      refine (realizes_self parts parent conditions).bind fun found => ?_
      cases found with
      | some location => exact .pure location
      | none => exact realizes_installed specifier parts parent conditions

theorem realizes_bare_call (specifier : String) (parent : Url) (conditions : ConditionSet) :
    Realizes r (CallTree.Within 1) (.ofCall (.bare specifier parent conditions))
      (resolveBare r.fs r.platform specifier parent conditions) :=
  Realizes.ofCall (c := .bare specifier parent conditions)
    (realizes_bare specifier parent conditions) fun _ hinner => .bare rfl rfl hinner

/-- Below a `#` specifier there is at most one bare specifier at a time. -/
theorem realizes_imports (specifier : String) (parent : Url) (conditions : ConditionSet) :
    Realizes r (CallTree.Within 1) (importsProgram r.fs specifier parent conditions)
      (resolveImports r.fs r.platform specifier parent conditions) := by
  unfold importsProgram resolveImports
  by_cases hbad : isBadImportsName specifier = true
  · rw [if_pos hbad, if_pos hbad]
    exact .fail _ _
  · rw [if_neg hbad, if_neg hbad]
    refine Realizes.bind
      (x := resolveImports.lookUp r.fs r.platform specifier parent conditions) ?_ fun found => ?_
    · unfold mappedProgram resolveImports.lookUp
      cases parent.dirPath? with
      | none => exact .pure none
      | some dir =>
          refine (Realizes.lift _).bind fun scope => ?_
          cases scope with
          | none => exact .pure none
          | some scope =>
              refine (Realizes.lift _).bind fun manifest => ?_
              cases manifest.bind Manifest.imports with
              | none => exact .pure none
              | some imports =>
                  refine (Realizes.lift _).bind fun packageUrl => ?_
                  let site : TargetSite :=
                    { packageUrl, captured := none, conditions, isImports := true }
                  have hsite : site.EntersWithin r 1 :=
                    fun _ specifier => realizes_bare_call specifier packageUrl conditions
                  exact Realizes.ofCall (c := .key site specifier imports)
                    (realizes_key hsite specifier imports) fun _ hinner => .other rfl rfl hinner
    · cases found with
      | some location => exact .pure location
      | none => exact .fail _ _

/-- Every procedure comes out as the definition that stands for it, within its allowance. -/
theorem Call.realizes (r : Resolver) (c : Call) :
    Realizes r (CallTree.Within c.allowance) (c.program r) (c.resolution r) := by
  have hsite (site : TargetSite) :
      site.EntersWithin r (if site.isImports then 1 else 0) := by
    intro hflag specifier
    rw [if_pos hflag]
    exact realizes_bare_call specifier site.packageUrl site.conditions
  cases c with
  | bare specifier parent conditions => exact realizes_bare specifier parent conditions
  | exports packageUrl subpath offered conditions =>
      exact realizes_exports packageUrl subpath offered conditions
  | imports specifier parent conditions => exact realizes_imports specifier parent conditions
  | key site asked map => exact realizes_key (hsite site) asked map
  | target site tree => exact realizes_target (hsite site) tree

theorem Call.allowance_le_one (c : Call) : c.allowance ≤ 1 := by
  cases c with
  | bare | exports => exact Nat.zero_le 1
  | imports => exact Nat.le_refl 1
  | key site | target site =>
      show (if site.isImports then 1 else 0) ≤ 1
      split
      · exact Nat.le_refl 1
      · exact Nat.zero_le 1

/-- What is called within a call never enters a package while another one is being entered. -/
theorem Call.entersOnce (c : Call) {inner : List CallTree}
    (hinner : ∀ t ∈ inner, t.Within c.allowance) : (CallTree.node c inner).EntersOnce := by
  refine CallTree.EntersOnce.of_inner c.allowance_le_one (fun hbare => ?_) hinner
  cases c with
  | bare => rfl
  | _ => cases hbare

/-- A literal is resolved as a bare specifier exactly if it stands under `imports`, is no relative
path and may be the name of a package. -/
theorem Call.literal_enters_iff {r : Resolver} {site : TargetSite} {text : String} {s : Store}
    {inner : List CallTree} {result : Except ResolveError (Option Url) × Store}
    (h : ((Call.target site (.literal text)).program r).Runs r s inner result) :
    (∃ t ∈ inner, t.call.isBare = true) ↔
      site.isImports = true ∧ Text.stripFront? ['.', '/'] text.toList = none ∧
        TargetContext.isUnfitForPackage text = false := by
  have hquiet {x : Resolution Url}
      (hlift : ((Program.lift x).bind fun location => .answer (some location)).Runs r s inner
        result) : ¬ ∃ t ∈ inner, t.call.isBare = true := by
    cases hlift with
    | failed => simp
    | perform _ hnext =>
        cases hnext
        simp
  change ((literalProgram site text).bind fun location => .answer (some location)).Runs r s inner
    result at h
  unfold literalProgram at h
  cases hfront : Text.stripFront? ['.', '/'] text.toList with
  | some tail =>
      rw [hfront] at h
      exact iff_of_false (hquiet h) fun henters => Option.some_ne_none _ henters.2.1
  | none =>
      rw [hfront] at h
      dsimp only at h
      by_cases hgate : (!site.isImports || TargetContext.isUnfitForPackage text) = true
      · rw [if_pos hgate] at h
        refine iff_of_false (hquiet h) fun henters => ?_
        rw [henters.1, henters.2.2] at hgate
        cases hgate
      · rw [if_neg hgate] at h
        rw [Bool.not_eq_true, Bool.or_eq_false_iff, Bool.not_eq_false_eq_eq_true] at hgate
        cases h with
        | call => exact iff_of_true ⟨_, List.mem_cons_self, rfl⟩ ⟨hgate.1, rfl, hgate.2⟩

/-- A call that a resolution starts with comes out as the definition that stands for it. -/
theorem Call.realizes_ofCall (r : Resolver) (c : Call) :
    Realizes r CallTree.EntersOnce (.ofCall c) (c.resolution r) :=
  Realizes.ofCall (c.realizes r) fun _ hinner => c.entersOnce hinner

/-! ## Resolutions -/

/-- What a specifier denotes is found with at most one call, for a package or a `#` specifier. -/
theorem realizes_locate (r : Resolver) (specifier : String) (parent : Url)
    (conditions : ConditionSet) :
    Realizes r CallTree.EntersOnce (locateProgram specifier parent conditions)
      (r.locate specifier parent conditions) := by
  unfold locateProgram Resolver.locate
  cases SpecifierKind.of specifier with
  | url | path =>
      dsimp only
      cases parent.join? specifier with
      | some location => exact .pure location
      | none => exact .fail _ _
  | subpathImport => exact Call.realizes_ofCall r (.imports specifier parent conditions)
  | bare => exact Call.realizes_ofCall r (.bare specifier parent conditions)

theorem realizes_resolveWith (r : Resolver) (specifier : String) (parent : Url)
    (conditions : ConditionSet) :
    Realizes r CallTree.EntersOnce (r.program specifier parent conditions)
      (r.resolveWith specifier parent conditions) :=
  (realizes_locate r specifier parent conditions).bind fun _ => .lift _

/-- Packages are entered one at a time, and every resolution ends.

What a package exports under a subpath is told without a file, a platform, a working directory or
the store, by calls none of which is for a bare or a `#` specifier. A call of any kind has one run,
which comes out as the definition that stands for it, and no bare specifier is resolved in it while
another one is, though a literal under `imports` may ask for one. The same holds of a resolution.
Nothing is asked of the file system, so manifests may name each other in circles, and a target under
`imports` may itself be a `#` specifier. -/
theorem packages_enter_no_packages :
    (∀ (packageUrl : Url) (subpath : String) (exports : Target) (conditions : ConditionSet),
      ∃ outcome, ∀ (r : Resolver) (s : Store),
        (resolveExports packageUrl subpath exports conditions).run.run s = (outcome, s) ∧
        ∃ inner, ((Call.exports packageUrl subpath exports conditions).program r).Runs r s inner
            (outcome, s) ∧
          ∀ t ∈ inner, ∀ u, t.Holds u →
            u.call.isBare = false ∧ u.call.isSubpathImport = false) ∧
    (∀ (r : Resolver) (c : Call) (s : Store), ∃ inner,
      (c.program r).Runs r s inner ((c.resolution r).run.run s) ∧
      (∀ inner' result, (c.program r).Runs r s inner' result →
        inner' = inner ∧ result = (c.resolution r).run.run s) ∧
      (CallTree.node c inner).EntersOnce) ∧
    (∀ (r : Resolver) (site : TargetSite) (text : String) (s : Store) (inner : List CallTree)
      (result : Except ResolveError (Option Url) × Store),
      ((Call.target site (.literal text)).program r).Runs r s inner result →
      ((∃ t ∈ inner, t.call.isBare = true) ↔
        site.isImports = true ∧ Text.stripFront? ['.', '/'] text.toList = none ∧
          TargetContext.isUnfitForPackage text = false)) ∧
    (∀ (r : Resolver) (specifier : String) (parent : Url) (conditions : ConditionSet) (s : Store),
      ∃ trees,
        (r.program specifier parent conditions).Runs r s trees
          ((r.resolveWith specifier parent conditions).run.run s) ∧
        (∀ trees' result, (r.program specifier parent conditions).Runs r s trees' result →
          trees' = trees ∧ result = (r.resolveWith specifier parent conditions).run.run s) ∧
        ∀ t ∈ trees, t.EntersOnce) := by
  refine ⟨?closed, ?calls, fun _ _ _ _ _ _ => Call.literal_enters_iff, ?resolutions⟩
  case closed =>
    intro packageUrl subpath exports conditions
    obtain ⟨outcome, houtcome⟩ :=
      ignoresStore_resolveExports packageUrl subpath exports conditions
    refine ⟨outcome, fun r s => ⟨houtcome s, ?_⟩⟩
    obtain ⟨inner, hrun, hinner⟩ :=
      realizes_exports (r := r) packageUrl subpath exports conditions s
    rw [houtcome s] at hrun
    refine ⟨inner, hrun, fun t ht u hu => ?_⟩
    obtain ⟨n, hn, hle⟩ := (hinner t ht).exists_holds hu
    obtain rfl : n = 0 := by omega
    exact ⟨hn.isBare, hn.isSubpathImport⟩
  case calls =>
    intro r c s
    obtain ⟨inner, hrun, hinner⟩ := c.realizes r s
    exact ⟨inner, hrun, fun _ _ hother => hother.unique hrun, c.entersOnce hinner⟩
  case resolutions =>
    intro r specifier parent conditions s
    obtain ⟨trees, hrun, htrees⟩ := realizes_resolveWith r specifier parent conditions s
    exact ⟨trees, hrun, fun _ _ hother => hother.unique hrun, htrees⟩

end Package

end ModuleGraph
