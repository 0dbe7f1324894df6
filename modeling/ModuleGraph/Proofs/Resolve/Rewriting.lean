import ModuleGraph.Proofs.Resolve.Containment
import ModuleGraph.Proofs.Resolve.Evaluation
import Mathlib.Logic.Relation

/-!
# Rewriting targets

Much of a tree of targets can be written in another way without any resolution noticing. Branches
that do not hold, branches and items that offer nothing, what stands behind a branch or an item that
has led somewhere, and lists in lists are of no account (`Target.Rewrite`). Rewriting goes on at any
depth, and what a part does may depend on what has been read when it is looked at, so the store is
followed along the way. The one thing that counts even where nothing is looked at is a key that is
an array index: it has its conditional refused as a whole.
-/

set_option autoImplicit false

namespace ModuleGraph

namespace Target

/-- The store with which the branches behind a branch are looked at. -/
def storeBehind (ctx : TargetContext) (key : String) (target : Target) (store : Store) : Store :=
  if ctx.conditions.holds key then ((target.resolve ctx).run.run store).2 else store

mutual

/-- One rewrite of a target that is resolved from a store, at its root or at any depth. -/
inductive Rewrite (ctx : TargetContext) : Store → Target → Target → Prop
  /-- A conditional with a single branch, which holds, is that branch. -/
  | unwrap {store : Store} {key : String} {target : Target} :
      ctx.conditions.holds key = true → isArrayIndex key = false →
      Rewrite ctx store (.conditional [(key, target)]) target
  | branches {store : Store} {front back : TargetMap} :
      BranchRewrite ctx store front back →
      Rewrite ctx store (.conditional front) (.conditional back)
  | items {store : Store} {front back : List Target} :
      ItemRewrite ctx store front back → Rewrite ctx store (.list front) (.list back)

/-- One rewrite of branches that are looked at from a store. -/
inductive BranchRewrite (ctx : TargetContext) : Store → TargetMap → TargetMap → Prop
  /-- A branch that does not hold is left out. -/
  | dropIdle {store : Store} {key : String} {target : Target} {rest : TargetMap} :
      ctx.conditions.holds key = false → isArrayIndex key = false →
      BranchRewrite ctx store ((key, target) :: rest) rest
  /-- A branch that does not hold leads to anything else. -/
  | replaceIdle {store : Store} {key : String} {target target' : Target} {rest : TargetMap} :
      ctx.conditions.holds key = false → isArrayIndex key = false →
      BranchRewrite ctx store ((key, target) :: rest) ((key, target') :: rest)
  /-- A branch that offers nothing is left out. -/
  | dropNull {store : Store} {key : String} {rest : TargetMap} :
      isArrayIndex key = false → BranchRewrite ctx store ((key, .null) :: rest) rest
  /-- Behind a branch that has led somewhere stands anything else. -/
  | replaceRest {store : Store} {key : String} {target : Target} {location : Url}
      {rest rest' : TargetMap} :
      ctx.conditions.holds key = true →
      ((target.resolve ctx).run.run store).1 = .ok (some location) →
      (∀ branch ∈ rest, isArrayIndex branch.1 = false) →
      (∀ branch ∈ rest', isArrayIndex branch.1 = false) →
      BranchRewrite ctx store ((key, target) :: rest) ((key, target) :: rest')
  | head {store : Store} {key : String} {target target' : Target} {rest : TargetMap} :
      Rewrite ctx store target target' →
      BranchRewrite ctx store ((key, target) :: rest) ((key, target') :: rest)
  | tail {store : Store} {key : String} {target : Target} {rest rest' : TargetMap} :
      BranchRewrite ctx (storeBehind ctx key target store) rest rest' →
      BranchRewrite ctx store ((key, target) :: rest) ((key, target) :: rest')

/-- One rewrite of items that are looked at from a store. -/
inductive ItemRewrite (ctx : TargetContext) : Store → List Target → List Target → Prop
  /-- An item that offers nothing is left out. -/
  | dropNull {store : Store} {rest : List Target} : ItemRewrite ctx store (.null :: rest) rest
  /-- A malformed item is left out. -/
  | dropInvalid {store : Store} {text : String} {rest : List Target} :
      ItemRewrite ctx store (.invalid text :: rest) rest
  /-- A list has its own items in its place. -/
  | splice {store : Store} {inner rest : List Target} :
      ItemRewrite ctx store (.list inner :: rest) (inner ++ rest)
  /-- Behind an item that has led somewhere stands anything else. -/
  | replaceRest {store : Store} {target : Target} {location : Url} {rest rest' : List Target} :
      ((target.resolve ctx).run.run store).1 = .ok (some location) →
      ItemRewrite ctx store (target :: rest) (target :: rest')
  | head {store : Store} {target target' : Target} {rest : List Target} :
      Rewrite ctx store target target' →
      ItemRewrite ctx store (target :: rest) (target' :: rest)
  | tail {store : Store} {target : Target} {rest rest' : List Target} :
      ItemRewrite ctx ((target.resolve ctx).run.run store).2 rest rest' →
      ItemRewrite ctx store (target :: rest) (target :: rest')

end

variable {ctx : TargetContext} {store : Store}

/-! ## Keys that are array indices -/

/-- A rewrite leaves the first array index among the keys as it is. -/
theorem BranchRewrite.find?_eq {store : Store} {front back : TargetMap}
    (h : BranchRewrite ctx store front back) :
    (front.map Prod.fst).find? isArrayIndex = (back.map Prod.fst).find? isArrayIndex := by
  cases h with
  | dropIdle _ hindex => rw [List.map_cons, List.find?_cons_of_neg (by simp [hindex])]
  | replaceIdle => rfl
  | dropNull hindex => rw [List.map_cons, List.find?_cons_of_neg (by simp [hindex])]
  | @replaceRest _ key _ _ _ _ _ _ hrest hrest' =>
      rw [List.map_cons, List.map_cons]
      cases hkey : isArrayIndex key with
      | true => rw [List.find?_cons_of_pos hkey, List.find?_cons_of_pos hkey]
      | false =>
          rw [List.find?_cons_of_neg (by simp [hkey]), List.find?_cons_of_neg (by simp [hkey]),
            find?_isArrayIndex_eq_none.2 hrest, find?_isArrayIndex_eq_none.2 hrest']
  | head => rfl
  | @tail _ key _ _ _ h =>
      have hrest := h.find?_eq
      rw [List.map_cons, List.map_cons, List.find?_cons, List.find?_cons, hrest]

/-! ## One rewrite -/

theorem run_resolve_null (ctx : TargetContext) (store : Store) :
    (null.resolve ctx).run.run store = (.ok none, store) := by
  rw [resolve]
  rfl

theorem run_resolve_invalid (ctx : TargetContext) (store : Store) (text : String) :
    ((invalid text).resolve ctx).run.run store = (.error ⟨.invalidTarget, text⟩, store) := by
  rw [resolve]
  rfl

/-- What a branch leads on to depends on what the branches behind it do from where it ends. -/
theorem run_resolveBranches_congr_tail {key : String} {target : Target} {rest rest' : TargetMap}
    (h : (resolveBranches ctx rest).run.run (storeBehind ctx key target store) =
      (resolveBranches ctx rest').run.run (storeBehind ctx key target store)) :
    (resolveBranches ctx ((key, target) :: rest)).run.run store =
      (resolveBranches ctx ((key, target) :: rest')).run.run store := by
  unfold storeBehind at h
  cases hkey : ctx.conditions.holds key with
  | false =>
      rw [hkey] at h
      rw [run_resolveBranches_idle hkey, run_resolveBranches_idle hkey]
      exact h
  | true =>
      rw [hkey] at h
      by_cases hnone : ((target.resolve ctx).run.run store).1 = .ok none
      · rw [run_resolveBranches_of_none hkey hnone, run_resolveBranches_of_none hkey hnone]
        exact h
      · rw [run_resolveBranches_of_ne_none hkey hnone, run_resolveBranches_of_ne_none hkey hnone]

/-- Branches that do the same in front do the same with the branches behind them. -/
theorem run_resolveBranches_congr_head {key : String} {target target' : Target} {rest : TargetMap}
    (h : (target.resolve ctx).run.run store = (target'.resolve ctx).run.run store) :
    (resolveBranches ctx ((key, target) :: rest)).run.run store =
      (resolveBranches ctx ((key, target') :: rest)).run.run store := by
  cases hkey : ctx.conditions.holds key with
  | false => rw [run_resolveBranches_idle hkey, run_resolveBranches_idle hkey]
  | true =>
      by_cases hnone : ((target.resolve ctx).run.run store).1 = .ok none
      · have hnone' : ((target'.resolve ctx).run.run store).1 = .ok none := h ▸ hnone
        rw [run_resolveBranches_of_none hkey hnone, run_resolveBranches_of_none hkey hnone', h]
      · have hnone' : ((target'.resolve ctx).run.run store).1 ≠ .ok none := h ▸ hnone
        rw [run_resolveBranches_of_ne_none hkey hnone, run_resolveBranches_of_ne_none hkey hnone',
          h]

theorem run_resolveItems_congr_tail {target : Target} {rest rest' : List Target}
    (h : (resolveItems ctx rest).run.run ((target.resolve ctx).run.run store).2 =
      (resolveItems ctx rest').run.run ((target.resolve ctx).run.run store).2) :
    (resolveItems ctx (target :: rest)).run.run store =
      (resolveItems ctx (target :: rest')).run.run store := by
  by_cases hitem : PassedOver ((target.resolve ctx).run.run store).1
  · rw [run_resolveItems_of_passedOver hitem, run_resolveItems_of_passedOver hitem, h]
  · rw [run_resolveItems_of_not_passedOver hitem, run_resolveItems_of_not_passedOver hitem]

theorem run_resolveItems_congr_head {target target' : Target} {rest : List Target}
    (h : (target.resolve ctx).run.run store = (target'.resolve ctx).run.run store) :
    (resolveItems ctx (target :: rest)).run.run store =
      (resolveItems ctx (target' :: rest)).run.run store := by
  rw [run_resolveItems_cons, run_resolveItems_cons, h]

mutual

/-- A rewrite leaves what a target resolves to, and what is read for it, as it is. -/
theorem Rewrite.run_eq {store : Store} {target target' : Target}
    (h : Rewrite ctx store target target') :
    (target.resolve ctx).run.run store = (target'.resolve ctx).run.run store := by
  cases h with
  | @unwrap _ key _ hkey hindex =>
      have hnone : ([(key, target')].map Prod.fst).find? isArrayIndex = none :=
        List.find?_cons_of_neg (by simp [hindex])
      rw [run_resolve_conditional, hnone]
      dsimp only
      by_cases hrest : ((target'.resolve ctx).run.run store).1 = .ok none
      · rw [run_resolveBranches_of_none hkey hrest, run_resolveBranches_nil]
        exact Prod.ext hrest.symm rfl
      · rw [run_resolveBranches_of_ne_none hkey hrest]
  | branches h =>
      rw [run_resolve_conditional, run_resolve_conditional, h.find?_eq, h.run_eq]
  | items h => rw [run_resolve_list, run_resolve_list, h.run_eq]

theorem BranchRewrite.run_eq {store : Store} {front back : TargetMap}
    (h : BranchRewrite ctx store front back) :
    (resolveBranches ctx front).run.run store = (resolveBranches ctx back).run.run store := by
  cases h with
  | dropIdle hkey _ => rw [run_resolveBranches_idle hkey]
  | replaceIdle hkey _ => rw [run_resolveBranches_idle hkey, run_resolveBranches_idle hkey]
  | @dropNull _ key _ _ =>
      cases hkey : ctx.conditions.holds key with
      | false => rw [run_resolveBranches_idle hkey]
      | true =>
          have hnull := run_resolve_null ctx store
          rw [run_resolveBranches_of_none hkey (by rw [hnull]), hnull]
  | @replaceRest _ _ target _ _ _ hkey hfound _ _ =>
      -- the branch in front decides, so nothing behind it is looked at
      have hne : ((target.resolve ctx).run.run store).1 ≠ .ok none := by simp [hfound]
      rw [run_resolveBranches_of_ne_none hkey hne, run_resolveBranches_of_ne_none hkey hne]
  | head h => exact run_resolveBranches_congr_head h.run_eq
  | tail h => exact run_resolveBranches_congr_tail h.run_eq

theorem ItemRewrite.run_eq {store : Store} {front back : List Target}
    (h : ItemRewrite ctx store front back) :
    (resolveItems ctx front).run.run store = (resolveItems ctx back).run.run store := by
  cases h with
  | dropNull =>
      have hnull := run_resolve_null ctx store
      rw [run_resolveItems_of_passedOver (by rw [hnull]; exact passedOver_none), hnull]
  | @dropInvalid _ text _ =>
      have hinvalid := run_resolve_invalid ctx store text
      have hpassed : PassedOver (((invalid text).resolve ctx).run.run store).1 := by
        rw [hinvalid]
        exact passedOver_error_iff.2 rfl
      rw [run_resolveItems_of_passedOver hpassed, hinvalid]
  | @splice _ inner _ => exact run_resolveItems_splice inner
  | replaceRest hfound =>
      have hnot : ¬ PassedOver (_ : Except ResolveError (Option Url)) :=
        hfound ▸ not_passedOver_some _
      rw [run_resolveItems_of_not_passedOver hnot, run_resolveItems_of_not_passedOver hnot]
  | head h => exact run_resolveItems_congr_head h.run_eq
  | tail h => exact run_resolveItems_congr_tail h.run_eq

end

/-! ## Any number of rewrites -/

/-- Whatever the package, the capture, the conditions and the way to other packages are, and
whatever has been read before: targets that are rewritten into each other, by any number of rewrites
in either direction, resolve to the same location, to nothing, or with the same failure, and leave
the same to be remembered. -/
theorem run_resolve_of_rewrites {ctx : TargetContext} {store : Store} {target target' : Target}
    (h : Relation.EqvGen (Rewrite ctx store) target target') :
    (target.resolve ctx).run.run store = (target'.resolve ctx).run.run store := by
  induction h with
  | rel _ _ h => exact h.run_eq
  | refl _ => rfl
  | symm _ _ _ ih => exact ih.symm
  | trans _ _ _ _ _ ih ih' => exact ih.trans ih'

/-- A tree with an idle branch, nothing, a malformed item, a list in a list and a conditional with
one branch comes down to the one literal that counts. -/
theorem run_resolve_of_rewrites_nested :
    let ctx := exampleContext none
    let inner : Target := .conditional [("default", .literal "./a.js")]
    let target : Target := .conditional [("browser", .literal "./b.js"),
      ("import", .list [.null, .invalid "1", .list [inner, .literal "./c.js"], .null])]
    let target' : Target := .list [.literal "./a.js"]
    Relation.EqvGen (Rewrite ctx {}) target target' ∧
      (target.resolve ctx).run.run {} = (target'.resolve ctx).run.run {} ∧
      ((target'.resolve ctx).run.run {}).1 =
        .ok (some (fileUrl ["proj", "node_modules", "pkg", "a.js"])) := by
  intro ctx inner target target'
  have hfound : (((literal "./a.js").resolve ctx).run.run {}).1 =
      .ok (some (fileUrl ["proj", "node_modules", "pkg", "a.js"])) := by decide +kernel
  have hconditional : Relation.EqvGen (Rewrite ctx {}) target
      (.list [.null, .invalid "1", .list [inner, .literal "./c.js"], .null]) :=
    .trans _ _ _ (.rel _ _ (.branches (.dropIdle (by decide) (by decide))))
      (.rel _ _ (.unwrap (by decide) (by decide)))
  have hitems : Relation.EqvGen (Rewrite ctx {})
      (.list [.null, .invalid "1", .list [inner, .literal "./c.js"], .null])
      (.list [inner, .literal "./c.js", .null]) :=
    .trans _ _ _ (.rel _ _ (.items .dropNull)) <|
      .trans _ _ _ (.rel _ _ (.items .dropInvalid)) (.rel _ _ (.items .splice))
  have hrest : Relation.EqvGen (Rewrite ctx {}) (.list [inner, .literal "./c.js", .null]) target' :=
    .trans _ _ _ (.rel _ _ (.items (.head (.unwrap (by decide) (by decide)))))
      (.rel _ _ (.items (.replaceRest hfound)))
  have hall : Relation.EqvGen (Rewrite ctx {}) target target' :=
    .trans _ _ _ hconditional (.trans _ _ _ hitems hrest)
  exact ⟨hall, run_resolve_of_rewrites hall, by decide +kernel⟩

end Target

end ModuleGraph
