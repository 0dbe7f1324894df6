import ModuleGraph.Proofs.Store.Coupling
import ModuleGraph.Resolve.Target

/-!
# How targets are evaluated

A conditional and a list are read from front to back, each in its own way. A conditional goes on
behind a branch that does not hold or offers nothing, and any failure ends it. A list goes on behind
an item that it passes over, which is one that offers nothing or is malformed
(`Target.PassedOver`), so that no list is itself malformed. What has been read on the way stays
read. Where no package may be entered nothing is read at all (`Resolution.IgnoresStore`).
-/

set_option autoImplicit false

namespace ModuleGraph

namespace Target

variable {ctx : TargetContext} {key : String} {target : Target} {branches : TargetMap}
  {items : List Target} {store : Store}

/-! ## Branches -/

theorem find?_isArrayIndex_eq_none :
    (branches.map Prod.fst).find? isArrayIndex = none ↔
      ∀ branch ∈ branches, isArrayIndex branch.1 = false := by
  rw [List.find?_eq_none, List.forall_mem_map]
  simp only [Bool.not_eq_true]

/-- The first key that is an array index ends a conditional before any branch is looked at. -/
theorem run_resolve_conditional :
    ((conditional branches).resolve ctx).run.run store =
      match (branches.map Prod.fst).find? isArrayIndex with
      | some key => (.error (ctx.numericKey key), store)
      | none => (resolveBranches ctx branches).run.run store := by
  have hfind : (branches.map Prod.fst).find? isArrayIndex =
      (branches.find? fun branch => isArrayIndex branch.1).map Prod.fst := List.find?_map
  rw [resolve, hfind]
  cases branches.find? fun branch => isArrayIndex branch.1 with
  | none => rfl
  | some branch => rfl

theorem run_resolveBranches_nil : (resolveBranches ctx []).run.run store = (.ok none, store) := by
  rw [resolveBranches]
  rfl

/-- A branch that does not hold is not looked at. -/
theorem run_resolveBranches_idle (hkey : ctx.conditions.holds key = false) :
    (resolveBranches ctx ((key, target) :: branches)).run.run store =
      (resolveBranches ctx branches).run.run store := by
  rw [resolveBranches, hkey]
  rfl

/-- Behind a branch that holds and offers nothing the next one is looked at. -/
theorem run_resolveBranches_of_none (hkey : ctx.conditions.holds key = true)
    (h : ((target.resolve ctx).run.run store).1 = .ok none) :
    (resolveBranches ctx ((key, target) :: branches)).run.run store =
      (resolveBranches ctx branches).run.run ((target.resolve ctx).run.run store).2 := by
  rw [resolveBranches, if_pos hkey, Resolution.run_bind]
  cases hrun : (target.resolve ctx).run.run store with
  | mk outcome later =>
      rw [hrun] at h
      obtain rfl : outcome = .ok none := h
      rfl

/-- A branch that holds and does anything else decides. -/
theorem run_resolveBranches_of_ne_none (hkey : ctx.conditions.holds key = true)
    (h : ((target.resolve ctx).run.run store).1 ≠ .ok none) :
    (resolveBranches ctx ((key, target) :: branches)).run.run store =
      (target.resolve ctx).run.run store := by
  rw [resolveBranches, if_pos hkey, Resolution.run_bind]
  cases hrun : (target.resolve ctx).run.run store with
  | mk outcome later =>
      rw [hrun] at h
      cases outcome with
      | error e => rfl
      | ok found =>
          cases found with
          | none => exact absurd rfl h
          | some location => rfl

/-! ## Items -/

/-- The outcomes that a list passes over: nothing is offered, or a target is malformed. -/
def PassedOver (outcome : Except ResolveError (Option Url)) : Prop :=
  outcome = .ok none ∨ ∃ detail, outcome = .error ⟨.invalidTarget, detail⟩

theorem passedOver_none : PassedOver (.ok none) := Or.inl rfl

theorem not_passedOver_some (u : Url) : ¬ PassedOver (.ok (some u)) := by
  rintro (h | ⟨detail, h⟩)
  · cases h
  · cases h

theorem passedOver_error_iff {e : ResolveError} :
    PassedOver (.error e) ↔ e.kind = .invalidTarget := by
  obtain ⟨kind, detail⟩ := e
  constructor
  · rintro (h | ⟨detail', h⟩)
    · cases h
    · exact congrArg ResolveError.kind (Except.error.inj h)
  · rintro rfl
    exact Or.inr ⟨detail, rfl⟩

theorem run_resolve_list :
    ((list items).resolve ctx).run.run store = (resolveItems ctx items).run.run store := by
  rw [resolve]

theorem run_resolveItems_nil : (resolveItems ctx []).run.run store = (.ok none, store) := by
  rw [resolveItems]
  rfl

/-- What is done behind an item depends on what has become of it. -/
theorem run_resolveItems_cons :
    (resolveItems ctx (target :: items)).run.run store =
      (match ((target.resolve ctx).run.run store).1 with
        | .ok (some location) => pure (some location)
        | .ok none => resolveItems ctx items
        | .error e =>
            if e.kind = .invalidTarget then resolveItems ctx items else throw e
        : Resolution (Option Url)).run.run ((target.resolve ctx).run.run store).2 := by
  rw [resolveItems]
  rfl

/-- Behind an item that is passed over the next one is looked at. -/
theorem run_resolveItems_of_passedOver (h : PassedOver ((target.resolve ctx).run.run store).1) :
    (resolveItems ctx (target :: items)).run.run store =
      (resolveItems ctx items).run.run ((target.resolve ctx).run.run store).2 := by
  rw [run_resolveItems_cons]
  rcases h with h | ⟨detail, h⟩
  · rw [h]
  · rw [h]
    rfl

/-- An item that is not passed over decides. -/
theorem run_resolveItems_of_not_passedOver
    (h : ¬ PassedOver ((target.resolve ctx).run.run store).1) :
    (resolveItems ctx (target :: items)).run.run store = (target.resolve ctx).run.run store := by
  rw [run_resolveItems_cons]
  cases hrun : (target.resolve ctx).run.run store with
  | mk outcome later =>
      rw [hrun] at h
      cases outcome with
      | ok found =>
          cases found with
          | none => exact absurd passedOver_none h
          | some location => rfl
      | error e =>
          have hkind : e.kind ≠ .invalidTarget := fun hkind => h (passedOver_error_iff.2 hkind)
          dsimp only
          rw [if_neg hkind]
          rfl

/-- A list is passed over by an enclosing list only if it offers nothing: its own malformed items
are passed over by itself. -/
theorem passedOver_resolveItems_iff :
    PassedOver ((resolveItems ctx items).run.run store).1 ↔
      ((resolveItems ctx items).run.run store).1 = .ok none := by
  refine ⟨fun h => ?_, Or.inl⟩
  induction items generalizing store with
  | nil => rw [run_resolveItems_nil]
  | cons target items ih =>
      by_cases hitem : PassedOver ((target.resolve ctx).run.run store).1
      · rw [run_resolveItems_of_passedOver hitem] at h ⊢
        exact ih h
      · rw [run_resolveItems_of_not_passedOver hitem] at h
        exact absurd h hitem

/-- Items behind others are looked at once those have offered nothing. -/
theorem run_resolveItems_append (inner : List Target) :
    (resolveItems ctx (inner ++ items)).run.run store =
      match (resolveItems ctx inner).run.run store with
      | (.ok none, later) => (resolveItems ctx items).run.run later
      | answer => answer := by
  induction inner generalizing store with
  | nil => rw [run_resolveItems_nil, List.nil_append]
  | cons target inner ih =>
      rw [List.cons_append]
      by_cases hitem : PassedOver ((target.resolve ctx).run.run store).1
      · rw [run_resolveItems_of_passedOver hitem, run_resolveItems_of_passedOver hitem, ih]
      · rw [run_resolveItems_of_not_passedOver hitem, run_resolveItems_of_not_passedOver hitem]
        split
        · next later hrun =>
            rw [hrun] at hitem
            exact absurd passedOver_none hitem
        · rfl

/-- A list among items may as well have its own items in its place. -/
theorem run_resolveItems_splice (inner : List Target) :
    (resolveItems ctx (list inner :: items)).run.run store =
      (resolveItems ctx (inner ++ items)).run.run store := by
  have hiff := @passedOver_resolveItems_iff ctx inner store
  rw [run_resolveItems_append]
  by_cases hlist : PassedOver (((list inner).resolve ctx).run.run store).1
  · rw [run_resolveItems_of_passedOver hlist]
    rw [run_resolve_list] at hlist ⊢
    cases hrun : (resolveItems ctx inner).run.run store with
    | mk outcome later =>
        rw [hrun] at hlist hiff
        obtain rfl : outcome = .ok none := hiff.1 hlist
        rfl
  · rw [run_resolveItems_of_not_passedOver hlist]
    rw [run_resolve_list] at hlist ⊢
    split
    · next later hrun =>
        rw [hrun] at hlist
        exact absurd passedOver_none hlist
    · rfl

end Target

/-! ## Computations that read nothing -/

/-- The computation has one outcome, and neither reads the store nor changes it. -/
def Resolution.IgnoresStore {α : Type} (x : Resolution α) : Prop :=
  ∃ outcome, ∀ store, x.run.run store = (outcome, store)

namespace Resolution.IgnoresStore

variable {α β : Type}

theorem ofExcept (result : Except ResolveError α) : IgnoresStore (Resolution.ofExcept result) :=
  ⟨result, fun _ => rfl⟩

theorem pure (a : α) : IgnoresStore (Pure.pure a) := ⟨.ok a, fun _ => rfl⟩

theorem throw (e : ResolveError) : IgnoresStore (MonadExcept.throw e : Resolution α) :=
  ⟨.error e, fun _ => rfl⟩

theorem bind {x : Resolution α} {f : α → Resolution β} (hx : x.IgnoresStore)
    (hf : ∀ a, (f a).IgnoresStore) : (x >>= f).IgnoresStore := by
  obtain ⟨outcome, houtcome⟩ := hx
  cases outcome with
  | error e => exact ⟨.error e, fun store => by rw [run_bind, houtcome]⟩
  | ok a =>
      obtain ⟨result, hresult⟩ := hf a
      exact ⟨result, fun store => by rw [run_bind, houtcome]; exact hresult store⟩

theorem outcome {x : Resolution α} (hx : x.IgnoresStore) : x.outcome.IgnoresStore := by
  obtain ⟨result, hresult⟩ := hx
  refine ⟨.ok result, fun store => ?_⟩
  show (Except.ok (x.run.run store).1, (x.run.run store).2) = _
  rw [hresult store]

theorem run_snd {x : Resolution α} (hx : x.IgnoresStore) (store : Store) :
    (x.run.run store).2 = store := by
  obtain ⟨result, hresult⟩ := hx
  rw [hresult store]

end Resolution.IgnoresStore

namespace Target

variable {ctx : TargetContext}

theorem ignoresStore_literal (henter : ctx.enter = none) (text : String) :
    (ctx.literal text).IgnoresStore := by
  unfold TargetContext.literal
  split
  · exact .ofExcept _
  · rw [henter]
    exact .throw _

mutual

/-- A target that may enter no package reads nothing. -/
theorem ignoresStore_resolve (henter : ctx.enter = none) (target : Target) :
    (target.resolve ctx).IgnoresStore := by
  cases target with
  | literal text =>
      rw [resolve]
      exact (ignoresStore_literal henter text).bind fun u => .pure (some u)
  | conditional branches =>
      rw [resolve]
      split
      · exact .throw _
      · exact ignoresStore_resolveBranches henter branches
  | list items =>
      rw [resolve]
      exact ignoresStore_resolveItems henter items
  | null =>
      rw [resolve]
      exact .pure none
  | invalid text =>
      rw [resolve]
      exact .throw _

theorem ignoresStore_resolveBranches (henter : ctx.enter = none) (branches : TargetMap) :
    (resolveBranches ctx branches).IgnoresStore := by
  cases branches with
  | nil =>
      rw [resolveBranches]
      exact .pure none
  | cons branch rest =>
      obtain ⟨condition, target⟩ := branch
      have hrest := ignoresStore_resolveBranches henter rest
      rw [resolveBranches]
      split
      · refine (ignoresStore_resolve henter target).bind fun found => ?_
        cases found with
        | some location => exact .pure (some location)
        | none => exact hrest
      · exact hrest

theorem ignoresStore_resolveItems (henter : ctx.enter = none) (items : List Target) :
    (resolveItems ctx items).IgnoresStore := by
  cases items with
  | nil =>
      rw [resolveItems]
      exact .pure none
  | cons target rest =>
      have hrest := ignoresStore_resolveItems henter rest
      rw [resolveItems]
      refine (ignoresStore_resolve henter target).outcome.bind fun result => ?_
      cases result with
      | error e =>
          by_cases hkind : e.kind = .invalidTarget
          · simp only [if_pos hkind]
            exact hrest
          · simp only [if_neg hkind]
            exact .throw e
      | ok found =>
          cases found with
          | some location => exact .pure (some location)
          | none => exact hrest

end

end Target

end ModuleGraph
