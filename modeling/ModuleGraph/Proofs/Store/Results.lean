import ModuleGraph.Proofs.Store.Coupling

/-!
# Results of computations

`Resolution.Yields` says of a computation over the store that whatever it answers has a property,
from whatever store it starts. For composed computations this follows from their parts. Nothing is
said about failures.
-/

set_option autoImplicit false

namespace ModuleGraph.Resolution

variable {α β : Type}

/-- A composed computation that has a result has one of its first part. -/
theorem exists_of_bind {x : Resolution α} {f : α → Resolution β} {store : Store} {b : β}
    (h : ((x >>= f).run.run store).1 = .ok b) :
    ∃ a, (x.run.run store).1 = .ok a ∧ ((f a).run.run (x.run.run store).2).1 = .ok b := by
  rw [ExceptT.run_bind, Store.run_bind] at h
  cases hx : (x.run.run store).1 with
  | ok a =>
      rw [hx] at h
      exact ⟨a, rfl, h⟩
  | error e =>
      rw [hx] at h
      cases h

/-- Every result of the computation has the property. -/
def Yields (P : α → Prop) (x : Resolution α) : Prop :=
  ∀ (store : Store) (a : α), (x.run.run store).1 = .ok a → P a

namespace Yields

variable {P : α → Prop} {Q : β → Prop}

theorem pure {a : α} (h : P a) : Yields P (Pure.pure a) := by
  intro store b hb
  exact Except.ok.inj hb ▸ h

theorem throw (e : ResolveError) : Yields P (MonadExcept.throw e) := by
  intro store a ha
  cases ha

theorem ofExcept {result : Except ResolveError α} (h : ∀ a, result = .ok a → P a) :
    Yields P (.ofExcept result) :=
  fun _ a ha => h a ha

theorem trivial (x : Resolution α) : Yields (fun _ => True) x := fun _ _ _ => True.intro

theorem mono {P' : α → Prop} {x : Resolution α} (hx : Yields P x) (h : ∀ a, P a → P' a) :
    Yields P' x :=
  fun store a ha => h a (hx store a ha)

theorem bind {x : Resolution α} {f : α → Resolution β} (hx : Yields P x)
    (hf : ∀ a, P a → Yields Q (f a)) : Yields Q (x >>= f) := by
  intro store b hb
  obtain ⟨a, ha, hb⟩ := exists_of_bind hb
  exact hf a (hx store a ha) _ b hb

/-- What has become of a computation is a failure, or a result with the property. -/
theorem outcome {x : Resolution α} (hx : Yields P x) :
    Yields (fun result => ∀ a, result = .ok a → P a) x.outcome := by
  intro store result hresult a ha
  exact hx store a ((Except.ok.inj hresult).trans ha)

end Yields

end ModuleGraph.Resolution
