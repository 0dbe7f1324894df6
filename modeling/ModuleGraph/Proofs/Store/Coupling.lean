import ModuleGraph.Package.Store
import Mathlib.Data.Option.Basic

/-!
# Coupled computations

Two computations over the store are *coupled* by a relation on stores if from related stores
they end in related outcomes, and in related stores again. A coupling of composed computations is
put together from couplings of their parts, so what a relation keeps has to be shown once, for the
two places where the store is looked at, and not along every branch of a resolution.
-/

set_option autoImplicit false

namespace ModuleGraph

variable {α β γ δ : Type} {S : Store → Store → Prop}

theorem Store.run_bind (x : StateM Store α) (f : α → StateM Store β) (s : Store) :
    (x >>= f).run s = (f (x.run s).1).run (x.run s).2 := rfl

/-- A composed computation goes on from the result and the store of its first part, or ends with
the failure of it. -/
theorem Resolution.run_bind (x : Resolution α) (f : α → Resolution β) (s : Store) :
    (x >>= f).run.run s =
      match x.run.run s with
      | (.ok a, t) => (f a).run.run t
      | (.error e, t) => (.error e, t) := by
  rw [ExceptT.run_bind, Store.run_bind]
  cases h : x.run.run s with
  | mk outcome t =>
      cases outcome with
      | ok a => rfl
      | error e => rfl

theorem Resolution.run_ofExcept (x : Except ResolveError α) (s : Store) :
    (Resolution.ofExcept x).run.run s = (x, s) := rfl

/-- The computations end in `R`-related results and `S`-related stores whenever they start in
`S`-related stores. -/
def Coupled (S : Store → Store → Prop) (R : α → β → Prop) (x : StateM Store α)
    (y : StateM Store β) : Prop :=
  ∀ ⦃s t : Store⦄, S s t → R (x.run s).1 (y.run t).1 ∧ S (x.run s).2 (y.run t).2

/-- Two outcomes are both results, related by `R`, or both the same failure. -/
inductive SameOutcome (R : α → β → Prop) : Except ResolveError α → Except ResolveError β → Prop
  | ok {a : α} {b : β} : R a b → SameOutcome R (.ok a) (.ok b)
  | error (e : ResolveError) : SameOutcome R (.error e) (.error e)

/-- The coupling of computations that may fail. -/
def Resolution.Coupled (S : Store → Store → Prop) (R : α → β → Prop) (x : Resolution α)
    (y : Resolution β) : Prop :=
  ModuleGraph.Coupled S (SameOutcome R) x.run y.run

/-- Two outcomes are both results, related by `R`, or both failures, related by `E`. -/
inductive OutcomeRel (E : ResolveError → ResolveError → Prop) (R : α → β → Prop) :
    Except ResolveError α → Except ResolveError β → Prop
  | ok {a : α} {b : β} : R a b → OutcomeRel E R (.ok a) (.ok b)
  | error {e e' : ResolveError} : E e e' → OutcomeRel E R (.error e) (.error e')

/-- The coupling of computations that may fail, each in its own way. -/
def Resolution.Agree (S : Store → Store → Prop) (E : ResolveError → ResolveError → Prop)
    (R : α → β → Prop) (x : Resolution α) (y : Resolution β) : Prop :=
  ModuleGraph.Coupled S (OutcomeRel E R) x.run y.run

theorem outcomeRel_eq_iff {R : α → β → Prop} {x : Except ResolveError α}
    {y : Except ResolveError β} : OutcomeRel Eq R x y ↔ SameOutcome R x y := by
  constructor
  · rintro (hR | rfl)
    · exact .ok hR
    · exact .error _
  · rintro (hR | e)
    · exact .ok hR
    · exact .error rfl

theorem OutcomeRel.of_eq {E : ResolveError → ResolveError → Prop} (hE : ∀ e, E e e)
    {x y : Except ResolveError α} (h : x = y) : OutcomeRel E Eq x y := by
  subst h
  cases x with
  | ok a => exact .ok rfl
  | error e => exact .error (hE e)

theorem OutcomeRel.mono {E : ResolveError → ResolveError → Prop} (hE : ∀ e, E e e)
    {R : α → β → Prop} {x : Except ResolveError α} {y : Except ResolveError β}
    (h : SameOutcome R x y) : OutcomeRel E R x y := by
  cases h with
  | ok hR => exact .ok hR
  | error e => exact .error (hE e)

theorem SameOutcome.eq {x y : Except ResolveError α} (h : SameOutcome Eq x y) : x = y := by
  cases h with
  | ok h => rw [h]
  | error e => rfl

theorem SameOutcome.of_eq {x y : Except ResolveError α} (h : x = y) : SameOutcome Eq x y := by
  subst h
  cases x with
  | ok a => exact .ok rfl
  | error e => exact .error e

theorem SameOutcome.symm {R : α → α → Prop} {x y : Except ResolveError α}
    (hR : ∀ {a b}, R a b → R b a) (h : SameOutcome R x y) : SameOutcome R y x := by
  cases h with
  | ok h => exact .ok (hR h)
  | error e => exact .error e

theorem SameOutcome.trans {R : α → α → Prop} {x y z : Except ResolveError α}
    (hxy : SameOutcome R x y) (hR : ∀ {a b c}, R a b → R b c → R a c)
    (hyz : SameOutcome R y z) : SameOutcome R x z := by
  cases hxy with
  | ok hab =>
      cases hyz with
      | ok hbc => exact .ok (hR hab hbc)
  | error e => exact hyz

/-! ## Computations that cannot fail -/

namespace Coupled

theorem pure {R : α → β → Prop} {a : α} {b : β} (h : R a b) :
    Coupled S R (Pure.pure a) (Pure.pure b) :=
  fun _ _ hst => ⟨h, hst⟩

theorem bind {R : α → β → Prop} {Q : γ → δ → Prop} {x : StateM Store α} {y : StateM Store β}
    {f : α → StateM Store γ} {g : β → StateM Store δ} (hx : Coupled S R x y)
    (hf : ∀ a b, R a b → Coupled S Q (f a) (g b)) : Coupled S Q (x >>= f) (y >>= g) := by
  intro s t hst
  obtain ⟨hR, hS⟩ := hx hst
  exact hf _ _ hR hS

theorem mono {R Q : α → β → Prop} {x : StateM Store α} {y : StateM Store β}
    (hx : Coupled S R x y) (h : ∀ a b, R a b → Q a b) : Coupled S Q x y :=
  fun _ _ hst => ⟨h _ _ (hx hst).1, (hx hst).2⟩

end Coupled

/-! ## Computations that may fail -/

namespace Resolution.Agree

variable {E : ResolveError → ResolveError → Prop}

theorem pure {R : α → β → Prop} {a : α} {b : β} (h : R a b) :
    Resolution.Agree S E R (Pure.pure a) (Pure.pure b) :=
  ModuleGraph.Coupled.pure (.ok h)

theorem throw {R : α → β → Prop} {e e' : ResolveError} (h : E e e') :
    Resolution.Agree S E R (MonadExcept.throw e) (MonadExcept.throw e') :=
  ModuleGraph.Coupled.pure (.error h)

theorem ofExcept {R : α → β → Prop} {a : Except ResolveError α} {b : Except ResolveError β}
    (h : OutcomeRel E R a b) : Resolution.Agree S E R (.ofExcept a) (.ofExcept b) :=
  ModuleGraph.Coupled.pure h

/-- A failure of the first part is the failure of the whole, on either side. -/
theorem bind {R : α → β → Prop} {Q : γ → δ → Prop} {x : Resolution α} {y : Resolution β}
    {f : α → Resolution γ} {g : β → Resolution δ} (hx : Resolution.Agree S E R x y)
    (hf : ∀ a b, R a b → Resolution.Agree S E Q (f a) (g b)) :
    Resolution.Agree S E Q (x >>= f) (y >>= g) := by
  rw [Resolution.Agree, ExceptT.run_bind, ExceptT.run_bind]
  refine ModuleGraph.Coupled.bind hx fun a b hab => ?_
  cases hab with
  | ok hab => exact hf _ _ hab
  | error he => exact ModuleGraph.Coupled.pure (.error he)

/-- What has become of a computation is no failure of the one that asks. -/
theorem outcome {R : α → β → Prop} {x : Resolution α} {y : Resolution β}
    (hx : Resolution.Agree S E R x y) :
    Resolution.Agree S E (OutcomeRel E R) x.outcome y.outcome :=
  fun _ _ hst => ⟨.ok (hx hst).1, (hx hst).2⟩

/-- Computations that agree down to their failures are coupled. -/
theorem coupled {R : α → β → Prop} {x : Resolution α} {y : Resolution β}
    (h : Resolution.Agree S Eq R x y) : Resolution.Coupled S R x y :=
  ModuleGraph.Coupled.mono h fun _ _ => outcomeRel_eq_iff.1

theorem of_coupled (hE : ∀ e, E e e) {R : α → β → Prop} {x : Resolution α} {y : Resolution β}
    (h : Resolution.Coupled S R x y) : Resolution.Agree S E R x y :=
  ModuleGraph.Coupled.mono h fun _ _ => OutcomeRel.mono hE

end Resolution.Agree

namespace Resolution.Coupled

theorem pure {R : α → β → Prop} {a : α} {b : β} (h : R a b) :
    Resolution.Coupled S R (Pure.pure a) (Pure.pure b) :=
  (Resolution.Agree.pure h).coupled

theorem throw {R : α → β → Prop} (e : ResolveError) :
    Resolution.Coupled S R (MonadExcept.throw e) (MonadExcept.throw e) :=
  (Resolution.Agree.throw rfl).coupled

theorem bind {R : α → β → Prop} {Q : γ → δ → Prop} {x : Resolution α} {y : Resolution β}
    {f : α → Resolution γ} {g : β → Resolution δ} (hx : Resolution.Coupled S R x y)
    (hf : ∀ a b, R a b → Resolution.Coupled S Q (f a) (g b)) :
    Resolution.Coupled S Q (x >>= f) (y >>= g) :=
  Resolution.Agree.coupled <| (Resolution.Agree.of_coupled (fun _ => rfl) hx).bind fun a b hab =>
    .of_coupled (fun _ => rfl) (hf a b hab)

/-- What has become of a computation is no failure of the one that asks. -/
theorem outcome {R : α → β → Prop} {x : Resolution α} {y : Resolution β}
    (hx : Resolution.Coupled S R x y) :
    Resolution.Coupled S (SameOutcome R) x.outcome y.outcome :=
  fun _ _ hst => ⟨.ok (hx hst).1, (hx hst).2⟩

end Resolution.Coupled

end ModuleGraph
