import ModuleGraph.Graph.Scan
import Mathlib.Logic.Relation

/-!
# Schedules

How a scan goes on is not fixed: any task that has been started may be the next to report, and
any message that has been sent may be the next to be filed. A `Progress` is the state between two
such steps, and a run a sequence of them. `Scan.loadGraph` takes one of the runs.
-/

set_option autoImplicit false

namespace ModuleGraph

open Relation

/-- A scan under way. -/
structure Progress where
  loader : Loader
  /-- What the tasks have read so far. -/
  store : Store
  /-- The messages that have been sent and not been filed. -/
  channel : List Message

namespace Progress

/-- The state after the entries have been visited. -/
def start (entries : List (Option String × ModuleRef)) (store : Store) : Progress :=
  { loader := (Loader.start entries).1, store, channel := [] }

/-- One step: a task that is waiting reports, or a message that has been sent is filed. -/
inductive Step (ctx : LoadContext) : Progress → Progress → Prop
  | report (p : Progress) (before : List Task) (task : Task) (after : List Task) :
      p.loader.pending = before ++ task :: after →
      Step ctx p
        { loader := { p.loader with pending := before ++ after }
          store := ((task.run ctx).run p.store).2
          channel := p.channel ++ [((task.run ctx).run p.store).1] }
  | file (p : Progress) (before : List Message) (message : Message) (after : List Message) :
      p.channel = before ++ message :: after →
      Step ctx p { p with loader := p.loader.handle message, channel := before ++ after }

/-- The states that a scan of entries can come to, whichever step it takes when. -/
def Run (ctx : LoadContext) (entries : List (Option String × ModuleRef)) (store : Store)
    (p : Progress) : Prop :=
  ReflTransGen (Step ctx) (start entries store) p

/-- Whether all messages have come in. -/
def Complete (p : Progress) : Prop := p.loader.remaining = 0

instance (p : Progress) : Decidable p.Complete :=
  inferInstanceAs (Decidable (p.loader.remaining = 0))

/-- The outcome of a complete scan. -/
def outcome? (p : Progress) (entries : List (Option String × ModuleRef)) :
    Option (Except (List BuildError) Graph) :=
  Scan.outcome? p.loader (Loader.start entries).2

/-! ## Picked schedules -/

/-- Lets the task at a place among those that are waiting report, and files its message at once. -/
def pick (ctx : LoadContext) (p : Progress) (i : Nat) : Progress :=
  match p.loader.pending[i]? with
  | none => p
  | some task =>
      let rest := p.loader.pending.eraseIdx i
      let (message, store) := (task.run ctx).run p.store
      { p with loader := { p.loader with pending := rest }.handle message, store }

/-- A task that is picked takes two steps. -/
theorem exists_steps_pick {ctx : LoadContext} {p : Progress} {i : Nat} {task : Task}
    (htask : p.loader.pending[i]? = some task) :
    ∃ q, Step ctx p q ∧ Step ctx q (p.pick ctx i) := by
  obtain ⟨hlt, hget⟩ := List.getElem?_eq_some_iff.1 htask
  have hsplit : p.loader.pending =
      p.loader.pending.take i ++ task :: p.loader.pending.drop (i + 1) := by
    rw [← hget, List.getElem_cons_drop, List.take_append_drop]
  refine ⟨_, .report p _ task _ hsplit, ?_⟩
  have hfile := @Step.file ctx
    { loader := { p.loader with
        pending := p.loader.pending.take i ++ p.loader.pending.drop (i + 1) }
      store := ((task.run ctx).run p.store).2
      channel := p.channel ++ [((task.run ctx).run p.store).1] } p.channel _ [] rfl
  unfold pick
  rw [htask]
  dsimp only
  rw [List.eraseIdx_eq_take_drop_succ]
  rwa [List.append_nil] at hfile

theorem reaches_pick (ctx : LoadContext) (p : Progress) (i : Nat) :
    ReflTransGen (Step ctx) p (p.pick ctx i) := by
  cases htask : p.loader.pending[i]? with
  | none =>
      unfold pick
      rw [htask]
  | some task =>
      obtain ⟨q, hreport, hfile⟩ := @exists_steps_pick ctx p i task htask
      exact (ReflTransGen.single hreport).tail hfile

/-- The tasks may report in any order in which they are picked. -/
theorem Run.ofPicks (ctx : LoadContext) (entries : List (Option String × ModuleRef))
    (store : Store) (picks : List Nat) :
    Run ctx entries store (picks.foldl (pick ctx) (start entries store)) := by
  have hfrom (p : Progress) (h : Run ctx entries store p) :
      Run ctx entries store (picks.foldl (pick ctx) p) := by
    induction picks generalizing p with
    | nil => exact h
    | cons i picks ih => exact ih _ (h.trans (reaches_pick ctx p i))
  exact hfrom _ .refl

/-! ## First come, first served -/

/-- The loader always picks the oldest task. -/
theorem pick_zero (ctx : LoadContext) (s : Loader) (store : Store) :
    pick ctx ⟨s, store, []⟩ 0 =
      ⟨((s.step ctx).run store).1, ((s.step ctx).run store).2, []⟩ := by
  unfold pick Loader.step
  dsimp only
  cases hpending : s.pending with
  | nil => rfl
  | cons task rest => rfl

theorem reaches_loader_run (ctx : LoadContext) (limit : Nat) (s : Loader) (store : Store) :
    ReflTransGen (Step ctx) ⟨s, store, []⟩
      ⟨((s.run ctx limit).run store).1, ((s.run ctx limit).run store).2, []⟩ := by
  induction limit generalizing s store with
  | zero => exact .refl
  | succ limit ih =>
      unfold Loader.run
      split
      · exact .refl
      · have hstep := reaches_pick ctx ⟨s, store, []⟩ 0
        rw [pick_zero] at hstep
        exact hstep.trans (ih _ _)

/-! ## Schedules that end -/

/-- Steps that can be counted, of which there are at most a certain number. `taken p n` tells that a
scan has come to `p` in `n` steps. -/
structure Counted (ctx : LoadContext) (taken : Progress → Nat → Prop) (bound : Nat) : Prop where
  step {p q : Progress} {n : Nat} : taken p n → Step ctx p q → taken q (n + 1)
  le {p : Progress} {n : Nat} : taken p n → n ≤ bound
  /-- Where no message is on the way, those that are missing are still to be sent. -/
  waiting {s : Loader} {store : Store} {n : Nat} :
    taken ⟨s, store, []⟩ n → s.remaining ≠ 0 → s.pending ≠ []

namespace Counted

variable {ctx : LoadContext} {taken : Progress → Nat → Prop} {bound : Nat}

/-- No schedule goes on for ever. -/
theorem acc (h : Counted ctx taken bound) {p : Progress} {n : Nat} (hp : taken p n) :
    Acc (fun q p => Step ctx p q) p := by
  -- the steps that are left get fewer, whichever is taken
  induction hleft : bound - n using Nat.strongRecOn generalizing p n with
  | ind left ih =>
      refine Acc.intro p fun q hstep => ?_
      have hq := h.step hp hstep
      have hle := h.le hq
      exact ih (bound - (n + 1)) (by omega) hq rfl

/-- The loader, which lets the oldest task report and files its message at once, has come to the end
when there are no two steps left. -/
theorem remaining_run (h : Counted ctx taken bound) {s : Loader} {store : Store} {n : Nat}
    (hs : taken ⟨s, store, []⟩ n) {limit : Nat} (hlimit : bound ≤ n + 2 * limit) :
    ((s.run ctx limit).run store).1.remaining = 0 := by
  have hpick (s : Loader) (store : Store) (n : Nat) (hs : taken ⟨s, store, []⟩ n)
      (hremaining : s.remaining ≠ 0) :
      taken ⟨((s.step ctx).run store).1, ((s.step ctx).run store).2, []⟩ (n + 2) := by
    have hlt := List.length_pos_iff.2 (h.waiting hs hremaining)
    obtain ⟨q, hreport, hfile⟩ :=
      @exists_steps_pick ctx ⟨s, store, []⟩ 0 _ (List.getElem?_eq_getElem hlt)
    rw [pick_zero] at hfile
    exact h.step (h.step hs hreport) hfile
  induction limit generalizing s store n with
  | zero =>
      show s.remaining = 0
      by_cases hzero : s.remaining = 0
      · exact hzero
      · have hle := h.le (hpick s store n hs hzero)
        omega
  | succ limit ih =>
      unfold Loader.run
      by_cases hzero : s.remaining = 0
      · rw [if_pos hzero]
        exact hzero
      · rw [if_neg hzero]
        exact ih (hpick s store n hs hzero) (by omega)

end Counted

/-! ## What a scan answers -/

/-- The loader starts with the entries, and shows what it has come to unless a message is
missing. -/
theorem run_loadGraph (ctx : LoadContext) (limit : Nat)
    (entries : List (Option String × ModuleRef)) (store : Store) :
    ((Scan.loadGraph ctx limit entries).run store).1 =
      let s := (((Loader.start entries).1.run ctx limit).run store).1
      if s.remaining ≠ 0 then none else Scan.outcome? s (Loader.start entries).2 := rfl

/-- What `Scan.loadGraph` answers is the outcome of a complete run. -/
theorem exists_run_of_loadGraph {ctx : LoadContext} {limit : Nat}
    {entries : List (Option String × ModuleRef)} {store : Store}
    {outcome : Except (List BuildError) Graph}
    (h : ((Scan.loadGraph ctx limit entries).run store).1 = some outcome) :
    ∃ p, Run ctx entries store p ∧ p.Complete ∧ p.outcome? entries = some outcome := by
  refine ⟨_, reaches_loader_run ctx limit (Loader.start entries).1 store, ?_⟩
  rw [run_loadGraph] at h
  dsimp only at h
  split at h
  · cases h
  · next hzero =>
      refine ⟨?_, h⟩
      show (((Loader.start entries).1.run ctx limit).run store).1.remaining = 0
      omega

end Progress

end ModuleGraph
