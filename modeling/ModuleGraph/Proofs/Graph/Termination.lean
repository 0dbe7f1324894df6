import ModuleGraph.Proofs.Graph.Reach
import Mathlib.Data.List.Perm.Subperm

/-!
# Scans come to an end

A task moves on in every step, and no identity has more than one. So if only finitely many modules
can be reached, no schedule goes on for ever, and as long as a message is missing there is a step
to take: every schedule comes to the point where all messages have come in. First come, first
served gets there with as many tasks as there are modules.
-/

set_option autoImplicit false

namespace ModuleGraph.Progress

variable {ctx : LoadContext} {targets : List ModuleRef} {p : Progress} {refs : List ModuleRef}
  {tasks : Tasks} {ids : List ModuleId}

namespace Tracked

/-- As long as a message is missing, a task can report or a message can be filed. -/
theorem complete_or_exists_step (h : p.Tracked ctx targets refs tasks) :
    p.Complete ∨ ∃ p', Step ctx p p' := by
  cases hpending : p.loader.pending with
  | cons task rest => exact Or.inr ⟨_, .report p [] task rest hpending⟩
  | nil =>
      cases hsent : tasks.sent with
      | cons task rest =>
          have hchannel : p.channel = [] ++ task.report ctx :: rest.map (Task.report ctx) := by
            rw [h.channel, hsent]
            rfl
          exact Or.inr ⟨_, .file p _ _ _ hchannel⟩
      | nil =>
          have hremaining := h.remaining
          rw [hpending, hsent] at hremaining
          exact Or.inl hremaining

variable (hids : ∀ r : ModuleRef, r.Reached ctx targets → r.isExternal = false → r.id ∈ ids)
include hids

/-- There are no more tasks than modules that can be reached. -/
theorem length_le (h : p.Tracked ctx targets refs tasks) :
    p.loader.pending.length + tasks.sent.length + tasks.done.length + tasks.failed.length ≤
      ids.length := by
  have hsub : ((p.loader.pending ++ tasks.reported).map Task.target).map ModuleRef.id ⊆ ids := by
    intro id hid
    obtain ⟨r, hr, rfl⟩ := List.mem_map.1 hid
    obtain ⟨t, ht, rfl⟩ := List.mem_map.1 hr
    obtain ⟨hget, hloaded⟩ := h.ledger.task t ht
    exact hids _ (h.reached (List.mem_of_getElem? hget)) hloaded
  have hle := (h.ledger.nodup_ids.subperm hsub).length_le
  simp only [Tasks.reported, List.length_map, List.length_append] at hle
  omega

variable (hfs : ctx.resolver.fs.IgnoresSpelling)
include hfs

/-- Each task moves on twice, and there are no more tasks than modules that can be reached. -/
theorem counted :
    Counted ctx (fun p n => ∃ refs tasks, p.Tracked ctx targets refs tasks ∧ tasks.steps = n)
      (2 * ids.length) where
  step := by
    rintro p q _ ⟨refs, tasks, h, rfl⟩ hstep
    obtain ⟨refs', tasks', -, h', hsteps⟩ := h.step hfs hstep
    exact ⟨refs', tasks', h', hsteps⟩
  le := by
    rintro p _ ⟨refs, tasks, h, rfl⟩
    have hle := h.length_le hids
    rw [Tasks.steps]
    omega
  waiting := by
    rintro s store _ ⟨refs, tasks, h, -⟩ hne hpending
    have hremaining : s.remaining = s.pending.length + tasks.sent.length := h.remaining
    have hsent : tasks.sent = [] := List.map_eq_nil_iff.1 h.channel.symm
    rw [hpending, hsent] at hremaining
    exact hne hremaining

/-- No schedule goes on for ever. -/
theorem acc (h : p.Tracked ctx targets refs tasks) : Acc (fun q p => Step ctx p q) p :=
  (counted hids hfs).acc ⟨refs, tasks, h, rfl⟩

/-- The loader, which lets the oldest task report and files its message at once, has come to the end
when it has done so for every module that can be reached. -/
theorem remaining_run {s : Loader} {store : Store}
    (h : Tracked ctx targets ⟨s, store, []⟩ refs tasks) {limit : Nat}
    (hlimit : 2 * ids.length ≤ tasks.steps + 2 * limit) :
    ((s.run ctx limit).run store).1.remaining = 0 :=
  (counted hids hfs).remaining_run ⟨refs, tasks, h, rfl⟩ hlimit

omit hids hfs in
/-- A complete scan shows a graph if no task has failed, and errors otherwise. -/
theorem outcome_eq {entries : List (Option String × ModuleRef)}
    (h : p.Tracked ctx (entries.map Prod.snd) refs tasks) (hcomplete : p.Complete)
    (hpoints : List.Forall₂ (EntryPoint.Names refs) entries (Loader.start entries).2) :
    (tasks.failed = [] → ∃ g, p.outcome? entries = some (.ok g)) ∧
      (tasks.failed ≠ [] → p.outcome? entries = some (.error p.loader.errors)) := by
  rw [← h.errors_eq_nil_iff, Ne, ← h.errors_eq_nil_iff]
  constructor
  · intro hok
    obtain ⟨g, hg, -⟩ := h.exists_graph hcomplete hok hpoints
    exact ⟨g, hg⟩
  · intro hsome
    rw [outcome?, Scan.outcome?, if_pos hsome]

end Tracked

/-- With a task for every module that can be reached, `Scan.loadGraph` answers. -/
theorem exists_loadGraph (hfs : ctx.resolver.fs.IgnoresSpelling) {store : Store}
    (hstore : store.Reflects ctx.resolver.fs) {entries : List (Option String × ModuleRef)}
    (hids : ∀ r : ModuleRef, r.Reached ctx (entries.map Prod.snd) → r.isExternal = false →
      r.id ∈ ids)
    {limit : Nat} (hlimit : ids.length ≤ limit) :
    ∃ outcome, ((Scan.loadGraph ctx limit entries).run store).1 = some outcome := by
  obtain ⟨_, hstart, -⟩ := tracked_start entries hstore
  have hsteps : 2 * ids.length ≤ ({} : Tasks).steps + 2 * limit := by omega
  have hcomplete := hstart.remaining_run hids hfs hsteps
  have hrun : Run ctx entries store _ :=
    reaches_loader_run ctx limit (Loader.start entries).1 store
  obtain ⟨_, tasks, h, hpoints⟩ := hrun.tracked hfs hstore
  obtain ⟨hok, hsome⟩ := h.outcome_eq hcomplete hpoints
  rw [run_loadGraph]
  dsimp only
  rw [if_neg (not_not_intro hcomplete)]
  by_cases hfailed : tasks.failed = []
  · obtain ⟨g, hg⟩ := hok hfailed
    exact ⟨_, hg⟩
  · exact ⟨_, hsome hfailed⟩

end ModuleGraph.Progress
