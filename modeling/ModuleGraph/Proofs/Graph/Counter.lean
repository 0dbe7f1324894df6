import ModuleGraph.Proofs.Graph.Chronicle
import ModuleGraph.Proofs.Graph.Outcome

/-!
# The counter of a loader

The counter of a loader is the number of tasks that have been started and whose messages have not
been filed. So there is a message to file as long as it is not zero, and none is left when it is.
The places of those tasks are empty, and those of tasks that have failed; a failure is never without
an error, so a loader without errors has a full table in the end.

No two tasks are for the same canonical path. If there are only finitely many of these, no scan goes
on for ever, whatever the modules import from each other.
-/

set_option autoImplicit false

namespace ModuleGraph

open Relation

namespace Chronicle

variable {ctx : LoadContext} {targets : List ModuleRef} {c d : Chronicle}
  {entries : List (Option String × ModuleRef)} {store : Store}

/-- The tasks that have been started and whose messages have not been filed. -/
def unfiled (c : Chronicle) : List Task := c.spawned.filter fun t => t ∉ c.filed.map Prod.fst

/-- The counter and the table of a loader agree with the history of its tasks. -/
structure Balanced (c : Chronicle) : Prop where
  /-- Every task has a place of its own. -/
  once : (c.spawned.map Task.idx).Nodup
  /-- A task waits, or has sent one message, which is on the way or has been filed. -/
  parts : c.spawned.Perm (c.loader.pending ++ c.reported)
  remaining : c.loader.remaining = c.unfiled.length
  /-- A message that is filed is taken from a counter that is not zero. -/
  counted : ∀ x ∈ c.sent, 0 < c.loader.remaining ∧
    ∃ new, (c.loader.handle x.2).pending = c.loader.pending ++ new ∧
      (c.loader.handle x.2).remaining + 1 = c.loader.remaining + new.length
  finished : c.loader.remaining = 0 ↔ ∀ t ∈ c.spawned, ∃ message, (t, message) ∈ c.filed
  vacant : ∀ i, c.loader.places[i]? = some none ↔ ∃ t ∈ c.spawned, t.idx = i ∧
    ((∀ message, (t, message) ∉ c.filed) ∨ ∃ errors, (t, .failed errors) ∈ c.filed)
  failures : ∀ t errors, (t, Message.failed errors) ∈ c.sent ++ c.filed → errors ≠ []
  full : c.loader.remaining = 0 → c.loader.errors = [] →
    (∀ place ∈ c.loader.places, ∃ m, place = some m) ∧
      ∃ modules, c.loader.table? = some modules ∧ modules.length = c.loader.places.length

theorem mem_failures_iff {filed : List (Task × Message)} {t : Task} :
    t ∈ failures filed ↔ ∃ errors, errors ≠ [] ∧ (t, .failed errors) ∈ filed := by
  unfold failures
  rw [List.mem_map]
  constructor
  · rintro ⟨⟨u, message⟩, hx, rfl⟩
    obtain ⟨hmem, herrors⟩ := List.mem_filter.1 hx
    have herrors := of_decide_eq_true herrors
    cases message with
    | done m imports warnings => exact absurd rfl herrors
    | failed errors => exact ⟨errors, herrors, hmem⟩
  · rintro ⟨errors, herrors, hmem⟩
    exact ⟨_, List.mem_filter.2 ⟨hmem, decide_eq_true herrors⟩, rfl⟩

theorem not_mem_filed_iff {t : Task} :
    t ∉ c.filed.map Prod.fst ↔ ∀ message, (t, message) ∉ c.filed := by
  constructor
  · intro h message hmem
    exact h (List.mem_map_of_mem hmem)
  · intro h hmem
    obtain ⟨⟨u, message⟩, hx, rfl⟩ := List.mem_map.1 hmem
    exact h message hx

namespace Kept

theorem once (h : c.Kept ctx targets) : (c.spawned.map Task.idx).Nodup := by
  obtain ⟨links, refs, hledger⟩ := h.ledger
  exact (h.spawned.map Task.idx).nodup_iff.2 hledger.once

/-- What is counted is what waits or is on the way. -/
theorem perm_unfiled (h : c.Kept ctx targets) :
    c.unfiled.Perm (c.loader.pending ++ c.sent.map Prod.fst) := by
  have hperm : c.spawned.Perm
      ((c.loader.pending ++ c.sent.map Prod.fst) ++ c.filed.map Prod.fst) := by
    rw [List.append_assoc, ← List.map_append]
    exact h.spawned
  have hnodup := hperm.nodup_iff.1 (h.once.of_map _)
  have hleft : (c.loader.pending ++ c.sent.map Prod.fst).filter
      (fun t => t ∉ c.filed.map Prod.fst) = c.loader.pending ++ c.sent.map Prod.fst := by
    rw [List.filter_eq_self]
    exact fun t ht => decide_eq_true (List.disjoint_of_nodup_append hnodup ht)
  have hright : (c.filed.map Prod.fst).filter (fun t => t ∉ c.filed.map Prod.fst) = [] := by
    rw [List.filter_eq_nil_iff]
    exact fun t ht hnot => of_decide_eq_true hnot ht
  have hfilter := hperm.filter fun t => t ∉ c.filed.map Prod.fst
  rw [List.filter_append, hleft, hright, List.append_nil] at hfilter
  exact hfilter

theorem remaining_eq (h : c.Kept ctx targets) : c.loader.remaining = c.unfiled.length := by
  rw [h.remaining, h.perm_unfiled.length_eq, List.length_append, List.length_map]

theorem remaining_le (h : c.Kept ctx targets) : c.loader.remaining ≤ c.spawned.length := by
  rw [h.remaining_eq]
  exact List.length_filter_le _ _

theorem mem_unfiled_iff {t : Task} :
    t ∈ c.unfiled ↔ t ∈ c.spawned ∧ ∀ message, (t, message) ∉ c.filed := by
  rw [unfiled, List.mem_filter, decide_eq_true_eq, not_mem_filed_iff]

theorem finished_iff (h : c.Kept ctx targets) :
    c.loader.remaining = 0 ↔ ∀ t ∈ c.spawned, ∃ message, (t, message) ∈ c.filed := by
  rw [h.remaining_eq, List.length_eq_zero_iff, List.eq_nil_iff_forall_not_mem]
  simp only [mem_unfiled_iff, not_and, not_forall, Classical.not_not]

theorem counted (h : c.Kept ctx targets) {x : Task × Message} (hx : x ∈ c.sent) :
    0 < c.loader.remaining ∧
      ∃ new, (c.loader.handle x.2).pending = c.loader.pending ++ new ∧
        (c.loader.handle x.2).remaining + 1 = c.loader.remaining + new.length := by
  have hpos : 0 < c.loader.remaining := by
    have hlength := List.length_pos_of_mem hx
    rw [h.remaining]
    omega
  obtain ⟨new, hnew, hcount⟩ := c.loader.exists_started_handle x.2
  exact ⟨hpos, new, hnew, by omega⟩

theorem failures_ne_nil (h : c.Kept ctx targets) {t : Task} {errors : List BuildError}
    (hmem : (t, Message.failed errors) ∈ c.sent ++ c.filed) : errors ≠ [] :=
  h.answers _ hmem

/-- A place is empty exactly if it is that of a task that has not reported, or has failed. -/
theorem vacant_iff (h : c.Kept ctx targets) (i : Nat) :
    c.loader.places[i]? = some none ↔ ∃ t ∈ c.spawned, t.idx = i ∧
      ((∀ message, (t, message) ∉ c.filed) ∨ ∃ errors, (t, .failed errors) ∈ c.filed) := by
  have hspawned {t : Task} {message : Message} (hmem : (t, message) ∈ c.filed) : t ∈ c.spawned := by
    refine h.spawned.mem_iff.2 (List.mem_append_right _ ?_)
    exact List.mem_map_of_mem (List.mem_append_right c.sent hmem)
  rw [h.vacant i, ← List.append_assoc]
  constructor
  · rintro ⟨t, ht, hidx⟩
    rcases List.mem_append.1 ht with ht | ht
    · obtain ⟨hmem, hnot⟩ := mem_unfiled_iff.1 (h.perm_unfiled.mem_iff.2 ht)
      exact ⟨t, hmem, hidx, Or.inl hnot⟩
    · obtain ⟨errors, -, hmem⟩ := mem_failures_iff.1 ht
      exact ⟨t, hspawned hmem, hidx, Or.inr ⟨errors, hmem⟩⟩
  · rintro ⟨t, ht, hidx, hnot | ⟨errors, hmem⟩⟩
    · have hunfiled := h.perm_unfiled.mem_iff.1 (mem_unfiled_iff.2 ⟨ht, hnot⟩)
      exact ⟨t, List.mem_append_left _ hunfiled, hidx⟩
    · have herrors := h.failures_ne_nil (List.mem_append_right c.sent hmem)
      have hfailed : t ∈ failures c.filed := mem_failures_iff.2 ⟨errors, herrors, hmem⟩
      exact ⟨t, List.mem_append_right _ hfailed, hidx⟩

/-- When all messages have been filed and none was a failure, there is a module at every place. -/
theorem full (h : c.Kept ctx targets) (hzero : c.loader.remaining = 0)
    (hok : c.loader.errors = []) :
    (∀ place ∈ c.loader.places, ∃ m, place = some m) ∧
      ∃ modules, c.loader.table? = some modules ∧ modules.length = c.loader.places.length := by
  have hplaces : ∀ place ∈ c.loader.places, ∃ m, place = some m := by
    intro place hplace
    obtain ⟨i, hi⟩ := List.mem_iff_getElem?.1 hplace
    cases place with
    | some m => exact ⟨m, rfl⟩
    | none =>
        obtain ⟨t, ht, -, hnot | ⟨errors, hmem⟩⟩ := (h.vacant_iff i).1 hi
        · obtain ⟨message, hmem⟩ := h.finished_iff.1 hzero t ht
          exact absurd hmem (hnot message)
        · have hnil := List.flatMap_eq_nil_iff.1 (h.errors.symm.trans hok) _ hmem
          exact absurd hnil (h.failures_ne_nil (List.mem_append_right c.sent hmem))
  obtain ⟨links, refs, hledger⟩ := h.ledger
  obtain ⟨modules, htable, hlength, -⟩ :=
    Loader.exists_table hplaces (hledger.importers.length.trans hledger.length.symm)
  exact ⟨hplaces, modules, htable, hlength⟩

theorem balanced (h : c.Kept ctx targets) : c.Balanced where
  once := h.once
  parts := h.spawned
  remaining := h.remaining_eq
  counted _ hx := h.counted hx
  finished := h.finished_iff
  vacant := h.vacant_iff
  failures _ _ hmem := h.failures_ne_nil hmem
  full := h.full

/-- As long as the counter is not zero there is a step to take, and none is left when it is. -/
theorem finished_iff_no_step (h : c.Kept ctx targets) :
    c.loader.remaining = 0 ↔ ∀ d, ¬ Step ctx c d := by
  have hremaining := h.remaining
  constructor
  · intro hzero d hstep
    cases hstep with
    | report before task after hpending =>
        rw [hpending, List.length_append, List.length_cons] at hremaining
        omega
    | file before task message after new hsent =>
        rw [hsent, List.length_append, List.length_cons] at hremaining
        omega
  · intro hno
    cases hpending : c.loader.pending with
    | cons task rest => exact absurd (.report c [] task rest hpending) (hno _)
    | nil =>
        cases hsent : c.sent with
        | cons x rest =>
            obtain ⟨new, hnew, -⟩ := c.loader.exists_started_handle x.2
            exact absurd (.file c [] x.1 x.2 rest new hsent hnew) (hno _)
        | nil =>
            rw [hremaining, hpending, hsent]
            rfl

/-- In the end there is an outcome, errors or a graph. -/
theorem exists_outcome (h : c.Kept ctx targets) (hzero : c.loader.remaining = 0)
    (points : List EntryPoint) : ∃ outcome, Scan.outcome? c.loader points = some outcome := by
  by_cases hok : c.loader.errors = []
  · obtain ⟨-, modules, htable, -⟩ := h.full hzero hok
    rw [Scan.outcome?, if_neg (not_not_intro hok), htable]
    exact ⟨_, rfl⟩
  · exact ⟨_, if_pos hok⟩

end Kept

/-! ## The end of a scan -/

/-- The number of steps that have been taken. -/
def steps (c : Chronicle) : Nat := c.sent.length + 2 * c.filed.length

theorem Step.steps (h : Step ctx c d) : d.steps = c.steps + 1 := by
  cases h with
  | report before task after hpending =>
      simp only [Chronicle.steps, List.length_append, List.length_singleton]
      omega
  | file before task message after new hsent hnew =>
      simp only [Chronicle.steps, hsent, List.length_append, List.length_cons, List.length_nil]
      omega

namespace Kept

/-- A task takes two steps. -/
theorem steps_le (h : c.Kept ctx targets) : c.steps ≤ 2 * c.spawned.length := by
  have hlength := h.spawned.length_eq
  rw [reported, List.length_append, List.length_map, List.length_append] at hlength
  rw [steps]
  omega

/-- There are no more tasks than canonical paths. -/
theorem length_le_ncard (h : c.Kept ctx targets)
    (htargets : ∀ r ∈ targets, r.IsCanonical ctx.resolver.fs)
    (hfinite : ctx.resolver.fs.canonicalFiles.Finite) :
    c.spawned.length ≤ ctx.resolver.fs.canonicalFiles.ncard := by
  obtain ⟨links, refs, hledger⟩ := h.ledger
  have hperm := (h.spawned.map Task.target).map ModuleRef.id
  have hcanonical : ∀ id ∈ (c.spawned.map Task.target).map ModuleRef.id,
      ∃ real ∈ ctx.resolver.fs.canonicalFiles, real.moduleId? = some id := by
    intro id hid
    obtain ⟨r, hr, rfl⟩ := List.mem_map.1 hid
    obtain ⟨t, ht, rfl⟩ := List.mem_map.1 hr
    exact h.canonical htargets t ht (hledger.task t (h.spawned.mem_iff.1 ht)).2
  have hle := FileSystem.length_le_ncard hfinite (hperm.nodup_iff.2 hledger.nodup_ids) hcanonical
  rw [List.length_map, List.length_map] at hle
  exact hle

end Kept

section Bounded

variable {bound : Nat} (hbound : ∀ c, Run ctx entries store c → c.spawned.length ≤ bound)
include hbound

/-- If the number of tasks is bounded, so is that of the steps. -/
theorem counted :
    Progress.Counted ctx (fun p n => ∃ c, Run ctx entries store c ∧ c.progress = p ∧ c.steps = n)
      (2 * bound) where
  step := by
    rintro _ q _ ⟨c, hrun, rfl, rfl⟩ hq
    obtain ⟨d, hstep, rfl⟩ := exists_step hq
    exact ⟨d, hrun.tail hstep, rfl, hstep.steps⟩
  le := by
    rintro p _ ⟨c, hrun, -, rfl⟩
    have hle := hrun.kept.steps_le
    have hspawned := hbound c hrun
    omega
  waiting := by
    rintro s state _ ⟨c, hrun, hc, -⟩ hne hpending
    obtain ⟨rfl, -, hchannel⟩ := Progress.mk.inj hc
    have hremaining := hrun.kept.remaining
    rw [hpending, List.map_eq_nil_iff.1 hchannel] at hremaining
    exact hne hremaining

/-- If the number of tasks is bounded, no scan goes on for ever. -/
theorem Run.acc (hrun : Run ctx entries store c) :
    Acc (fun q p => Progress.Step ctx p q) c.progress :=
  (counted hbound).acc ⟨c, hrun, rfl, rfl⟩

/-- With as many messages as there can be tasks, `Scan.loadGraph` answers. -/
theorem exists_loadGraph {limit : Nat} (hlimit : bound ≤ limit) :
    ∃ outcome, ((Scan.loadGraph ctx limit entries).run store).1 = some outcome := by
  have hsteps : 2 * bound ≤ (start entries store).steps + 2 * limit := by omega
  have hzero : (((Loader.start entries).1.run ctx limit).run store).1.remaining = 0 :=
    (counted hbound).remaining_run ⟨start entries store, .refl, rfl, rfl⟩ hsteps
  obtain ⟨c, hrun, hprogress⟩ :=
    run_iff.1 (Progress.reaches_loader_run ctx limit (Loader.start entries).1 store)
  have hloader : c.loader = (((Loader.start entries).1.run ctx limit).run store).1 :=
    (Progress.mk.inj hprogress).1
  rw [← hloader] at hzero
  obtain ⟨outcome, houtcome⟩ := hrun.kept.exists_outcome hzero (Loader.start entries).2
  refine ⟨outcome, ?_⟩
  rw [Progress.run_loadGraph, ← hloader]
  dsimp only
  rw [if_neg (not_not_intro hzero)]
  exact houtcome

end Bounded

/-- The counter of a loader is exact, and its loop ends with a full table or with errors.

The states that a scan can come to, whichever task reports and whichever message is filed next, are
those that have a chronicle. A task that fails has an error to tell. In every chronicle the counter
and the empty places are what the history makes them (`Balanced`), and the counter is zero exactly
if no step is left. If the canonical paths of files are finitely many, there are never more tasks
than such paths for what entries are resolved to, no scan goes on for ever, and the loader has its
outcome after as many messages.

Counter and places are natural numbers here. The counter is never more than the number of tasks, so
one of 32 bits does not overflow as long as there are fewer than `2 ^ 32` canonical paths. -/
theorem counter_is_exact (ctx : LoadContext) (entries : List (Option String × ModuleRef))
    (store : Store) :
    (∀ p, Progress.Run ctx entries store p ↔ ∃ c, Run ctx entries store c ∧ c.progress = p) ∧
    (∀ (task : Task) (earlier : Store) (errors : List BuildError),
      ((task.run ctx).run earlier).1 = .failed errors → errors ≠ []) ∧
    (∀ c, Run ctx entries store c →
      c.Balanced ∧ (c.loader.remaining = 0 ↔ ∀ d, ¬ Step ctx c d)) ∧
    (∀ requests earlier,
      entries = ((Scan.resolveEntries ctx.resolver requests).run earlier).1.1 →
      ctx.resolver.fs.canonicalFiles.Finite →
      (∀ c, Run ctx entries store c → c.loader.remaining ≤ c.spawned.length ∧
        c.spawned.length ≤ ctx.resolver.fs.canonicalFiles.ncard) ∧
      Acc (fun q p => Progress.Step ctx p q) (Progress.start entries store) ∧
      ∀ limit, ctx.resolver.fs.canonicalFiles.ncard ≤ limit →
        ∃ outcome, ((Scan.loadGraph ctx limit entries).run store).1 = some outcome) := by
  refine ⟨fun p => run_iff, ?failures, ?balanced, ?ends⟩
  case failures =>
    intro task earlier errors herrors
    have hanswers := @Task.answers_run ctx task earlier
    rw [herrors] at hanswers
    exact hanswers
  case balanced =>
    intro c hrun
    exact ⟨hrun.kept.balanced, hrun.kept.finished_iff_no_step⟩
  case ends =>
    intro requests earlier hentries hfinite
    have htargets : ∀ r ∈ entries.map Prod.snd, r.IsCanonical ctx.resolver.fs := by
      intro r hr
      obtain ⟨entry, hentry, rfl⟩ := List.mem_map.1 hr
      rw [hentries] at hentry
      exact Scan.isCanonical_of_resolveEntries ctx.resolver requests earlier entry hentry
    have hbound (c : Chronicle) (hrun : Run ctx entries store c) :
        c.spawned.length ≤ ctx.resolver.fs.canonicalFiles.ncard :=
      hrun.kept.length_le_ncard htargets hfinite
    have hstart : Run ctx entries store (start entries store) := .refl
    exact ⟨fun c hrun => ⟨hrun.kept.remaining_le, hbound c hrun⟩, hstart.acc hbound,
      fun limit hlimit => exists_loadGraph hbound hlimit⟩

end Chronicle

/-- A file system that has two modules, which import each other, and no other file. -/
def LoadContext.ofPair : LoadContext :=
  let a := FilePath.ofString "/a.mjs"
  let b := FilePath.ofString "/b.mjs"
  let fs : FileSystem :=
    { isPresent := fun path => path ∈ [a, b]
      isDir := fun _ => false
      readText := fun path => .ok (if path = a then "import './b.mjs'" else "import './a.mjs'")
      canonicalize := .ok }
  { resolver := { fs, platform := .node, conditions := .ofList [], cwd := .ofString "/" }
    summarize := Script.Summary.ofSource? }

theorem LoadContext.canonicalFiles_ofPair :
    ofPair.resolver.fs.canonicalFiles = {.ofString "/a.mjs", .ofString "/b.mjs"} := by
  ext real
  constructor
  · rintro ⟨path, hpresent, -, hreal⟩
    obtain rfl : path = real := Except.ok.inj hreal
    simpa [ofPair] using hpresent
  · intro hreal
    exact ⟨real, by simpa [ofPair] using hreal, rfl, rfl⟩

/-- Each of the two modules asks for the other one, and each is loaded once: there are never more
than two tasks, and after two messages the table is full. -/
theorem Chronicle.counter_is_exact_ofPair :
    let entries :=
      ((Scan.resolveEntries LoadContext.ofPair.resolver [⟨none, "./a.mjs"⟩]).run {}).1.1
    let a : LoadedModule :=
      { idx := 0, id := "/a.mjs", stableId := "a.mjs", format := .module, isEntry := true
        hasExports := false, imports := [⟨"./b.mjs", .importStatement, 1⟩]
        importers := ["/b.mjs"] }
    let b : LoadedModule :=
      { idx := 1, id := "/b.mjs", stableId := "b.mjs", format := .module, isEntry := false
        hasExports := false, imports := [⟨"./a.mjs", .importStatement, 0⟩]
        importers := ["/a.mjs"] }
    entries = [(none, ⟨"/a.mjs", .module, false⟩)] ∧
      (∀ c, Run .ofPair entries {} c → c.loader.remaining ≤ c.spawned.length ∧
        c.spawned.length ≤ 2) ∧
      Acc (fun q p => Progress.Step .ofPair p q) (Progress.start entries {}) ∧
      ((Scan.loadGraph .ofPair 2 entries).run {}).1 = some (.ok
        { modules := [.loaded a, .loaded b], entries := [⟨0, none⟩], warnings := [] }) := by
  intro entries a b
  have hne : FilePath.ofString "/a.mjs" ≠ FilePath.ofString "/b.mjs" := by decide
  have hncard : LoadContext.ofPair.resolver.fs.canonicalFiles.ncard = 2 := by
    rw [LoadContext.canonicalFiles_ofPair, Set.ncard_pair hne]
  have hfinite : LoadContext.ofPair.resolver.fs.canonicalFiles.Finite := by
    rw [LoadContext.canonicalFiles_ofPair]
    exact Set.toFinite _
  obtain ⟨-, -, -, hends⟩ := counter_is_exact .ofPair entries {}
  obtain ⟨hbound, hacc, -⟩ := hends [⟨none, "./a.mjs"⟩] {} rfl hfinite
  rw [hncard] at hbound
  refine ⟨by decide +kernel, hbound, hacc, ?_⟩
  have hgraph : (((Scan.loadGraph .ofPair 2 entries).run {}).1.bind Except.toOption).map
      (fun g => (g.modules, g.entries, g.warnings)) =
        some ([.loaded a, .loaded b], [⟨0, none⟩], []) := by
    decide +kernel
  obtain ⟨⟨modules, points, warnings⟩, houtcome, hparts⟩ := Scan.exists_graph_of_map hgraph
  obtain ⟨rfl, hrest⟩ := Prod.mk.inj hparts
  obtain ⟨rfl, rfl⟩ := Prod.mk.inj hrest
  exact houtcome

end ModuleGraph
