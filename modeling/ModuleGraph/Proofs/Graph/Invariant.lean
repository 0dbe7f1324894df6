import ModuleGraph.Proofs.Graph.Ledger
import ModuleGraph.Proofs.Graph.Report
import ModuleGraph.Proofs.Graph.Schedule

/-!
# What every schedule keeps up

At any time the tasks of a scan wait, have sent their message, are done or have failed. With these
four lists a state of the scan is described without its history (`Progress.Tracked`): the ledger
holds the links of the tasks that are done, and the channel the messages of those that have sent
one. The first step lemma is for a task that reports, the second for a message that is filed.
-/

set_option autoImplicit false

namespace ModuleGraph

/-- The links that the modules of tasks bring in. -/
def Task.links (ctx : LoadContext) (tasks : List Task) : List Link :=
  tasks.flatMap fun t => (t.found ctx).map fun i => (t.target, i.target)

/-- The module of a task stands at its place, with an edge for each of its imports. -/
def Task.Filed (ctx : LoadContext) (refs : List ModuleRef) (places : List (Option Module))
    (t : Task) : Prop :=
  ∃ summary records, t.target.Loads ctx summary (t.found ctx) ∧
    List.Forall₂ (ImportRecord.Follows refs) (t.found ctx) records ∧
    places[t.idx]? =
      some (some (.loaded { t.bareModule ctx summary.hasExports with imports := records }))

/-- Who is told to have asked for a node: nobody for a target, otherwise the module from which the
first link leads to its identity. -/
inductive ModuleRef.AskedBy (ctx : LoadContext) (targets : List ModuleRef) (links : List Link)
    (r : ModuleRef) : Option String → Prop
  | target : targets.find? (fun t => t.id = r.id) = some r → AskedBy ctx targets links r none
  | link {a : ModuleRef} : (∀ t ∈ targets, t.id ≠ r.id) →
      links.find? (fun l => l.2.id = r.id) = some (a, r) →
      AskedBy ctx targets links r (some (ModuleId.stable ctx.resolver.cwd a.id))

/-- The tasks of a scan, told apart by how far they have come. -/
structure Progress.Tasks where
  sent : List Task := []
  done : List Task := []
  failed : List Task := []

/-- The tasks that do not wait any more. -/
def Progress.Tasks.reported (tasks : Progress.Tasks) : List Task :=
  tasks.sent ++ tasks.done ++ tasks.failed

/-- The number of steps in which the tasks have come so far: each reports in one, and its message is
filed in another. -/
def Progress.Tasks.steps (tasks : Progress.Tasks) : Nat :=
  tasks.sent.length + 2 * (tasks.done.length + tasks.failed.length)

/-- The state of a scan is what its tasks have made it. -/
structure Progress.Tracked (ctx : LoadContext) (targets : List ModuleRef) (p : Progress)
    (refs : List ModuleRef) (tasks : Progress.Tasks) : Prop where
  ledger : p.loader.Ledger targets (Task.links ctx tasks.done) refs tasks.reported
  store : p.store.Reflects ctx.resolver.fs
  channel : p.channel = tasks.sent.map (Task.report ctx)
  remaining : p.loader.remaining = p.loader.pending.length + tasks.sent.length
  done : ∀ t ∈ tasks.done, t.Filed ctx refs p.loader.places
  failed : ∀ t ∈ tasks.failed, ∀ summary found, ¬ t.target.Loads ctx summary found
  errors : p.loader.errors = tasks.failed.flatMap fun t => t.target.failures ctx t.owner
  warnings : p.loader.warnings = tasks.done.flatMap (Task.warnings ctx)
  owner : ∀ t ∈ p.loader.pending ++ tasks.reported,
    t.target.AskedBy ctx targets (Task.links ctx tasks.done) t.owner

section AskedBy

variable {ctx : LoadContext} {targets : List ModuleRef} {links : List Link} {r : ModuleRef}

/-- Links that are followed later are not the first to lead to a node. -/
theorem ModuleRef.AskedBy.append {owner : Option String} (h : r.AskedBy ctx targets links owner)
    (more : List Link) : r.AskedBy ctx targets (links ++ more) owner := by
  cases h with
  | target hfind => exact .target hfind
  | link hno hfind =>
      refine .link hno ?_
      rw [List.find?_append, hfind]
      rfl

/-- The first link to an identity that is new is that of the first import which leads there. -/
theorem ModuleRef.AskedBy.of_import (a : ModuleRef) {found : List ResolvedImport}
    (htargets : ∀ t ∈ targets, t.id ≠ r.id) (hlinks : ∀ l ∈ links, l.2.id ≠ r.id)
    (hfind : (found.find? fun i => i.target.id = r.id).map ResolvedImport.target = some r) :
    r.AskedBy ctx targets (links ++ found.map fun i => (a, i.target))
      (some (ModuleId.stable ctx.resolver.cwd a.id)) := by
  have hnone : links.find? (fun l => l.2.id = r.id) = none := by
    rw [List.find?_eq_none]
    exact fun l hl heq => hlinks l hl (of_decide_eq_true heq)
  obtain ⟨i, hi, htarget⟩ := Option.map_eq_some_iff.1 hfind
  have hi' : found.find? ((fun l : Link => decide (l.2.id = r.id)) ∘
      fun i : ResolvedImport => (a, i.target)) = some i := hi
  refine .link htargets ?_
  rw [List.find?_append, hnone, List.find?_map, hi', ← htarget]
  rfl

end AskedBy

namespace Progress.Tasks

variable {tasks : Tasks} {before after : List Task} {task : Task}

/-- A task whose message is filed is one of those that have reported. -/
theorem perm_reported (hsent : tasks.sent = before ++ task :: after) :
    tasks.reported.Perm (task :: (before ++ after ++ tasks.done ++ tasks.failed)) := by
  rw [reported, hsent, List.perm_iff_count]
  intro x
  simp only [List.count_append, List.count_cons]
  omega

/-- Filing the message of a task that is done does not change which have reported. -/
theorem perm_done (hsent : tasks.sent = before ++ task :: after) :
    Tasks.reported { tasks with sent := before ++ after, done := tasks.done ++ [task] } |>.Perm
      tasks.reported := by
  refine List.Perm.trans ?_ (perm_reported hsent).symm
  rw [reported, List.perm_iff_count]
  intro x
  simp only [List.count_append, List.count_cons, List.count_nil]
  omega

/-- Nor does filing that of a task that has failed. -/
theorem perm_failed (hsent : tasks.sent = before ++ task :: after) :
    Tasks.reported { tasks with sent := before ++ after, failed := tasks.failed ++ [task] } |>.Perm
      tasks.reported := by
  refine List.Perm.trans ?_ (perm_reported hsent).symm
  rw [reported, List.perm_iff_count]
  intro x
  simp only [List.count_append, List.count_cons, List.count_nil]
  omega

end Progress.Tasks

/-- Which tasks wait and which have reported may change, as long as no task is lost. -/
theorem Loader.Ledger.reorder {s : Loader} {targets : List ModuleRef} {links : List Link}
    {refs : List ModuleRef} {reported : List Task} (h : s.Ledger targets links refs reported)
    {s' : Loader} {reported' : List Task} (hplaces : s'.places = s.places)
    (hvisited : s'.visited = s.visited) (himporters : s'.importers = s.importers)
    (hperm : (s'.pending ++ reported').Perm (s.pending ++ reported)) :
    s'.Ledger targets links refs reported' where
  toIndexes := h.toIndexes.reorder hplaces hvisited hperm
  met := h.met
  targets_met := h.targets_met
  links_met := h.links_met
  isEntry t ht := h.isEntry t (hperm.mem_iff.1 ht)
  importers := himporters ▸ h.importers

/-- A module may be put in the place of a task. -/
theorem Loader.Ledger.set_place {s : Loader} {targets : List ModuleRef} {links : List Link}
    {refs : List ModuleRef} {reported : List Task} (h : s.Ledger targets links refs reported)
    {s' : Loader} {t : Task} {m : Module} (ht : t ∈ s.pending ++ reported)
    (hplaces : s'.places = s.places.set t.idx (some m)) (hvisited : s'.visited = s.visited)
    (himporters : s'.importers = s.importers) (hpending : s'.pending = s.pending) :
    s'.Ledger targets links refs reported where
  toIndexes := h.toIndexes.set_place ht hplaces hvisited hpending
  met := h.met
  targets_met := h.targets_met
  links_met := h.links_met
  isEntry := hpending ▸ h.isEntry
  importers := himporters ▸ h.importers

/-- Filing the message of a task that is done follows the links of its module, puts the module in
its place and leaves the other places as they are. -/
theorem Loader.Ledger.handle_done {s : Loader} {targets : List ModuleRef} {links : List Link}
    {refs : List ModuleRef} {reported : List Task} (h : s.Ledger targets links refs reported)
    {task : Task} (htask : task ∈ s.pending ++ reported) {m : LoadedModule}
    (hidx : m.idx = task.idx) (hid : m.id = task.target.id)
    (found : List ResolvedImport) (warnings : List Warning) :
    let s' := s.handle (.done m found warnings)
    ∃ refs' records, refs <+: refs' ∧
      s'.Ledger targets (links ++ found.map fun i => (task.target, i.target)) refs' reported ∧
      List.Forall₂ (ImportRecord.Follows refs') found records ∧
      s'.errors = s.errors ∧ s'.warnings = s.warnings ++ warnings ∧
      s'.places[task.idx]? = some (some (.loaded { m with imports := records })) ∧
      (∀ i module, task.idx ≠ i → s.places[i]? = some module → s'.places[i]? = some module) ∧
      ∃ new, s'.pending = s.pending ++ new ∧ s'.remaining = s.remaining + new.length - 1 ∧
        ∀ t ∈ new, t.owner = some m.stableId ∧ t.target.id ∉ refs.map ModuleRef.id ∧
          (found.find? fun i => i.target.id = t.target.id).map ResolvedImport.target =
            some t.target := by
  have htarget : task.target ∈ refs := List.mem_of_getElem? (h.task task htask).1
  have hwarned : Ledger { s with warnings := s.warnings ++ warnings } targets links refs reported :=
    h.reorder rfl rfl rfl (List.Perm.refl _)
  obtain ⟨refs', hpre, hledger, hrecords, herrors, hwarnings, hplaces, new, hpending,
    hremaining, hnew⟩ := hwarned.connect htarget m hid found
  generalize hconnect : Loader.connect { s with warnings := s.warnings ++ warnings } m found =
    out at hledger hrecords herrors hwarnings hplaces hpending hremaining
  -- following the links adds tasks but takes none away
  have htask' : task ∈ out.1.pending ++ reported := by
    rw [hpending]
    rcases List.mem_append.1 htask with htask | htask
    · exact List.mem_append_left _ (List.mem_append_left _ htask)
    · exact List.mem_append_right _ htask
  have hlt : task.idx < out.1.places.length :=
    hledger.toIndexes.lt_places (hledger.task task htask').1
  have hhandle : s.handle (.done m found warnings) =
      { out.1 with
        places := out.1.places.set task.idx (some (.loaded { m with imports := out.2 }))
        remaining := out.1.remaining - 1 } := by
    rw [← hconnect, ← hidx]
    rfl
  intro s'
  have hs' : s' = _ := hhandle
  rw [hs']
  refine ⟨refs', out.2, hpre, hledger.set_place htask' rfl rfl rfl rfl, hrecords, herrors,
    hwarnings, List.getElem?_set_self hlt, fun i module hne hmodule => ?_, new, hpending, ?_,
    hnew⟩
  · dsimp only
    rw [List.getElem?_set_ne hne]
    exact ModuleRef.getElem?_of_prefix hplaces hmodule
  · dsimp only
    rw [hremaining]

theorem Task.Filed.mono {ctx : LoadContext} {refs refs' : List ModuleRef}
    {places places' : List (Option Module)} {t : Task} (h : t.Filed ctx refs places)
    (hrefs : refs <+: refs') (hplace : places'[t.idx]? = places[t.idx]?) :
    t.Filed ctx refs' places' := by
  obtain ⟨summary, records, hloads, hrecords, hget⟩ := h
  refine ⟨summary, records, hloads, ?_, hplace.trans hget⟩
  exact hrecords.imp fun _ _ h => h.of_prefix hrefs

namespace Progress

variable {ctx : LoadContext} {targets : List ModuleRef} {p : Progress} {refs : List ModuleRef}
  {tasks : Tasks}

theorem tracked_start (entries : List (Option String × ModuleRef)) {store : Store}
    (hstore : store.Reflects ctx.resolver.fs) :
    ∃ refs, (start entries store).Tracked ctx (entries.map Prod.snd) refs {} ∧
      List.Forall₂ (EntryPoint.Names refs) entries (Loader.start entries).2 := by
  obtain ⟨refs, hledger, hpoints, herrors, hwarnings, hremaining, howner⟩ :=
    Loader.ledger_start entries
  refine ⟨refs, ?_, hpoints⟩
  exact
    { ledger := hledger
      store := hstore
      channel := rfl
      remaining := hremaining
      done := fun t ht => absurd ht List.not_mem_nil
      failed := fun t ht => absurd ht List.not_mem_nil
      errors := herrors
      warnings := hwarnings
      owner := by
        intro t ht
        have hmem := List.mem_of_getElem? (hledger.task t ht).1
        have ht' : t ∈ (Loader.start entries).1.pending ++ [] := ht
        rw [howner t (by rwa [List.append_nil] at ht')]
        exact .target (hledger.met _ hmem).find?_of_no_link }

variable (hfs : ctx.resolver.fs.IgnoresSpelling)
include hfs

/-- A task that reports sends what it would send alone. -/
theorem Tracked.report (h : p.Tracked ctx targets refs tasks) {before after : List Task}
    {task : Task} (hpending : p.loader.pending = before ++ task :: after) :
    Tracked ctx targets
      { loader := { p.loader with pending := before ++ after }
        store := ((task.run ctx).run p.store).2
        channel := p.channel ++ [((task.run ctx).run p.store).1] }
      refs { tasks with sent := tasks.sent ++ [task] } := by
  obtain ⟨hmessage, hstore⟩ := Task.run_eq_report hfs h.store task
  have hperm : ((before ++ after) ++
      ({ tasks with sent := tasks.sent ++ [task] } : Tasks).reported).Perm
      (p.loader.pending ++ tasks.reported) := by
    rw [hpending, List.perm_iff_count]
    intro x
    simp only [Tasks.reported, List.count_append, List.count_cons, List.count_nil]
    omega
  exact
    { ledger := h.ledger.reorder rfl rfl rfl hperm
      store := hstore
      channel := by
        rw [List.map_append, h.channel, hmessage]
        rfl
      remaining := by
        have hlength := h.remaining
        rw [hpending] at hlength
        simp only [List.length_append, List.length_cons, List.length_nil] at hlength ⊢
        omega
      done := h.done
      failed := h.failed
      errors := h.errors
      warnings := h.warnings
      owner := fun t ht => h.owner t (hperm.mem_iff.1 ht) }

omit hfs in
/-- Tasks that are done do not stand at the place of one that is not. -/
theorem Tracked.idx_ne (h : p.Tracked ctx targets refs tasks) {before after : List Task}
    {task : Task} (hsent : tasks.sent = before ++ task :: after) {t : Task} (ht : t ∈ tasks.done) :
    task.idx ≠ t.idx := by
  have hperm := ((Tasks.perm_reported hsent).append_left p.loader.pending).trans List.perm_middle
  have hnodup := (hperm.map Task.idx).nodup_iff.1 h.ledger.once
  rw [List.map_cons, List.nodup_cons] at hnodup
  intro heq
  refine hnodup.1 (heq ▸ List.mem_map_of_mem ?_)
  simp [ht]

omit hfs in
/-- Nothing has led to an identity that is new, so the module that links to it now is the first to
ask for it. -/
theorem Tracked.askedBy_of_fresh (h : p.Tracked ctx targets refs tasks) {a r : ModuleRef}
    (hfresh : r.id ∉ refs.map ModuleRef.id) {found : List ResolvedImport}
    (hfind : (found.find? fun i => i.target.id = r.id).map ResolvedImport.target = some r) :
    r.AskedBy ctx targets (Task.links ctx tasks.done ++ found.map fun i => (a, i.target))
      (some (ModuleId.stable ctx.resolver.cwd a.id)) := by
  refine .of_import a (fun x hx heq => hfresh ?_) (fun l hl heq => hfresh ?_) hfind
  · exact heq ▸ h.ledger.targets_met x hx
  · exact heq ▸ (h.ledger.links_met l hl).2

omit hfs in
/-- The message of a task that is done brings in the links of its module. -/
theorem Tracked.file_done (h : p.Tracked ctx targets refs tasks) {before after : List Task}
    {task : Task} (hsent : tasks.sent = before ++ task :: after) {summary : Script.Summary}
    {found : List ResolvedImport} (hloads : task.target.Loads ctx summary found)
    (hreport : task.report ctx =
      .done (task.bareModule ctx summary.hasExports) found (task.warnings ctx)) :
    ∃ refs', refs <+: refs' ∧
      Tracked ctx targets
        { p with
          loader := p.loader.handle (task.report ctx)
          channel := before.map (Task.report ctx) ++ after.map (Task.report ctx) }
        refs' { tasks with sent := before ++ after, done := tasks.done ++ [task] } := by
  have hfound : task.found ctx = found := by rw [Task.found, hreport]
  have hmem : task ∈ p.loader.pending ++ tasks.reported := by
    simp [Tasks.reported, hsent]
  have hlinks : Task.links ctx (tasks.done ++ [task]) =
      Task.links ctx tasks.done ++ found.map fun i => (task.target, i.target) := by
    simp [Task.links, hfound]
  obtain ⟨refs', records, hpre, hledger, hrecords, herrors, hwarnings, hplace, hplaces, new,
    hpending, hremaining, hnew⟩ := h.ledger.handle_done hmem
      (m := task.bareModule ctx summary.hasExports) rfl rfl found (task.warnings ctx)
  rw [hreport]
  refine ⟨refs', hpre, ?_⟩
  exact
    { ledger := by
        rw [hlinks]
        exact hledger.reorder rfl rfl rfl ((Tasks.perm_done hsent).append_left _)
      store := h.store
      channel := by rw [List.map_append]
      remaining := by
        have hbefore := h.remaining
        rw [hsent] at hbefore
        dsimp only
        rw [hpending, hremaining, hbefore]
        simp only [List.length_append, List.length_cons]
        omega
      done := by
        intro t ht
        rcases List.mem_append.1 ht with ht | ht
        -- the other tasks that are done keep their places
        · obtain ⟨_, _, _, _, hget⟩ := h.done t ht
          refine (h.done t ht).mono hpre ?_
          rw [hplaces _ _ (h.idx_ne hsent ht) hget, hget]
        · rw [List.mem_singleton.1 ht]
          exact ⟨summary, records, hfound ▸ hloads, hfound ▸ hrecords, hplace⟩
      failed := h.failed
      errors := by
        dsimp only
        rw [herrors]
        exact h.errors
      warnings := by
        dsimp only
        rw [hwarnings, List.flatMap_append, ← h.warnings]
        simp
      owner := by
        rw [hlinks]
        intro t ht
        have ht' := ((Tasks.perm_done hsent).append_left _).mem_iff.1 ht
        rw [hpending, List.append_assoc, List.mem_append, List.mem_append] at ht'
        rcases ht' with ht | ht | ht
        · exact (h.owner t (List.mem_append_left _ ht)).append _
        · obtain ⟨howner, hfresh, hfind⟩ := hnew t ht
          exact howner ▸ h.askedBy_of_fresh hfresh hfind
        · exact (h.owner t (List.mem_append_right _ ht)).append _ }

omit hfs in
/-- The message of a task that has failed leaves its errors. -/
theorem Tracked.file_failed (h : p.Tracked ctx targets refs tasks) {before after : List Task}
    {task : Task} (hsent : tasks.sent = before ++ task :: after)
    (hloads : ∀ summary found, ¬ task.target.Loads ctx summary found)
    (hreport : task.report ctx = .failed (task.target.failures ctx task.owner)) :
    Tracked ctx targets
      { p with
        loader := p.loader.handle (task.report ctx)
        channel := before.map (Task.report ctx) ++ after.map (Task.report ctx) }
      refs { tasks with sent := before ++ after, failed := tasks.failed ++ [task] } := by
  -- the table does not change, only the task is counted elsewhere
  have hperm := (Tasks.perm_failed hsent).append_left p.loader.pending
  rw [hreport]
  exact
    { ledger := h.ledger.reorder rfl rfl rfl hperm
      store := h.store
      channel := by rw [List.map_append]
      remaining := by
        have hbefore := h.remaining
        rw [hsent] at hbefore
        show p.loader.remaining - 1 = p.loader.pending.length + (before ++ after).length
        rw [hbefore]
        simp only [List.length_append, List.length_cons]
        omega
      done := h.done
      failed := by
        intro t ht
        rcases List.mem_append.1 ht with ht | ht
        · exact h.failed t ht
        · rw [List.mem_singleton.1 ht]
          exact hloads
      errors := by
        show p.loader.errors ++ _ = _
        rw [h.errors, List.flatMap_append, List.flatMap_singleton]
      warnings := h.warnings
      owner := fun t ht => h.owner t (hperm.mem_iff.1 ht) }

/-- Every step moves one task on. Nodes that have been met keep their places. -/
theorem Tracked.step (h : p.Tracked ctx targets refs tasks) {p' : Progress}
    (hstep : Step ctx p p') :
    ∃ refs' tasks', refs <+: refs' ∧ p'.Tracked ctx targets refs' tasks' ∧
      tasks'.steps = tasks.steps + 1 := by
  cases hstep with
  | report before task after hpending =>
      refine ⟨refs, _, List.prefix_rfl, h.report hfs hpending, ?_⟩
      simp only [Tasks.steps, List.length_append, List.length_singleton]
      omega
  | file before message after hchannel =>
      obtain ⟨sentBefore, rest, hsent, rfl, hrest⟩ :=
        List.map_eq_append_iff.1 (h.channel.symm.trans hchannel)
      obtain ⟨task, sentAfter, rfl, rfl, rfl⟩ := List.map_eq_cons_iff.1 hrest
      have hsteps : tasks.steps + 1 = (sentBefore ++ sentAfter).length +
          2 * (tasks.done.length + tasks.failed.length + 1) := by
        simp only [Tasks.steps, hsent, List.length_append, List.length_cons]
        omega
      rw [hsteps]
      rcases task.report_spec hfs with ⟨summary, found, hloads, hreport⟩ | ⟨hloads, hreport⟩
      · obtain ⟨refs', hpre, h'⟩ := h.file_done hsent hloads hreport
        refine ⟨refs', _, hpre, h', ?_⟩
        simp only [Tasks.steps, List.length_append, List.length_singleton]
        omega
      · refine ⟨refs, _, List.prefix_rfl, h.file_failed hsent hloads hreport, ?_⟩
        simp only [Tasks.steps, List.length_append, List.length_singleton]
        omega

/-- Every state a scan can come to is what its tasks have made it, and the entry points have
kept their places. -/
theorem Run.tracked {entries : List (Option String × ModuleRef)} {store : Store}
    (hstore : store.Reflects ctx.resolver.fs) (hrun : Run ctx entries store p) :
    ∃ refs tasks, p.Tracked ctx (entries.map Prod.snd) refs tasks ∧
      List.Forall₂ (EntryPoint.Names refs) entries (Loader.start entries).2 := by
  induction hrun with
  | refl =>
      obtain ⟨refs, h, hpoints⟩ := tracked_start entries hstore
      exact ⟨refs, {}, h, hpoints⟩
  | tail _ hstep ih =>
      obtain ⟨refs, tasks, h, hpoints⟩ := ih
      obtain ⟨refs', tasks', hpre, h', -⟩ := h.step hfs hstep
      exact ⟨refs', tasks', h', hpoints.imp fun _ _ hpoint => hpoint.of_prefix hpre⟩

end Progress

end ModuleGraph
