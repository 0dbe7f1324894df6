import ModuleGraph.Proofs.Graph.Answers
import ModuleGraph.Proofs.Graph.Invariant

/-!
# The chronicle of a scan

A loader counts the messages that are still to come, but does not know whose they are. A
`Chronicle` is a state of a scan together with its history: which tasks have been started, and which
task sent which message. Its steps are those of the scan, so every state that a scan can come to has
a chronicle and the other way round (`Chronicle.run_iff`). What the history tells of the counter and
of the empty places is kept up in every step (`Chronicle.Kept`), whichever it is.
-/

set_option autoImplicit false

namespace ModuleGraph

open Relation

/-! ## What is started -/

namespace Loader

/-- Visiting a node starts at most one task, and counts it. -/
theorem exists_started_visit (s : Loader) (target : ModuleRef) (owner : Option String)
    (isEntry : Bool) :
    ∃ new, (s.visit target owner isEntry).1.pending = s.pending ++ new ∧
      (s.visit target owner isEntry).1.remaining = s.remaining + new.length := by
  cases hlookup : s.visited.lookup target.id with
  | some idx =>
      rw [visit_known hlookup]
      exact ⟨[], (List.append_nil _).symm, rfl⟩
  | none =>
      cases hexternal : target.isExternal with
      | true =>
          rw [visit_external hlookup hexternal]
          exact ⟨[], (List.append_nil _).symm, rfl⟩
      | false =>
          rw [visit_internal hlookup hexternal]
          exact ⟨[_], rfl, rfl⟩

theorem exists_started_connect (s : Loader) (m : LoadedModule) (imports : List ResolvedImport) :
    ∃ new, (s.connect m imports).1.pending = s.pending ++ new ∧
      (s.connect m imports).1.remaining = s.remaining + new.length := by
  induction imports generalizing s with
  | nil => exact ⟨[], (List.append_nil _).symm, rfl⟩
  | cons i rest ih =>
      obtain ⟨first, hfirst, hcount⟩ :=
        s.exists_started_visit i.target (some m.stableId) false
      obtain ⟨others, hothers, hcounts⟩ := ih
        ((s.visit i.target (some m.stableId) false).1.addImporter
          (s.visit i.target (some m.stableId) false).2 m.id)
      refine ⟨first ++ others, ?_, ?_⟩
      · rw [← List.append_assoc, ← hfirst]
        exact hothers
      · rw [List.length_append, ← Nat.add_assoc, ← hcount]
        exact hcounts

/-- Filing a message starts tasks behind those that wait, and counts them and the message. -/
theorem exists_started_handle (s : Loader) (message : Message) :
    ∃ new, (s.handle message).pending = s.pending ++ new ∧
      (s.handle message).remaining = s.remaining + new.length - 1 := by
  cases message with
  | failed errors => exact ⟨[], (List.append_nil _).symm, rfl⟩
  | done m imports warnings =>
      obtain ⟨new, hnew, hcount⟩ :=
        exists_started_connect { s with warnings := s.warnings ++ warnings } m imports
      exact ⟨new, hnew, congrArg (· - 1) hcount⟩

/-! ## Empty places -/

/-- Exactly the places of the tasks that wait, and of the given ones, are empty. -/
def Vacant (s : Loader) (others : List Task) : Prop :=
  ∀ i, s.places[i]? = some none ↔ ∃ t ∈ s.pending ++ others, t.idx = i

namespace Vacant

variable {s s' : Loader} {others others' : List Task} {task : Task}

theorem reorder (h : s.Vacant others) (hplaces : s'.places = s.places)
    (hperm : (s'.pending ++ others').Perm (s.pending ++ others)) : s'.Vacant others' := by
  intro i
  rw [hplaces, h i]
  constructor
  · rintro ⟨t, ht, hidx⟩
    exact ⟨t, hperm.mem_iff.2 ht, hidx⟩
  · rintro ⟨t, ht, hidx⟩
    exact ⟨t, hperm.mem_iff.1 ht, hidx⟩

/-- An external node takes a place that is not empty, and any other new node an empty one, for which
there is a task. -/
theorem visit (h : s.Vacant others) (target : ModuleRef) (owner : Option String)
    (isEntry : Bool) : (s.visit target owner isEntry).1.Vacant others := by
  cases hlookup : s.visited.lookup target.id with
  | some idx =>
      rw [visit_known hlookup]
      exact h
  | none =>
      cases hexternal : target.isExternal with
      | true =>
          rw [visit_external hlookup hexternal]
          intro i
          dsimp only
          rw [ModuleRef.getElem?_concat, ← h i]
          constructor
          · rintro (hplace | ⟨-, hplace⟩)
            · exact hplace
            · cases hplace
          · exact Or.inl
      | false =>
          rw [visit_internal hlookup hexternal]
          intro i
          dsimp only
          rw [ModuleRef.getElem?_concat, h i, List.append_assoc]
          constructor
          · rintro (⟨t, ht, hidx⟩ | ⟨hi, -⟩)
            · refine ⟨t, ?_, hidx⟩
              rw [List.mem_append] at ht ⊢
              exact ht.imp_right (List.mem_append_right _)
            · exact ⟨_, List.mem_append_right _ List.mem_cons_self, hi.symm⟩
          · rintro ⟨t, ht, hidx⟩
            rw [List.mem_append, List.singleton_append, List.mem_cons] at ht
            rcases ht with ht | rfl | ht
            · exact Or.inl ⟨t, List.mem_append_left _ ht, hidx⟩
            · exact Or.inr ⟨hidx.symm, rfl⟩
            · exact Or.inl ⟨t, List.mem_append_right _ ht, hidx⟩

theorem connect (h : s.Vacant others) (m : LoadedModule) (imports : List ResolvedImport) :
    (s.connect m imports).1.Vacant others := by
  induction imports generalizing s with
  | nil => exact h
  | cons i rest ih =>
      have hvisit := h.visit i.target (some m.stableId) false
      exact ih (hvisit.reorder rfl (List.Perm.refl _))

/-- A module that is put in the place of one of the tasks takes it from the empty ones. -/
theorem set_place (h : s.Vacant (task :: others))
    (hne : ∀ t ∈ s.pending ++ others, t.idx ≠ task.idx) {m : Module}
    (hplaces : s'.places = s.places.set task.idx (some m))
    (hpending : s'.pending = s.pending) : s'.Vacant others := by
  have hmem (t : Task) : t ∈ s.pending ++ task :: others ↔ t = task ∨ t ∈ s.pending ++ others :=
    List.perm_middle.mem_iff.trans List.mem_cons
  intro i
  rw [hplaces, hpending]
  by_cases hi : task.idx = i
  · have hplace := (h i).2 ⟨task, (hmem task).2 (Or.inl rfl), hi⟩
    have hlt := (List.getElem?_eq_some_iff.1 hplace).1
    rw [hi, List.getElem?_set_self hlt]
    refine iff_of_false (by simp) ?_
    rintro ⟨t, ht, hidx⟩
    exact hne t ht (hidx.trans hi.symm)
  · rw [List.getElem?_set_ne hi, h i]
    constructor
    · rintro ⟨t, ht, hidx⟩
      rcases (hmem t).1 ht with rfl | ht
      · exact absurd hidx hi
      · exact ⟨t, ht, hidx⟩
    · rintro ⟨t, ht, hidx⟩
      exact ⟨t, (hmem t).2 (Or.inr ht), hidx⟩

/-- Filing the message of a task that is done leaves the places of the others empty, and those of
the tasks that it starts. -/
theorem handle_done (h : s.Vacant (task :: others)) {m : LoadedModule} (hidx : m.idx = task.idx)
    (imports : List ResolvedImport) (warnings : List Warning)
    (hne : ∀ t ∈ (s.handle (.done m imports warnings)).pending ++ others, t.idx ≠ task.idx) :
    (s.handle (.done m imports warnings)).Vacant others := by
  have hwarned : Vacant { s with warnings := s.warnings ++ warnings } (task :: others) :=
    h.reorder rfl (List.Perm.refl _)
  have hplaces : ∃ module, (s.handle (.done m imports warnings)).places =
      (Loader.connect { s with warnings := s.warnings ++ warnings } m imports).1.places.set
        task.idx (some module) := by
    rw [← hidx]
    exact ⟨_, rfl⟩
  obtain ⟨module, hplaces⟩ := hplaces
  exact (hwarned.connect m imports).set_place hne hplaces rfl

end Vacant

theorem vacant_start (entries : List (Option String × ModuleRef)) :
    (start entries).1.Vacant [] := by
  induction entries using List.reverseRecOn with
  | nil => exact fun i => iff_of_false (by simp [start]) (by simp [start])
  | append_singleton entries entry ih =>
      rw [start_concat]
      exact ih.visit entry.2 none true

end Loader

/-! ## Histories -/

/-- A state of a scan with its history. -/
structure Chronicle where
  loader : Loader
  store : Store
  /-- The tasks that have been started. -/
  spawned : List Task
  /-- The messages that have been sent and not been filed, each with the task that sent it. -/
  sent : List (Task × Message)
  /-- The messages that have been filed, each with the task that sent it. -/
  filed : List (Task × Message)

namespace Chronicle

/-- The state without its history. -/
def progress (c : Chronicle) : Progress :=
  { loader := c.loader, store := c.store, channel := c.sent.map Prod.snd }

/-- After the entries have been visited, tasks have been started and nothing has happened since. -/
def start (entries : List (Option String × ModuleRef)) (store : Store) : Chronicle :=
  { loader := (Loader.start entries).1
    store
    spawned := (Loader.start entries).1.pending
    sent := []
    filed := [] }

/-- One step of a scan, with what it adds to the history. -/
inductive Step (ctx : LoadContext) : Chronicle → Chronicle → Prop
  | report (c : Chronicle) (before : List Task) (task : Task) (after : List Task) :
      c.loader.pending = before ++ task :: after →
      Step ctx c
        { c with
          loader := { c.loader with pending := before ++ after }
          store := ((task.run ctx).run c.store).2
          sent := c.sent ++ [(task, ((task.run ctx).run c.store).1)] }
  | file (c : Chronicle) (before : List (Task × Message)) (task : Task) (message : Message)
      (after : List (Task × Message)) (new : List Task) :
      c.sent = before ++ (task, message) :: after →
      (c.loader.handle message).pending = c.loader.pending ++ new →
      Step ctx c
        { c with
          loader := c.loader.handle message
          spawned := c.spawned ++ new
          sent := before ++ after
          filed := c.filed ++ [(task, message)] }

/-- The chronicles of a scan of entries. -/
def Run (ctx : LoadContext) (entries : List (Option String × ModuleRef)) (store : Store)
    (c : Chronicle) : Prop :=
  ReflTransGen (Step ctx) (start entries store) c

variable {ctx : LoadContext} {entries : List (Option String × ModuleRef)} {store : Store}
  {c d : Chronicle} {p : Progress}

/-- A step of a chronicle is one of the scan. -/
theorem Step.progress (h : Step ctx c d) : Progress.Step ctx c.progress d.progress := by
  cases h with
  | report before task after hpending =>
      have hstep := @Progress.Step.report ctx c.progress before task after hpending
      simpa [Chronicle.progress] using hstep
  | file before task message after new hsent hnew =>
      have hchannel : c.progress.channel =
          before.map Prod.snd ++ message :: after.map Prod.snd := by
        show c.sent.map Prod.snd = _
        rw [hsent, List.map_append, List.map_cons]
      have hstep := @Progress.Step.file ctx c.progress _ message _ hchannel
      simpa [Chronicle.progress] using hstep

/-- Every step of the scan has its place in the chronicle. -/
theorem exists_step (h : Progress.Step ctx c.progress p) :
    ∃ d, Step ctx c d ∧ d.progress = p := by
  cases h with
  | report before task after hpending =>
      exact ⟨_, .report c before task after hpending, by simp [Chronicle.progress]⟩
  | file before message after hchannel =>
      obtain ⟨front, rest, hsent, rfl, hrest⟩ := List.map_eq_append_iff.1 hchannel
      obtain ⟨⟨task, message'⟩, back, rfl, rfl, rfl⟩ := List.map_eq_cons_iff.1 hrest
      obtain ⟨new, hnew, -⟩ := c.loader.exists_started_handle message'
      exact ⟨_, .file c front task message' back new hsent hnew, by simp [Chronicle.progress]⟩

/-- The states that a scan can come to are those that have a chronicle. -/
theorem run_iff : Progress.Run ctx entries store p ↔
    ∃ c, Run ctx entries store c ∧ c.progress = p := by
  constructor
  · intro h
    induction h with
    | refl => exact ⟨start entries store, .refl, rfl⟩
    | tail _ hstep ih =>
        obtain ⟨c, hrun, rfl⟩ := ih
        obtain ⟨d, hd, rfl⟩ := exists_step hstep
        exact ⟨d, hrun.tail hd, rfl⟩
  · rintro ⟨c, hrun, rfl⟩
    induction hrun with
    | refl => exact .refl
    | tail _ hstep ih => exact ih.tail hstep.progress

end Chronicle

/-! ## What every step keeps up -/

/-- The errors of a message. -/
def Message.errors : Message → List BuildError
  | .done .. => []
  | .failed errors => errors

namespace Chronicle

/-- The tasks that have reported. -/
def reported (c : Chronicle) : List Task := (c.sent ++ c.filed).map Prod.fst

/-- The tasks that have failed, of those whose messages have been filed. -/
def failures (filed : List (Task × Message)) : List Task :=
  (filed.filter fun x => x.2.errors ≠ []).map Prod.fst

theorem failures_subset (filed : List (Task × Message)) : failures filed ⊆ filed.map Prod.fst :=
  List.map_subset _ (List.filter_subset_self _)

/-- The history accounts for the tasks, the counter, the empty places and the errors. -/
structure Kept (ctx : LoadContext) (targets : List ModuleRef) (c : Chronicle) : Prop where
  ledger : ∃ links refs, c.loader.Ledger targets links refs c.reported
  spawned : c.spawned.Perm (c.loader.pending ++ c.reported)
  remaining : c.loader.remaining = c.loader.pending.length + c.sent.length
  vacant : c.loader.Vacant (c.sent.map Prod.fst ++ failures c.filed)
  errors : c.loader.errors = c.filed.flatMap fun x => x.2.errors
  answers : ∀ x ∈ c.sent ++ c.filed, x.2.Answers ctx.resolver.fs x.1
  canonical : (∀ r ∈ targets, r.IsCanonical ctx.resolver.fs) →
    ∀ t ∈ c.spawned, t.target.IsCanonical ctx.resolver.fs

variable {ctx : LoadContext} {targets : List ModuleRef} {c d : Chronicle}

theorem kept_start (ctx : LoadContext) (entries : List (Option String × ModuleRef))
    (store : Store) : (start entries store).Kept ctx (entries.map Prod.snd) := by
  obtain ⟨refs, hledger, -, herrors, -, hremaining, -⟩ := Loader.ledger_start entries
  exact
    { ledger := ⟨[], refs, hledger⟩
      spawned := by
        show (Loader.start entries).1.pending.Perm ((Loader.start entries).1.pending ++ [])
        rw [List.append_nil]
      remaining := hremaining
      vacant := Loader.vacant_start entries
      errors := herrors
      answers := fun x hx => absurd hx List.not_mem_nil
      canonical := by
        intro htargets t ht
        have ht' : t ∈ (Loader.start entries).1.pending ++ [] := List.mem_append_left _ ht
        have hmem := List.mem_of_getElem? (hledger.task t ht').1
        exact htargets _ (List.mem_of_find?_eq_some (hledger.met _ hmem).find?_of_no_link) }

namespace Kept

/-- A task that reports is no longer waiting, and its message is on the way. -/
theorem report (h : c.Kept ctx targets) {before after : List Task} {task : Task}
    (hpending : c.loader.pending = before ++ task :: after) :
    Kept ctx targets
      { c with
        loader := { c.loader with pending := before ++ after }
        store := ((task.run ctx).run c.store).2
        sent := c.sent ++ [(task, ((task.run ctx).run c.store).1)] } := by
  have hperm (others : List Task) :
      ((before ++ after) ++
          ((c.sent ++ [(task, ((task.run ctx).run c.store).1)]).map Prod.fst ++ others)).Perm
        (c.loader.pending ++ (c.sent.map Prod.fst ++ others)) := by
    rw [hpending, List.perm_iff_count]
    intro t
    simp only [List.map_append, List.map_cons, List.map_nil, List.count_append, List.count_cons,
      List.count_nil]
    omega
  have hreported := hperm (c.filed.map Prod.fst)
  rw [← List.map_append, ← List.map_append] at hreported
  obtain ⟨links, refs, hledger⟩ := h.ledger
  exact
    { ledger := ⟨links, refs, hledger.reorder rfl rfl rfl hreported⟩
      spawned := h.spawned.trans hreported.symm
      remaining := by
        have hlength := h.remaining
        rw [hpending] at hlength
        simp only [List.length_append, List.length_cons, List.length_nil] at hlength ⊢
        omega
      vacant := h.vacant.reorder rfl (hperm _)
      errors := h.errors
      answers := by
        intro x hx
        rw [List.append_assoc, List.mem_append, List.singleton_append, List.mem_cons] at hx
        rcases hx with hx | rfl | hx
        · exact h.answers x (List.mem_append_left _ hx)
        · exact task.answers_run c.store
        · exact h.answers x (List.mem_append_right _ hx)
      canonical := h.canonical }

section File

variable {before after : List (Task × Message)} {task : Task} {message : Message}
  {new : List Task}

/-- Filing a message does not change which have been sent. -/
theorem perm_file (hsent : c.sent = before ++ (task, message) :: after) :
    ((before ++ after) ++ (c.filed ++ [(task, message)])).Perm (c.sent ++ c.filed) := by
  rw [hsent, List.perm_iff_count]
  intro x
  simp only [List.count_append, List.count_cons, List.count_nil]
  omega

/-- The task whose message is filed is one of those whose messages are on the way. -/
theorem perm_task (hsent : c.sent = before ++ (task, message) :: after) (others : List Task) :
    (c.sent.map Prod.fst ++ others).Perm
      (task :: ((before ++ after).map Prod.fst ++ others)) := by
  rw [hsent, List.map_append, List.map_append, List.map_cons, List.append_assoc,
    List.append_assoc, List.cons_append]
  exact List.perm_middle

/-- A message that is filed is counted, whatever it is, with the tasks that it starts. -/
theorem remaining_file (h : c.Kept ctx targets)
    (hsent : c.sent = before ++ (task, message) :: after) :
    (c.loader.handle message).remaining =
      (c.loader.handle message).pending.length + (before ++ after).length := by
  obtain ⟨started, hstarted, hcount⟩ := c.loader.exists_started_handle message
  have hremaining := h.remaining
  rw [hstarted]
  rw [hsent] at hremaining
  simp only [List.length_append, List.length_cons] at hremaining ⊢
  omega

/-- The message of a task that has failed leaves its place empty. -/
theorem file_failed (h : c.Kept ctx targets) {errors : List BuildError}
    (hsent : c.sent = before ++ (task, .failed errors) :: after) :
    Kept ctx targets
      { c with
        loader := c.loader.handle (.failed errors)
        sent := before ++ after
        filed := c.filed ++ [(task, .failed errors)] } := by
  have hperm := perm_file hsent
  have hmem : (task, Message.failed errors) ∈ c.sent ++ c.filed := by simp [hsent]
  have herrors : errors ≠ [] := h.answers _ hmem
  have hfailures : failures (c.filed ++ [(task, .failed errors)]) = failures c.filed ++ [task] := by
    simp [failures, Message.errors, herrors]
  obtain ⟨links, refs, hledger⟩ := h.ledger
  have hreported := (hperm.map Prod.fst).append_left c.loader.pending
  exact
    { ledger := ⟨links, refs, hledger.reorder rfl rfl rfl hreported⟩
      spawned := h.spawned.trans hreported.symm
      remaining := h.remaining_file hsent
      vacant := by
        refine h.vacant.reorder rfl (List.Perm.append_left c.loader.pending ?_)
        rw [hfailures, ← List.append_assoc]
        exact (List.perm_append_singleton _ _).trans (perm_task hsent _).symm
      errors := by
        show c.loader.errors ++ errors = _
        rw [h.errors, List.flatMap_append, List.flatMap_singleton]
        rfl
      answers := fun x hx => h.answers x (hperm.mem_iff.1 hx)
      canonical := h.canonical }

/-- The message of a task that is done fills its place. -/
theorem file_done (h : c.Kept ctx targets) {m : LoadedModule} {imports : List ResolvedImport}
    {warnings : List Warning}
    (hsent : c.sent = before ++ (task, .done m imports warnings) :: after)
    (hnew : (c.loader.handle (.done m imports warnings)).pending = c.loader.pending ++ new) :
    Kept ctx targets
      { c with
        loader := c.loader.handle (.done m imports warnings)
        spawned := c.spawned ++ new
        sent := before ++ after
        filed := c.filed ++ [(task, .done m imports warnings)] } := by
  have hperm := perm_file hsent
  have hmem : (task, Message.done m imports warnings) ∈ c.sent ++ c.filed := by simp [hsent]
  obtain ⟨hidx, hid, himports⟩ := h.answers _ hmem
  obtain ⟨links, refs, hledger⟩ := h.ledger
  have htask : task ∈ c.loader.pending ++ c.reported :=
    List.mem_append_right _ (List.mem_map_of_mem hmem)
  obtain ⟨refs', -, -, hledger', -, herrors, -, -, -, new', hnew', -, hfresh⟩ :=
    hledger.handle_done htask hidx hid imports warnings
  obtain rfl : new' = new := List.append_cancel_left (hnew'.symm.trans hnew)
  have hfailures : failures (c.filed ++ [(task, .done m imports warnings)]) = failures c.filed := by
    simp [failures, Message.errors]
  -- the places are told apart by their tasks, and the one that is filled is no other's
  have hvacant : c.loader.Vacant
      (task :: ((before ++ after).map Prod.fst ++ failures c.filed)) :=
    h.vacant.reorder rfl ((perm_task hsent _).symm.append_left c.loader.pending)
  have hsplit : ((c.loader.handle (.done m imports warnings)).pending ++ c.reported).Perm
      (task :: ((c.loader.handle (.done m imports warnings)).pending ++
        ((before ++ after).map Prod.fst ++ c.filed.map Prod.fst))) := by
    rw [reported, List.map_append]
    exact ((perm_task hsent _).append_left _).trans List.perm_middle
  have honce := (hsplit.map Task.idx).nodup_iff.1 hledger'.once
  rw [List.map_cons, List.nodup_cons] at honce
  have hne : ∀ t ∈ (c.loader.handle (.done m imports warnings)).pending ++
      ((before ++ after).map Prod.fst ++ failures c.filed), t.idx ≠ task.idx := by
    intro t ht heq
    refine honce.1 (heq ▸ List.mem_map_of_mem ?_)
    rw [List.mem_append, List.mem_append] at ht ⊢
    exact ht.imp_right (Or.imp_right fun ht => failures_subset c.filed ht)
  exact
    { ledger := ⟨_, refs', hledger'.reorder rfl rfl rfl ((hperm.map Prod.fst).append_left _)⟩
      spawned := by
        refine (h.spawned.append_right _).trans ?_
        refine List.Perm.trans ?_ ((hperm.map Prod.fst).append_left _).symm
        rw [hnew, List.perm_iff_count]
        intro t
        simp only [reported, List.count_append]
        omega
      remaining := h.remaining_file hsent
      vacant := by
        rw [hfailures]
        exact hvacant.handle_done hidx imports warnings hne
      errors := by
        rw [herrors, h.errors, List.flatMap_append]
        simp [Message.errors]
      answers := fun x hx => h.answers x (hperm.mem_iff.1 hx)
      canonical := by
        intro htargets t ht
        rcases List.mem_append.1 ht with ht | ht
        · exact h.canonical htargets t ht
        · obtain ⟨-, -, hfind⟩ := hfresh t ht
          obtain ⟨i, hi, htarget⟩ := Option.map_eq_some_iff.1 hfind
          exact htarget ▸ himports i (List.mem_of_find?_eq_some hi) }

end File

/-- Every step keeps the account. -/
theorem step (h : c.Kept ctx targets) (hstep : Step ctx c d) : d.Kept ctx targets := by
  cases hstep with
  | report before task after hpending => exact h.report hpending
  | file before task message after new hsent hnew =>
      cases message with
      | done m imports warnings => exact h.file_done hsent hnew
      | failed errors =>
          obtain rfl : new = [] := List.self_eq_append_right.1 hnew
          rw [List.append_nil]
          exact h.file_failed hsent

end Kept

/-- In every state that a scan can come to the history accounts for it. -/
theorem Run.kept {entries : List (Option String × ModuleRef)} {store : Store}
    (hrun : Run ctx entries store c) : c.Kept ctx (entries.map Prod.snd) := by
  induction hrun with
  | refl => exact kept_start ctx entries store
  | tail _ hstep ih => exact ih.step hstep

end Chronicle

end ModuleGraph
