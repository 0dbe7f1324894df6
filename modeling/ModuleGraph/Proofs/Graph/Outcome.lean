import ModuleGraph.Proofs.Graph.Invariant

/-!
# What a complete scan shows

When all messages have come in and none was a failure, every node met has its module, and the
graph can be told from the nodes alone (`Graph.Shows`): the schedule is left only in their order.
-/

set_option autoImplicit false

namespace ModuleGraph

/-- An outcome is a graph if it shows something of one. -/
theorem Scan.exists_graph_of_map {β : Type} {outcome : Option (Except (List BuildError) Graph)}
    {part : Graph → β} {x : β} (h : (outcome.bind Except.toOption).map part = some x) :
    ∃ g, outcome = some (.ok g) ∧ part g = x := by
  obtain ⟨g, hg, hpart⟩ := Option.map_eq_some_iff.1 h
  obtain ⟨result, rfl, hok⟩ := Option.bind_eq_some_iff.1 hg
  cases result with
  | error errors => cases hok
  | ok g' =>
      obtain rfl : g' = g := Option.some.inj hok
      exact ⟨g', rfl, hpart⟩

/-- A link from a node to what an import of its module leads to. -/
def ModuleRef.LinksTo (ctx : LoadContext) (a b : ModuleRef) : Prop :=
  ∃ summary found i, a.Loads ctx summary found ∧ i ∈ found ∧ i.target = b

/-- The remarks of a module that is loaded from a node. -/
def ModuleRef.warnings (ctx : LoadContext) (r : ModuleRef) : List Warning :=
  if r.format = .undefined then [.unknownFormat (ModuleId.stable ctx.resolver.cwd r.id)] else []

/-- A module loaded from the node at a place. -/
structure LoadedModule.Shows (ctx : LoadContext) (targets refs : List ModuleRef)
    (links : List Link) (i : Nat) (r : ModuleRef) (m : LoadedModule) : Prop where
  idx : m.idx = i
  id : m.id = r.id
  stableId : m.stableId = ModuleId.stable ctx.resolver.cwd r.id
  format : m.format = r.format
  isEntry : m.isEntry = true ↔ ∃ t ∈ targets, t.id = r.id
  loads : ∃ summary found, r.Loads ctx summary found ∧ m.hasExports = summary.hasExports ∧
    List.Forall₂ (ImportRecord.Follows refs) found m.imports
  importers_nodup : m.importers.Nodup
  importers : ∀ id, id ∈ m.importers ↔ ∃ l ∈ links, l.1.id = id ∧ l.2.id = r.id

/-- A graph of the nodes `refs`, each at its position, for the entries. -/
structure Graph.Shows (ctx : LoadContext) (entries : List (Option String × ModuleRef))
    (refs : List ModuleRef) (links : List Link) (g : Graph) : Prop where
  length : g.modules.length = refs.length
  nodup : (refs.map ModuleRef.id).Nodup
  external : ∀ (i : Nat) (r : ModuleRef), refs[i]? = some r → r.isExternal = true →
    g.modules[i]? = some (.external ⟨i, r.id, r.format⟩)
  internal : ∀ (i : Nat) (r : ModuleRef), refs[i]? = some r → r.isExternal = false →
    ∃ m, g.modules[i]? = some (.loaded m) ∧ m.Shows ctx (entries.map Prod.snd) refs links i r
  met : ∀ r ∈ refs, r.Met (entries.map Prod.snd) links
  entries_met : ∀ e ∈ entries, e.2.id ∈ refs.map ModuleRef.id
  links_iff : ∀ a b, (a, b) ∈ links ↔ a ∈ refs ∧ a.isExternal = false ∧ a.LinksTo ctx b
  links_met : ∀ l ∈ links, l.2.id ∈ refs.map ModuleRef.id
  entries : List.Forall₂ (EntryPoint.Names refs) entries g.entries
  warnings : g.warnings.Perm
    ((refs.filter fun r => !r.isExternal).flatMap (ModuleRef.warnings ctx))

/-- A function that answers everywhere on a list answers on the list. -/
theorem exists_mapM_eq_some {α β : Type} {f : α → Option β} {xs : List α}
    (h : ∀ x ∈ xs, ∃ y, f x = some y) :
    ∃ ys, xs.mapM f = some ys ∧ List.Forall₂ (fun x y => f x = some y) xs ys := by
  induction xs with
  | nil => exact ⟨[], rfl, .nil⟩
  | cons x xs ih =>
      obtain ⟨y, hy⟩ := h x List.mem_cons_self
      obtain ⟨ys, hys, hall⟩ := ih fun x hx => h x (List.mem_cons_of_mem _ hx)
      refine ⟨y :: ys, ?_, .cons hy hall⟩
      rw [List.mapM_cons, hy, hys]
      rfl

theorem exists_getElem?_of_forall₂ {α β : Type} {R : α → β → Prop} {xs : List α} {ys : List β}
    (h : List.Forall₂ R xs ys) {i : Nat} {x : α} (hx : xs[i]? = some x) :
    ∃ y, ys[i]? = some y ∧ R x y := by
  induction h generalizing i with
  | nil => simp at hx
  | cons hxy _ ih =>
      cases i with
      | zero =>
          obtain rfl := Option.some.inj hx
          exact ⟨_, rfl, hxy⟩
      | succ i => exact ih hx

theorem nodup_eraseDups (ids : List ModuleId) : ids.eraseDups.Nodup := by
  -- what is left behind the head may be any part of the tail, so the induction is on the length
  induction hn : ids.length using Nat.strongRecOn generalizing ids with
  | _ n ih =>
      cases ids with
      | nil => exact List.nodup_nil
      | cons id rest =>
          rw [List.eraseDups_cons, List.nodup_cons]
          constructor
          · rw [List.mem_eraseDups]
            simp
          · refine ih _ ?_ _ rfl
            rw [← hn, List.length_cons]
            exact Nat.lt_succ_of_le (List.length_filter_le _ _)

/-- A loader without an empty place has a table, with the importers of every module. -/
theorem Loader.exists_table {s : Loader} (hplaces : ∀ place ∈ s.places, ∃ m, place = some m)
    (hlength : s.importers.length = s.places.length) :
    ∃ modules, s.table? = some modules ∧ modules.length = s.places.length ∧
      ∀ (i : Nat) (m : Module) (ids : List ModuleId), s.places[i]? = some (some m) →
        s.importers[i]? = some ids → modules[i]? = some (withImporters m ids) := by
  -- the table is read off place by place, and no place is empty
  let f : Option Module × List ModuleId → Option Module := fun x =>
    x.1.map fun m => withImporters m x.2
  have hsome : ∀ x ∈ s.places.zip s.importers, ∃ m, f x = some m := by
    intro x hx
    obtain ⟨m, hm⟩ := hplaces x.1 (List.of_mem_zip hx).1
    exact ⟨withImporters m x.2, by show x.1.map _ = _; rw [hm]; rfl⟩
  obtain ⟨modules, hmodules, hall⟩ := exists_mapM_eq_some hsome
  refine ⟨modules, hmodules, ?_, ?_⟩
  · rw [← hall.length_eq, List.length_zip, hlength, Nat.min_self]
  · intro i m ids hm hids
    have hzip : (s.places.zip s.importers)[i]? = some (some m, ids) := by
      rw [List.getElem?_zip_eq_some]
      exact ⟨hm, hids⟩
    obtain ⟨m', hm', hf⟩ := exists_getElem?_of_forall₂ hall hzip
    rw [hm', ← hf]
    rfl

namespace Progress

variable {ctx : LoadContext} {targets : List ModuleRef} {p : Progress} {refs : List ModuleRef}
  {tasks : Tasks}

/-- A scan has no error exactly if no task has failed. -/
theorem Tracked.errors_eq_nil_iff (h : p.Tracked ctx targets refs tasks) :
    p.loader.errors = [] ↔ tasks.failed = [] := by
  rw [h.errors, List.flatMap_eq_nil_iff]
  constructor
  · intro hnil
    rw [List.eq_nil_iff_forall_not_mem]
    intro t ht
    obtain ⟨summary, found, hloads⟩ := (ModuleRef.failures_eq_nil_iff t.owner).1 (hnil t ht)
    exact h.failed t ht summary found hloads
  · intro hnil t ht
    rw [hnil] at ht
    exact absurd ht List.not_mem_nil

/-- When all messages have come in, every task is done or has failed. -/
theorem Tracked.settled (h : p.Tracked ctx targets refs tasks) (hcomplete : p.Complete) :
    p.loader.pending ++ tasks.reported = tasks.done ++ tasks.failed := by
  have hzero : p.loader.pending.length + tasks.sent.length = 0 := h.remaining ▸ hcomplete
  have hpending : p.loader.pending = [] := List.eq_nil_of_length_eq_zero (by omega)
  have hsent : tasks.sent = [] := List.eq_nil_of_length_eq_zero (by omega)
  rw [Tasks.reported, hpending, hsent]
  rfl

theorem Tracked.task_at (h : p.Tracked ctx targets refs tasks) (hcomplete : p.Complete) {i : Nat}
    {r : ModuleRef} (hr : refs[i]? = some r) (hloaded : r.isExternal = false) :
    ∃ t ∈ tasks.done ++ tasks.failed, t.idx = i ∧ t.target = r := by
  obtain ⟨t, ht, rfl⟩ := h.ledger.internal i r hr hloaded
  have htarget := (h.ledger.task t ht).1
  rw [h.settled hcomplete] at ht
  exact ⟨t, ht, rfl, Option.some.inj (htarget.symm.trans hr)⟩

/-- If there is no error besides, the task of a node is done. -/
theorem Tracked.done_at (h : p.Tracked ctx targets refs tasks) (hcomplete : p.Complete)
    (hok : p.loader.errors = []) {i : Nat} {r : ModuleRef} (hr : refs[i]? = some r)
    (hloaded : r.isExternal = false) : ∃ t ∈ tasks.done, t.idx = i ∧ t.target = r := by
  obtain ⟨t, ht, hat⟩ := h.task_at hcomplete hr hloaded
  rw [h.errors_eq_nil_iff.1 hok, List.append_nil] at ht
  exact ⟨t, ht, hat⟩

/-- The tasks of a complete scan are those of the nodes that are loaded. -/
theorem Tracked.perm_targets (h : p.Tracked ctx targets refs tasks) (hcomplete : p.Complete) :
    ((tasks.done ++ tasks.failed).map Task.target).Perm (refs.filter fun r => !r.isExternal) := by
  have hsettled := h.settled hcomplete
  have hrefs : refs.Nodup := h.ledger.nodup.of_map _
  -- neither list repeats anything, so it is enough that they hold the same
  rw [List.perm_ext_iff_of_nodup (hsettled ▸ h.ledger.nodup_ids.of_map _) (hrefs.filter _)]
  intro r
  rw [List.mem_map, List.mem_filter]
  constructor
  · rintro ⟨t, ht, rfl⟩
    obtain ⟨hget, hloaded⟩ := h.ledger.task t (hsettled ▸ ht)
    exact ⟨List.mem_of_getElem? hget, by rw [hloaded]; rfl⟩
  · rintro ⟨hr, hloaded⟩
    obtain ⟨i, hi⟩ := List.mem_iff_getElem?.1 hr
    obtain ⟨t, ht, -, htarget⟩ := h.task_at hcomplete hi (by simpa using hloaded)
    exact ⟨t, ht, htarget⟩

/-- The links of the tasks that are done lead from nodes that are loaded to what their imports
lead to. -/
theorem Tracked.of_mem_links (h : p.Tracked ctx targets refs tasks) {a b : ModuleRef}
    (hl : (a, b) ∈ Task.links ctx tasks.done) :
    a ∈ refs ∧ a.isExternal = false ∧ a.LinksTo ctx b := by
  obtain ⟨t, ht, hl⟩ := List.mem_flatMap.1 hl
  obtain ⟨i, hi, heq⟩ := List.mem_map.1 hl
  obtain ⟨rfl, rfl⟩ := Prod.mk.inj heq
  have hmem : t ∈ p.loader.pending ++ tasks.reported := by simp [Tasks.reported, ht]
  obtain ⟨hget, hloaded⟩ := h.ledger.task t hmem
  obtain ⟨summary, _, hloads, -⟩ := h.done t ht
  exact ⟨List.mem_of_getElem? hget, hloaded, summary, _, i, hloads, hi, rfl⟩

/-- In a complete scan they are all the links of the nodes that are loaded: a module that fails
has none. -/
theorem Tracked.links_iff (h : p.Tracked ctx targets refs tasks) (hcomplete : p.Complete)
    (a b : ModuleRef) :
    (a, b) ∈ Task.links ctx tasks.done ↔ a ∈ refs ∧ a.isExternal = false ∧ a.LinksTo ctx b := by
  refine ⟨h.of_mem_links, ?_⟩
  rintro ⟨ha, hloaded, summary, found, i, hloads, hi, rfl⟩
  obtain ⟨n, hn⟩ := List.mem_iff_getElem?.1 ha
  obtain ⟨t, ht, -, rfl⟩ := h.task_at hcomplete hn hloaded
  rcases List.mem_append.1 ht with ht | ht
  · obtain ⟨summary', _, hloads', -⟩ := h.done t ht
    obtain ⟨-, rfl⟩ := hloads.unique hloads'
    exact List.mem_flatMap.2 ⟨t, ht, List.mem_map.2 ⟨i, hi, rfl⟩⟩
  · exact absurd hloads (h.failed t ht summary found)

/-- At every place there is a module, and the table has it with its importers. -/
theorem Tracked.exists_table (h : p.Tracked ctx targets refs tasks) (hcomplete : p.Complete)
    (hok : p.loader.errors = []) :
    ∃ modules, p.loader.table? = some modules ∧ modules.length = refs.length ∧
      ∀ (i : Nat) (m : Module) (ids : List ModuleId), p.loader.places[i]? = some (some m) →
        p.loader.importers[i]? = some ids → modules[i]? = some (Loader.withImporters m ids) := by
  have hplaces : ∀ place ∈ p.loader.places, ∃ m, place = some m := by
    intro place hplace
    obtain ⟨i, hi⟩ := List.mem_iff_getElem?.1 hplace
    have hlt : i < refs.length := by
      rw [← h.ledger.length]
      exact (List.getElem?_eq_some_iff.1 hi).1
    have hr : refs[i]? = some refs[i] := List.getElem?_eq_getElem hlt
    cases hexternal : refs[i].isExternal with
    | true =>
        have hget := h.ledger.external i _ hr hexternal
        exact ⟨_, Option.some.inj (hi.symm.trans hget)⟩
    | false =>
        obtain ⟨t, ht, rfl, -⟩ := h.done_at hcomplete hok hr hexternal
        obtain ⟨_, _, _, _, hget⟩ := h.done t ht
        exact ⟨_, Option.some.inj (hi.symm.trans hget)⟩
  rw [← h.ledger.length]
  exact Loader.exists_table hplaces (h.ledger.importers.length.trans h.ledger.length.symm)

/-- A complete scan without errors shows the nodes it has met. -/
theorem Tracked.exists_graph {entries : List (Option String × ModuleRef)}
    (h : p.Tracked ctx (entries.map Prod.snd) refs tasks) (hcomplete : p.Complete)
    (hok : p.loader.errors = [])
    (hpoints : List.Forall₂ (EntryPoint.Names refs) entries (Loader.start entries).2) :
    ∃ g : Graph, p.outcome? entries = some (.ok g) ∧
      g.Shows ctx entries refs (Task.links ctx tasks.done) := by
  obtain ⟨modules, htable, hlength, hmodule⟩ := h.exists_table hcomplete hok
  let g : Graph := ⟨modules, (Loader.start entries).2, p.loader.warnings⟩
  have houtcome : p.outcome? entries = some (.ok g) := by
    rw [outcome?, Scan.outcome?, if_neg (not_not_intro hok), htable]
    rfl
  refine ⟨g, houtcome, ?_⟩
  exact
    { length := hlength
      nodup := h.ledger.nodup
      external := by
        intro i r hr hexternal
        obtain ⟨ids, hids, -⟩ := h.ledger.importers.mem_iff i r hr
        exact hmodule i _ ids (h.ledger.external i r hr hexternal) hids
      internal := by
        intro i r hr hloaded
        obtain ⟨t, ht, rfl, rfl⟩ := h.done_at hcomplete hok hr hloaded
        obtain ⟨summary, records, hloads, hrecords, hget⟩ := h.done t ht
        obtain ⟨ids, hids, hmem⟩ := h.ledger.importers.mem_iff t.idx t.target hr
        have hentry := h.ledger.isEntry t (by simp [Tasks.reported, ht])
        refine ⟨_, hmodule t.idx _ ids hget hids, ?_⟩
        exact
          { idx := rfl
            id := rfl
            stableId := rfl
            format := rfl
            isEntry := hentry
            loads := ⟨summary, _, hloads, rfl, hrecords⟩
            importers_nodup := nodup_eraseDups ids
            importers := fun id => by
              rw [← hmem]
              exact List.mem_eraseDups }
      met := h.ledger.met
      entries_met := fun e he => h.ledger.targets_met e.2 (List.mem_map_of_mem he)
      links_iff := h.links_iff hcomplete
      links_met := fun l hl => (h.ledger.links_met l hl).2
      entries := hpoints
      warnings := by
        -- tasks may be done in any order, so the warnings are those of the nodes up to order
        have hmap : p.loader.warnings =
            (tasks.done.map Task.target).flatMap (ModuleRef.warnings ctx) := by
          rw [h.warnings, List.flatMap_map]
          rfl
        have hperm := h.perm_targets hcomplete
        rw [h.errors_eq_nil_iff.1 hok, List.append_nil] at hperm
        show p.loader.warnings.Perm _
        rw [hmap]
        exact hperm.flatMap_right _ }

end Progress

end ModuleGraph
