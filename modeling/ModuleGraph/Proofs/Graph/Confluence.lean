import ModuleGraph.Proofs.Graph.Closure

/-!
# Schedules agree

Two schedules number the modules differently and come to the same graph otherwise. The reason is
that a graph shows its nodes (`Graph.Shows`), and that the nodes do not depend on the schedule:
if one schedule succeeds, then whatever another one meets, the first has met too, and has loaded.
This needs that identities are *coherent*: what two imports lead to is the same node if it has
the same identity.
-/

set_option autoImplicit false

namespace ModuleGraph

/-- Two imports that lead to one identity lead to one node. -/
def LoadContext.Coherent (ctx : LoadContext) : Prop :=
  ∀ (specifier specifier' : String) (importer importer' : ModuleId) (a b : ModuleRef),
    ctx.follow specifier importer = .ok a → ctx.follow specifier' importer' = .ok b →
      a.id = b.id → a = b

/-! ## Graphs up to numbering -/

/-- The places of two graphs hold modules of the same identity. -/
def Graph.SamePlace (g h : Graph) (i j : Nat) : Prop :=
  ∃ m n, g.modules[i]? = some m ∧ h.modules[j]? = some n ∧ m.id = n.id

/-- Edges with the same text that lead to the same identity. -/
structure ImportRecord.Agrees (g h : Graph) (a b : ImportRecord) : Prop where
  specifier : a.specifier = b.specifier
  kind : a.kind = b.kind
  target : g.SamePlace h a.target b.target

/-- Loaded modules that are the same but for their places and the order of their importers. -/
structure LoadedModule.Agrees (g h : Graph) (m n : LoadedModule) : Prop where
  id : m.id = n.id
  stableId : m.stableId = n.stableId
  format : m.format = n.format
  isEntry : m.isEntry = n.isEntry
  hasExports : m.hasExports = n.hasExports
  imports : List.Forall₂ (ImportRecord.Agrees g h) m.imports n.imports
  importers : m.importers.Perm n.importers

/-- Modules that are the same but for numbering. -/
inductive Module.Agrees (g h : Graph) : Module → Module → Prop
  | loaded {m n : LoadedModule} : m.Agrees g h n → Agrees g h (.loaded m) (.loaded n)
  | external {m n : ExternalModule} : m.id = n.id → m.format = n.format →
      Agrees g h (.external m) (.external n)

/-- Graphs that are the same but for the numbering of modules and the order of warnings. -/
structure Graph.Agrees (g h : Graph) : Prop where
  nodup : (g.modules.map Module.id).Nodup
  ids : (g.modules.map Module.id).Perm (h.modules.map Module.id)
  modules : ∀ m ∈ g.modules, ∀ n ∈ h.modules, m.id = n.id → m.Agrees g h n
  entries : List.Forall₂ (fun a b => a.name = b.name ∧ g.SamePlace h a.idx b.idx)
    g.entries h.entries
  warnings : g.warnings.Perm h.warnings

/-- Scans that both fail, or both succeed with graphs that agree. -/
inductive Scan.OutcomesAgree :
    Except (List BuildError) Graph → Except (List BuildError) Graph → Prop
  | error (errors errors' : List BuildError) : OutcomesAgree (.error errors) (.error errors')
  | ok {g h : Graph} : g.Agrees h → OutcomesAgree (.ok g) (.ok h)

theorem ModuleRef.LinksTo.unique {ctx : LoadContext} (hctx : ctx.Coherent) {a a' b b' : ModuleRef}
    (h : a.LinksTo ctx b) (h' : a'.LinksTo ctx b') (hid : b.id = b'.id) : b = b' := by
  obtain ⟨_, _, f, hloads, hf, rfl⟩ := h
  obtain ⟨_, _, f', hloads', hf', rfl⟩ := h'
  obtain ⟨_, -, hresolves⟩ := exists_mem_of_forall₂_right hloads.follow hf
  obtain ⟨_, -, hresolves'⟩ := exists_mem_of_forall₂_right hloads'.follow hf'
  exact hctx _ _ _ _ _ _ hresolves.target hresolves'.target hid

variable {ctx : LoadContext} {entries : List (Option String × ModuleRef)}

/-! ## The nodes do not depend on the schedule -/

section Nodes

variable {refs refs' : List ModuleRef} {links links' : List Link} {g : Graph}

/-- A node with the identity of one that is asked for, or that an import leads to, is that
node. -/
theorem Graph.Shows.mem_of_met (hctx : ctx.Coherent) (h : g.Shows ctx entries refs links)
    (hlinks : ∀ a b, (a, b) ∈ links' → a.isExternal = false ∧ a.LinksTo ctx b) {r : ModuleRef}
    (hr : r.Met (entries.map Prod.snd) links') : r ∈ refs := by
  induction hr with
  | @target r hfind =>
      have hmem : r ∈ entries.map Prod.snd := List.mem_of_find?_eq_some hfind
      obtain ⟨e, he, rfl⟩ := List.mem_map.1 hmem
      obtain ⟨x, hx, hid⟩ := List.mem_map.1 (h.entries_met e he)
      cases h.met x hx with
      | target hfind' =>
          rw [hid, hfind] at hfind'
          exact Option.some.inj hfind' ▸ hx
      | link _ _ hno => exact absurd hid.symm (hno _ hmem)
  -- the importer is in this graph too, so it has met an end of the same identity
  | @link a b _ hl hno ih =>
      obtain ⟨hloaded, hlink⟩ := hlinks a b hl
      have hl' : (a, b) ∈ links := (h.links_iff a b).2 ⟨ih, hloaded, hlink⟩
      obtain ⟨x, hx, hid⟩ := List.mem_map.1 (h.links_met (a, b) hl')
      cases h.met x hx with
      | target hfind =>
          exact absurd hid (hno x (List.mem_of_find?_eq_some hfind))
      | link _ hl'' _ =>
          obtain ⟨-, -, hlink'⟩ := (h.links_iff _ x).1 hl''
          exact hlink'.unique hctx hlink hid ▸ hx

/-- If one schedule has succeeded, no other one comes to a node that it has not met. -/
theorem Progress.Tracked.refs_subset (hctx : ctx.Coherent) (h : g.Shows ctx entries refs links)
    {p : Progress} {tasks : Tasks}
    (h' : p.Tracked ctx (entries.map Prod.snd) refs' tasks) : refs' ⊆ refs := by
  intro r hr
  exact h.mem_of_met hctx (fun a b hl => (h'.of_mem_links hl).2) (h'.ledger.met r hr)

/-- If one schedule has succeeded, no task of any other fails. -/
theorem Progress.Tracked.errors_eq_nil (hctx : ctx.Coherent) (h : g.Shows ctx entries refs links)
    {p : Progress} {tasks : Tasks}
    (h' : p.Tracked ctx (entries.map Prod.snd) refs' tasks) : p.loader.errors = [] := by
  rw [h'.errors_eq_nil_iff, List.eq_nil_iff_forall_not_mem]
  intro t ht
  have hmem : t ∈ p.loader.pending ++ tasks.reported := by simp [Tasks.reported, ht]
  obtain ⟨hget, hloaded⟩ := h'.ledger.task t hmem
  have htarget : t.target ∈ refs := h'.refs_subset hctx h (List.mem_of_getElem? hget)
  obtain ⟨i, hi⟩ := List.mem_iff_getElem?.1 htarget
  obtain ⟨m, -, hshows⟩ := h.internal i t.target hi hloaded
  obtain ⟨summary, found, hloads, -⟩ := hshows.loads
  exact h'.failed t ht summary found hloads

end Nodes

/-! ## Graphs with the same nodes agree -/

namespace Graph.Shows

variable {refs refs' : List ModuleRef} {links links' : List Link} {g g' : Graph}

theorem mem_links_iff (h : g.Shows ctx entries refs links) (h' : g'.Shows ctx entries refs' links')
    (hrefs : ∀ r, r ∈ refs ↔ r ∈ refs') (l : Link) : l ∈ links ↔ l ∈ links' := by
  obtain ⟨a, b⟩ := l
  rw [h.links_iff, h'.links_iff, hrefs]

/-- Places of equal identities are the same place. -/
theorem samePlace (h : g.Shows ctx entries refs links) (h' : g'.Shows ctx entries refs' links')
    {i j : Nat} {r r' : ModuleRef} (hr : refs[i]? = some r) (hr' : refs'[j]? = some r')
    (hid : r.id = r'.id) : g.SamePlace g' i j := by
  obtain ⟨m, hm, -, hmid, -⟩ := h.exists_module hr
  obtain ⟨n, hn, -, hnid, -⟩ := h'.exists_module hr'
  exact ⟨m, n, hm, hn, by rw [hmid, hnid, hid]⟩

theorem loaded_agrees (h : g.Shows ctx entries refs links)
    (h' : g'.Shows ctx entries refs' links') (hrefs : ∀ r, r ∈ refs ↔ r ∈ refs') {i j : Nat}
    {r : ModuleRef} {m n : LoadedModule}
    (hm : m.Shows ctx (entries.map Prod.snd) refs links i r)
    (hn : n.Shows ctx (entries.map Prod.snd) refs' links' j r) : m.Agrees g g' n := by
  obtain ⟨summary, found, hloads, hexports, hrecords⟩ := hm.loads
  obtain ⟨summary', found', hloads', hexports', hrecords'⟩ := hn.loads
  -- both have read the same source and found the same behind its imports
  obtain ⟨rfl, rfl⟩ := hloads.unique hloads'
  exact
    { id := by rw [hm.id, hn.id]
      stableId := by rw [hm.stableId, hn.stableId]
      format := by rw [hm.format, hn.format]
      isEntry := by rw [Bool.eq_iff_iff, hm.isEntry, hn.isEntry]
      hasExports := by rw [hexports, hexports']
      imports := by
        refine forall₂_comp hrecords.flip hrecords' fun a f b ha hb => ?_
        obtain ⟨x, hx, hxid⟩ := ha.target
        obtain ⟨y, hy, hyid⟩ := hb.target
        exact ⟨ha.specifier.trans hb.specifier.symm, ha.kind.trans hb.kind.symm,
          h.samePlace h' hx hy (hxid.trans hyid.symm)⟩
      importers := by
        rw [List.perm_ext_iff_of_nodup hm.importers_nodup hn.importers_nodup]
        intro id
        rw [hm.importers, hn.importers]
        simp only [h.mem_links_iff h' hrefs] }

theorem agrees (h : g.Shows ctx entries refs links) (h' : g'.Shows ctx entries refs' links')
    (hrefs : ∀ r, r ∈ refs ↔ r ∈ refs') : g.Agrees g' := by
  have hperm : refs.Perm refs' :=
    (List.perm_ext_iff_of_nodup (h.nodup.of_map _) (h'.nodup.of_map _)).2 hrefs
  have hmodules : ∀ m ∈ g.modules, ∀ n ∈ g'.modules, m.id = n.id → m.Agrees g g' n := by
    intro m hm n hn hid
    obtain ⟨i, hi⟩ := List.mem_iff_getElem?.1 hm
    obtain ⟨j, hj⟩ := List.mem_iff_getElem?.1 hn
    obtain ⟨r, hr, -, hmid, -⟩ := h.exists_ref hi
    obtain ⟨r', hr', -, hnid, -⟩ := h'.exists_ref hj
    -- one identity stands for one node, in either graph
    have hr'mem : r' ∈ refs := (hrefs r').2 (List.mem_of_getElem? hr')
    have hids : r.id = r'.id := hmid.symm.trans (hid.trans hnid)
    obtain rfl : r = r' :=
      List.inj_on_of_nodup_map h.nodup (List.mem_of_getElem? hr) hr'mem hids
    cases hexternal : r.isExternal with
    | true =>
        obtain rfl := Option.some.inj (hi.symm.trans (h.external i r hr hexternal))
        obtain rfl := Option.some.inj (hj.symm.trans (h'.external j r hr' hexternal))
        exact .external rfl rfl
    | false =>
        obtain ⟨m', hm', hshows⟩ := h.internal i r hr hexternal
        obtain ⟨n', hn', hshows'⟩ := h'.internal j r hr' hexternal
        obtain rfl := Option.some.inj (hi.symm.trans hm')
        obtain rfl := Option.some.inj (hj.symm.trans hn')
        exact .loaded (h.loaded_agrees h' hrefs hshows hshows')
  exact
    { nodup := h.map_id ▸ h.nodup
      ids := by
        rw [h.map_id, h'.map_id]
        exact hperm.map _
      modules := hmodules
      entries := by
        refine forall₂_comp h.entries.flip h'.entries fun a e b ha hb => ?_
        obtain ⟨x, hx, hxid⟩ := ha.target
        obtain ⟨y, hy, hyid⟩ := hb.target
        exact ⟨ha.name.trans hb.name.symm, h.samePlace h' hx hy (hxid.trans hyid.symm)⟩
      warnings := by
        refine h.warnings.trans (List.Perm.trans ?_ h'.warnings.symm)
        exact (hperm.filter _).flatMap_right _ }

end Graph.Shows

/-! ## Two runs -/

/-- Where identities are coherent, complete runs agree. -/
theorem Progress.Run.agree_of_coherent (hctx : ctx.Coherent)
    (hfs : ctx.resolver.fs.IgnoresSpelling) {store store' : Store}
    (hstore : store.Reflects ctx.resolver.fs) (hstore' : store'.Reflects ctx.resolver.fs)
    {p p' : Progress} (hrun : Run ctx entries store p) (hrun' : Run ctx entries store' p')
    (hcomplete : p.Complete) (hcomplete' : p'.Complete) :
    ∃ o o', p.outcome? entries = some o ∧ p'.outcome? entries = some o' ∧
      Scan.OutcomesAgree o o' := by
  obtain ⟨refs, tasks, h, hpoints⟩ := hrun.tracked hfs hstore
  obtain ⟨refs', tasks', h', hpoints'⟩ := hrun'.tracked hfs hstore'
  have herror {p : Progress} (hsome : p.loader.errors ≠ []) :
      p.outcome? entries = some (.error p.loader.errors) := by
    rw [outcome?, Scan.outcome?, if_pos hsome]
  by_cases hok : p.loader.errors = []
  · obtain ⟨g, hg, hshows⟩ := h.exists_graph hcomplete hok hpoints
    have hok' := h'.errors_eq_nil hctx hshows
    obtain ⟨g', hg', hshows'⟩ := h'.exists_graph hcomplete' hok' hpoints'
    have hrefs (r : ModuleRef) : r ∈ refs ↔ r ∈ refs' :=
      ⟨fun hr => h.refs_subset hctx hshows' hr, fun hr => h'.refs_subset hctx hshows hr⟩
    exact ⟨_, _, hg, hg', .ok (hshows.agrees hshows' hrefs)⟩
  -- had the other one succeeded, this one would have as well
  · have hok' : p'.loader.errors ≠ [] := by
      intro hnil
      obtain ⟨g', hg', hshows'⟩ := h'.exists_graph hcomplete' hnil hpoints'
      exact hok (h.errors_eq_nil hctx hshows')
    exact ⟨_, _, herror hok, herror hok', .error _ _⟩

end ModuleGraph
