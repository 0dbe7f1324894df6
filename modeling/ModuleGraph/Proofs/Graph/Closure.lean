import ModuleGraph.Proofs.Graph.Outcome
import ModuleGraph.Script.Source

/-!
# The graph is the import closure

Whatever the schedule, a scan that succeeds answers the modules that can be reached from the
entries by following imports, and no others (`Graph.IsClosure`). What can be reached is told from
the graph itself: a module of the graph has the imports that are found in its text.
-/

set_option autoImplicit false

namespace ModuleGraph

namespace Graph

variable (ctx : LoadContext) (entries : List (Option String × ModuleRef)) (g : Graph)

/-- The module `m` has an import, found in its text, that leads to `ref`. -/
def Imports (m : LoadedModule) (ref : ModuleRef) : Prop :=
  ∃ summary i, ctx.scan? m.id m.format = some summary ∧ i ∈ summary.imports ∧
    ctx.follow i.specifier m.id = .ok ref

/-- The identities that can be reached from the entries through the modules of the graph. -/
inductive Reachable : ModuleId → Prop
  | entry {e : Option String × ModuleRef} : e ∈ entries → Reachable e.2.id
  | import {m : LoadedModule} {ref : ModuleRef} : Reachable m.id → .loaded m ∈ g.modules →
      Imports ctx m ref → Reachable ref.id

/-- An edge for an import found in the text of a module: it leads to the place of the module that
the import resolves to. -/
structure IsEdge (importer : ModuleId) (i : Script.Import) (record : ImportRecord) : Prop where
  specifier : record.specifier = i.specifier
  kind : record.kind = Task.kindOf i
  target : ∃ ref m, ctx.follow i.specifier importer = .ok ref ∧
    g.modules[record.target]? = some m ∧ m.id = ref.id

/-- A graph holds exactly what can be reached from the entries, with all edges between. -/
structure IsClosure : Prop where
  /-- Modules know their places. -/
  idx : ∀ (i : Nat) (m : Module), g.modules[i]? = some m → m.idx = i
  /-- No two modules have the same identity. -/
  nodup : (g.modules.map Module.id).Nodup
  byId : ∀ m ∈ g.modules, g.moduleById? m.id = some m
  reachable : ∀ id, (∃ m ∈ g.modules, m.id = id) ↔ g.Reachable ctx entries id
  /-- Every module is of the kind and format of an entry or of what an import leads to. -/
  origin : ∀ m ∈ g.modules, ∃ ref : ModuleRef,
    ref.id = m.id ∧ ref.format = m.format ∧ ref.isExternal = m.isExternal ∧
      ((∃ e ∈ entries, e.2 = ref) ∨ ∃ n, .loaded n ∈ g.modules ∧ Imports ctx n ref)
  /-- The edges of a module are its imports, one by one. -/
  imports : ∀ m, .loaded m ∈ g.modules → ∃ summary, ctx.scan? m.id m.format = some summary ∧
    m.hasExports = summary.hasExports ∧
    List.Forall₂ (g.IsEdge ctx m.id) summary.imports m.imports
  importers : ∀ m, .loaded m ∈ g.modules → m.importers.Nodup ∧
    ∀ id, id ∈ m.importers ↔
      ∃ n ∈ g.modules, n.id = id ∧ ∃ record ∈ n.imports, record.target = m.idx
  entries : List.Forall₂ (fun e point => point.name = e.1 ∧
    ∃ m, g.modules[point.idx]? = some m ∧ m.id = e.2.id) entries g.entries
  isEntry : ∀ m, .loaded m ∈ g.modules →
    (m.isEntry = true ↔ ∃ point ∈ g.entries, point.idx = m.idx)

end Graph

/-! ## Lists in step -/

section InStep

variable {α β γ : Type} {R : α → β → Prop} {xs : List α} {ys : List β}

theorem exists_mem_of_forall₂ (h : List.Forall₂ R xs ys) {x : α} (hx : x ∈ xs) :
    ∃ y ∈ ys, R x y := by
  obtain ⟨i, hi⟩ := List.mem_iff_getElem?.1 hx
  obtain ⟨y, hy, hxy⟩ := exists_getElem?_of_forall₂ h hi
  exact ⟨y, List.mem_of_getElem? hy, hxy⟩

theorem exists_mem_of_forall₂_right (h : List.Forall₂ R xs ys) {y : β} (hy : y ∈ ys) :
    ∃ x ∈ xs, R x y :=
  exists_mem_of_forall₂ h.flip hy

theorem forall₂_comp {Q : β → γ → Prop} {P : α → γ → Prop} {zs : List γ}
    (h : List.Forall₂ R xs ys) (h' : List.Forall₂ Q ys zs) (hP : ∀ x y z, R x y → Q y z → P x z) :
    List.Forall₂ P xs zs := by
  induction h generalizing zs with
  | nil =>
      cases h'
      exact .nil
  | cons hxy _ ih =>
      cases h' with
      | cons hyz h' => exact .cons (hP _ _ _ hxy hyz) (ih h')

end InStep

namespace Graph.Shows

variable {ctx : LoadContext} {entries : List (Option String × ModuleRef)} {refs : List ModuleRef}
  {links : List Link} {g : Graph}

/-- At the position of a node stands a module of its identity, format and kind. -/
theorem exists_module (h : g.Shows ctx entries refs links) {i : Nat} {r : ModuleRef}
    (hr : refs[i]? = some r) :
    ∃ m, g.modules[i]? = some m ∧ m.idx = i ∧ m.id = r.id ∧ m.format = r.format ∧
      m.isExternal = r.isExternal := by
  cases hexternal : r.isExternal with
  | true => exact ⟨_, h.external i r hr hexternal, rfl, rfl, rfl, rfl⟩
  | false =>
      obtain ⟨m, hm, hshows⟩ := h.internal i r hr hexternal
      exact ⟨_, hm, hshows.idx, hshows.id, hshows.format, rfl⟩

theorem exists_ref (h : g.Shows ctx entries refs links) {i : Nat} {m : Module}
    (hm : g.modules[i]? = some m) :
    ∃ r, refs[i]? = some r ∧ m.idx = i ∧ m.id = r.id ∧ m.format = r.format ∧
      m.isExternal = r.isExternal := by
  have hlt : i < refs.length := by
    rw [← h.length]
    exact (List.getElem?_eq_some_iff.1 hm).1
  have hr : refs[i]? = some refs[i] := List.getElem?_eq_getElem hlt
  obtain ⟨m', hm', hmodule⟩ := h.exists_module hr
  obtain rfl : m' = m := Option.some.inj (hm'.symm.trans hm)
  exact ⟨_, hr, hmodule⟩

theorem map_id (h : g.Shows ctx entries refs links) :
    g.modules.map Module.id = refs.map ModuleRef.id := by
  refine List.ext_getElem? fun i => ?_
  rw [List.getElem?_map, List.getElem?_map]
  cases hm : g.modules[i]? with
  | none =>
      have hnone : refs[i]? = none := by
        rw [List.getElem?_eq_none_iff] at hm ⊢
        rw [← h.length]
        exact hm
      rw [hnone]
      rfl
  | some m =>
      obtain ⟨r, hr, -, hid, -⟩ := h.exists_ref hm
      rw [hr]
      exact congrArg some hid

/-- What stands at the place of a loaded module was loaded from the node there. -/
theorem loaded (h : g.Shows ctx entries refs links) {m : LoadedModule}
    (hm : .loaded m ∈ g.modules) :
    ∃ i r, g.modules[i]? = some (.loaded m) ∧ refs[i]? = some r ∧ r.isExternal = false ∧
      m.Shows ctx (entries.map Prod.snd) refs links i r := by
  obtain ⟨i, hi⟩ := List.mem_iff_getElem?.1 hm
  obtain ⟨r, hr, -, -, -, hloaded⟩ := h.exists_ref hi
  obtain ⟨m', hm', hshows⟩ := h.internal i r hr hloaded.symm
  obtain rfl : m' = m := Module.loaded.inj (Option.some.inj (hm'.symm.trans hi))
  exact ⟨i, r, hi, hr, hloaded.symm, hshows⟩

/-- A link comes from an import found in the text of a module of the graph. -/
theorem exists_imports (h : g.Shows ctx entries refs links) {a b : ModuleRef}
    (hl : (a, b) ∈ links) :
    ∃ m, .loaded m ∈ g.modules ∧ m.id = a.id ∧ Imports ctx m b := by
  obtain ⟨ha, hloaded, summary, found, f, hloads, hf, rfl⟩ := (h.links_iff a b).1 hl
  obtain ⟨i, hi⟩ := List.mem_iff_getElem?.1 ha
  obtain ⟨m, hm, hshows⟩ := h.internal i a hi hloaded
  obtain ⟨s, hs, hresolves⟩ := exists_mem_of_forall₂_right hloads.follow hf
  refine ⟨m, List.mem_of_getElem? hm, hshows.id, summary, s, ?_, hs, ?_⟩
  · rw [hshows.id, hshows.format]
    exact hloads.scan
  · rw [hshows.id]
    exact hresolves.target

/-- An import found in the text of a module of the graph is a link. -/
theorem link_of_imports (h : g.Shows ctx entries refs links) {m : LoadedModule}
    (hm : .loaded m ∈ g.modules) {ref : ModuleRef} (himports : Imports ctx m ref) :
    ∃ a, a.id = m.id ∧ (a, ref) ∈ links := by
  obtain ⟨i, r, -, hr, hloaded, hshows⟩ := h.loaded hm
  obtain ⟨summary, found, hloads, -, -⟩ := hshows.loads
  obtain ⟨summary', s, hscan, hs, hfollow⟩ := himports
  rw [hshows.id, hshows.format] at hscan
  rw [hshows.id] at hfollow
  obtain rfl : summary = summary' := Option.some.inj (hloads.scan.symm.trans hscan)
  obtain ⟨f, hf, hresolves⟩ := exists_mem_of_forall₂ hloads.follow hs
  have htarget : f.target = ref := Except.ok.inj (hresolves.target.symm.trans hfollow)
  refine ⟨r, hshows.id.symm, (h.links_iff r ref).2 ⟨List.mem_of_getElem? hr, hloaded, ?_⟩⟩
  exact ⟨summary, found, f, hloads, hf, htarget⟩

/-! ## The closure -/

theorem reachable_of_met (h : g.Shows ctx entries refs links) {r : ModuleRef}
    (hr : r.Met (entries.map Prod.snd) links) : g.Reachable ctx entries r.id := by
  induction hr with
  | target hfind =>
      obtain ⟨e, he, heq⟩ := List.mem_map.1 (List.mem_of_find?_eq_some hfind)
      exact heq ▸ .entry he
  | link _ hl _ ih =>
      obtain ⟨m, hm, hid, himports⟩ := h.exists_imports hl
      exact .import (hid ▸ ih) hm himports

theorem mem_of_reachable (h : g.Shows ctx entries refs links) {id : ModuleId}
    (hid : g.Reachable ctx entries id) : id ∈ refs.map ModuleRef.id := by
  cases hid with
  | entry he => exact h.entries_met _ he
  | «import» _ hm himports =>
      obtain ⟨a, -, hl⟩ := h.link_of_imports hm himports
      exact h.links_met _ hl

theorem imports_eq (h : g.Shows ctx entries refs links) {m : LoadedModule}
    (hm : .loaded m ∈ g.modules) :
    ∃ summary, ctx.scan? m.id m.format = some summary ∧ m.hasExports = summary.hasExports ∧
      List.Forall₂ (g.IsEdge ctx m.id) summary.imports m.imports := by
  obtain ⟨i, r, -, hr, hloaded, hshows⟩ := h.loaded hm
  obtain ⟨summary, found, hloads, hexports, hrecords⟩ := hshows.loads
  refine ⟨summary, ?_, hexports, forall₂_comp hloads.follow hrecords ?_⟩
  · rw [hshows.id, hshows.format]
    exact hloads.scan
  · intro s f record hresolves hfollows
    obtain ⟨x, hx, hid⟩ := hfollows.target
    obtain ⟨n, hn, -, hnid, -⟩ := h.exists_module hx
    refine ⟨hfollows.specifier.trans hresolves.specifier, hfollows.kind.trans hresolves.kind,
      f.target, n, ?_, hn, hnid.trans hid⟩
    rw [hshows.id]
    exact hresolves.target

theorem mem_importers_iff (h : g.Shows ctx entries refs links) {m : LoadedModule}
    (hm : .loaded m ∈ g.modules) (id : ModuleId) :
    id ∈ m.importers ↔
      ∃ n ∈ g.modules, n.id = id ∧ ∃ record ∈ n.imports, record.target = m.idx := by
  obtain ⟨i, r, -, hr, -, hshows⟩ := h.loaded hm
  rw [hshows.importers, hshows.idx]
  constructor
  · rintro ⟨⟨a, b⟩, hl, rfl, hb⟩
    obtain ⟨ha, hloaded, summary, found, f, hloads, hf, rfl⟩ := (h.links_iff a b).1 hl
    obtain ⟨j, hj⟩ := List.mem_iff_getElem?.1 ha
    obtain ⟨n, hn, hnshows⟩ := h.internal j a hj hloaded
    -- a module loads in one way only, so the import is among those of its records
    obtain ⟨_, found', hloads', -, hrecords⟩ := hnshows.loads
    obtain ⟨-, rfl⟩ := hloads.unique hloads'
    obtain ⟨record, hrecord, hfollows⟩ := exists_mem_of_forall₂ hrecords hf
    obtain ⟨x, hx, hxid⟩ := hfollows.target
    refine ⟨_, List.mem_of_getElem? hn, hnshows.id, record, hrecord, ?_⟩
    exact ModuleRef.idx_unique h.nodup hx hr (hxid.trans hb)
  · rintro ⟨n, hn, rfl, record, hrecord, htarget⟩
    cases n with
    | external n => exact absurd hrecord List.not_mem_nil
    | loaded n =>
        obtain ⟨j, a, -, hj, hloaded, hnshows⟩ := h.loaded hn
        obtain ⟨summary, found, hloads, -, hrecords⟩ := hnshows.loads
        obtain ⟨f, hf, hfollows⟩ := exists_mem_of_forall₂_right hrecords hrecord
        obtain ⟨x, hx, hxid⟩ := hfollows.target
        obtain rfl : x = r := by
          rw [htarget] at hx
          exact Option.some.inj (hx.symm.trans hr)
        refine ⟨(a, f.target), ?_, hnshows.id.symm, hxid.symm⟩
        exact (h.links_iff a f.target).2
          ⟨List.mem_of_getElem? hj, hloaded, summary, found, f, hloads, hf, rfl⟩

theorem isEntry_iff (h : g.Shows ctx entries refs links) {m : LoadedModule}
    (hm : .loaded m ∈ g.modules) :
    m.isEntry = true ↔ ∃ point ∈ g.entries, point.idx = m.idx := by
  obtain ⟨i, r, -, hr, -, hshows⟩ := h.loaded hm
  rw [hshows.isEntry, hshows.idx]
  constructor
  · rintro ⟨t, ht, hid⟩
    obtain ⟨e, he, rfl⟩ := List.mem_map.1 ht
    obtain ⟨point, hpoint, hnames⟩ := exists_mem_of_forall₂ h.entries he
    obtain ⟨x, hx, hxid⟩ := hnames.target
    exact ⟨point, hpoint, ModuleRef.idx_unique h.nodup hx hr (hxid.trans hid)⟩
  · rintro ⟨point, hpoint, rfl⟩
    obtain ⟨e, he, hnames⟩ := exists_mem_of_forall₂_right h.entries hpoint
    obtain ⟨x, hx, hxid⟩ := hnames.target
    obtain rfl : x = r := Option.some.inj (hx.symm.trans hr)
    exact ⟨e.2, List.mem_map_of_mem he, hxid.symm⟩

theorem origin (h : g.Shows ctx entries refs links) {m : Module} (hm : m ∈ g.modules) :
    ∃ ref : ModuleRef, ref.id = m.id ∧ ref.format = m.format ∧ ref.isExternal = m.isExternal ∧
      ((∃ e ∈ entries, e.2 = ref) ∨ ∃ n, .loaded n ∈ g.modules ∧ Imports ctx n ref) := by
  obtain ⟨i, hi⟩ := List.mem_iff_getElem?.1 hm
  obtain ⟨r, hr, -, hid, hformat, hexternal⟩ := h.exists_ref hi
  refine ⟨r, hid.symm, hformat.symm, hexternal.symm, ?_⟩
  cases h.met r (List.mem_of_getElem? hr) with
  | target hfind =>
      obtain ⟨e, he, heq⟩ := List.mem_map.1 (List.mem_of_find?_eq_some hfind)
      exact Or.inl ⟨e, he, heq⟩
  | link _ hl _ =>
      obtain ⟨n, hn, -, himports⟩ := h.exists_imports hl
      exact Or.inr ⟨n, hn, himports⟩

theorem isClosure (h : g.Shows ctx entries refs links) : g.IsClosure ctx entries := by
  have hnodup : (g.modules.map Module.id).Nodup := h.map_id ▸ h.nodup
  exact
    { idx := fun i m hm => by
        obtain ⟨_, _, hidx, -⟩ := h.exists_ref hm
        exact hidx
      nodup := hnodup
      byId := by
        intro m hm
        unfold moduleById?
        cases hfind : g.modules.find? fun n => n.id = m.id with
        | none =>
            rw [List.find?_eq_none] at hfind
            exact absurd (decide_eq_true rfl) (hfind m hm)
        -- identities are not repeated, so what is found first is the module itself
        | some n =>
            have hid : n.id = m.id := by
              have hsome := List.find?_some hfind
              exact of_decide_eq_true hsome
            exact congrArg some
              (List.inj_on_of_nodup_map hnodup (List.mem_of_find?_eq_some hfind) hm hid)
      reachable := by
        intro id
        constructor
        · rintro ⟨m, hm, rfl⟩
          obtain ⟨i, hi⟩ := List.mem_iff_getElem?.1 hm
          obtain ⟨r, hr, -, hid, -⟩ := h.exists_ref hi
          exact hid ▸ h.reachable_of_met (h.met r (List.mem_of_getElem? hr))
        · intro hid
          have hmem := h.mem_of_reachable hid
          rw [← h.map_id] at hmem
          obtain ⟨m, hm, rfl⟩ := List.mem_map.1 hmem
          exact ⟨m, hm, rfl⟩
      origin := fun m hm => h.origin hm
      imports := fun m hm => h.imports_eq hm
      importers := fun m hm => by
        obtain ⟨_, _, -, -, -, hshows⟩ := h.loaded hm
        exact ⟨hshows.importers_nodup, h.mem_importers_iff hm⟩
      entries := h.entries.imp fun e point hnames => by
        obtain ⟨r, hr, hid⟩ := hnames.target
        obtain ⟨m, hm, -, hmid, -⟩ := h.exists_module hr
        exact ⟨hnames.name, m, hm, hmid.trans hid⟩
      isEntry := fun m hm => h.isEntry_iff hm }

end Graph.Shows

/-- In whatever order tasks report and messages are filed: when a scan has come to its end and
answers a graph, the graph is the import closure of the entries. -/
theorem Progress.Run.graph_isClosure {ctx : LoadContext} (hfs : ctx.resolver.fs.IgnoresSpelling)
    {entries : List (Option String × ModuleRef)} {store : Store}
    (hstore : store.Reflects ctx.resolver.fs) {p : Progress} (hrun : Run ctx entries store p)
    (hcomplete : p.Complete) {g : Graph} (hok : p.outcome? entries = some (.ok g)) :
    g.IsClosure ctx entries := by
  obtain ⟨refs, tasks, htracked, hpoints⟩ := hrun.tracked hfs hstore
  have herrors : p.loader.errors = [] := by
    by_contra hsome
    rw [outcome?, Scan.outcome?, if_pos hsome] at hok
    cases hok
  obtain ⟨g', hg', hshows⟩ := htracked.exists_graph hcomplete herrors hpoints
  obtain rfl : g' = g := Except.ok.inj (Option.some.inj (hg'.symm.trans hok))
  exact hshows.isClosure

/-- Two modules that import each other, and one of them a module of the platform. -/
def LoadContext.ofCycle : LoadContext :=
  let tree : Tree :=
    ⟨[([Text.utf8 "a.mjs"],
        .file { content := .ok (Text.utf8 "import './b.mjs'; import 'node:fs'; export {}") }),
      ([Text.utf8 "b.mjs"], .file { content := .ok (Text.utf8 "import './a.mjs'") })]⟩
  { resolver :=
      { fs := tree.fileSystem, platform := .node, conditions := .ofList [], cwd := .ofString "/" }
    summarize := Script.Summary.ofSource? }

theorem Progress.Run.graph_isClosure_ofCycle :
    ∃ g : Graph, g.modules.map Module.id = ["/a.mjs", "/b.mjs", "node:fs"] ∧
      g.IsClosure .ofCycle [(none, ⟨"/a.mjs", .module, false⟩)] := by
  have hload : (((Scan.loadGraph .ofCycle 2 [(none, ⟨"/a.mjs", .module, false⟩)]).run {}).1.bind
      Except.toOption).map (fun g => g.modules.map Module.id) =
        some ["/a.mjs", "/b.mjs", "node:fs"] := by
    decide +kernel
  obtain ⟨g, houtcome, hids⟩ := Scan.exists_graph_of_map hload
  obtain ⟨p, hrun, hcomplete, hp⟩ := exists_run_of_loadGraph houtcome
  exact ⟨g, hids, hrun.graph_isClosure (Tree.fileSystem_ignoresSpelling _) Store.reflects_empty
    hcomplete hp⟩

end ModuleGraph
