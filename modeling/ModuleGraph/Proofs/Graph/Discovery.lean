import ModuleGraph.Proofs.Graph.BreadthFirst
import ModuleGraph.Proofs.Graph.Counter
import ModuleGraph.Proofs.Graph.Entries
import ModuleGraph.Script.Source

/-!
# The order of discovery

When messages are filed in the order in which tasks have been started, the table of a scan is
numbered breadth first. What the loader has asked for and which arrows it has followed is told by
the messages that have been filed (`Chronicle.Recounts`), in whatever order this was. The tasks have
ascending places, so messages in the order of the tasks tell the modules in the order of the table
(`Chronicle.Tells`). The loader files the message of the oldest task, which is this order.
-/

set_option autoImplicit false

namespace ModuleGraph

/-! ## What messages ask for -/

/-- The identities of what a message imports, in source order. -/
def Message.targets : Message → List ModuleId
  | .done _ imports _ => imports.map fun i => i.target.id
  | .failed _ => []

/-- A message tells the imports that are found in the text of its module, in source order. -/
def Message.Reads (ctx : LoadContext) : Message → Prop
  | .done m imports _ => ∃ summary, ctx.scan? m.id m.format = some summary ∧
      imports.map ResolvedImport.specifier = summary.imports.map Script.Import.specifier
  | .failed _ => True

namespace Task

variable {ctx : LoadContext}

theorem specifiers_of_resolveImports (task : Task) (imports : List Script.Import) (store : Store)
    (hok : ((task.resolveImports ctx imports).run store).1.2 = []) :
    ((task.resolveImports ctx imports).run store).1.1.map ResolvedImport.specifier =
      imports.map Script.Import.specifier := by
  induction imports generalizing store with
  | nil => rfl
  | cons i rest ih =>
      rw [run_resolveImports_cons] at hok ⊢
      dsimp only at hok ⊢
      cases hfirst : ((ctx.resolver.resolveImport i.specifier task.target.id).run.run store).1 with
      | error cause =>
          rw [hfirst] at hok
          exact absurd hok (List.cons_ne_nil _ _)
      | ok target =>
          rw [hfirst] at hok
          exact congrArg (i.specifier :: ·) (ih _ hok)

/-- A task reads its module, whatever it has found in the store. -/
theorem reads_run (task : Task) (store : Store) : ((task.run ctx).run store).1.Reads ctx := by
  unfold Task.run
  rcases load_spec ctx task with ⟨summary, hload, hscan⟩ | ⟨e, hload, -⟩
  · rw [hload]
    dsimp only
    rw [Store.run_bind]
    have hfound := @specifiers_of_resolveImports ctx task summary.imports store
    generalize (task.resolveImports ctx summary.imports).run store = answer at hfound ⊢
    obtain ⟨⟨found, errors⟩, later⟩ := answer
    cases errors with
    | nil => exact ⟨summary, hscan, hfound rfl⟩
    | cons e errors => exact trivial
  · rw [hload]
    exact trivial

end Task

namespace Chronicle

/-- The identities that have been asked for: those given, and those that messages import. -/
def asked (ids : List ModuleId) (filed : List (Task × Message)) : List ModuleId :=
  ids ++ filed.flatMap fun x => x.2.targets

/-- The arrows that have been followed, from the modules of the messages. -/
def arrows (filed : List (Task × Message)) : List Arrow :=
  filed.flatMap fun x => x.2.targets.map fun id => (x.1.target.id, id)

theorem asked_concat (ids : List ModuleId) (filed : List (Task × Message)) (x : Task × Message) :
    asked ids (filed ++ [x]) = asked ids filed ++ x.2.targets := by
  rw [asked, asked, List.flatMap_append, List.flatMap_singleton, List.append_assoc]

theorem arrows_concat (filed : List (Task × Message)) (x : Task × Message) :
    arrows (filed ++ [x]) = arrows filed ++ x.2.targets.map fun id => (x.1.target.id, id) := by
  rw [arrows, arrows, List.flatMap_append, List.flatMap_singleton]

/-- A module is imported by the tasks whose messages import it, as often as they do. -/
theorem importersIn_arrows (filed : List (Task × Message)) (id : ModuleId) :
    importersIn (arrows filed) id =
      filed.flatMap fun x => List.replicate (x.2.targets.count id) x.1.target.id := by
  unfold importersIn arrows
  rw [List.filter_flatMap, List.map_flatMap]
  refine List.flatMap_congr fun x _ => ?_
  rw [List.filter_map, List.map_map, List.count_eq_length_filter, ← List.map_const']
  rfl

/-- The loader has recorded the messages that have been filed. -/
structure Recounts (ids : List ModuleId) (c : Chronicle) : Prop where
  recalls : c.loader.Recalls (asked ids c.filed) (arrows c.filed)
  numbered : Task.Numbered 0 c.loader.places.length c.spawned
  loaded : ∀ (t : Task) (m : LoadedModule) (imports : List ResolvedImport)
    (warnings : List Warning), (t, .done m imports warnings) ∈ c.filed →
    ∃ records, c.loader.places[t.idx]? = some (some (.loaded { m with imports := records })) ∧
      List.Forall₂ (ImportRecord.PointsTo (asked ids c.filed).eraseDups) imports records

variable {ctx : LoadContext} {entries : List (Option String × ModuleRef)} {store : Store}
  {targets : List ModuleRef} {ids : List ModuleId} {c d : Chronicle}

theorem recounts_start (entries : List (Option String × ModuleRef)) (store : Store) :
    (start entries store).Recounts (entries.map fun e => e.2.id) where
  recalls := by
    have hrecalls := Loader.recalls_start entries
    rw [← List.append_nil (entries.map fun e => e.2.id)] at hrecalls
    exact hrecalls
  numbered := Loader.numbered_start entries
  loaded _ _ _ _ hmem := absurd hmem List.not_mem_nil

namespace Recounts

/-- A failure asks for nothing. -/
theorem file_failed (h : c.Recounts ids) (task : Task) (errors : List BuildError)
    (sent : List (Task × Message)) :
    Recounts ids
      { c with
        loader := c.loader.handle (.failed errors)
        sent
        filed := c.filed ++ [(task, .failed errors)] } := by
  have hasked : asked ids (c.filed ++ [(task, .failed errors)]) = asked ids c.filed :=
    (asked_concat _ _ _).trans (List.append_nil _)
  have harrows : arrows (c.filed ++ [(task, .failed errors)]) = arrows c.filed :=
    (arrows_concat _ _).trans (List.append_nil _)
  refine ⟨?_, h.numbered, fun t m imports warnings hmem => ?_⟩
  · dsimp only
    rw [hasked, harrows]
    exact h.recalls.frame rfl rfl rfl
  · dsimp only at hmem ⊢
    rw [hasked]
    refine h.loaded t m imports warnings ((List.mem_append.1 hmem).resolve_right fun hlast => ?_)
    cases (Prod.mk.inj (List.mem_singleton.1 hlast)).2

/-- A module asks for what it imports, and takes the place of its task. -/
theorem file_done (h : c.Recounts ids) {task : Task} {m : LoadedModule}
    {imports : List ResolvedImport} {warnings : List Warning} {new : List Task}
    (htask : task ∈ c.spawned) (hidx : m.idx = task.idx) (hid : m.id = task.target.id)
    (hother : ∀ x ∈ c.filed, x.1.idx ≠ task.idx)
    (hnew : (c.loader.handle (.done m imports warnings)).pending = c.loader.pending ++ new)
    (sent : List (Task × Message)) :
    Recounts ids
      { c with
        loader := c.loader.handle (.done m imports warnings)
        spawned := c.spawned ++ new
        sent
        filed := c.filed ++ [(task, .done m imports warnings)] } := by
  obtain ⟨hlength, hplaces, hnumbered⟩ := c.loader.numbered_handle_done m imports warnings hnew
  have hwarned : Loader.Recalls { c.loader with warnings := c.loader.warnings ++ warnings }
      (asked ids c.filed) (arrows c.filed) := h.recalls.frame rfl rfl rfl
  obtain ⟨hrecalls, hrecords⟩ := hwarned.connect m imports
  have hasked : asked ids (c.filed ++ [(task, .done m imports warnings)]) =
      asked ids c.filed ++ imports.map fun i => i.target.id := asked_concat _ _ _
  have harrows : arrows (c.filed ++ [(task, .done m imports warnings)]) =
      arrows c.filed ++ (imports.map fun i => i.target.id).map fun id => (m.id, id) := by
    rw [hid]
    exact arrows_concat _ _
  constructor
  · dsimp only
    rw [hasked, harrows]
    exact hrecalls.frame List.length_set rfl rfl
  · exact h.numbered.append hnumbered (Nat.zero_le _) hlength
  · intro t m' imports' warnings' hmem
    dsimp only
    rw [hasked]
    rcases List.mem_append.1 hmem with hmem | hmem
    -- the modules before stand where they stood
    · obtain ⟨records, hplace, hpoints⟩ := h.loaded t m' imports' warnings' hmem
      refine ⟨records, hplaces t.idx _ (hidx ▸ hother _ hmem) hplace, ?_⟩
      exact hpoints.imp fun i record hrecord => hrecord.of_prefix (eraseDups_prefix_append _ _)
    · obtain ⟨rfl, hmessage⟩ := Prod.mk.inj (List.mem_singleton.1 hmem)
      obtain ⟨rfl, rfl, rfl⟩ := Message.done.inj hmessage
      have hlt : m'.idx < (c.loader.handle (.done m' imports' warnings')).places.length := by
        have hbound := (h.numbered.bounds t htask).2
        omega
      refine ⟨_, ?_, hrecords⟩
      rw [← hidx]
      exact List.getElem?_set_self (List.length_set ▸ hlt)

/-- Every step is recorded. -/
theorem step (h : c.Recounts ids) (hkept : c.Kept ctx targets) (hstep : Step ctx c d) :
    d.Recounts ids := by
  cases hstep with
  | report before task after hpending =>
      exact ⟨h.recalls.frame rfl rfl rfl, h.numbered, h.loaded⟩
  | file before task message after new hsent hnew =>
      cases message with
      | failed errors =>
          obtain rfl : new = [] := List.self_eq_append_right.1 hnew
          rw [List.append_nil]
          exact h.file_failed task errors _
      | done m imports warnings =>
          have hmem : (task, Message.done m imports warnings) ∈ c.sent := by simp [hsent]
          obtain ⟨hidx, hid, -⟩ := hkept.answers _ (List.mem_append_left c.filed hmem)
          have htask : task ∈ c.spawned := by
            refine hkept.spawned.mem_iff.2 (List.mem_append_right _ ?_)
            exact List.mem_map_of_mem (List.mem_append_left c.filed hmem)
          refine h.file_done htask hidx hid ?_ hnew _
          -- a task sends one message, so the one that is filed is not that of another place
          obtain ⟨links, refs, hledger⟩ := hkept.ledger
          have honce := hledger.once
          rw [reported, List.map_append, List.map_append, List.map_append] at honce
          have hdisjoint := List.disjoint_of_nodup_append (List.nodup_append.1 honce).2.1
          intro x hx heq
          refine hdisjoint (List.mem_map_of_mem (List.mem_map_of_mem hmem)) ?_
          exact heq ▸ List.mem_map_of_mem (List.mem_map_of_mem hx)

end Recounts

/-- In whatever order messages are filed, the loader records them. -/
theorem Run.recounts (hrun : Run ctx entries store c) :
    c.Recounts (entries.map fun e => e.2.id) := by
  induction hrun with
  | refl => exact recounts_start entries store
  | tail hrun hstep ih => exact ih.step (Run.kept hrun) hstep

/-- Every message is that of a task that has run. -/
theorem Run.reads (hrun : Run ctx entries store c) : ∀ x ∈ c.sent ++ c.filed, x.2.Reads ctx := by
  induction hrun with
  | refl => exact fun x hx => absurd hx List.not_mem_nil
  | tail _ hstep ih =>
      cases hstep with
      | report before task after hpending =>
          intro x hx
          rw [List.append_assoc, List.mem_append, List.singleton_append, List.mem_cons] at hx
          rcases hx with hx | rfl | hx
          · exact ih x (List.mem_append_left _ hx)
          · exact task.reads_run _
          · exact ih x (List.mem_append_right _ hx)
      | file before task message after new hsent hnew =>
          exact fun x hx => ih x ((Kept.perm_file hsent).mem_iff.1 hx)

/-! ## The table -/

/-- A module of the table is the one that a message tells of. -/
structure IsModuleOf (ctx : LoadContext) (ids : List ModuleId) (filed : List (Task × Message))
    (x : Task × Message) (m : LoadedModule) : Prop where
  id : m.id = x.1.target.id
  source : ∃ summary, ctx.scan? m.id m.format = some summary ∧
    m.imports.map ImportRecord.specifier = summary.imports.map Script.Import.specifier
  targets : List.Forall₂ (fun id record => (asked ids filed).eraseDups[record.target]? = some id)
    x.2.targets m.imports
  importers : m.importers = (importersIn (arrows filed) m.id).eraseDups

/-- The messages, in ascending order, tell the modules of a table, among external ones. -/
structure Tells (ctx : LoadContext) (ids : List ModuleId) (filed : List (Task × Message))
    (refs : List ModuleRef) (modules : List Module) : Prop where
  order : (asked ids filed).eraseDups = refs.map ModuleRef.id
  length : modules.length = refs.length
  ascending : ((filed.map Prod.fst).map Task.idx).Pairwise (· < ·)
  once : (((filed.map Prod.fst).map Task.target).map ModuleRef.id).Nodup
  external : ∀ (i : Nat) (r : ModuleRef), refs[i]? = some r → r.isExternal = true →
    modules[i]? = some (.external ⟨i, r.id, r.format⟩)
  internal : ∀ (i : Nat) (r : ModuleRef), refs[i]? = some r → r.isExternal = false →
    ∃ x ∈ filed, x.1.idx = i
  loaded : ∀ x ∈ filed, refs[x.1.idx]? = some x.1.target ∧
    ∃ m, modules[x.1.idx]? = some (.loaded m) ∧ IsModuleOf ctx ids filed x m

theorem map_specifier_of_forall₂ {imports : List ResolvedImport} {records : List ImportRecord}
    (h : List.Forall₂ (ImportRecord.PointsTo ids) imports records) :
    records.map ImportRecord.specifier = imports.map ResolvedImport.specifier := by
  induction h with
  | nil => rfl
  | cons hrecord _ ih => rw [List.map_cons, List.map_cons, hrecord.specifier, ih]

/-- The places are those of the nodes that the loader has met. -/
theorem Recounts.order_eq (h : c.Recounts ids) {links : List Link} {refs : List ModuleRef}
    (hledger : c.loader.Ledger targets links refs c.reported) :
    (asked ids c.filed).eraseDups = refs.map ModuleRef.id := by
  refine List.ext_getElem? fun i => Option.ext fun id => ?_
  rw [← h.recalls.visited id i, hledger.visited id i, List.getElem?_map, Option.map_eq_some_iff]

/-- Without an error every message is about the module of its task. -/
theorem Kept.exists_done (h : c.Kept ctx targets) (hok : c.loader.errors = []) {t : Task}
    {message : Message} (hmem : (t, message) ∈ c.filed) :
    ∃ m imports warnings, message = .done m imports warnings ∧ m.id = t.target.id := by
  have hanswers := h.answers _ (List.mem_append_right c.sent hmem)
  cases message with
  | done m imports warnings => exact ⟨m, imports, warnings, rfl, hanswers.2.1⟩
  | failed errors =>
      have hnil := List.flatMap_eq_nil_iff.1 (h.errors.symm.trans hok) _ hmem
      exact absurd hnil hanswers

/-- When all messages have been filed, in the order of the tasks, and none was a failure, they tell
the table. -/
theorem Run.tells (hrun : Run ctx entries store c) (hfiled : c.filed.map Prod.fst = c.spawned)
    (hok : c.loader.errors = []) :
    ∃ refs modules, c.loader.table? = some modules ∧
      Tells ctx (entries.map fun e => e.2.id) c.filed refs modules := by
  have hkept := Run.kept hrun
  have hrecounts := Run.recounts hrun
  obtain ⟨links, refs, hledger⟩ := hkept.ledger
  have hzero : c.loader.remaining = 0 := by
    rw [hkept.finished_iff, ← hfiled]
    intro t ht
    obtain ⟨x, hx, rfl⟩ := List.mem_map.1 ht
    exact ⟨x.2, hx⟩
  have hreported : c.loader.pending ++ c.reported = c.filed.map Prod.fst := by
    have hremaining := hkept.remaining
    have hpending : c.loader.pending = [] := List.eq_nil_of_length_eq_zero (by omega)
    have hsent : c.sent = [] := List.eq_nil_of_length_eq_zero (by omega)
    rw [reported, hpending, hsent]
    rfl
  -- at the place of a node stands what it was loaded to, with the importers of its identity
  have horder := hrecounts.order_eq hledger
  obtain ⟨hfull, -⟩ := hkept.full hzero hok
  obtain ⟨modules, htable, hlength, hmodules⟩ :=
    Loader.exists_table hfull (hledger.importers.length.trans hledger.length.symm)
  have hmodule {i : Nat} {r : ModuleRef} {m : Module} (hr : refs[i]? = some r)
      (hm : c.loader.places[i]? = some (some m)) :
      modules[i]? = some (Loader.withImporters m (importersIn (arrows c.filed) r.id)) := by
    refine hmodules i m _ hm ?_
    rw [hrecounts.recalls.importers, horder, List.getElem?_map, List.getElem?_map, hr]
    rfl
  refine ⟨refs, modules, htable, ?_⟩
  exact
    { order := horder
      length := hlength.trans hledger.length
      ascending := hfiled ▸ hrecounts.numbered.ascending
      once := hreported ▸ hledger.nodup_ids
      external := fun i r hr hexternal => hmodule hr (hledger.external i r hr hexternal)
      internal := by
        intro i r hr hinternal
        obtain ⟨t, ht, rfl⟩ := hledger.internal i r hr hinternal
        rw [hreported] at ht
        obtain ⟨x, hx, rfl⟩ := List.mem_map.1 ht
        exact ⟨x, hx, rfl⟩
      loaded := by
        rintro ⟨t, message⟩ hx
        have ht : t ∈ c.loader.pending ++ c.reported := hreported ▸ List.mem_map_of_mem hx
        have hr := (hledger.task t ht).1
        have hreads := Run.reads hrun _ (List.mem_append_right c.sent hx)
        obtain ⟨m, imports, warnings, rfl, hid⟩ := hkept.exists_done hok hx
        obtain ⟨summary, hscan, hspecifiers⟩ := hreads
        obtain ⟨records, hplace, hpoints⟩ := hrecounts.loaded t m imports warnings hx
        refine ⟨hr, _, hmodule hr hplace, hid, ⟨summary, hscan, ?_⟩, ?_, ?_⟩
        · exact (map_specifier_of_forall₂ hpoints).trans hspecifiers
        · refine List.forall₂_map_left_iff.2 ?_
          exact hpoints.imp fun i record hrecord => hrecord.target
        · rw [hid] }

namespace Tells

variable {filed : List (Task × Message)} {refs : List ModuleRef} {g : Graph}

/-- What stands in the table is external, or in the place of a task. -/
theorem exists_ref (h : Tells ctx ids filed refs g.modules) {i : Nat} {m : Module}
    (hm : g.modules[i]? = some m) :
    ∃ r, refs[i]? = some r ∧ m.id = r.id ∧
      ((∃ e, m = .external e) ∨ ∃ x ∈ filed, x.1.idx = i) := by
  have hlt : i < refs.length := by
    rw [← h.length]
    exact (List.getElem?_eq_some_iff.1 hm).1
  have hr : refs[i]? = some refs[i] := List.getElem?_eq_getElem hlt
  cases hexternal : refs[i].isExternal with
  | true =>
      obtain rfl := Option.some.inj (hm.symm.trans (h.external i _ hr hexternal))
      exact ⟨_, hr, rfl, Or.inl ⟨_, rfl⟩⟩
  | false =>
      obtain ⟨x, hx, rfl⟩ := h.internal i _ hr hexternal
      obtain ⟨hr', n, hn, hmodule⟩ := h.loaded x hx
      obtain rfl := Option.some.inj (hm.symm.trans hn)
      exact ⟨_, hr', hmodule.id, Or.inr ⟨x, hx, rfl⟩⟩

theorem map_id (h : Tells ctx ids filed refs g.modules) :
    g.modules.map Module.id = (asked ids filed).eraseDups := by
  rw [h.order]
  refine List.ext_getElem? fun i => ?_
  rw [List.getElem?_map, List.getElem?_map]
  cases hm : g.modules[i]? with
  | none =>
      have hnone : refs[i]? = none := by
        rw [List.getElem?_eq_none_iff] at hm ⊢
        exact h.length ▸ hm
      rw [hnone]
      rfl
  | some m =>
      obtain ⟨r, hr, hid, -⟩ := h.exists_ref hm
      rw [hr]
      exact congrArg some hid

theorem exists_module (h : Tells ctx ids filed refs g.modules) {i : Nat} {m : LoadedModule}
    (hm : g.modules[i]? = some (.loaded m)) :
    ∃ x ∈ filed, x.1.idx = i ∧ IsModuleOf ctx ids filed x m := by
  obtain ⟨-, -, -, ⟨e, heq⟩ | ⟨x, hx, rfl⟩⟩ := h.exists_ref hm
  · cases heq
  · obtain ⟨-, n, hn, hmodule⟩ := h.loaded x hx
    obtain rfl : m = n := Module.loaded.inj (Option.some.inj (hm.symm.trans hn))
    exact ⟨x, hx, rfl, hmodule⟩

theorem targets_eq (h : Tells ctx ids filed refs g.modules) {x : Task × Message} {m : LoadedModule}
    (hm : IsModuleOf ctx ids filed x m) : g.targets (.loaded m) = x.2.targets := by
  have htargets := hm.targets
  rw [← h.map_id] at htargets
  unfold Graph.targets Graph.dependencies
  rw [List.map_filterMap]
  show m.imports.filterMap _ = _
  generalize x.2.targets = targets at htargets ⊢
  generalize m.imports = imports at htargets ⊢
  induction htargets with
  | nil => rfl
  | cons hid _ ih =>
      rw [List.getElem?_map] at hid
      rw [List.filterMap_cons, hid, ih]

/-- The places of a module's edges are those of the identities that its message asks for. -/
theorem any_target_iff {x : Task × Message} {m : LoadedModule} (hm : IsModuleOf ctx ids filed x m)
    {i : Nat} {id : ModuleId} (hi : (asked ids filed).eraseDups[i]? = some id) :
    (m.imports.any fun record => record.target = i) = true ↔ id ∈ x.2.targets := by
  rw [List.any_eq_true]
  constructor
  · rintro ⟨record, hrecord, htarget⟩
    obtain ⟨id', hid', hpoints⟩ := exists_mem_of_forall₂_right hm.targets hrecord
    rw [of_decide_eq_true htarget, hi] at hpoints
    rw [Option.some.inj hpoints]
    exact hid'
  · intro hid
    obtain ⟨record, hrecord, hpoints⟩ := exists_mem_of_forall₂ hm.targets hid
    exact ⟨record, hrecord, decide_eq_true (eraseDups_inj hpoints hi)⟩

/-- What is read off the modules of the table, one after the other, is read off the messages. -/
theorem flatMap_eq (h : Tells ctx ids filed refs g.modules) {γ : Type} {f : Module → List γ}
    {k : Task × Message → List γ}
    (hloaded : ∀ x m, IsModuleOf ctx ids filed x m → f (.loaded m) = k x)
    (hexternal : ∀ e, f (.external e) = []) :
    g.modules.flatMap f = filed.flatMap k := by
  have hascending := h.ascending
  rw [List.map_map] at hascending
  refine flatMap_eq_of_ascending hascending ?_ ?_
  · intro x hx
    obtain ⟨-, m, hm, hmodule⟩ := h.loaded x hx
    exact ⟨_, hm, hloaded x m hmodule⟩
  · intro i m hm hsome
    obtain ⟨-, -, -, ⟨e, rfl⟩ | hx⟩ := h.exists_ref hm
    · exact absurd (hexternal e) hsome
    · exact hx

/-- The importers of a module are the modules of the table that import it, in their order. -/
theorem importers_eq (h : Tells ctx ids filed refs g.modules) {i : Nat} {m : LoadedModule}
    (hm : g.modules[i]? = some (.loaded m)) : m.importers =
      (g.modules.filter fun n => n.imports.any fun record => record.target = i).map Module.id := by
  obtain ⟨x, -, rfl, hmodule⟩ := h.exists_module hm
  have hi : (asked ids filed).eraseDups[x.1.idx]? = some m.id := by
    rw [← h.map_id, List.getElem?_map, hm]
    rfl
  have hread : g.modules.flatMap (fun n =>
        if n.imports.any fun record => record.target = x.1.idx then [n.id] else []) =
      filed.flatMap fun y => if 0 < y.2.targets.count m.id then [y.1.target.id] else [] := by
    refine h.flatMap_eq ?_ fun e => rfl
    intro y n hn
    have hiff := (any_target_iff hn hi).trans List.count_pos_iff.symm
    show (if _ then [n.id] else []) = _
    rw [hn.id]
    exact if_congr hiff rfl rfl
  have honce : (filed.map fun y => y.1.target.id).Nodup := by
    have := h.once
    rwa [List.map_map, List.map_map] at this
  rw [hmodule.importers, importersIn_arrows, eraseDups_flatMap_replicate honce,
    map_filter_eq_flatMap, map_filter_eq_flatMap, hread]
  simp

theorem isBreadthFirst (h : Tells ctx ids filed refs g.modules) : g.IsBreadthFirst ctx ids := by
  have horder : g.modules.map Module.id = (ids ++ g.modules.flatMap g.targets).eraseDups := by
    rw [h.map_id, h.flatMap_eq (fun x m hm => h.targets_eq hm) fun e => rfl]
    rfl
  exact
    { order := horder
      edges := by
        intro m hm record hrecord
        cases m with
        | external e => exact absurd hrecord List.not_mem_nil
        | loaded m =>
            obtain ⟨i, hi⟩ := List.mem_iff_getElem?.1 hm
            obtain ⟨x, -, -, hmodule⟩ := h.exists_module hi
            obtain ⟨id, -, hid⟩ := exists_mem_of_forall₂_right hmodule.targets hrecord
            rw [← h.map_id] at hid
            rw [← List.length_map Module.id]
            exact (List.getElem?_eq_some_iff.1 hid).1
      source := by
        intro m hm
        obtain ⟨i, hi⟩ := List.mem_iff_getElem?.1 hm
        obtain ⟨x, -, -, hmodule⟩ := h.exists_module hi
        exact hmodule.source
      importers := fun i m hm => h.importers_eq hm
      levels := Graph.exists_level horder }

end Tells

/-- A loader that answers a graph has met no error, and the graph has its table. -/
theorem table?_of_outcome? {s : Loader} {points : List EntryPoint} {g : Graph}
    (h : Scan.outcome? s points = some (.ok g)) : s.errors = [] ∧ s.table? = some g.modules := by
  unfold Scan.outcome? at h
  split at h
  · cases h
  · next hok =>
      obtain ⟨modules, hmodules, heq⟩ := Option.map_eq_some_iff.1 h
      rw [hmodules, ← Except.ok.inj heq]
      exact ⟨Classical.not_not.1 hok, rfl⟩

/-- When the messages have been filed in the order of the tasks, and there is a graph, it is
numbered breadth first. -/
theorem Run.isBreadthFirst (hrun : Run ctx entries store c)
    (hfiled : c.filed.map Prod.fst = c.spawned) {g : Graph}
    (hg : c.progress.outcome? entries = some (.ok g)) :
    g.IsBreadthFirst ctx (entries.map fun e => e.2.id) := by
  obtain ⟨hok, htable⟩ := table?_of_outcome? hg
  obtain ⟨refs, modules, htable', htells⟩ := hrun.tells hfiled hok
  obtain rfl : modules = g.modules := Option.some.inj (htable'.symm.trans htable)
  exact htells.isBreadthFirst

/-! ## The order in which the loader files messages -/

/-- Every message has been filed, in the order of the tasks, and the other tasks wait in this
order. -/
structure InTurn (c : Chronicle) : Prop where
  sent : c.sent = []
  spawned : c.spawned = c.filed.map Prod.fst ++ c.loader.pending

theorem inTurn_start (entries : List (Option String × ModuleRef)) (store : Store) :
    (start entries store).InTurn := ⟨rfl, rfl⟩

/-- The loader lets the oldest task report, and files its message at once. -/
theorem Run.exists_step (hrun : Run ctx entries store c) (hturn : c.InTurn) :
    ∃ d, Run ctx entries store d ∧ d.InTurn ∧
      (d.loader, d.store) = (c.loader.step ctx).run c.store := by
  unfold Loader.step
  cases hpending : c.loader.pending with
  | nil => exact ⟨c, hrun, hturn, rfl⟩
  | cons task rest =>
      let message := ((task.run ctx).run c.store).1
      obtain ⟨new, hnew, -⟩ :=
        Loader.exists_started_handle { c.loader with pending := rest } message
      have hreport := @Step.report ctx c [] task rest hpending
      have hfile := @Step.file ctx
        { c with
          loader := { c.loader with pending := rest }
          store := ((task.run ctx).run c.store).2
          sent := c.sent ++ [(task, message)] } c.sent task message [] new rfl hnew
      refine ⟨_, (hrun.tail hreport).tail hfile, ⟨?_, ?_⟩, rfl⟩
      · exact (List.append_nil _).trans hturn.sent
      · show c.spawned ++ new = (c.filed ++ [(task, message)]).map Prod.fst ++ _
        rw [hnew, hturn.spawned, hpending]
        simp

theorem Run.exists_loader_run (hrun : Run ctx entries store c) (hturn : c.InTurn) (limit : Nat) :
    ∃ d, Run ctx entries store d ∧ d.InTurn ∧
      (d.loader, d.store) = (c.loader.run ctx limit).run c.store := by
  induction limit generalizing c with
  | zero => exact ⟨c, hrun, hturn, rfl⟩
  | succ limit ih =>
      unfold Loader.run
      split
      · exact ⟨c, hrun, hturn, rfl⟩
      · obtain ⟨d, hd, hdturn, hstep⟩ := hrun.exists_step hturn
        obtain ⟨e, he, heturn, hrest⟩ := ih hd hdturn
        refine ⟨e, he, heturn, hrest.trans ?_⟩
        rw [Store.run_bind, ← hstep]

/-- What `Scan.loadGraph` answers comes from messages that have been filed in the order of the
tasks. -/
theorem exists_run_of_loadGraph {limit : Nat} {outcome : Except (List BuildError) Graph}
    (h : ((Scan.loadGraph ctx limit entries).run store).1 = some outcome) :
    ∃ c, Run ctx entries store c ∧ c.filed.map Prod.fst = c.spawned ∧
      c.progress.outcome? entries = some outcome := by
  have hstart : Run ctx entries store (start entries store) := .refl
  obtain ⟨c, hrun, hturn, hloader⟩ :=
    hstart.exists_loader_run (inTurn_start entries store) limit
  rw [Progress.run_loadGraph] at h
  have hloader' : c.loader = (((Loader.start entries).1.run ctx limit).run store).1 :=
    congrArg Prod.fst hloader
  rw [← hloader'] at h
  dsimp only at h
  split at h
  · cases h
  · next hzero =>
      refine ⟨c, hrun, ?_, h⟩
      have hremaining := (Run.kept hrun).remaining
      have hpending : c.loader.pending = [] := List.eq_nil_of_length_eq_zero (by omega)
      rw [hturn.spawned, hpending, List.append_nil]

end Chronicle

/-- An entry is what a request has been resolved to, under the name that was asked for. -/
structure EntryRequest.Names (r : Resolver) (request : EntryRequest)
    (entry : Option String × ModuleRef) : Prop where
  name : entry.1 = request.name
  target : ∃ earlier, ((r.resolveEntry request.specifier).run.run earlier).1 = .ok entry.2

/-- If no request is refused, each of them has its entry, in order. -/
theorem Scan.forall₂_resolveEntries {r : Resolver} {requests : List EntryRequest} {store : Store}
    (hok : ((resolveEntries r requests).run store).1.2 = []) :
    List.Forall₂ (EntryRequest.Names r) requests
      ((resolveEntries r requests).run store).1.1 := by
  induction requests generalizing store with
  | nil => exact .nil
  | cons request rest ih =>
      rw [run_resolveEntries_cons] at hok ⊢
      dsimp only at hok ⊢
      unfold checkEntry at hok ⊢
      cases hfirst : ((r.resolveEntry request.specifier).run.run store).1 with
      | error cause =>
          rw [hfirst] at hok
          exact absurd hok (List.cons_ne_nil _ _)
      | ok target =>
          rw [hfirst] at hok
          dsimp only at hok ⊢
          cases hexternal : target.isExternal with
          | true =>
              rw [hexternal] at hok
              exact absurd hok (List.cons_ne_nil _ _)
          | false =>
              rw [hexternal] at hok
              exact .cons ⟨rfl, store, hfirst⟩ (ih hok)

/-- A scan that answers a graph has loaded what its requests lead to. -/
theorem Scan.exists_loadGraph_of_run {ctx : LoadContext} {limit : Nat}
    {requests : List EntryRequest} {store : Store} {g : Graph}
    (h : ((run ctx limit requests).run store).1 = some (.ok g)) :
    ((resolveEntries ctx.resolver requests).run store).1.2 = [] ∧
      ((loadGraph ctx limit ((resolveEntries ctx.resolver requests).run store).1.1).run
        ((resolveEntries ctx.resolver requests).run store).2).1 = some (.ok g) := by
  by_cases hrequests : requests = []
  · subst hrequests
    cases h
  · rw [run_eq ctx limit hrequests] at h
    dsimp only at h
    split at h
    · next hok => exact ⟨hok, h⟩
    · cases h

/-- The table of a scan is numbered breadth first.

Whichever task reports when: if messages are filed in the order in which the tasks have been
started, and the scan answers a graph, then the identities of its table are those of the entries
followed by those that its modules import, one module after the other and each in source order,
without repetitions; the importers of a module are the modules that import it, each once, in the
order of the table; and modules that few imports lead to stand in front of those that need more. The
loader files messages in this order, and starts from the entries in the order in which they have
been asked for. -/
theorem Scan.table_isBreadthFirst (ctx : LoadContext) (store : Store) :
    (∀ entries c g, Chronicle.Run ctx entries store c → c.filed.map Prod.fst = c.spawned →
      c.progress.outcome? entries = some (.ok g) →
      g.IsBreadthFirst ctx (entries.map fun e => e.2.id)) ∧
    (∀ entries limit g, ((loadGraph ctx limit entries).run store).1 = some (.ok g) →
      g.IsBreadthFirst ctx (entries.map fun e => e.2.id)) ∧
    ∀ requests limit g, ((run ctx limit requests).run store).1 = some (.ok g) →
      ∃ entries, List.Forall₂ (EntryRequest.Names ctx.resolver) requests entries ∧
        g.IsBreadthFirst ctx (entries.map fun e => e.2.id) := by
  have hload (entries : List (Option String × ModuleRef)) (limit : Nat) (g : Graph) (later : Store)
      (hg : ((loadGraph ctx limit entries).run later).1 = some (.ok g)) :
      g.IsBreadthFirst ctx (entries.map fun e => e.2.id) := by
    obtain ⟨c, hrun, hfiled, houtcome⟩ := Chronicle.exists_run_of_loadGraph hg
    exact hrun.isBreadthFirst hfiled houtcome
  refine ⟨fun entries c g hrun hfiled hg => hrun.isBreadthFirst hfiled hg,
    fun entries limit g hg => hload entries limit g store hg, fun requests limit g hg => ?_⟩
  obtain ⟨hok, hgraph⟩ := exists_loadGraph_of_run hg
  exact ⟨_, forall₂_resolveEntries hok, hload _ limit g _ hgraph⟩

/-- Four modules in three layers, with modules of the platform in between. -/
def LoadContext.ofLayers : LoadContext :=
  let file (name text : String) : List Text.Bytes × Tree.Node :=
    ([Text.utf8 name], .file { content := .ok (Text.utf8 text) })
  let tree : Tree :=
    ⟨[file "a.mjs" "import './b.mjs'; import 'node:fs'; import './c.mjs'; import './b.mjs'",
      file "b.mjs" "import './d.mjs'; import './a.mjs'; import 'node:os'",
      file "c.mjs" "import 'node:fs'; import './d.mjs'",
      file "d.mjs" "export {}"]⟩
  { resolver :=
      { fs := tree.fileSystem, platform := .node, conditions := .ofList [], cwd := .ofString "/" }
    summarize := Script.Summary.ofSource? }

/-- Modules of the platform have their places where they are asked for first, and what the modules
of one layer import comes behind the layer. -/
theorem Scan.table_isBreadthFirst_ofLayers :
    let resolved := (resolveEntries LoadContext.ofLayers.resolver [⟨none, "./a.mjs"⟩]).run {}
    ∃ g c, ((run .ofLayers 4 [⟨none, "./a.mjs"⟩]).run {}).1 = some (.ok g) ∧
      g.modules.map Module.id =
        ["/a.mjs", "/b.mjs", "node:fs", "/c.mjs", "/d.mjs", "node:os"] ∧
      Chronicle.Run .ofLayers resolved.1.1 resolved.2 c ∧ c.filed.map Prod.fst = c.spawned ∧
      c.progress.outcome? resolved.1.1 = some (.ok g) ∧
      g.IsBreadthFirst .ofLayers (resolved.1.1.map fun e => e.2.id) ∧
      ∃ entries, List.Forall₂ (EntryRequest.Names LoadContext.ofLayers.resolver)
        [⟨none, "./a.mjs"⟩] entries ∧ g.IsBreadthFirst .ofLayers (entries.map fun e => e.2.id) := by
  intro resolved
  have hrun : (((run .ofLayers 4 [⟨none, "./a.mjs"⟩]).run {}).1.bind Except.toOption).map
      (fun g => g.modules.map Module.id) =
        some ["/a.mjs", "/b.mjs", "node:fs", "/c.mjs", "/d.mjs", "node:os"] := by
    decide +kernel
  obtain ⟨g, houtcome, hids⟩ := exists_graph_of_map hrun
  obtain ⟨-, hload⟩ := exists_loadGraph_of_run houtcome
  obtain ⟨c, hc, hfiled, hgraph⟩ := Chronicle.exists_run_of_loadGraph hload
  obtain ⟨hchronicle, -, -⟩ := table_isBreadthFirst .ofLayers resolved.2
  obtain ⟨-, -, hscan⟩ := table_isBreadthFirst .ofLayers {}
  exact ⟨g, c, houtcome, hids, hc, hfiled, hgraph, hchronicle _ c g hc hfiled hgraph,
    hscan _ 4 g houtcome⟩

end ModuleGraph
