import ModuleGraph.Proofs.Graph.Entries
import ModuleGraph.Proofs.Graph.Termination

/-!
# What a scan tells that fails

A scan is refused with the errors of its entries, or it tells, in whatever order its tasks report,
what is wrong with each module it has reached (`Scan.Tells`): every module that fails is told of
once and with all its errors, and nothing is told of any other. Its imports are not followed, so a
module behind it is told of only if there is another way to it.
-/

set_option autoImplicit false

namespace ModuleGraph

open Text

variable {ctx : LoadContext}

/-! ## One module -/

/-- A module fails if it has no summary, because its text cannot be read or does not follow its
grammar, or if one of its imports leads nowhere. -/
def ModuleRef.Fails (ctx : LoadContext) (r : ModuleRef) : Prop :=
  ctx.scan? r.id r.format = none ∨
    ∃ summary i cause, ctx.scan? r.id r.format = some summary ∧ i ∈ summary.imports ∧
      ctx.follow i.specifier r.id = .error cause

/-- A module fails exactly if it does not load. -/
theorem ModuleRef.fails_iff {r : ModuleRef} :
    r.Fails ctx ↔ ∀ summary found, ¬ r.Loads ctx summary found := by
  have hloads : (∀ summary found, ¬ r.Loads ctx summary found) ↔ r.failures ctx none ≠ [] := by
    rw [Ne, failures_eq_nil_iff]
    simp only [not_exists]
  rw [hloads]
  cases hscan : ctx.scan? r.id r.format with
  | none =>
      refine iff_of_true (Or.inl hscan) (hloads.1 fun summary found h => ?_)
      have := h.scan
      rw [hscan] at this
      cases this
  | some summary =>
      rw [failures_of_scan? hscan, List.ne_nil_iff_exists_cons]
      constructor
      · rintro (h | ⟨summary', i, cause, h, hi, hfollow⟩)
        · rw [hscan] at h
          cases h
        · obtain rfl : summary = summary' := Option.some.inj (hscan.symm.trans h)
          have hmem := List.mem_filterMap.2 ⟨i, hi, unresolved?_eq_some hfollow⟩
          exact List.ne_nil_iff_exists_cons.1 (List.ne_nil_of_mem hmem)
      · rintro ⟨e, rest, heq⟩
        obtain ⟨i, hi, he⟩ := List.mem_filterMap.1 (heq ▸ List.mem_cons_self)
        cases hfollow : ctx.follow i.specifier r.id with
        | error cause => exact Or.inr ⟨summary, i, cause, hscan, hi, hfollow⟩
        | ok target =>
            rw [unresolved?_eq_none hfollow] at he
            cases he

/-! ## All modules -/

/-- What is told by a scan that has explored the nodes `refs` along `links`: the failures of the
modules among them, or a graph if there are none. -/
structure Scan.Tells (ctx : LoadContext) (targets refs : List ModuleRef) (links : List Link)
    (failed : List (ModuleRef × Option String))
    (outcome : Option (Except (List BuildError) Graph)) : Prop where
  /-- Of a module that fails it is told once. -/
  nodup : (failed.map Prod.fst).Nodup
  mem_iff : ∀ r, r ∈ failed.map Prod.fst ↔ r ∈ refs ∧ r.isExternal = false ∧ r.Fails ctx
  askedBy : ∀ x ∈ failed, x.1.AskedBy ctx targets links x.2
  graph : (∀ r ∈ refs, r.isExternal = false → ¬ r.Fails ctx) → ∃ g, outcome = some (.ok g)
  errors : (∃ r ∈ refs, r.isExternal = false ∧ r.Fails ctx) →
    outcome = some (.error (failed.flatMap fun x => x.1.failures ctx x.2))

/-- A scan of entries has explored what can be reached through modules that load, and tells the
failures of what it has explored. -/
def Progress.Accounts (ctx : LoadContext) (entries : List (Option String × ModuleRef))
    (p : Progress) : Prop :=
  ∃ refs links failed, ModuleRef.Explored ctx (entries.map Prod.snd) refs links ∧
    (ctx.resolver.fs.NamesAreText → ∀ r, r ∈ refs ↔ r.Reached ctx (entries.map Prod.snd)) ∧
    Scan.Tells ctx (entries.map Prod.snd) refs links failed (p.outcome? entries)

namespace Progress.Tracked

variable {refs : List ModuleRef} {tasks : Tasks} {p : Progress}

/-- The tasks that have failed are those of the modules that fail. -/
theorem mem_failed_iff {targets : List ModuleRef} (h : p.Tracked ctx targets refs tasks)
    (hcomplete : p.Complete) (r : ModuleRef) :
    r ∈ tasks.failed.map Task.target ↔ r ∈ refs ∧ r.isExternal = false ∧ r.Fails ctx := by
  rw [ModuleRef.fails_iff]
  constructor
  · intro hr
    obtain ⟨t, ht, rfl⟩ := List.mem_map.1 hr
    have hmem : t ∈ p.loader.pending ++ tasks.reported := by simp [Tasks.reported, ht]
    obtain ⟨hget, hloaded⟩ := h.ledger.task t hmem
    exact ⟨List.mem_of_getElem? hget, hloaded, h.failed t ht⟩
  · rintro ⟨hr, hloaded, hfails⟩
    obtain ⟨i, hi⟩ := List.mem_iff_getElem?.1 hr
    obtain ⟨t, ht, -, rfl⟩ := h.task_at hcomplete hi hloaded
    rcases List.mem_append.1 ht with ht | ht
    · obtain ⟨summary, _, hloads, -⟩ := h.done t ht
      exact absurd hloads (hfails summary _)
    · exact List.mem_map_of_mem ht

theorem tells {entries : List (Option String × ModuleRef)}
    (h : p.Tracked ctx (entries.map Prod.snd) refs tasks) (hcomplete : p.Complete)
    (hpoints : List.Forall₂ (EntryPoint.Names refs) entries (Loader.start entries).2) :
    Scan.Tells ctx (entries.map Prod.snd) refs (Task.links ctx tasks.done)
      (tasks.failed.map fun t => (t.target, t.owner)) (p.outcome? entries) := by
  have hfst : (tasks.failed.map fun t => (t.target, t.owner)).map Prod.fst =
      tasks.failed.map Task.target := by
    rw [List.map_map]
    rfl
  obtain ⟨hok, hsome⟩ := h.outcome_eq hcomplete hpoints
  exact
    { nodup := by
        have hnodup := h.ledger.nodup_ids.of_map
        rw [h.settled hcomplete, List.map_append] at hnodup
        exact hfst ▸ hnodup.of_append_right
      mem_iff := fun r => hfst ▸ h.mem_failed_iff hcomplete r
      askedBy := by
        intro x hx
        obtain ⟨t, ht, rfl⟩ := List.mem_map.1 hx
        exact h.owner t (by simp [Tasks.reported, ht])
      graph := by
        intro hnone
        refine hok (List.eq_nil_iff_forall_not_mem.2 fun t ht => ?_)
        obtain ⟨hmem, hloaded, hfails⟩ :=
          (h.mem_failed_iff hcomplete t.target).1 (List.mem_map_of_mem ht)
        exact hnone t.target hmem hloaded hfails
      errors := by
        rintro ⟨r, hr⟩
        obtain ⟨t, ht, -⟩ := List.mem_map.1 ((h.mem_failed_iff hcomplete r).2 hr)
        rw [hsome (List.ne_nil_of_mem ht), h.errors, List.flatMap_map] }

end Progress.Tracked

theorem Progress.Run.accounts (hfs : ctx.resolver.fs.IgnoresSpelling)
    {entries : List (Option String × ModuleRef)}
    (hentries : ctx.resolver.fs.NamesAreText → ∀ e ∈ entries, e.2.Known ctx.resolver.fs)
    {store : Store} (hstore : store.Reflects ctx.resolver.fs) {p : Progress}
    (hrun : Run ctx entries store p) (hcomplete : p.Complete) : p.Accounts ctx entries := by
  obtain ⟨refs, tasks, h, hpoints⟩ := hrun.tracked hfs hstore
  have hexplored := h.explored hcomplete
  refine ⟨refs, _, _, hexplored, fun hnames => ?_, h.tells hcomplete hpoints⟩
  refine hexplored.mem_iff_reached hfs hnames fun t ht => ?_
  obtain ⟨e, he, rfl⟩ := List.mem_map.1 ht
  exact hentries hnames e he

/-! ## The whole scan -/

/-- A scan tells every failure once and nothing else. Either some of the entries it is asked for
are refused: then it answers their errors in order, whatever modules hold, and nothing is loaded.
Or all of them lead to files: then in whatever order tasks report and messages are filed, when all
messages have come in the modules that fail have been accounted for. No schedule gets stuck before,
and none goes on for ever if there are finitely many modules to reach. -/
theorem Scan.tells_every_failure (hfs : ctx.resolver.fs.IgnoresSpelling)
    {requests : List EntryRequest} (hrequests : requests ≠ []) {store : Store}
    (hstore : store.Reflects ctx.resolver.fs) :
    let refusals := requests.filterMap (EntryRequest.refusal? ctx.resolver)
    let store' := ((resolveEntries ctx.resolver requests).run store).2
    (refusals ≠ [] → ∀ limit summarize,
      (run { ctx with summarize } limit requests).run store = (some (.error refusals), store')) ∧
    (refusals = [] → ∃ entries, List.Forall₂ (EntryRequest.Leads ctx.resolver) requests entries ∧
      (∀ p, Progress.Run ctx entries store' p → p.Complete → p.Accounts ctx entries) ∧
      (∀ limit outcome, ((run ctx limit requests).run store).1 = some outcome →
        ∃ p, Progress.Run ctx entries store' p ∧ p.Complete ∧
          p.outcome? entries = some outcome) ∧
      (∀ p, Progress.Run ctx entries store' p → p.Complete ∨ ∃ p', Progress.Step ctx p p') ∧
      ∀ ids : List ModuleId,
        (∀ r : ModuleRef, r.Reached ctx (entries.map Prod.snd) → r.isExternal = false →
          r.id ∈ ids) →
        Acc (fun q p => Progress.Step ctx p q) (Progress.start entries store') ∧
        ∀ limit, ids.length ≤ limit →
          ∃ outcome, ((run ctx limit requests).run store).1 = some outcome) := by
  intro refusals store'
  obtain ⟨-, -, hstore'⟩ := resolveEntries_spec hfs requests hstore
  refine ⟨fun hsome limit summarize => ?_, fun hnil => ?_⟩
  · exact @run_of_refused { ctx with summarize } hfs _ hrequests _ hstore hsome limit
  · obtain ⟨entries, hentries, hload⟩ := exists_entries_of_run hfs hrequests hstore hnil
    have hknown (hnames : ctx.resolver.fs.NamesAreText) : ∀ e ∈ entries,
        e.2.Known ctx.resolver.fs := by
      intro e he
      obtain ⟨request, -, hrequest⟩ := exists_mem_of_forall₂_right hentries he
      exact hrequest.known hfs hnames
    refine ⟨entries, hentries, ?_, ?_, ?_, ?_⟩
    · exact fun p hrun hcomplete => hrun.accounts hfs hknown hstore' hcomplete
    · intro limit outcome houtcome
      rw [hload] at houtcome
      exact Progress.exists_run_of_loadGraph houtcome
    · intro p hrun
      obtain ⟨_, _, h, -⟩ := hrun.tracked hfs hstore'
      exact h.complete_or_exists_step
    · intro ids hids
      obtain ⟨_, hstart, -⟩ := Progress.tracked_start entries hstore'
      refine ⟨hstart.acc hids hfs, fun limit hlimit => ?_⟩
      rw [hload]
      exact Progress.exists_loadGraph hfs hstore' hids hlimit

/-- A module that imports three others, none of which loads: the first does not follow its grammar,
the second has two imports that lead nowhere, and the third cannot be read. What the second imports
besides does not follow its grammar either. -/
def LoadContext.ofFaults : LoadContext :=
  let tree : Tree :=
    ⟨[([utf8 "a.mjs"],
        .file { content := .ok (utf8 "import './b.mjs'; import './c.mjs'; import './d.mjs'") }),
      ([utf8 "b.mjs"], .file { content := .ok (utf8 "import from") }),
      ([utf8 "c.mjs"], .file { content := .ok (utf8
        "import './gone.mjs'; import './b.mjs'; import 'gone'; import './e.mjs'") }),
      ([utf8 "d.mjs"], .file { content := .error "Permission denied (os error 13)" }),
      ([utf8 "e.mjs"], .file { content := .ok (utf8 "import from") })]⟩
  { resolver :=
      { fs := tree.fileSystem, platform := .node, conditions := .ofList [], cwd := .ofString "/" }
    summarize := Script.Summary.ofSource? }

/-- Of the five modules four fail. Three of them are told of, the second with both errors, and the
third with the module that imports it. With entries that are refused, none of them is. -/
theorem Scan.tells_every_failure_ofFaults :
    (∀ limit, ((run .ofFaults limit [⟨none, "./a.mjs"⟩, ⟨none, "gone"⟩, ⟨none, "node:fs"⟩]).run
        {}).1 =
      some (.error [.unresolvedEntry "gone" ⟨.moduleNotFound, "gone imported from file:///"⟩,
        .externalEntry "node:fs" "node:fs"])) ∧
    ∃ (entries : List (Option String × ModuleRef)) (p : Progress),
      List.Forall₂ (EntryRequest.Leads LoadContext.ofFaults.resolver)
        [⟨none, "./a.mjs"⟩] entries ∧
      p.Complete ∧ p.Accounts .ofFaults entries ∧
      p.outcome? entries = some (.error [.unparsable "b.mjs",
        .unresolved "./gone.mjs" "c.mjs" ⟨.moduleNotFound, "/gone.mjs"⟩,
        .unresolved "gone" "c.mjs" ⟨.moduleNotFound, "gone imported from file:///c.mjs"⟩,
        .unreadable "d.mjs" (some "a.mjs") "Permission denied (os error 13)"]) := by
  have hfs : LoadContext.ofFaults.resolver.fs.IgnoresSpelling := Tree.fileSystem_ignoresSpelling _
  constructor
  · intro limit
    have hrefusals : [⟨none, "./a.mjs"⟩, ⟨none, "gone"⟩, ⟨none, "node:fs"⟩].filterMap
        (EntryRequest.refusal? LoadContext.ofFaults.resolver) =
          [.unresolvedEntry "gone" ⟨.moduleNotFound, "gone imported from file:///"⟩,
            .externalEntry "node:fs" "node:fs"] := by
      decide +kernel
    obtain ⟨hrefused, -⟩ := tells_every_failure hfs
      (List.cons_ne_nil ⟨none, "./a.mjs"⟩ [⟨none, "gone"⟩, ⟨none, "node:fs"⟩])
      Store.reflects_empty
    rw [hrefusals] at hrefused
    have hrun := hrefused (List.cons_ne_nil _ _) limit LoadContext.ofFaults.summarize
    exact congrArg Prod.fst hrun
  · have hrefusals : [⟨none, "./a.mjs"⟩].filterMap
        (EntryRequest.refusal? LoadContext.ofFaults.resolver) = [] := by
      decide +kernel
    have herrors : ((run .ofFaults 4 [⟨none, "./a.mjs"⟩]).run {}).1.map
        (fun outcome => match outcome with | .ok _ => [] | .error errors => errors) =
          some [.unparsable "b.mjs",
            .unresolved "./gone.mjs" "c.mjs" ⟨.moduleNotFound, "/gone.mjs"⟩,
            .unresolved "gone" "c.mjs" ⟨.moduleNotFound, "gone imported from file:///c.mjs"⟩,
            .unreadable "d.mjs" (some "a.mjs") "Permission denied (os error 13)"] := by
      decide +kernel
    obtain ⟨outcome, houtcome, heq⟩ := Option.map_eq_some_iff.1 herrors
    obtain ⟨-, hloaded⟩ := tells_every_failure hfs (List.cons_ne_nil ⟨none, "./a.mjs"⟩ [])
      Store.reflects_empty
    obtain ⟨entries, hleads, haccounts, hanswer, -⟩ := hloaded hrefusals
    obtain ⟨p, hrun, hcomplete, hp⟩ := hanswer 4 outcome houtcome
    refine ⟨entries, p, hleads, hcomplete, haccounts p hrun hcomplete, hp.trans ?_⟩
    cases outcome with
    | ok g => cases heq
    | error errors => rw [← heq]

end ModuleGraph
