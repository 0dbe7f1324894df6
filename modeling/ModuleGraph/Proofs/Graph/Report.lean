import ModuleGraph.Proofs.Graph.Coupling
import ModuleGraph.Proofs.Store.Transparency
import Mathlib.Data.List.Forall2

/-!
# What a task reports

Whatever the tasks before it have left in the store, a task reports what it would report alone.
So the scan is described without the store: `LoadContext.follow` is where an import leads,
`LoadContext.scan?` what the text of a module holds, and a task is done exactly if its module has
a summary whose imports all lead somewhere. Otherwise it reports the failures of its module
(`ModuleRef.failures`), which are told from the file system as well.
-/

set_option autoImplicit false

namespace ModuleGraph

namespace LoadContext

variable (ctx : LoadContext)

/-- The node that a specifier of a module leads to. -/
def follow (specifier : String) (importer : ModuleId) : Except ResolveError ModuleRef :=
  ((ctx.resolver.resolveImport specifier importer).run.run {}).1

/-- The summary of the module at a path, if its text can be read and follows the grammar of the
format. -/
def scan? (id : ModuleId) (format : Format) : Option Script.Summary :=
  match ctx.resolver.fs.readText (FilePath.ofString id) with
  | .error _ => none
  | .ok source =>
      match format.dialect? with
      | none => some { imports := [], hasExports := false }
      | some dialect => ctx.summarize dialect source

variable {ctx}

theorem scan?_of_readText_eq_error {id : ModuleId} {format : Format} {cause : String}
    (h : ctx.resolver.fs.readText (FilePath.ofString id) = .error cause) :
    ctx.scan? id format = none := by
  rw [scan?, h]

end LoadContext

/-- What an import of the module `importer` is resolved to. -/
structure ResolvedImport.Resolves (ctx : LoadContext) (importer : ModuleId) (i : Script.Import)
    (found : ResolvedImport) : Prop where
  specifier : found.specifier = i.specifier
  kind : found.kind = Task.kindOf i
  target : ctx.follow i.specifier importer = .ok found.target

/-- The module of a node has a summary, and its imports lead to the given nodes. -/
structure ModuleRef.Loads (ctx : LoadContext) (ref : ModuleRef) (summary : Script.Summary)
    (found : List ResolvedImport) : Prop where
  scan : ctx.scan? ref.id ref.format = some summary
  follow : List.Forall₂ (ResolvedImport.Resolves ctx ref.id) summary.imports found

/-- The failure of an import that leads nowhere. -/
def ModuleRef.unresolved? (ctx : LoadContext) (ref : ModuleRef) (i : Script.Import) :
    Option BuildError :=
  match ctx.follow i.specifier ref.id with
  | .ok _ => none
  | .error cause => some (.unresolved i.specifier (ModuleId.stable ctx.resolver.cwd ref.id) cause)

/-- What is wrong with a module, given who has asked for it first: its text cannot be read, or
does not follow its grammar, or else some of its imports, in source order, lead nowhere. -/
def ModuleRef.failures (ctx : LoadContext) (ref : ModuleRef) (owner : Option String) :
    List BuildError :=
  match ctx.resolver.fs.readText (FilePath.ofString ref.id) with
  | .error cause => [.unreadable (ModuleId.shown ctx.resolver.cwd ref.id) owner cause]
  | .ok _ =>
      match ctx.scan? ref.id ref.format with
      | none => [.unparsable (ModuleId.stable ctx.resolver.cwd ref.id)]
      | some summary => summary.imports.filterMap (ref.unresolved? ctx)

theorem ResolvedImport.Resolves.unique {ctx : LoadContext} {importer : ModuleId}
    {i : Script.Import} {f g : ResolvedImport} (hf : Resolves ctx importer i f)
    (hg : Resolves ctx importer i g) : f = g := by
  obtain ⟨specifier, kind, target⟩ := f
  obtain ⟨specifier', kind', target'⟩ := g
  have hs : specifier = specifier' := hf.specifier.trans hg.specifier.symm
  have hk : kind = kind' := hf.kind.trans hg.kind.symm
  have ht : target = target' := Except.ok.inj (hf.target.symm.trans hg.target)
  rw [hs, hk, ht]

theorem ModuleRef.Loads.unique {ctx : LoadContext} {ref : ModuleRef}
    {summary summary' : Script.Summary} {found found' : List ResolvedImport}
    (h : ref.Loads ctx summary found) (h' : ref.Loads ctx summary' found') :
    summary = summary' ∧ found = found' := by
  have hsummary : summary = summary' := Option.some.inj (h.scan.symm.trans h'.scan)
  subst hsummary
  have hunique : Relator.RightUnique (ResolvedImport.Resolves ctx ref.id) :=
    fun _ _ _ hf hg => hf.unique hg
  exact ⟨rfl, List.right_unique_forall₂' hunique h.follow h'.follow⟩

namespace ModuleRef

variable {ctx : LoadContext} {ref : ModuleRef}

theorem unresolved?_eq_none {i : Script.Import} {target : ModuleRef}
    (h : ctx.follow i.specifier ref.id = .ok target) : ref.unresolved? ctx i = none := by
  rw [unresolved?, h]

theorem unresolved?_eq_some {i : Script.Import} {cause : ResolveError}
    (h : ctx.follow i.specifier ref.id = .error cause) :
    ref.unresolved? ctx i =
      some (.unresolved i.specifier (ModuleId.stable ctx.resolver.cwd ref.id) cause) := by
  rw [unresolved?, h]

/-- Imports have no failure exactly if all of them lead somewhere. -/
theorem filterMap_unresolved?_eq_nil_iff {imports : List Script.Import} :
    imports.filterMap (ref.unresolved? ctx) = [] ↔
      ∃ found, List.Forall₂ (ResolvedImport.Resolves ctx ref.id) imports found := by
  induction imports with
  | nil => exact ⟨fun _ => ⟨[], .nil⟩, fun _ => rfl⟩
  | cons i rest ih =>
      cases hfollow : ctx.follow i.specifier ref.id with
      | error cause =>
          rw [List.filterMap_cons, unresolved?_eq_some hfollow]
          refine ⟨fun h => absurd h (List.cons_ne_nil _ _), ?_⟩
          rintro ⟨_, _ | ⟨hi, -⟩⟩
          have := hi.target
          rw [hfollow] at this
          cases this
      | ok target =>
          rw [List.filterMap_cons, unresolved?_eq_none hfollow]
          refine ih.trans ⟨?_, ?_⟩
          · rintro ⟨found, hfound⟩
            exact ⟨⟨i.specifier, Task.kindOf i, target⟩ :: found, .cons ⟨rfl, rfl, hfollow⟩ hfound⟩
          · rintro ⟨_, _ | ⟨-, hrest⟩⟩
            exact ⟨_, hrest⟩

theorem failures_of_scan? {summary : Script.Summary}
    (h : ctx.scan? ref.id ref.format = some summary) (owner : Option String) :
    ref.failures ctx owner = summary.imports.filterMap (ref.unresolved? ctx) := by
  unfold failures
  cases hread : ctx.resolver.fs.readText (FilePath.ofString ref.id) with
  | error cause =>
      rw [LoadContext.scan?_of_readText_eq_error hread] at h
      cases h
  | ok source => rw [h]

/-- A module has no failure exactly if it loads. -/
theorem failures_eq_nil_iff (owner : Option String) :
    ref.failures ctx owner = [] ↔ ∃ summary found, ref.Loads ctx summary found := by
  cases hscan : ctx.scan? ref.id ref.format with
  | some summary =>
      rw [failures_of_scan? hscan, filterMap_unresolved?_eq_nil_iff]
      constructor
      · rintro ⟨found, hfound⟩
        exact ⟨summary, found, hscan, hfound⟩
      · rintro ⟨summary', found, hloads⟩
        obtain rfl : summary = summary' := Option.some.inj (hscan.symm.trans hloads.scan)
        exact ⟨found, hloads.follow⟩
  | none =>
      have hfailures : ref.failures ctx owner ≠ [] := by
        unfold failures
        rw [hscan]
        split
        · exact List.cons_ne_nil _ _
        · exact List.cons_ne_nil _ _
      refine ⟨fun h => absurd h hfailures, ?_⟩
      rintro ⟨summary, found, hloads⟩
      have := hloads.scan
      rw [hscan] at this
      cases this

end ModuleRef

namespace Task

variable {ctx : LoadContext}

/-- The message of a task that runs before all others. -/
def report (ctx : LoadContext) (task : Task) : Message := ((task.run ctx).run {}).1

/-- What the imports of a task's module lead to, as far as it reports them. -/
def found (ctx : LoadContext) (task : Task) : List ResolvedImport :=
  match task.report ctx with
  | .done _ imports _ => imports
  | .failed _ => []

variable (hfs : ctx.resolver.fs.IgnoresSpelling)
include hfs

theorem run_eq_report {store : Store} (hstore : store.Reflects ctx.resolver.fs) (task : Task) :
    ((task.run ctx).run store).1 = task.report ctx ∧
      ((task.run ctx).run store).2.Reflects ctx.resolver.fs := by
  obtain ⟨hmessage, hstore', -⟩ :=
    coupled_run (Store.couples_reflects hfs) task ⟨hstore, Store.reflects_empty⟩
  exact ⟨hmessage, hstore'⟩

theorem resolveImport_eq_follow {store : Store} (hstore : store.Reflects ctx.resolver.fs)
    (specifier : String) (importer : ModuleId) :
    ((ctx.resolver.resolveImport specifier importer).run.run store).1 =
        ctx.follow specifier importer ∧
      ((ctx.resolver.resolveImport specifier importer).run.run store).2.Reflects
        ctx.resolver.fs := by
  obtain ⟨houtcome, hstore', -⟩ :=
    Resolver.coupled_resolveImport (Store.couples_reflects hfs) specifier importer
      ⟨hstore, Store.reflects_empty⟩
  exact ⟨houtcome.eq, hstore'⟩

omit hfs in
theorem run_resolveImports_cons (task : Task) (i : Script.Import) (rest : List Script.Import)
    (store : Store) :
    ((task.resolveImports ctx (i :: rest)).run store).1 =
      let first := (ctx.resolver.resolveImport i.specifier task.target.id).run.run store
      let others := ((task.resolveImports ctx rest).run first.2).1
      match first.1 with
      | .ok target => (⟨i.specifier, kindOf i, target⟩ :: others.1, others.2)
      | .error cause =>
          (others.1, .unresolved i.specifier (task.stableId ctx) cause :: others.2) := by
  rw [resolveImports, Store.run_bind]
  dsimp only
  cases ((ctx.resolver.resolveImport i.specifier task.target.id).run.run store).1 with
  | ok target => rfl
  | error cause => rfl

/-- Of the imports, those that lead nowhere are told in source order. If there is none, all that
the others lead to is found. -/
theorem resolveImports_spec (task : Task) (imports : List Script.Import) {store : Store}
    (hstore : store.Reflects ctx.resolver.fs) :
    let answer := ((task.resolveImports ctx imports).run store).1
    answer.2 = imports.filterMap (task.target.unresolved? ctx) ∧
      (answer.2 = [] →
        List.Forall₂ (ResolvedImport.Resolves ctx task.target.id) imports answer.1) := by
  induction imports generalizing store with
  | nil => exact ⟨rfl, fun _ => .nil⟩
  | cons i rest ih =>
      obtain ⟨hfollow, hstore'⟩ := resolveImport_eq_follow hfs hstore i.specifier task.target.id
      obtain ⟨herrors, hfound⟩ := ih hstore'
      rw [run_resolveImports_cons]
      dsimp only at herrors hfound ⊢
      rw [hfollow]
      cases houtcome : ctx.follow i.specifier task.target.id with
      | error cause =>
          rw [List.filterMap_cons, ModuleRef.unresolved?_eq_some houtcome, ← herrors]
          exact ⟨rfl, fun hnil => absurd hnil (List.cons_ne_nil _ _)⟩
      | ok target =>
          rw [List.filterMap_cons, ModuleRef.unresolved?_eq_none houtcome]
          exact ⟨herrors, fun hnil => .cons ⟨rfl, rfl, houtcome⟩ (hfound hnil)⟩

omit hfs in
variable (ctx) in
theorem load_spec (task : Task) :
    (∃ summary, task.load ctx = .ok summary ∧
        ctx.scan? task.target.id task.target.format = some summary) ∨
      ∃ e, task.load ctx = .error e ∧ task.target.failures ctx task.owner = [e] := by
  unfold load ModuleRef.failures LoadContext.scan?
  cases ctx.resolver.fs.readText (FilePath.ofString task.target.id) with
  | error cause => exact Or.inr ⟨_, rfl, rfl⟩
  | ok source =>
      dsimp only [summary]
      cases task.target.format.dialect? with
      | none => exact Or.inl ⟨_, rfl, rfl⟩
      | some dialect =>
          dsimp only
          cases ctx.summarize dialect source with
          | none => exact Or.inr ⟨_, rfl, rfl⟩
          | some summary => exact Or.inl ⟨summary, rfl, rfl⟩

/-- A task is done if its module loads, and reports what that gives; otherwise it reports the
failures of the module. -/
theorem report_spec (task : Task) :
    (∃ summary found, task.target.Loads ctx summary found ∧
        task.report ctx =
          .done (task.bareModule ctx summary.hasExports) found (task.warnings ctx)) ∨
      ((∀ summary found, ¬ task.target.Loads ctx summary found) ∧
        task.report ctx = .failed (task.target.failures ctx task.owner)) := by
  have hfails (hsome : task.target.failures ctx task.owner ≠ []) (summary : Script.Summary)
      (found : List ResolvedImport) : ¬ task.target.Loads ctx summary found := fun hloads =>
    hsome ((ModuleRef.failures_eq_nil_iff task.owner).2 ⟨summary, found, hloads⟩)
  rcases load_spec ctx task with ⟨summary, hload, hscan⟩ | ⟨e, hload, hfailures⟩
  · obtain ⟨herrors, hfound⟩ := resolveImports_spec hfs task summary.imports Store.reflects_empty
    have hreport : task.report ctx =
        let answer := ((task.resolveImports ctx summary.imports).run {}).1
        if answer.2.isEmpty then
          .done (task.bareModule ctx summary.hasExports) answer.1 (task.warnings ctx)
        else .failed answer.2 := by
      unfold report run
      rw [hload]
      dsimp only
      rw [Store.run_bind]
      split
      · rfl
      · rfl
    rw [← ModuleRef.failures_of_scan? hscan task.owner] at herrors
    dsimp only at hreport
    rw [hreport, herrors]
    rw [herrors] at hfound
    by_cases hnil : task.target.failures ctx task.owner = []
    · rw [if_pos (List.isEmpty_iff.2 hnil)]
      exact Or.inl ⟨summary, _, ⟨hscan, hfound hnil⟩, rfl⟩
    · rw [if_neg (fun h => hnil (List.isEmpty_iff.1 h))]
      exact Or.inr ⟨hfails hnil, rfl⟩
  · refine Or.inr ⟨hfails (hfailures ▸ List.cons_ne_nil _ _), ?_⟩
    rw [hfailures]
    unfold report run
    rw [hload]
    rfl

end Task

end ModuleGraph
