import ModuleGraph.Proofs.Graph.Entries
import Mathlib.Data.Set.Card

/-!
# What the messages of tasks hold

Whatever a task has found in the store, its message says one of two things. It is about the module
of the task, and the files among its imports are at canonical paths; or it is a failure, and not
without an error (`Message.Answers`). So are the entries of a scan at canonical paths, and there can
be no more tasks for different modules than there are such paths.
-/

set_option autoImplicit false

namespace ModuleGraph

open Resolution (Yields)

/-- The canonical paths of the files of a file system. -/
def FileSystem.canonicalFiles (fs : FileSystem) : Set FilePath :=
  { real | ∃ path, fs.isPresent path = true ∧ fs.isDir path = false ∧
    fs.canonicalize path = .ok real }

/-- The identity of the module at a canonical path. -/
def FilePath.moduleId? (real : FilePath) : Option ModuleId :=
  ((Url.ofFilePath? real).bind Url.toFilePath?).map FilePath.display

/-- A node is that of a file at a canonical path, unless it is external. -/
def ModuleRef.IsCanonical (fs : FileSystem) (r : ModuleRef) : Prop :=
  r.isExternal = false → ∃ real ∈ fs.canonicalFiles, real.moduleId? = some r.id

/-- Different modules are at different canonical paths. -/
theorem FileSystem.length_le_ncard {fs : FileSystem} (hfinite : fs.canonicalFiles.Finite)
    {ids : List ModuleId} (hnodup : ids.Nodup)
    (h : ∀ id ∈ ids, ∃ real ∈ fs.canonicalFiles, real.moduleId? = some id) :
    ids.length ≤ fs.canonicalFiles.ncard := by
  have hsome : (ids.map some).Nodup := hnodup.map (Option.some_injective _)
  have hsub : ((ids.map some).toFinset : Set (Option ModuleId)) ⊆
      FilePath.moduleId? '' fs.canonicalFiles := by
    intro id? hid
    obtain ⟨id, hmem, rfl⟩ := List.mem_map.1 (List.mem_toFinset.1 hid)
    exact h id hmem
  calc ids.length
      = (ids.map some).toFinset.card := by
        rw [List.toFinset_card_of_nodup hsome, List.length_map]
    _ = ((ids.map some).toFinset : Set (Option ModuleId)).ncard :=
        (Set.ncard_coe_finset _).symm
    _ ≤ (FilePath.moduleId? '' fs.canonicalFiles).ncard :=
        Set.ncard_le_ncard hsub (hfinite.image _)
    _ ≤ fs.canonicalFiles.ncard := Set.ncard_image_le hfinite

/-! ## Resolving -/

namespace Resolver

variable {r : Resolver}

theorem yields_finalize (location : Url) :
    (r.finalize location).Yields fun found => (ModuleRef.ofResolved found).IsCanonical r.fs := by
  intro store found h
  simp only [finalize] at h
  cases hfile : location.isFile with
  | true =>
      rw [hfile, if_pos rfl] at h
      obtain ⟨u, hu, h⟩ := Resolution.exists_of_bind h
      obtain ⟨format, -, h⟩ := Resolution.exists_of_bind h
      obtain rfl : (⟨u, format⟩ : Resolved) = found := Except.ok.inj h
      obtain ⟨path, real, v, -, hdir, hpresent, hreal, hv, rfl⟩ := exists_of_canonicalFile hu
      obtain ⟨shown, hshown, -⟩ := Url.exists_toFilePath? (Url.isAbsolute_of_ofFilePath? hv) hv
      rw [ModuleRef.ofResolved_file (Url.isFile_ofFilePath? hv) hshown]
      have hid : real.moduleId? = some shown.display := by
        rw [FilePath.moduleId?, hv, Option.bind_some, hshown, Option.map_some]
      exact fun _ => ⟨real, ⟨path, hpresent, hdir, hreal⟩, hid⟩
  | false =>
      rw [hfile, if_neg Bool.false_ne_true, pure_bind] at h
      obtain ⟨format, -, h⟩ := Resolution.exists_of_bind h
      obtain rfl : (⟨location, format⟩ : Resolved) = found := Except.ok.inj h
      rw [ModuleRef.ofResolved_external hfile]
      exact fun hexternal => Bool.noConfusion hexternal

theorem yields_resolvePath (specifier : String) (importer : Option FilePath) :
    (r.resolvePath specifier importer).Yields fun found =>
      (ModuleRef.ofResolved found).IsCanonical r.fs := by
  unfold resolvePath
  split
  · exact (Yields.trivial _).bind fun location _ => yields_finalize location
  · exact .throw _

theorem yields_resolveImport (specifier : String) (importer : ModuleId) :
    (r.resolveImport specifier importer).Yields (ModuleRef.IsCanonical r.fs) :=
  (yields_resolvePath specifier _).bind fun _ hfound => .pure hfound

theorem yields_resolveEntry (specifier : String) :
    (r.resolveEntry specifier).Yields (ModuleRef.IsCanonical r.fs) := by
  refine (yields_resolvePath specifier none).outcome.bind fun first hfirst => ?_
  cases first with
  | ok found => exact .pure (hfirst found rfl)
  | error e =>
      dsimp only
      split
      · refine (yields_resolvePath _ none).outcome.bind fun second hsecond => ?_
        cases second with
        | ok found => exact .pure (hsecond found rfl)
        | error e => exact .throw _
      · exact .throw _

end Resolver

/-- Whatever is asked for, what is found for the entries is at canonical paths. -/
theorem Scan.isCanonical_of_resolveEntries (r : Resolver) (requests : List EntryRequest)
    (store : Store) :
    ∀ entry ∈ ((Scan.resolveEntries r requests).run store).1.1, entry.2.IsCanonical r.fs := by
  induction requests generalizing store with
  | nil => exact fun entry hentry => absurd hentry List.not_mem_nil
  | cons request rest ih =>
      rw [run_resolveEntries_cons]
      dsimp only
      cases hfirst : ((r.resolveEntry request.specifier).run.run store).1 with
      | error cause => exact ih _
      | ok target =>
          have htarget := Resolver.yields_resolveEntry request.specifier store target hfirst
          unfold checkEntry
          dsimp only
          cases target.isExternal with
          | true => exact ih _
          | false => exact List.forall_mem_cons.2 ⟨htarget, ih _⟩

/-! ## Messages -/

/-- What a message says of a task: it is about its module, and what it imports, or it is a failure
with an error. -/
def Message.Answers (fs : FileSystem) (task : Task) : Message → Prop
  | .done module imports _ =>
      module.idx = task.idx ∧ module.id = task.target.id ∧ ∀ i ∈ imports, i.target.IsCanonical fs
  | .failed errors => errors ≠ []

namespace Task

variable {ctx : LoadContext}

theorem isCanonical_of_resolveImports (task : Task) (imports : List Script.Import)
    (store : Store) :
    ∀ found ∈ ((task.resolveImports ctx imports).run store).1.1,
      found.target.IsCanonical ctx.resolver.fs := by
  induction imports generalizing store with
  | nil => exact fun found hfound => absurd hfound List.not_mem_nil
  | cons i rest ih =>
      rw [run_resolveImports_cons]
      dsimp only
      cases hfirst : ((ctx.resolver.resolveImport i.specifier task.target.id).run.run store).1 with
      | error cause => exact ih _
      | ok target =>
          have htarget :=
            Resolver.yields_resolveImport i.specifier task.target.id store target hfirst
          exact List.forall_mem_cons.2 ⟨htarget, ih _⟩

/-- A task answers for its module, whatever it has found in the store. -/
theorem answers_run (task : Task) (store : Store) :
    ((task.run ctx).run store).1.Answers ctx.resolver.fs task := by
  unfold Task.run
  cases task.load ctx with
  | error e => exact List.cons_ne_nil e []
  | ok summary =>
      dsimp only
      rw [Store.run_bind]
      have hfound := @isCanonical_of_resolveImports ctx task summary.imports store
      generalize (task.resolveImports ctx summary.imports).run store = answer at hfound ⊢
      obtain ⟨⟨found, errors⟩, later⟩ := answer
      cases errors with
      | nil => exact ⟨rfl, rfl, hfound⟩
      | cons e errors => exact List.cons_ne_nil e errors

end Task

end ModuleGraph
