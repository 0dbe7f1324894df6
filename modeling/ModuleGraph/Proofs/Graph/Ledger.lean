import ModuleGraph.Proofs.Graph.Index
import Mathlib.Data.List.Forall2
import Mathlib.Data.List.Induction

/-!
# The ledger of a scan

Beside its places a loader knows who imports whom. `Loader.Ledger` ties this to two lists: the
nodes that were asked for, and the *links* followed since, each from the node of an importing
module to what one of its imports leads to. Every node met is there for a reason that goes back
to what was asked for, and every link has been noted with the place it leads to.
-/

set_option autoImplicit false

namespace ModuleGraph

/-- A link from the node of a module to the node of one of its imports. -/
abbrev Link := ModuleRef × ModuleRef

/-- Why a node is met: it was asked for, and first under its identity, or a link leads to it from
a node that is met, and nobody has asked for its identity. -/
inductive ModuleRef.Met (targets : List ModuleRef) (links : List Link) : ModuleRef → Prop
  | target {r : ModuleRef} : targets.find? (fun t => t.id = r.id) = some r → Met targets links r
  | link {a b : ModuleRef} : Met targets links a → (a, b) ∈ links →
      (∀ t ∈ targets, t.id ≠ b.id) → Met targets links b

/-- An edge of the graph leads to the place of what the import was resolved to. -/
structure ImportRecord.Follows (refs : List ModuleRef) (i : ResolvedImport)
    (record : ImportRecord) : Prop where
  specifier : record.specifier = i.specifier
  kind : record.kind = i.kind
  target : ∃ r, refs[record.target]? = some r ∧ r.id = i.target.id

/-- An entry point leads to the place of what was asked for. -/
structure EntryPoint.Names (refs : List ModuleRef) (entry : Option String × ModuleRef)
    (point : EntryPoint) : Prop where
  name : point.name = entry.1
  target : ∃ r, refs[point.idx]? = some r ∧ r.id = entry.2.id

/-- For every node met the importers are noted: the modules that a link leads to it from. -/
structure Loader.NotesImporters (importers : List (List ModuleId)) (links : List Link)
    (refs : List ModuleRef) : Prop where
  length : importers.length = refs.length
  mem_iff : ∀ (i : Nat) (r : ModuleRef), refs[i]? = some r →
    ∃ ids, importers[i]? = some ids ∧ ∀ id, id ∈ ids ↔ ∃ l ∈ links, l.1.id = id ∧ l.2.id = r.id

/-- The loader has met the nodes `refs`, for the nodes asked for and the links followed. -/
structure Loader.Ledger (s : Loader) (targets : List ModuleRef) (links : List Link)
    (refs : List ModuleRef) (reported : List Task) : Prop
    extends s.Indexes refs reported where
  met : ∀ r ∈ refs, r.Met targets links
  targets_met : ∀ r ∈ targets, r.id ∈ refs.map ModuleRef.id
  links_met : ∀ l ∈ links, l.1 ∈ refs ∧ l.2.id ∈ refs.map ModuleRef.id
  isEntry : ∀ t ∈ s.pending ++ reported, t.isEntry = true ↔ ∃ r ∈ targets, r.id = t.target.id
  importers : NotesImporters s.importers links refs

namespace ModuleRef.Met

variable {targets : List ModuleRef} {links : List Link} {r : ModuleRef}

theorem of_links_subset (h : r.Met targets links) {links' : List Link} (hsub : links ⊆ links') :
    r.Met targets links' := by
  induction h with
  | target hr => exact .target hr
  | link _ hl hno ih => exact .link ih (hsub hl) hno

/-- Without links only what was asked for is met. -/
theorem find?_of_no_link (h : r.Met targets []) :
    targets.find? (fun t => t.id = r.id) = some r := by
  cases h with
  | target hr => exact hr
  | link _ hl _ => exact absurd hl List.not_mem_nil

end ModuleRef.Met

theorem ImportRecord.Follows.of_prefix {refs refs' : List ModuleRef} {i : ResolvedImport}
    {record : ImportRecord} (h : Follows refs i record) (hpre : refs <+: refs') :
    Follows refs' i record := by
  obtain ⟨r, hr, hid⟩ := h.target
  exact ⟨h.specifier, h.kind, r, ModuleRef.getElem?_of_prefix hpre hr, hid⟩

theorem EntryPoint.Names.of_prefix {refs refs' : List ModuleRef}
    {entry : Option String × ModuleRef} {point : EntryPoint} (h : Names refs entry point)
    (hpre : refs <+: refs') : Names refs' entry point := by
  obtain ⟨r, hr, hid⟩ := h.target
  exact ⟨h.name, r, ModuleRef.getElem?_of_prefix hpre hr, hid⟩

namespace Loader

variable {s : Loader} {targets : List ModuleRef} {links : List Link} {refs : List ModuleRef}
  {reported : List Task}

/-! ## What a visit leaves alone -/

/-- A visit adds nothing but the place of a new identity, and a task if a module is to be loaded
there. -/
theorem visit_frame (h : s.Indexes refs reported) (target : ModuleRef) (owner : Option String)
    (isEntry : Bool) :
    let s' := (s.visit target owner isEntry).1
    s'.errors = s.errors ∧ s'.warnings = s.warnings ∧ s.places <+: s'.places ∧
      s'.importers = s.importers ++ (if target.id ∈ refs.map ModuleRef.id then [] else [[]]) ∧
      ∃ new, s'.pending = s.pending ++ new ∧ s'.remaining = s.remaining + new.length ∧
        ∀ t ∈ new, t.target = target ∧ t.owner = owner ∧ t.isEntry = isEntry ∧
          target.id ∉ refs.map ModuleRef.id := by
  cases hlookup : s.visited.lookup target.id with
  | some idx =>
      have hknown : target.id ∈ refs.map ModuleRef.id := by
        by_contra hnew
        rw [h.lookup_eq_none.2 hnew] at hlookup
        cases hlookup
      rw [visit_known hlookup, if_pos hknown]
      exact ⟨rfl, rfl, List.prefix_rfl, by simp, [], by simp, by simp, by simp⟩
  | none =>
      have hnew : target.id ∉ refs.map ModuleRef.id := h.lookup_eq_none.1 hlookup
      cases hexternal : target.isExternal with
      | true =>
          rw [visit_external hlookup hexternal, if_neg hnew]
          exact ⟨rfl, rfl, List.prefix_append _ _, rfl, [], by simp, by simp, by simp⟩
      | false =>
          rw [visit_internal hlookup hexternal, if_neg hnew]
          refine ⟨rfl, rfl, List.prefix_append _ _, rfl, [_], rfl, rfl, ?_⟩
          intro t ht
          rw [List.mem_singleton.1 ht]
          exact ⟨rfl, rfl, rfl, hnew⟩

/-! ## Notes -/

/-- Nobody imports what has just been met. -/
theorem NotesImporters.meet {importers : List (List ModuleId)}
    (h : NotesImporters importers links refs)
    (hlinks : ∀ l ∈ links, l.2.id ∈ refs.map ModuleRef.id) (target : ModuleRef) :
    NotesImporters (importers ++ if target.id ∈ refs.map ModuleRef.id then [] else [[]]) links
      (ModuleRef.meet refs target) := by
  unfold ModuleRef.meet
  by_cases hknown : target.id ∈ refs.map ModuleRef.id
  · rw [if_pos hknown, if_pos hknown, List.append_nil]
    exact h
  · rw [if_neg hknown, if_neg hknown]
    refine ⟨by rw [List.length_append, List.length_append, h.length]; rfl, ?_⟩
    intro i r hr
    rcases ModuleRef.getElem?_concat.1 hr with hr | ⟨rfl, rfl⟩
    · obtain ⟨ids, hids, hmem⟩ := h.mem_iff i r hr
      exact ⟨ids, ModuleRef.getElem?_of_prefix (List.prefix_append _ _) hids, hmem⟩
    · refine ⟨[], by rw [← h.length]; simp, ?_⟩
      intro id
      constructor
      · exact fun hid => absurd hid List.not_mem_nil
      · rintro ⟨l, hl, -, hid⟩
        exact absurd (hid ▸ hlinks l hl) hknown

/-- Noting one more importer accounts for one more link. -/
theorem NotesImporters.add {importers : List (List ModuleId)}
    (h : NotesImporters importers links refs) (hnodup : (refs.map ModuleRef.id).Nodup)
    {a b r : ModuleRef} {idx : Nat} (hr : refs[idx]? = some r) (hid : r.id = b.id) :
    NotesImporters (importers.modify idx (· ++ [a.id])) (links ++ [(a, b)]) refs := by
  refine ⟨by rw [List.length_modify, h.length], ?_⟩
  intro i x hx
  obtain ⟨ids, hids, hmem⟩ := h.mem_iff i x hx
  have hget : (importers.modify idx (· ++ [a.id]))[i]? =
      some (if idx = i then ids ++ [a.id] else ids) := by
    rw [List.getElem?_modify, hids]
    split <;> rfl
  refine ⟨_, hget, fun id => ?_⟩
  have hsplit : (∃ l ∈ links ++ [(a, b)], l.1.id = id ∧ l.2.id = x.id) ↔
      id ∈ ids ∨ (a.id = id ∧ b.id = x.id) := by
    rw [hmem]
    constructor
    · rintro ⟨l, hl, hl'⟩
      rcases List.mem_append.1 hl with hl | hl
      · exact Or.inl ⟨l, hl, hl'⟩
      · rw [List.mem_singleton.1 hl] at hl'
        exact Or.inr hl'
    · rintro (⟨l, hl, hl'⟩ | hl')
      · exact ⟨l, List.mem_append_left _ hl, hl'⟩
      · exact ⟨(a, b), by simp, hl'⟩
  rw [hsplit]
  -- only at the place of the one that is imported there is something new
  by_cases hi : idx = i
  · subst hi
    obtain rfl : r = x := Option.some.inj (hr.symm.trans hx)
    rw [if_pos rfl, List.mem_append, List.mem_singleton]
    constructor
    · rintro (h | h)
      · exact Or.inl h
      · exact Or.inr ⟨h.symm, hid.symm⟩
    · rintro (h | ⟨h, -⟩)
      · exact Or.inl h
      · exact Or.inr h.symm
  · rw [if_neg hi]
    refine ⟨Or.inl, ?_⟩
    rintro (h | ⟨-, hb⟩)
    · exact h
    · exact absurd (ModuleRef.idx_unique hnodup hr hx (hid.trans hb)) hi

/-! ## What was asked for -/

theorem ledger_empty : Ledger {} [] [] [] [] where
  toIndexes := indexes_empty
  met r h := absurd h List.not_mem_nil
  targets_met r h := absurd h List.not_mem_nil
  links_met l h := absurd h List.not_mem_nil
  isEntry t h := absurd h List.not_mem_nil
  importers := ⟨rfl, fun i r h => by simp at h⟩

/-- Before any link is followed, everything met was asked for. -/
theorem Ledger.visit_target (h : s.Ledger targets [] refs []) (target : ModuleRef) :
    (s.visit target none true).1.Ledger (targets ++ [target]) []
      (ModuleRef.meet refs target) [] := by
  obtain ⟨hindexes, -⟩ := h.toIndexes.visit target none true
  obtain ⟨-, -, -, himporters, new, hpending, -, hnew⟩ := visit_frame h.toIndexes target none true
  have hmet : ∀ r ∈ ModuleRef.meet refs target, r.Met (targets ++ [target]) [] := by
    -- what is found first stays so: a target behind it has an identity of its own
    intro r hr
    refine .target ?_
    rcases ModuleRef.mem_meet hr with hr | ⟨rfl, hfresh⟩
    · rw [List.find?_append, (h.met r hr).find?_of_no_link]
      rfl
    · have hnone : targets.find? (fun t => t.id = r.id) = none := by
        rw [List.find?_eq_none]
        intro t ht heq
        exact hfresh (of_decide_eq_true heq ▸ h.targets_met t ht)
      rw [List.find?_append, hnone]
      simp
  have hnotes := h.importers.meet (fun l hl => absurd hl List.not_mem_nil) target
  refine ⟨hindexes, hmet, ?_, by simp, ?_, himporters ▸ hnotes⟩
  · intro r hr
    rcases List.mem_append.1 hr with hr | hr
    · obtain ⟨r', hr', hid⟩ := List.mem_map.1 (h.targets_met r hr)
      exact hid ▸ List.mem_map_of_mem ((ModuleRef.prefix_meet refs target).subset hr')
    · rw [List.mem_singleton.1 hr]
      exact ModuleRef.id_mem_meet refs target
  · intro t ht
    have htarget : ∃ r ∈ targets ++ [target], r.id = t.target.id := by
      have hmem := List.mem_of_getElem? (hindexes.task t ht).1
      have hfind := (hmet _ hmem).find?_of_no_link
      exact ⟨_, List.mem_of_find?_eq_some hfind, rfl⟩
    refine ⟨fun _ => htarget, fun _ => ?_⟩
    rw [hpending, List.append_nil] at ht
    rcases List.mem_append.1 ht with ht | ht
    · have ht' : t ∈ s.pending ++ [] := by rw [List.append_nil]; exact ht
      have hfind := (h.met _ (List.mem_of_getElem? (h.task t ht').1)).find?_of_no_link
      exact (h.isEntry t ht').2 ⟨_, List.mem_of_find?_eq_some hfind, rfl⟩
    · exact (hnew t ht).2.2.1

/-! ## What is imported -/

/-- A link that is followed is noted, and its end is met. -/
theorem Ledger.visit_link (h : s.Ledger targets links refs reported) {a : ModuleRef} (ha : a ∈ refs)
    (target : ModuleRef) (owner : Option String) :
    let visited := s.visit target owner false
    (visited.1.addImporter visited.2 a.id).Ledger targets (links ++ [(a, target)])
      (ModuleRef.meet refs target) reported := by
  obtain ⟨hindexes, r, hr, hid⟩ := h.toIndexes.visit target owner false
  obtain ⟨-, -, -, himporters, new, hpending, -, hnew⟩ :=
    visit_frame h.toIndexes target owner false
  have hpre := ModuleRef.prefix_meet refs target
  have hold {id : ModuleId} (hmem : id ∈ refs.map ModuleRef.id) :
      id ∈ (ModuleRef.meet refs target).map ModuleRef.id := by
    obtain ⟨r, hr, rfl⟩ := List.mem_map.1 hmem
    exact List.mem_map_of_mem (hpre.subset hr)
  have hnotes : NotesImporters (s.visit target owner false).1.importers links
      (ModuleRef.meet refs target) :=
    himporters ▸ h.importers.meet (fun l hl => (h.links_met l hl).2) target
  refine
    { toIndexes := hindexes.reorder rfl rfl (List.Perm.refl _)
      met := ?_
      targets_met := fun r hr => hold (h.targets_met r hr)
      links_met := ?_
      isEntry := ?_
      importers := hnotes.add hindexes.nodup hr hid }
  · intro x hx
    have hsub : links ⊆ links ++ [(a, target)] := List.subset_append_left _ _
    rcases ModuleRef.mem_meet hx with hx | ⟨rfl, hfresh⟩
    · exact (h.met x hx).of_links_subset hsub
    · refine .link ((h.met a ha).of_links_subset hsub) (by simp) ?_
      intro t ht heq
      exact hfresh (heq ▸ h.targets_met t ht)
  · intro l hl
    rcases List.mem_append.1 hl with hl | hl
    · exact ⟨hpre.subset (h.links_met l hl).1, hold (h.links_met l hl).2⟩
    · rw [List.mem_singleton.1 hl]
      exact ⟨hpre.subset ha, ModuleRef.id_mem_meet refs target⟩
  · intro t ht
    have ht' : t ∈ (s.pending ++ new) ++ reported := hpending ▸ ht
    rw [List.append_assoc, List.mem_append, List.mem_append] at ht'
    have hcase : t ∈ s.pending ++ reported ∨ t ∈ new := by
      rw [List.mem_append]
      tauto
    rcases hcase with ht | ht
    · exact h.isEntry t ht
    · -- what has been asked for has been met before, so a new module is no entry
      obtain ⟨htarget, -, hentry, hfresh⟩ := hnew t ht
      rw [hentry, htarget]
      constructor
      · intro hfalse
        cases hfalse
      · rintro ⟨r, hr, hid⟩
        exact absurd (hid ▸ h.targets_met r hr) hfresh

/-- Connecting a module follows a link for each of its imports, in order. Places that exist stay
as they are, and a new task is owned by the module and is for the first import of its identity. -/
theorem Ledger.connect (h : s.Ledger targets links refs reported) {a : ModuleRef} (ha : a ∈ refs)
    (m : LoadedModule) (hm : m.id = a.id) (imports : List ResolvedImport) :
    let out := s.connect m imports
    ∃ refs', refs <+: refs' ∧
      out.1.Ledger targets (links ++ imports.map fun i => (a, i.target)) refs' reported ∧
      List.Forall₂ (ImportRecord.Follows refs') imports out.2 ∧
      out.1.errors = s.errors ∧ out.1.warnings = s.warnings ∧ s.places <+: out.1.places ∧
      ∃ new, out.1.pending = s.pending ++ new ∧ out.1.remaining = s.remaining + new.length ∧
        ∀ t ∈ new, t.owner = some m.stableId ∧ t.target.id ∉ refs.map ModuleRef.id ∧
          (imports.find? fun i => i.target.id = t.target.id).map ResolvedImport.target =
            some t.target := by
  induction imports generalizing s links refs with
  | nil =>
      refine ⟨refs, List.prefix_rfl, ?_, .nil, rfl, rfl, List.prefix_rfl, [], by simp [connect],
        rfl, fun t ht => absurd ht List.not_mem_nil⟩
      rw [List.map_nil, List.append_nil]
      exact h
  | cons i rest ih =>
      have hvisit := h.visit_link ha i.target (some m.stableId)
      obtain ⟨-, r, hr, hid⟩ := h.toIndexes.visit i.target (some m.stableId) false
      obtain ⟨herrors, hwarnings, hplaces, -, new, hpending, hremaining, hnew⟩ :=
        visit_frame h.toIndexes i.target (some m.stableId) false
      have hpre := ModuleRef.prefix_meet refs i.target
      -- each step follows one link; the rest is followed from the nodes met by then
      rw [← hm] at hvisit
      obtain ⟨refs', hpre', hledger, hrecords, herrors', hwarnings', hplaces', new', hpending',
        hremaining', hnew'⟩ := ih hvisit (hpre.subset ha)
      refine ⟨refs', hpre.trans hpre', ?_, .cons ?_ hrecords, herrors'.trans herrors,
        hwarnings'.trans hwarnings, hplaces.trans hplaces', new ++ new', ?_, ?_, ?_⟩
      · rw [List.append_assoc, List.singleton_append] at hledger
        exact hledger
      · exact ⟨rfl, rfl, r, ModuleRef.getElem?_of_prefix hpre' hr, hid⟩
      · rw [← List.append_assoc, ← hpending]
        exact hpending'
      · rw [List.length_append, ← Nat.add_assoc, ← hremaining]
        exact hremaining'
      · intro t ht
        rcases List.mem_append.1 ht with ht | ht
        · obtain ⟨htarget, howner, -, hfresh⟩ := hnew t ht
          refine ⟨howner, htarget ▸ hfresh, ?_⟩
          rw [List.find?_cons_of_pos (by rw [htarget]; exact decide_eq_true rfl), htarget]
          rfl
        -- what is new by then is not what this import leads to
        · obtain ⟨howner, hfresh, hfind⟩ := hnew' t ht
          have hold : t.target.id ∉ refs.map ModuleRef.id := fun hmem => by
            obtain ⟨x, hx, hid⟩ := List.mem_map.1 hmem
            exact hfresh (hid ▸ List.mem_map_of_mem (hpre.subset hx))
          have hne : i.target.id ≠ t.target.id := fun hid =>
            hfresh (hid ▸ ModuleRef.id_mem_meet refs i.target)
          refine ⟨howner, hold, ?_⟩
          rw [List.find?_cons_of_neg (by rw [decide_eq_true_eq]; exact hne)]
          exact hfind

/-! ## The start -/

theorem start_concat (entries : List (Option String × ModuleRef))
    (entry : Option String × ModuleRef) :
    start (entries ++ [entry]) =
      (((start entries).1.visit entry.2 none true).1,
        (start entries).2 ++ [⟨((start entries).1.visit entry.2 none true).2, entry.1⟩]) := by
  rw [start, List.foldl_append]
  rfl

/-- After the start everything asked for has its place, and every task is an entry that waits and
that nobody owns. -/
theorem ledger_start (entries : List (Option String × ModuleRef)) :
    ∃ refs, (start entries).1.Ledger (entries.map Prod.snd) [] refs [] ∧
      List.Forall₂ (EntryPoint.Names refs) entries (start entries).2 ∧
      (start entries).1.errors = [] ∧ (start entries).1.warnings = [] ∧
      (start entries).1.remaining = (start entries).1.pending.length ∧
      ∀ t ∈ (start entries).1.pending, t.owner = none := by
  induction entries using List.reverseRecOn with
  | nil => exact ⟨[], ledger_empty, .nil, rfl, rfl, rfl, fun t ht => absurd ht List.not_mem_nil⟩
  | append_singleton entries entry ih =>
      obtain ⟨refs, hledger, hpoints, herrors, hwarnings, hremaining, howner⟩ := ih
      obtain ⟨-, r, hr, hid⟩ := hledger.toIndexes.visit entry.2 none true
      obtain ⟨herrors', hwarnings', -, -, new, hpending, hremaining', hnew⟩ :=
        visit_frame hledger.toIndexes entry.2 none true
      rw [start_concat]
      refine ⟨ModuleRef.meet refs entry.2, ?_, ?_, herrors'.trans herrors,
        hwarnings'.trans hwarnings, ?_, ?_⟩
      · rw [List.map_append]
        exact hledger.visit_target entry.2
      · refine List.rel_append ?_ (.cons ⟨rfl, r, hr, hid⟩ .nil)
        exact hpoints.imp fun _ _ h => h.of_prefix (ModuleRef.prefix_meet refs entry.2)
      · rw [hpending, List.length_append, ← hremaining]
        exact hremaining'
      · intro t ht
        rw [hpending] at ht
        rcases List.mem_append.1 ht with ht | ht
        · exact howner t ht
        · exact (hnew t ht).2.1

end Loader

end ModuleGraph
