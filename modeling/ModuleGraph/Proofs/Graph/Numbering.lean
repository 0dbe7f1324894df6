import ModuleGraph.Proofs.Graph.Chronicle
import ModuleGraph.Proofs.Graph.Outcome

/-!
# The numbers that a loader gives

A loader asks for identities one after the other: for those of the entries, and for those that a
module imports when its message is filed. An identity gets its place when it is asked for first, so
the places are those of the identities without repetitions (`Loader.Recalls`), and the importers of
a module are noted in the order in which the loader has followed their imports. Tasks are numbered
upwards in the order in which they are started (`Task.Numbered`). All this holds in whatever order
messages are filed.
-/

set_option autoImplicit false

namespace ModuleGraph

/-! ## Identities without repetitions -/

section EraseDups

variable {ids more : List ModuleId} {id : ModuleId}

theorem eraseDups_concat_of_mem (h : id ∈ ids) : (ids ++ [id]).eraseDups = ids.eraseDups := by
  have hnone : [id].removeAll ids = [] := by simp [List.removeAll, h]
  rw [List.eraseDups_append, hnone]
  exact List.append_nil _

theorem eraseDups_concat_of_not_mem (h : id ∉ ids) :
    (ids ++ [id]).eraseDups = ids.eraseDups ++ [id] := by
  have hall : [id].removeAll ids = [id] := by simp [List.removeAll, h]
  rw [List.eraseDups_append, hall]
  rfl

theorem eraseDups_prefix_append (ids more : List ModuleId) :
    ids.eraseDups <+: (ids ++ more).eraseDups := by
  rw [List.eraseDups_append]
  exact List.prefix_append _ _

/-- An identity has one position among those without repetitions. -/
theorem eraseDups_inj {i j : Nat} (hi : ids.eraseDups[i]? = some id)
    (hj : ids.eraseDups[j]? = some id) : i = j :=
  (List.getElem?_inj (List.getElem?_eq_some_iff.1 hi).1 (nodup_eraseDups ids)).1
    (hi.trans hj.symm)

end EraseDups

/-! ## What a loader has asked for -/

/-- An edge of the graph leads to the position of the identity that the import was resolved to. -/
structure ImportRecord.PointsTo (ids : List ModuleId) (i : ResolvedImport)
    (record : ImportRecord) : Prop where
  specifier : record.specifier = i.specifier
  target : ids[record.target]? = some i.target.id

theorem ImportRecord.PointsTo.of_prefix {ids more : List ModuleId} {i : ResolvedImport}
    {record : ImportRecord} (h : PointsTo ids i record) (hpre : ids <+: more) :
    PointsTo more i record :=
  ⟨h.specifier, ModuleRef.getElem?_of_prefix hpre h.target⟩

/-- An import told by identities: who imports, and what is imported. -/
abbrev Arrow := ModuleId × ModuleId

/-- The importers of an identity in the order of the arrows, with repetitions. -/
def importersIn (arrows : List Arrow) (id : ModuleId) : List ModuleId :=
  (arrows.filter fun arrow => arrow.2 = id).map Prod.fst

theorem importersIn_concat (arrows : List Arrow) (a b id : ModuleId) :
    importersIn (arrows ++ [(a, b)]) id =
      importersIn arrows id ++ if b = id then [a] else [] := by
  unfold importersIn
  rw [List.filter_append, List.map_append, List.filter_singleton]
  by_cases h : b = id
  · simp [h]
  · simp [h]

theorem importersIn_eq_nil {arrows : List Arrow} {id : ModuleId}
    (h : ∀ arrow ∈ arrows, arrow.2 ≠ id) : importersIn arrows id = [] := by
  unfold importersIn
  rw [List.map_eq_nil_iff, List.filter_eq_nil_iff]
  intro arrow harrow heq
  exact h arrow harrow (of_decide_eq_true heq)

/-- The loader has asked for identities in the given order, each at the place where it stands among
them without repetitions, and has followed the arrows in the given order. -/
structure Loader.Recalls (s : Loader) (asked : List ModuleId) (arrows : List Arrow) : Prop where
  length : s.places.length = asked.eraseDups.length
  visited : ∀ (id : ModuleId) (i : Nat),
    s.visited.lookup id = some i ↔ asked.eraseDups[i]? = some id
  arrows_asked : ∀ arrow ∈ arrows, arrow.2 ∈ asked
  importers : s.importers = asked.eraseDups.map (importersIn arrows)

namespace Loader

variable {s s' : Loader} {asked : List ModuleId} {arrows : List Arrow}

theorem recalls_empty : Recalls {} [] [] where
  length := rfl
  visited id i := by simp
  arrows_asked arrow h := absurd h List.not_mem_nil
  importers := rfl

namespace Recalls

theorem lookup_eq_none (h : s.Recalls asked arrows) {id : ModuleId} :
    s.visited.lookup id = none ↔ id ∉ asked := by
  constructor
  · intro hnone hmem
    obtain ⟨i, hi⟩ := List.mem_iff_getElem?.1 (List.mem_eraseDups.2 hmem)
    rw [(h.visited id i).2 hi] at hnone
    cases hnone
  · intro hmem
    cases hlookup : s.visited.lookup id with
    | none => rfl
    | some i =>
        have hi := List.mem_of_getElem? ((h.visited id i).1 hlookup)
        exact absurd (List.mem_eraseDups.1 hi) hmem

/-- What is put in the places does not matter. -/
theorem frame (h : s.Recalls asked arrows) (hlength : s'.places.length = s.places.length)
    (hvisited : s'.visited = s.visited) (himporters : s'.importers = s.importers) :
    s'.Recalls asked arrows where
  length := hlength.trans h.length
  visited := hvisited ▸ h.visited
  arrows_asked := h.arrows_asked
  importers := himporters.trans h.importers

/-- A new identity takes the next place, whatever is put there. -/
theorem add (h : s.Recalls asked arrows) {id : ModuleId} (hnew : id ∉ asked)
    {place : Option Module} (hplaces : s'.places = s.places ++ [place])
    (hvisited : s'.visited = (id, s.places.length) :: s.visited)
    (himporters : s'.importers = s.importers ++ [[]]) : s'.Recalls (asked ++ [id]) arrows where
  length := by
    rw [eraseDups_concat_of_not_mem hnew, hplaces, List.length_append, List.length_append,
      h.length]
    rfl
  visited := by
    intro other i
    rw [eraseDups_concat_of_not_mem hnew, hvisited, List.lookup_cons,
      ModuleRef.getElem?_concat, ← h.length, ← h.visited]
    by_cases hid : other = id
    · subst hid
      rw [beq_self_eq_true, h.lookup_eq_none.2 hnew]
      simp [eq_comm]
    · rw [beq_eq_false_iff_ne.2 hid]
      simp [hid]
  arrows_asked arrow harrow := List.mem_append_left _ (h.arrows_asked arrow harrow)
  importers := by
    have hnone : importersIn arrows id = [] :=
      importersIn_eq_nil fun arrow harrow heq => hnew (heq ▸ h.arrows_asked arrow harrow)
    rw [eraseDups_concat_of_not_mem hnew, himporters, h.importers, List.map_append,
      List.map_singleton, hnone]

/-- Visiting a node asks for its identity, and answers the place of it. -/
theorem visit (h : s.Recalls asked arrows) (target : ModuleRef) (owner : Option String)
    (isEntry : Bool) :
    (s.visit target owner isEntry).1.Recalls (asked ++ [target.id]) arrows ∧
      (asked ++ [target.id]).eraseDups[(s.visit target owner isEntry).2]? = some target.id := by
  cases hlookup : s.visited.lookup target.id with
  | some idx =>
      have hidx := (h.visited target.id idx).1 hlookup
      have hknown : target.id ∈ asked := List.mem_eraseDups.1 (List.mem_of_getElem? hidx)
      have hsame := eraseDups_concat_of_mem hknown
      rw [visit_known hlookup, hsame]
      refine ⟨⟨?_, ?_, ?_, ?_⟩, hidx⟩
      · rw [hsame, h.length]
      · rw [hsame]
        exact h.visited
      · exact fun arrow harrow => List.mem_append_left _ (h.arrows_asked arrow harrow)
      · rw [hsame, h.importers]
  | none =>
      have hnew : target.id ∉ asked := h.lookup_eq_none.1 hlookup
      have hlast : (asked ++ [target.id]).eraseDups[s.places.length]? = some target.id := by
        rw [eraseDups_concat_of_not_mem hnew]
        exact ModuleRef.getElem?_concat.2 (Or.inr ⟨h.length, rfl⟩)
      cases hexternal : target.isExternal with
      | true =>
          rw [visit_external hlookup hexternal]
          exact ⟨h.add hnew rfl rfl rfl, hlast⟩
      | false =>
          rw [visit_internal hlookup hexternal]
          exact ⟨h.add hnew rfl rfl rfl, hlast⟩

/-- Noting an importer at the place of an identity follows one more arrow. -/
theorem note (h : s.Recalls asked arrows) {idx : Nat} {a b : ModuleId}
    (hidx : asked.eraseDups[idx]? = some b) :
    (s.addImporter idx a).Recalls asked (arrows ++ [(a, b)]) where
  length := h.length
  visited := h.visited
  arrows_asked := by
    intro arrow harrow
    rcases List.mem_append.1 harrow with harrow | harrow
    · exact h.arrows_asked arrow harrow
    · rw [List.mem_singleton.1 harrow]
      exact List.mem_eraseDups.1 (List.mem_of_getElem? hidx)
  importers := by
    refine List.ext_getElem? fun i => ?_
    show (s.importers.modify idx (· ++ [a]))[i]? = _
    rw [h.importers, List.getElem?_modify, List.getElem?_map, List.getElem?_map]
    cases hi : asked.eraseDups[i]? with
    | none => rfl
    | some id =>
        -- the identity at the place is the one that is imported, and at no other place
        have hsame : idx = i ↔ b = id := by
          constructor
          · rintro rfl
            exact Option.some.inj (hidx.symm.trans hi)
          · rintro rfl
            exact eraseDups_inj hidx hi
        show some (if idx = i then importersIn arrows id ++ [a] else importersIn arrows id) = some _
        rw [importersIn_concat]
        by_cases hbid : b = id
        · rw [if_pos hbid, if_pos (hsame.2 hbid)]
        · rw [if_neg hbid, if_neg (mt hsame.1 hbid), List.append_nil]

/-- Connecting a module asks for what it imports, in order. Every edge leads to the place of what
the import was resolved to. -/
theorem connect (h : s.Recalls asked arrows) (m : LoadedModule) (imports : List ResolvedImport) :
    let targets := imports.map fun i => i.target.id
    (s.connect m imports).1.Recalls (asked ++ targets)
        (arrows ++ targets.map fun id => (m.id, id)) ∧
      List.Forall₂ (ImportRecord.PointsTo (asked ++ targets).eraseDups) imports
        (s.connect m imports).2 := by
  induction imports generalizing s asked arrows with
  | nil =>
      refine ⟨?_, .nil⟩
      show s.Recalls (asked ++ []) (arrows ++ [])
      rw [List.append_nil, List.append_nil]
      exact h
  | cons i rest ih =>
      obtain ⟨hvisit, hidx⟩ := h.visit i.target (some m.stableId) false
      obtain ⟨hrest, hrecords⟩ := ih (hvisit.note hidx)
      dsimp only [List.map_cons] at hrest hrecords ⊢
      rw [List.append_assoc, List.append_assoc, List.singleton_append, List.singleton_append]
        at hrest
      rw [List.append_assoc, List.singleton_append] at hrecords
      refine ⟨hrest, .cons ?_ hrecords⟩
      have hpre := eraseDups_prefix_append (asked ++ [i.target.id])
        (rest.map fun i => i.target.id)
      rw [List.append_assoc, List.singleton_append] at hpre
      exact ⟨rfl, ModuleRef.getElem?_of_prefix hpre hidx⟩

end Recalls

end Loader

/-! ## The numbers of tasks -/

/-- The tasks have places from one number on and below another, in ascending order. -/
structure Task.Numbered (low high : Nat) (tasks : List Task) : Prop where
  ascending : (tasks.map Task.idx).Pairwise (· < ·)
  bounds : ∀ t ∈ tasks, low ≤ t.idx ∧ t.idx < high

namespace Task.Numbered

variable {low mid high : Nat} {earlier later : List Task}

theorem nil (low high : Nat) : Numbered low high [] :=
  ⟨List.Pairwise.nil, fun _ ht => absurd ht List.not_mem_nil⟩

theorem singleton (t : Task) : Numbered t.idx (t.idx + 1) [t] := by
  refine ⟨List.pairwise_singleton _ _, fun u hu => ?_⟩
  rw [List.mem_singleton.1 hu]
  omega

theorem append (h : Numbered low mid earlier) (h' : Numbered mid high later) (hlow : low ≤ mid)
    (hhigh : mid ≤ high) : Numbered low high (earlier ++ later) := by
  constructor
  · rw [List.map_append, List.pairwise_append]
    refine ⟨h.ascending, h'.ascending, fun i hi j hj => ?_⟩
    obtain ⟨t, ht, rfl⟩ := List.mem_map.1 hi
    obtain ⟨u, hu, rfl⟩ := List.mem_map.1 hj
    have hbelow := (h.bounds t ht).2
    have habove := (h'.bounds u hu).1
    omega
  · intro t ht
    rcases List.mem_append.1 ht with ht | ht
    · have hbounds := h.bounds t ht
      omega
    · have hbounds := h'.bounds t ht
      omega

end Task.Numbered

namespace Loader

/-- A visit leaves the places as they are and may add one more, for a task that it starts. -/
theorem exists_numbered_visit (s : Loader) (target : ModuleRef) (owner : Option String)
    (isEntry : Bool) :
    let s' := (s.visit target owner isEntry).1
    s.places <+: s'.places ∧
      ∃ new, s'.pending = s.pending ++ new ∧
        Task.Numbered s.places.length s'.places.length new := by
  cases hlookup : s.visited.lookup target.id with
  | some idx =>
      rw [visit_known hlookup]
      exact ⟨List.prefix_rfl, [], (List.append_nil _).symm, .nil _ _⟩
  | none =>
      cases hexternal : target.isExternal with
      | true =>
          rw [visit_external hlookup hexternal]
          exact ⟨List.prefix_append _ _, [], (List.append_nil _).symm, .nil _ _⟩
      | false =>
          rw [visit_internal hlookup hexternal]
          refine ⟨List.prefix_append _ _, [_], rfl, ?_⟩
          rw [List.length_append]
          exact .singleton ⟨s.places.length, target, owner, isEntry⟩

theorem exists_numbered_connect (s : Loader) (m : LoadedModule) (imports : List ResolvedImport) :
    let s' := (s.connect m imports).1
    s.places <+: s'.places ∧
      ∃ new, s'.pending = s.pending ++ new ∧
        Task.Numbered s.places.length s'.places.length new := by
  induction imports generalizing s with
  | nil => exact ⟨List.prefix_rfl, [], (List.append_nil _).symm, .nil _ _⟩
  | cons i rest ih =>
      obtain ⟨hplaces, first, hfirst, hnumbered⟩ :=
        s.exists_numbered_visit i.target (some m.stableId) false
      obtain ⟨hplaces', others, hothers, hnumbered'⟩ := ih
        ((s.visit i.target (some m.stableId) false).1.addImporter
          (s.visit i.target (some m.stableId) false).2 m.id)
      refine ⟨hplaces.trans hplaces', first ++ others, ?_, ?_⟩
      · rw [← List.append_assoc, ← hfirst]
        exact hothers
      · exact hnumbered.append hnumbered' hplaces.length_le hplaces'.length_le

/-- Filing the message of a module changes no place but that of the module, and numbers the tasks
that it starts upwards. -/
theorem numbered_handle_done (s : Loader) (m : LoadedModule) (imports : List ResolvedImport)
    (warnings : List Warning) {new : List Task}
    (hnew : (s.handle (.done m imports warnings)).pending = s.pending ++ new) :
    let s' := s.handle (.done m imports warnings)
    s.places.length ≤ s'.places.length ∧
      (∀ (i : Nat) (place : Option Module), i ≠ m.idx → s.places[i]? = some place →
        s'.places[i]? = some place) ∧
      Task.Numbered s.places.length s'.places.length new := by
  obtain ⟨hplaces, new', hnew', hnumbered⟩ :=
    exists_numbered_connect { s with warnings := s.warnings ++ warnings } m imports
  obtain rfl : new = new' := List.append_cancel_left (hnew.symm.trans hnew')
  have hlength : (s.handle (.done m imports warnings)).places.length =
      (connect { s with warnings := s.warnings ++ warnings } m imports).1.places.length :=
    List.length_set
  dsimp only
  rw [hlength]
  refine ⟨hplaces.length_le, fun i place hne hi => ?_, hnumbered⟩
  show (List.set _ m.idx _)[i]? = some place
  rw [List.getElem?_set_ne (Ne.symm hne)]
  exact ModuleRef.getElem?_of_prefix hplaces hi

/-! ## The start -/

/-- Before any message is filed the loader has asked for the entries. -/
theorem recalls_start (entries : List (Option String × ModuleRef)) :
    (start entries).1.Recalls (entries.map fun e => e.2.id) [] := by
  induction entries using List.reverseRecOn with
  | nil => exact recalls_empty
  | append_singleton entries entry ih =>
      rw [start_concat, List.map_append]
      exact (ih.visit entry.2 none true).1

theorem numbered_start (entries : List (Option String × ModuleRef)) :
    Task.Numbered 0 (start entries).1.places.length (start entries).1.pending := by
  induction entries using List.reverseRecOn with
  | nil => exact .nil _ _
  | append_singleton entries entry ih =>
      obtain ⟨hplaces, new, hnew, hnumbered⟩ :=
        (start entries).1.exists_numbered_visit entry.2 none true
      rw [start_concat]
      dsimp only
      rw [hnew]
      exact ih.append hnumbered (Nat.zero_le _) hplaces.length_le

end Loader

end ModuleGraph
