import ModuleGraph.Graph.Scan
import Mathlib.Data.List.Nodup
import Mathlib.Data.List.Perm.Basic

/-!
# The places of a loader

The loader gives every identity one place, when it meets it first. `Loader.Indexes` says so for a
list of the nodes met so far: a node stands at its position in the list, an external one is there
at once, and for every other one there is exactly one task. Visiting a node keeps this up, and
adds to the list only what is new.
-/

set_option autoImplicit false

namespace ModuleGraph

/-- The nodes met so far and one more, unless its identity is known. -/
def ModuleRef.meet (refs : List ModuleRef) (r : ModuleRef) : List ModuleRef :=
  if r.id ∈ refs.map ModuleRef.id then refs else refs ++ [r]

namespace ModuleRef

theorem prefix_meet (refs : List ModuleRef) (r : ModuleRef) : refs <+: meet refs r := by
  unfold meet
  split
  · exact List.prefix_rfl
  · exact List.prefix_append _ _

theorem id_mem_meet (refs : List ModuleRef) (r : ModuleRef) :
    r.id ∈ (meet refs r).map ModuleRef.id := by
  unfold meet
  split
  · assumption
  · simp

theorem mem_meet {refs : List ModuleRef} {r x : ModuleRef} (h : x ∈ meet refs r) :
    x ∈ refs ∨ (x = r ∧ r.id ∉ refs.map ModuleRef.id) := by
  unfold meet at h
  split at h
  · exact Or.inl h
  · next hnew =>
      rcases List.mem_append.1 h with h | h
      · exact Or.inl h
      · exact Or.inr ⟨List.mem_singleton.1 h, hnew⟩

theorem nodup_concat {refs : List ModuleRef} (h : (refs.map ModuleRef.id).Nodup) {r : ModuleRef}
    (hnew : r.id ∉ refs.map ModuleRef.id) : ((refs ++ [r]).map ModuleRef.id).Nodup := by
  rw [List.map_append, List.map_singleton, List.nodup_append]
  refine ⟨h, List.nodup_singleton _, ?_⟩
  intro a ha b hb heq
  rw [heq, List.mem_singleton.1 hb] at ha
  exact hnew ha

theorem getElem?_of_prefix {α : Type} {xs ys : List α} (h : xs <+: ys) {i : Nat} {x : α}
    (hx : xs[i]? = some x) : ys[i]? = some x := by
  obtain ⟨rest, rfl⟩ := h
  rw [List.getElem?_append_left (List.getElem?_eq_some_iff.1 hx).1]
  exact hx

/-- Different positions hold different identities. -/
theorem idx_unique {refs : List ModuleRef} (h : (refs.map ModuleRef.id).Nodup) {i j : Nat}
    {r x : ModuleRef} (hr : refs[i]? = some r) (hx : refs[j]? = some x) (hid : r.id = x.id) :
    i = j := by
  have hi : i < (refs.map ModuleRef.id).length := by
    rw [List.length_map]
    exact (List.getElem?_eq_some_iff.1 hr).1
  refine (List.getElem?_inj hi h).1 ?_
  rw [List.getElem?_map, List.getElem?_map, hr, hx]
  exact congrArg some hid

/-- Positions in a longer list are those in the shorter one, or the last. -/
theorem getElem?_concat {α : Type} {xs : List α} {r x : α} {i : Nat} :
    (xs ++ [r])[i]? = some x ↔ xs[i]? = some x ∨ (i = xs.length ∧ x = r) := by
  rcases Nat.lt_trichotomy i xs.length with hi | hi | hi
  · rw [List.getElem?_append_left hi]
    constructor
    · exact Or.inl
    · rintro (h | ⟨h, -⟩)
      · exact h
      · omega
  · have hnone : xs[i]? = none := List.getElem?_eq_none (by omega)
    have hlast : (xs ++ [r])[i]? = some r := by rw [hi]; simp
    rw [hnone, hlast, Option.some.injEq]
    constructor
    · exact fun h => Or.inr ⟨hi, h.symm⟩
    · rintro (h | ⟨-, h⟩)
      · cases h
      · exact h.symm
  · have hnone : xs[i]? = none := List.getElem?_eq_none (by omega)
    have hnone' : (xs ++ [r])[i]? = none :=
      List.getElem?_eq_none (by rw [List.length_append, List.length_singleton]; omega)
    rw [hnone, hnone']
    constructor
    · intro h
      cases h
    · rintro (h | ⟨h, -⟩)
      · cases h
      · omega

end ModuleRef

/-- A list of all nodes met stands for the places of a loader. `reported` are the tasks that are
no longer waiting. -/
structure Loader.Indexes (s : Loader) (refs : List ModuleRef) (reported : List Task) : Prop where
  length : s.places.length = refs.length
  nodup : (refs.map ModuleRef.id).Nodup
  visited : ∀ (id : ModuleId) (i : Nat),
    s.visited.lookup id = some i ↔ ∃ r, refs[i]? = some r ∧ r.id = id
  external : ∀ (i : Nat) (r : ModuleRef), refs[i]? = some r → r.isExternal = true →
    s.places[i]? = some (some (.external ⟨i, r.id, r.format⟩))
  internal : ∀ (i : Nat) (r : ModuleRef), refs[i]? = some r → r.isExternal = false →
    ∃ t ∈ s.pending ++ reported, t.idx = i
  task : ∀ t ∈ s.pending ++ reported, refs[t.idx]? = some t.target ∧ t.target.isExternal = false
  once : ((s.pending ++ reported).map Task.idx).Nodup

namespace Loader

variable {s : Loader} {refs : List ModuleRef} {reported : List Task}

theorem indexes_empty : Indexes {} [] [] where
  length := rfl
  nodup := List.nodup_nil
  visited id i := by simp
  external i r h := by simp at h
  internal i r h := by simp at h
  task t ht := by simp at ht
  once := List.nodup_nil

namespace Indexes

theorem lookup_eq_none (h : s.Indexes refs reported) {id : ModuleId} :
    s.visited.lookup id = none ↔ id ∉ refs.map ModuleRef.id := by
  constructor
  · intro hnone hmem
    obtain ⟨r, hr, rfl⟩ := List.mem_map.1 hmem
    obtain ⟨i, hi⟩ := List.mem_iff_getElem?.1 hr
    have := (h.visited r.id i).2 ⟨r, hi, rfl⟩
    rw [hnone] at this
    cases this
  · intro hmem
    cases hlookup : s.visited.lookup id with
    | none => rfl
    | some i =>
        obtain ⟨r, hr, rfl⟩ := (h.visited id i).1 hlookup
        exact absurd (List.mem_map_of_mem (List.mem_of_getElem? hr)) hmem

/-- Which tasks wait and which have reported may change, as long as no task is lost. -/
theorem reorder (h : s.Indexes refs reported) {s' : Loader} {reported' : List Task}
    (hplaces : s'.places = s.places) (hvisited : s'.visited = s.visited)
    (hperm : (s'.pending ++ reported').Perm (s.pending ++ reported)) :
    s'.Indexes refs reported' where
  length := hplaces ▸ h.length
  nodup := h.nodup
  visited := hvisited ▸ h.visited
  external := hplaces ▸ h.external
  internal i r hr hloaded := by
    obtain ⟨t, ht, hidx⟩ := h.internal i r hr hloaded
    exact ⟨t, hperm.mem_iff.2 ht, hidx⟩
  task t ht := h.task t (hperm.mem_iff.1 ht)
  once := (hperm.map Task.idx).nodup_iff.2 h.once

/-- No two tasks are for the same identity. -/
theorem nodup_ids (h : s.Indexes refs reported) :
    (((s.pending ++ reported).map Task.target).map ModuleRef.id).Nodup := by
  rw [List.map_map]
  refine List.Nodup.map_on (fun t ht u hu heq => ?_) (h.once.of_map _)
  have hidx : t.idx = u.idx :=
    ModuleRef.idx_unique h.nodup (h.task t ht).1 (h.task u hu).1 heq
  exact List.inj_on_of_nodup_map h.once ht hu hidx

/-- A module may be put in the place of a task. -/
theorem set_place (h : s.Indexes refs reported) {s' : Loader} {t : Task} {m : Module}
    (ht : t ∈ s.pending ++ reported) (hplaces : s'.places = s.places.set t.idx (some m))
    (hvisited : s'.visited = s.visited) (hpending : s'.pending = s.pending) :
    s'.Indexes refs reported where
  length := by rw [hplaces, List.length_set, h.length]
  nodup := h.nodup
  visited := hvisited ▸ h.visited
  external i r hr hexternal := by
    have hne : t.idx ≠ i := by
      rintro rfl
      obtain ⟨ht, hloaded⟩ := h.task t ht
      obtain rfl := Option.some.inj (ht.symm.trans hr)
      rw [hloaded] at hexternal
      cases hexternal
    rw [hplaces, List.getElem?_set_ne hne]
    exact h.external i r hr hexternal
  internal := hpending ▸ h.internal
  task := hpending ▸ h.task
  once := hpending ▸ h.once

end Indexes

/-! ## Visiting a node -/

theorem visit_known {target : ModuleRef} {idx : Nat} (h : s.visited.lookup target.id = some idx)
    (owner : Option String) (isEntry : Bool) : s.visit target owner isEntry = (s, idx) := by
  unfold visit
  rw [h]

theorem visit_external {target : ModuleRef} (h : s.visited.lookup target.id = none)
    (hexternal : target.isExternal = true) (owner : Option String) (isEntry : Bool) :
    s.visit target owner isEntry =
      ({ s with
          places := s.places ++ [some (.external ⟨s.places.length, target.id, target.format⟩)]
          importers := s.importers ++ [[]]
          visited := (target.id, s.places.length) :: s.visited }, s.places.length) := by
  unfold visit
  rw [h]
  dsimp only
  rw [if_pos hexternal]

theorem visit_internal {target : ModuleRef} (h : s.visited.lookup target.id = none)
    (hloaded : target.isExternal = false) (owner : Option String) (isEntry : Bool) :
    s.visit target owner isEntry =
      ({ s with
          places := s.places ++ [none]
          importers := s.importers ++ [[]]
          visited := (target.id, s.places.length) :: s.visited
          pending := s.pending ++ [⟨s.places.length, target, owner, isEntry⟩]
          remaining := s.remaining + 1 }, s.places.length) := by
  unfold visit
  rw [h]
  dsimp only
  rw [if_neg (by rw [hloaded]; exact Bool.false_ne_true)]

/-- A new identity is found under the place it is given, all others where they were. -/
theorem Indexes.visited_concat (h : s.Indexes refs reported) {target : ModuleRef}
    (hnew : target.id ∉ refs.map ModuleRef.id) (id : ModuleId) (i : Nat) :
    ((target.id, s.places.length) :: s.visited).lookup id = some i ↔
      ∃ r, (refs ++ [target])[i]? = some r ∧ r.id = id := by
  rw [List.lookup_cons]
  by_cases hid : id = target.id
  · subst hid
    simp only [beq_self_eq_true, Option.some.injEq]
    constructor
    · intro hi
      exact ⟨target, ModuleRef.getElem?_concat.2 (Or.inr ⟨by rw [← hi, h.length], rfl⟩), rfl⟩
    · rintro ⟨r, hr, hrid⟩
      rcases ModuleRef.getElem?_concat.1 hr with hr | ⟨hi, -⟩
      · exact absurd (hrid ▸ List.mem_map_of_mem (List.mem_of_getElem? hr)) hnew
      · rw [hi, h.length]
  · rw [beq_eq_false_iff_ne.2 hid]
    show s.visited.lookup id = some i ↔ _
    rw [h.visited]
    constructor
    · rintro ⟨r, hr, hrid⟩
      exact ⟨r, ModuleRef.getElem?_concat.2 (Or.inl hr), hrid⟩
    · rintro ⟨r, hr, hrid⟩
      rcases ModuleRef.getElem?_concat.1 hr with hr | ⟨-, rfl⟩
      · exact ⟨r, hr, hrid⟩
      · exact absurd hrid.symm hid

namespace Indexes

theorem lt_places (h : s.Indexes refs reported) {i : Nat} {r : ModuleRef} (hr : refs[i]? = some r) :
    i < s.places.length := by
  rw [h.length]
  exact (List.getElem?_eq_some_iff.1 hr).1

/-- The next place may be that of a new external node. -/
theorem add_external (h : s.Indexes refs reported) {target : ModuleRef}
    (hnew : target.id ∉ refs.map ModuleRef.id) (hexternal : target.isExternal = true) {s' : Loader}
    (hplaces : s'.places =
      s.places ++ [some (.external ⟨s.places.length, target.id, target.format⟩)])
    (hvisited : s'.visited = (target.id, s.places.length) :: s.visited)
    (hpending : s'.pending = s.pending) : s'.Indexes (refs ++ [target]) reported where
  length := by simp [hplaces, h.length]
  nodup := ModuleRef.nodup_concat h.nodup hnew
  visited := hvisited ▸ h.visited_concat hnew
  external i r hr hr' := by
    rw [hplaces]
    rcases ModuleRef.getElem?_concat.1 hr with hr | ⟨rfl, rfl⟩
    · rw [List.getElem?_append_left (h.lt_places hr)]
      exact h.external i r hr hr'
    · rw [← h.length]
      simp
  internal i r hr hr' := by
    rw [hpending]
    rcases ModuleRef.getElem?_concat.1 hr with hr | ⟨rfl, rfl⟩
    · exact h.internal i r hr hr'
    · rw [hexternal] at hr'
      cases hr'
  task t ht := by
    rw [hpending] at ht
    exact ⟨ModuleRef.getElem?_concat.2 (Or.inl (h.task t ht).1), (h.task t ht).2⟩
  once := hpending ▸ h.once

/-- The next place may be kept for a new node that a task loads. -/
theorem add_internal (h : s.Indexes refs reported) {target : ModuleRef}
    (hnew : target.id ∉ refs.map ModuleRef.id) (hloaded : target.isExternal = false)
    {s' : Loader} {task : Task} (htarget : task.target = target)
    (hidx : task.idx = s.places.length) (hplaces : s'.places = s.places ++ [none])
    (hvisited : s'.visited = (target.id, s.places.length) :: s.visited)
    (hpending : s'.pending = s.pending ++ [task]) : s'.Indexes (refs ++ [target]) reported := by
  -- the new task stands at the end of those that wait
  have hperm : (s'.pending ++ reported).Perm (task :: (s.pending ++ reported)) := by
    rw [hpending, List.append_assoc, List.singleton_append]
    exact List.perm_middle
  exact
    { length := by simp [hplaces, h.length]
      nodup := ModuleRef.nodup_concat h.nodup hnew
      visited := hvisited ▸ h.visited_concat hnew
      external := by
        intro i r hr hr'
        rw [hplaces]
        rcases ModuleRef.getElem?_concat.1 hr with hr | ⟨rfl, rfl⟩
        · rw [List.getElem?_append_left (h.lt_places hr)]
          exact h.external i r hr hr'
        · rw [hloaded] at hr'
          cases hr'
      internal := by
        intro i r hr hr'
        rcases ModuleRef.getElem?_concat.1 hr with hr | ⟨rfl, rfl⟩
        · obtain ⟨t, ht, hidx⟩ := h.internal i r hr hr'
          exact ⟨t, hperm.mem_iff.2 (List.mem_cons_of_mem _ ht), hidx⟩
        · exact ⟨task, hperm.mem_iff.2 List.mem_cons_self, hidx.trans h.length⟩
      task := by
        intro t ht
        rcases List.mem_cons.1 (hperm.mem_iff.1 ht) with rfl | ht
        · exact ⟨ModuleRef.getElem?_concat.2 (Or.inr ⟨hidx.trans h.length, htarget⟩),
            htarget ▸ hloaded⟩
        · exact ⟨ModuleRef.getElem?_concat.2 (Or.inl (h.task t ht).1), (h.task t ht).2⟩
      once := by
        rw [(hperm.map Task.idx).nodup_iff, List.map_cons, List.nodup_cons]
        refine ⟨fun hmem => ?_, h.once⟩
        obtain ⟨t, ht, hidx'⟩ := List.mem_map.1 hmem
        have hlt := h.lt_places (h.task t ht).1
        omega }

/-- Visiting a node keeps the places in order, and answers the place of its identity. -/
theorem visit (h : s.Indexes refs reported) (target : ModuleRef) (owner : Option String)
    (isEntry : Bool) :
    (s.visit target owner isEntry).1.Indexes (ModuleRef.meet refs target) reported ∧
      ∃ r, (ModuleRef.meet refs target)[(s.visit target owner isEntry).2]? = some r ∧
        r.id = target.id := by
  unfold ModuleRef.meet
  cases hlookup : s.visited.lookup target.id with
  | some idx =>
      have hknown : target.id ∈ refs.map ModuleRef.id := by
        obtain ⟨r, hr, hid⟩ := (h.visited _ _).1 hlookup
        exact hid ▸ List.mem_map_of_mem (List.mem_of_getElem? hr)
      rw [visit_known hlookup, if_pos hknown]
      exact ⟨h, (h.visited _ _).1 hlookup⟩
  | none =>
      have hnew : target.id ∉ refs.map ModuleRef.id := h.lookup_eq_none.1 hlookup
      have hlast : ∃ r, (refs ++ [target])[s.places.length]? = some r ∧ r.id = target.id :=
        ⟨target, ModuleRef.getElem?_concat.2 (Or.inr ⟨h.length, rfl⟩), rfl⟩
      rw [if_neg hnew]
      cases hexternal : target.isExternal with
      | true =>
          rw [visit_external hlookup hexternal]
          exact ⟨h.add_external hnew hexternal rfl rfl rfl, hlast⟩
      | false =>
          rw [visit_internal hlookup hexternal]
          exact ⟨h.add_internal hnew hexternal rfl rfl rfl rfl rfl, hlast⟩

end Indexes

end Loader

end ModuleGraph
