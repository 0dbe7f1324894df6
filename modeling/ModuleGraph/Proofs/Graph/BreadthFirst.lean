import ModuleGraph.Proofs.Graph.Numbering

/-!
# Graphs that are numbered breadth first

A graph is numbered breadth first from certain identities if its table solves an equation that
speaks of nothing but the table (`Graph.IsBreadthFirst.order`): the identities of the modules are
those given and those that the modules import, one module after the other, without repetitions. What
the first modules import is then in front of what others import, so the modules that few imports
lead to are in front of those that need more (`Graph.exists_level`).

Whether a table solves the equation can be told from what stands at ascending positions of it
(`flatMap_eq_of_ascending`).
-/

set_option autoImplicit false

namespace ModuleGraph

namespace Graph

variable {g : Graph} {ids : List ModuleId}

/-- The identities of what a module imports, in source order. -/
def targets (g : Graph) (m : Module) : List ModuleId := (g.dependencies m).map Module.id

/-- The identities that are reached from the given ones by at most so many imports. -/
inductive Within (g : Graph) (ids : List ModuleId) : Nat → ModuleId → Prop
  | entry {n : Nat} {id : ModuleId} : id ∈ ids → Within g ids n id
  | import {n : Nat} {m : Module} {id : ModuleId} : Within g ids n m.id → m ∈ g.modules →
      id ∈ g.targets m → Within g ids (n + 1) id

/-- The table numbers the graph breadth first from the given identities. -/
structure IsBreadthFirst (ctx : LoadContext) (ids : List ModuleId) (g : Graph) : Prop where
  order : g.modules.map Module.id = (ids ++ g.modules.flatMap g.targets).eraseDups
  edges : ∀ m ∈ g.modules, ∀ record ∈ m.imports, record.target < g.modules.length
  /-- The edges of a module are its imports, in source order. -/
  source : ∀ m, .loaded m ∈ g.modules → ∃ summary, ctx.scan? m.id m.format = some summary ∧
    m.imports.map ImportRecord.specifier = summary.imports.map Script.Import.specifier
  importers : ∀ (i : Nat) (m : LoadedModule), g.modules[i]? = some (.loaded m) → m.importers =
    (g.modules.filter fun n => n.imports.any fun record => record.target = i).map Module.id
  /-- Nearer modules come first. -/
  levels : ∀ n, ∃ k, ∀ (i : Nat) (m : Module), g.modules[i]? = some m →
    (g.Within ids n m.id ↔ i < k)

theorem within_zero_iff {id : ModuleId} : g.Within ids 0 id ↔ id ∈ ids := by
  constructor
  · intro h
    cases h with
    | entry hid => exact hid
  · exact .entry

theorem within_succ_iff {n : Nat} {id : ModuleId} :
    g.Within ids (n + 1) id ↔
      id ∈ ids ∨ ∃ m ∈ g.modules, g.Within ids n m.id ∧ id ∈ g.targets m := by
  constructor
  · intro h
    cases h with
    | entry hid => exact Or.inl hid
    | «import» hm hmem hid => exact Or.inr ⟨_, hmem, hm, hid⟩
  · rintro (hid | ⟨m, hmem, hm, hid⟩)
    · exact .entry hid
    · exact .import hm hmem hid

/-- What stands in front of a list without repetitions stands at the first positions. -/
theorem mem_iff_lt_of_prefix {front all : List ModuleId} (hnodup : all.Nodup) (hpre : front <+: all)
    {i : Nat} {id : ModuleId} (hi : all[i]? = some id) : id ∈ front ↔ i < front.length := by
  constructor
  · intro hmem
    obtain ⟨j, hj⟩ := List.mem_iff_getElem?.1 hmem
    have hlt := (List.getElem?_eq_some_iff.1 hi).1
    have hij : i = j :=
      (List.getElem?_inj hlt hnodup).1 (hi.trans (ModuleRef.getElem?_of_prefix hpre hj).symm)
    rw [hij]
    exact (List.getElem?_eq_some_iff.1 hj).1
  · intro hlt
    have hj := ModuleRef.getElem?_of_prefix hpre (List.getElem?_eq_getElem hlt)
    rw [Option.some.inj (hi.symm.trans hj)]
    exact List.getElem_mem hlt

/-- In a table that is in this order the modules that are reached in at most so many imports are the
first ones. -/
theorem exists_level
    (order : g.modules.map Module.id = (ids ++ g.modules.flatMap g.targets).eraseDups) (n : Nat) :
    ∃ k, ∀ (i : Nat) (m : Module), g.modules[i]? = some m → (g.Within ids n m.id ↔ i < k) := by
  have hnodup : (g.modules.map Module.id).Nodup := order ▸ nodup_eraseDups _
  -- what the first modules import stands in front, behind the entries
  have hfront (k : Nat) : ∃ k', ∀ (i : Nat) (m : Module), g.modules[i]? = some m →
      (m.id ∈ ids ++ (g.modules.take k).flatMap g.targets ↔ i < k') := by
    refine ⟨(ids ++ (g.modules.take k).flatMap g.targets).eraseDups.length, fun i m hm => ?_⟩
    have hpre : (ids ++ (g.modules.take k).flatMap g.targets).eraseDups <+:
        g.modules.map Module.id := by
      rw [order]
      nth_rewrite 2 [← List.take_append_drop k g.modules]
      rw [List.flatMap_append, ← List.append_assoc]
      exact eraseDups_prefix_append _ _
    have hid : (g.modules.map Module.id)[i]? = some m.id := by rw [List.getElem?_map, hm]; rfl
    rw [← mem_iff_lt_of_prefix hnodup hpre hid, List.mem_eraseDups]
  induction n with
  | zero =>
      obtain ⟨k, hk⟩ := hfront 0
      refine ⟨k, fun i m hm => ?_⟩
      rw [within_zero_iff, ← hk i m hm, List.take_zero, List.flatMap_nil, List.append_nil]
  | succ n ih =>
      obtain ⟨k, hk⟩ := ih
      obtain ⟨k', hk'⟩ := hfront k
      refine ⟨k', fun i m hm => ?_⟩
      rw [within_succ_iff, ← hk' i m hm, List.mem_append, List.mem_flatMap]
      refine or_congr_right ⟨?_, ?_⟩
      · rintro ⟨n', hmem, hwithin, hid⟩
        obtain ⟨j, hj⟩ := List.mem_iff_getElem?.1 hmem
        have hlt := (hk j n' hj).1 hwithin
        exact ⟨n', List.mem_of_getElem? ((List.getElem?_take_of_lt hlt).trans hj), hid⟩
      · rintro ⟨n', hmem, hid⟩
        obtain ⟨j, hj⟩ := List.mem_iff_getElem?.1 hmem
        have hlt : j < k := by
          have hlength := (List.getElem?_eq_some_iff.1 hj).1
          rw [List.length_take] at hlength
          omega
        rw [List.getElem?_take_of_lt hlt] at hj
        exact ⟨n', List.mem_of_getElem? hj, (hk j n' hj).2 hlt, hid⟩

end Graph

/-! ## Lists in ascending order -/

section Ascending

variable {α β γ : Type}

/-- Of elements in ascending positions the one in the greatest is the last. -/
theorem exists_concat_of_ascending {ys : List β} {pos : β → Nat} {n : Nat}
    (hascending : (ys.map pos).Pairwise (· < ·)) (hle : ∀ z ∈ ys, pos z ≤ n) {y : β} (hy : y ∈ ys)
    (hpos : pos y = n) :
    ∃ front, ys = front ++ [y] ∧ (front.map pos).Pairwise (· < ·) ∧ ∀ z ∈ front, pos z < n := by
  obtain ⟨front, back, rfl⟩ := List.append_of_mem hy
  rw [List.map_append, List.map_cons, List.pairwise_append, List.pairwise_cons] at hascending
  obtain ⟨hfront, ⟨hback, -⟩, hcross⟩ := hascending
  have hnil : back = [] := by
    rw [List.eq_nil_iff_forall_not_mem]
    intro z hz
    have habove := hback _ (List.mem_map_of_mem hz)
    have hbelow := hle z (by simp [hz])
    omega
  refine ⟨front, by rw [hnil], hfront, fun z hz => ?_⟩
  exact hpos ▸ hcross _ (List.mem_map_of_mem hz) _ List.mem_cons_self

/-- Elements that have ascending positions in a list tell what the list holds, if nothing is held
at other positions. -/
theorem flatMap_eq_of_ascending {xs : List α} {ys : List β} {pos : β → Nat} {f : α → List γ}
    {h : β → List γ} (hascending : (ys.map pos).Pairwise (· < ·))
    (hat : ∀ y ∈ ys, ∃ x, xs[pos y]? = some x ∧ f x = h y)
    (hothers : ∀ i x, xs[i]? = some x → f x ≠ [] → ∃ y ∈ ys, pos y = i) :
    xs.flatMap f = ys.flatMap h := by
  induction xs using List.reverseRecOn generalizing ys with
  | nil =>
      cases ys with
      | nil => rfl
      | cons y ys =>
          obtain ⟨x, hx, -⟩ := hat y List.mem_cons_self
          simp at hx
  | append_singleton xs a ih =>
      rw [List.flatMap_append, List.flatMap_singleton]
      have hle : ∀ y ∈ ys, pos y ≤ xs.length := by
        intro y hy
        obtain ⟨x, hx, -⟩ := hat y hy
        have hlength := (List.getElem?_eq_some_iff.1 hx).1
        rw [List.length_append, List.length_singleton] at hlength
        omega
      have hat' {zs : List β} (hsub : zs ⊆ ys) (hlt : ∀ z ∈ zs, pos z < xs.length) :
          ∀ z ∈ zs, ∃ x, xs[pos z]? = some x ∧ f x = h z := by
        intro z hz
        obtain ⟨x, hx, hfx⟩ := hat z (hsub hz)
        rw [List.getElem?_append_left (hlt z hz)] at hx
        exact ⟨x, hx, hfx⟩
      have hkept {i : Nat} {x : α} (hi : xs[i]? = some x) : (xs ++ [a])[i]? = some x :=
        ModuleRef.getElem?_of_prefix (List.prefix_append _ _) hi
      have hlast : (xs ++ [a])[xs.length]? = some a :=
        ModuleRef.getElem?_concat.2 (Or.inr ⟨rfl, rfl⟩)
      by_cases hend : ∃ y ∈ ys, pos y = xs.length
      · obtain ⟨y, hy, hpos⟩ := hend
        obtain ⟨x, hx, hfx⟩ := hat y hy
        rw [hpos, hlast] at hx
        obtain rfl := Option.some.inj hx
        obtain ⟨front, rfl, hfront, hlt⟩ := exists_concat_of_ascending hascending hle hy hpos
        rw [List.flatMap_append, List.flatMap_singleton, hfx]
        refine congrArg (· ++ h y) (ih hfront (hat' (List.subset_append_left _ _) hlt) ?_)
        intro i x hi hfx
        obtain ⟨z, hz, rfl⟩ := hothers i x (hkept hi) hfx
        rcases List.mem_append.1 hz with hz | hz
        · exact ⟨z, hz, rfl⟩
        · rw [List.mem_singleton.1 hz, hpos] at hi
          simp at hi
      · -- nothing is held at the last position
        have hnil : f a = [] := by
          by_contra hsome
          exact hend (hothers _ a hlast hsome)
        have hlt : ∀ z ∈ ys, pos z < xs.length :=
          fun z hz => Nat.lt_of_le_of_ne (hle z hz) fun hpos => hend ⟨z, hz, hpos⟩
        rw [hnil, List.append_nil]
        refine ih hascending (hat' (List.Subset.refl _) hlt) ?_
        exact fun i x hi => hothers i x (hkept hi)

theorem map_filter_eq_flatMap (f : α → β) (p : α → Bool) (xs : List α) :
    (xs.filter p).map f = xs.flatMap fun x => if p x then [f x] else [] := by
  induction xs with
  | nil => rfl
  | cons x xs ih =>
      rw [List.filter_cons, List.flatMap_cons, ← ih]
      by_cases hx : p x
      · rw [if_pos hx, if_pos hx]
        rfl
      · rw [if_neg hx, if_neg hx]
        rfl

/-- Identities without repetitions, each of them repeated at will. -/
theorem eraseDups_flatMap_replicate {xs : List α} {f : α → ModuleId} (hnodup : (xs.map f).Nodup)
    (count : α → Nat) :
    (xs.flatMap fun x => List.replicate (count x) (f x)).eraseDups =
      (xs.filter fun x => 0 < count x).map f := by
  induction xs with
  | nil => rfl
  | cons x xs ih =>
      rw [List.map_cons, List.nodup_cons] at hnodup
      obtain ⟨hnew, hnodup⟩ := hnodup
      have hkeep : (xs.flatMap fun x => List.replicate (count x) (f x)).removeAll
          (List.replicate (count x) (f x)) =
            xs.flatMap fun x => List.replicate (count x) (f x) := by
        refine List.filter_eq_self.2 fun id hid => ?_
        obtain ⟨y, hy, hid⟩ := List.mem_flatMap.1 hid
        rw [List.eq_of_mem_replicate hid]
        simp only [Bool.not_eq_true', List.elem_eq_contains, List.contains_eq_mem,
          decide_eq_false_iff_not]
        intro hmem
        exact hnew (List.eq_of_mem_replicate hmem ▸ List.mem_map_of_mem hy)
      have hone : (List.replicate (count x) (f x)).eraseDups =
          if 0 < count x then [f x] else [] := by
        cases count x with
        | zero => rfl
        | succ n =>
            rw [List.replicate_succ, List.eraseDups_cons, if_pos n.succ_pos]
            have hnil : (List.replicate n (f x)).filter (fun b => !b == f x) = [] := by
              rw [List.filter_eq_nil_iff]
              intro b hb
              rw [List.eq_of_mem_replicate hb]
              simp
            rw [hnil]
            rfl
      rw [List.flatMap_cons, List.eraseDups_append, hkeep, ih hnodup, hone, List.filter_cons]
      by_cases hx : 0 < count x
      · simp [hx]
      · simp [hx]

end Ascending

end ModuleGraph
