import ModuleGraph.Json.Parser
import Mathlib.Data.List.Nodup

/-!
# Objects hold no key twice

What the reader makes of a text has distinct keys in every object of it, however deep: a member
is only ever added through `putMember`, which gives a known key a new value in its old place.
-/

set_option autoImplicit false

namespace ModuleGraph.Json

variable {α : Type}

theorem mem_keys_putMember {key k : String} {value : α} {members : List (String × α)} :
    k ∈ (putMember key value members).map Prod.fst ↔ k = key ∨ k ∈ members.map Prod.fst := by
  induction members with
  | nil => simp [putMember]
  | cons m rest ih =>
      obtain ⟨k', v⟩ := m
      rw [putMember]
      split
      · next heq =>
          subst heq
          simp
      · rw [List.map_cons, List.map_cons, List.mem_cons, List.mem_cons, ih]
        exact or_left_comm

theorem nodup_putMember {key : String} {value : α} {members : List (String × α)}
    (h : (members.map Prod.fst).Nodup) : ((putMember key value members).map Prod.fst).Nodup := by
  induction members with
  | nil => exact List.nodup_singleton key
  | cons m rest ih =>
      obtain ⟨k, v⟩ := m
      obtain ⟨hk, hrest⟩ := List.nodup_cons.1 h
      rw [putMember]
      split
      · exact h
      · next hne =>
          refine List.nodup_cons.2 ⟨?_, ih hrest⟩
          rw [mem_keys_putMember]
          rintro (heq | hmem)
          · exact hne heq
          · exact hk hmem

/-- What is in an object afterwards was put there or was there before. -/
theorem mem_putMember {key : String} {value : α} {members : List (String × α)} {m : String × α}
    (h : m ∈ putMember key value members) : m = (key, value) ∨ m ∈ members := by
  induction members with
  | nil => exact Or.inl (List.mem_singleton.1 h)
  | cons first rest ih =>
      obtain ⟨k, v⟩ := first
      rw [putMember] at h
      split at h
      · next heq =>
          rcases List.mem_cons.1 h with rfl | h
          · exact Or.inl (by rw [heq])
          · exact Or.inr (List.mem_cons_of_mem _ h)
      · rcases List.mem_cons.1 h with rfl | h
        · exact Or.inr List.mem_cons_self
        · exact (ih h).imp_right (List.mem_cons_of_mem _)

/-- No object in a value holds a key twice. -/
inductive Distinct : Json → Prop
  | null : Distinct .null
  | bool (value : Bool) : Distinct (.bool value)
  | number (value : Number) : Distinct (.number value)
  | string (value : String) : Distinct (.string value)
  | array {items : List Json} : (∀ item ∈ items, Distinct item) → Distinct (.array items)
  | object {members : List (String × Json)} : (members.map Prod.fst).Nodup →
      (∀ m ∈ members, Distinct m.2) → Distinct (.object members)

theorem Distinct.nodup_keys {members : List (String × Json)} (h : Distinct (.object members)) :
    (members.map Prod.fst).Nodup := by
  cases h with
  | object hkeys _ => exact hkeys

theorem Distinct.putMember {value : Json} {members : List (String × Json)}
    (hmembers : Distinct (.object members)) (hvalue : Distinct value) (key : String) :
    Distinct (.object (Json.putMember key value members)) := by
  cases hmembers with
  | object hkeys hall =>
      refine .object (nodup_putMember hkeys) fun m hm => ?_
      rcases mem_putMember hm with rfl | hm
      · exact hvalue
      · exact hall m hm

/-! ## The reader

The three readers call one another with less fuel, so what they read is distinct by one induction
on the fuel for the three of them. -/

/-- What the readers make with the given fuel is distinct. -/
structure ReadsDistinct (fuel : Nat) : Prop where
  value : ∀ {depth cs v rest}, value? fuel depth cs = some (v, rest) → Distinct v
  items : ∀ {depth cs items rest}, items? fuel depth cs = some (items, rest) →
    Distinct (.array items)
  members : ∀ {depth read cs members rest}, members? fuel depth read cs = some (members, rest) →
    Distinct (.object read) → Distinct (.object members)

theorem value?_distinct {fuel : Nat} (ih : ReadsDistinct fuel) {depth : Nat} {cs rest : List Char}
    {v : Json} (h : value? (fuel + 1) depth cs = some (v, rest)) : Distinct v := by
  rw [value?] at h
  split at h
  · obtain ⟨rfl, -⟩ := Prod.mk.inj (Option.some.inj h)
    exact .null
  · obtain ⟨rfl, -⟩ := Prod.mk.inj (Option.some.inj h)
    exact .bool _
  · obtain ⟨rfl, -⟩ := Prod.mk.inj (Option.some.inj h)
    exact .bool _
  · obtain ⟨⟨s, _⟩, -, hv⟩ := Option.map_eq_some_iff.1 h
    obtain ⟨rfl, -⟩ := Prod.mk.inj hv
    exact .string s
  · split at h
    · cases h
    · split at h
      · obtain ⟨rfl, -⟩ := Prod.mk.inj (Option.some.inj h)
        exact .array fun _ hitem => absurd hitem List.not_mem_nil
      · obtain ⟨⟨items, _⟩, hitems, hv⟩ := Option.map_eq_some_iff.1 h
        obtain ⟨rfl, -⟩ := Prod.mk.inj hv
        exact ih.items hitems
  · have hempty : Distinct (.object []) :=
      .object List.nodup_nil fun _ hm => absurd hm List.not_mem_nil
    split at h
    · cases h
    · split at h
      · obtain ⟨rfl, -⟩ := Prod.mk.inj (Option.some.inj h)
        exact hempty
      · obtain ⟨⟨members, _⟩, hmembers, hv⟩ := Option.map_eq_some_iff.1 h
        obtain ⟨rfl, -⟩ := Prod.mk.inj hv
        exact ih.members hmembers hempty
  · obtain ⟨⟨n, _⟩, -, hv⟩ := Option.map_eq_some_iff.1 h
    obtain ⟨rfl, -⟩ := Prod.mk.inj hv
    exact .number n

theorem items?_distinct {fuel : Nat} (ih : ReadsDistinct fuel) {depth : Nat} {cs rest : List Char}
    {items : List Json} (h : items? (fuel + 1) depth cs = some (items, rest)) :
    Distinct (.array items) := by
  rw [items?] at h
  obtain ⟨⟨item, _⟩, hitem, h⟩ := Option.bind_eq_some_iff.1 h
  have hfirst := ih.value hitem
  dsimp only at h
  split at h
  · obtain ⟨⟨others, _⟩, hothers, h⟩ := Option.bind_eq_some_iff.1 h
    obtain ⟨rfl, -⟩ := Prod.mk.inj (Option.some.inj h)
    cases ih.items hothers with
    | array hall =>
        refine .array fun i hi => ?_
        rcases List.mem_cons.1 hi with rfl | hi
        · exact hfirst
        · exact hall i hi
  · obtain ⟨rfl, -⟩ := Prod.mk.inj (Option.some.inj h)
    refine .array fun i hi => ?_
    rw [List.mem_singleton.1 hi]
    exact hfirst
  · cases h

theorem members?_distinct {fuel : Nat} (ih : ReadsDistinct fuel) {depth : Nat}
    {read members : List (String × Json)} {cs rest : List Char}
    (h : members? (fuel + 1) depth read cs = some (members, rest))
    (hread : Distinct (.object read)) : Distinct (.object members) := by
  rw [members?] at h
  split at h
  · obtain ⟨⟨key, _⟩, -, h⟩ := Option.bind_eq_some_iff.1 h
    dsimp only at h
    split at h
    · obtain ⟨⟨value, _⟩, hvalue, h⟩ := Option.bind_eq_some_iff.1 h
      have hput := hread.putMember (ih.value hvalue) key
      dsimp only at h
      split at h
      · exact ih.members h hput
      · obtain ⟨rfl, -⟩ := Prod.mk.inj (Option.some.inj h)
        exact hput
      · cases h
    · cases h
  · cases h

theorem readsDistinct (fuel : Nat) : ReadsDistinct fuel := by
  induction fuel with
  | zero =>
      constructor
      · intro depth cs v rest h
        rw [value?] at h
        cases h
      · intro depth cs items rest h
        rw [items?] at h
        cases h
      · intro depth read cs members rest h
        rw [members?] at h
        cases h
  | succ fuel ih => exact ⟨value?_distinct ih, items?_distinct ih, members?_distinct ih⟩

theorem distinct_of_parse? {depth : Nat} {source : String} {value : Json}
    (h : parse? depth source = some value) : Distinct value := by
  unfold parse? at h
  dsimp only at h
  split at h
  · next v rest hread =>
      split at h
      · obtain rfl := Option.some.inj h
        exact (readsDistinct _).value hread
      · cases h
  · cases h

end ModuleGraph.Json
