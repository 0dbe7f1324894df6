import ModuleGraph.Package.Pattern
import ModuleGraph.Proofs.Text.Split
import Mathlib.Data.List.Sort

/-!
# The order of patterns

`compareKeys` ties on many pairs of keys, and a sort keeps tied keys in the order in which they
came. That order is of no account to a match all the same: two patterns that one key matches have
their fronts and their ends in common if they tie, so they are one pattern. What a key matches is
then a matter of which entries a map has, and not of how they are arranged.
-/

set_option autoImplicit false

namespace ModuleGraph

namespace Text

/-- Of two cuts of one sequence those with fronts of one length in octets are the same. -/
theorem append_inj_of_byteLength {as bs xs ys : List Char} (h : as ++ xs = bs ++ ys)
    (hlength : byteLength as = byteLength bs) : as = bs ∧ xs = ys := by
  induction as generalizing bs with
  | nil =>
      cases bs with
      | nil => exact ⟨rfl, h⟩
      | cons b bs =>
          have hpos := b.utf8Size_pos
          simp only [byteLength_nil, byteLength_cons] at hlength
          omega
  | cons a as ih =>
      cases bs with
      | nil =>
          have hpos := a.utf8Size_pos
          simp only [byteLength_nil, byteLength_cons] at hlength
          omega
      | cons b bs =>
          rw [List.cons_append, List.cons_append] at h
          obtain ⟨rfl, htail⟩ := List.cons.inj h
          have hrest : byteLength as = byteLength bs := by
            simpa only [byteLength_cons, Nat.add_left_cancel_iff] using hlength
          obtain ⟨rfl, hxs⟩ := ih htail hrest
          exact ⟨rfl, hxs⟩

end Text

open Text

namespace Pattern

/-! ## What a star stands for -/

theorem splitFirst?_star {front : List Char} (hfront : '*' ∉ front) (back : List Char) :
    splitFirst? (· == '*') (front ++ '*' :: back) = some (front, back) := by
  refine splitFirst?_append_cons (p := (· == '*')) (beq_self_eq_true '*') (fun c hc => ?_) back
  have hne : c ≠ '*' := fun heq => hfront (heq ▸ hc)
  exact beq_eq_false_iff_ne.2 hne

/-- A pattern is a front without a star, a star and a back, and a key that matches it has
something between the two. -/
theorem capture?_eq_some {pattern key captured : String} :
    capture? pattern key = some captured ↔
      ∃ front back : List Char, pattern.toList = front ++ '*' :: back ∧ '*' ∉ front ∧
        key.toList = front ++ captured.toList ++ back ∧ captured ≠ "" := by
  unfold capture?
  constructor
  · intro h
    cases hcut : splitFirst? (· == '*') pattern.toList with
    | none => simp [hcut] at h
    | some cut =>
        obtain ⟨front, back⟩ := cut
        obtain ⟨star, hstar, hpattern, hfront⟩ := splitFirst?_eq_some hcut
        obtain rfl : star = '*' := by simpa using hstar
        simp only [hcut] at h
        cases hrest : stripFront? front key.toList with
        | none => simp [hrest] at h
        | some rest =>
            have hkey : key.toList = front ++ rest := stripFront?_eq_some.1 hrest
            simp only [hrest] at h
            split at h
            · cases h
            · next hlong =>
                split at h
                · next hback =>
                    obtain rfl := Option.some.inj h
                    have hmiddle : rest.take (rest.length - back.length) ++ back = rest := by
                      conv_rhs => rw [← List.take_append_drop (rest.length - back.length) rest]
                      rw [hback]
                    refine ⟨front, back, hpattern, ?_, ?_, ?_⟩
                    · intro hmem
                      simpa using hfront _ hmem
                    · rw [String.toList_ofList, List.append_assoc, hmiddle, hkey]
                    · intro hempty
                      have hnil := congrArg String.toList hempty
                      rw [String.toList_ofList] at hnil
                      have hlength := congrArg List.length hnil
                      rw [List.length_take] at hlength
                      simp only [String.toList_empty, List.length_nil] at hlength
                      omega
                · cases h
  · rintro ⟨front, back, hpattern, hfront, hkey, hcaptured⟩
    have hcut := splitFirst?_star hfront back
    rw [← hpattern] at hcut
    have hrest : stripFront? front key.toList = some (captured.toList ++ back) :=
      stripFront?_eq_some.2 (by rw [hkey, List.append_assoc])
    have hne : captured.toList ≠ [] := fun hnil => hcaptured (String.toList_eq_nil_iff.1 hnil)
    have hpos := List.length_pos_of_ne_nil hne
    have hlength : (captured.toList ++ back).length - back.length = captured.toList.length := by
      simp
    have hlong : ¬ (captured.toList ++ back).length ≤ back.length := by
      rw [List.length_append]
      omega
    simp only [hcut, hrest, if_neg hlong, hlength]
    simp

/-! ## How specific a pattern is -/

theorem baseLength_append_star {front : List Char} (hfront : '*' ∉ front) (back : List Char) :
    baseLength (front ++ '*' :: back) = byteLength front + 1 := by
  simp only [baseLength, splitFirst?_star hfront]

/-- One key stands in front of another unless its base is shorter, or of one length and the key
itself is. -/
theorem compareKeys_ne_gt {a b : String} :
    (compareKeys a b != .gt) = true ↔
      baseLength b.toList < baseLength a.toList ∨
        baseLength a.toList = baseLength b.toList ∧ byteLength b.toList ≤ byteLength a.toList := by
  unfold compareKeys
  rcases Nat.lt_trichotomy (baseLength b.toList) (baseLength a.toList) with hlt | heq | hgt
  · have hbase : compare (baseLength b.toList) (baseLength a.toList) = .lt :=
      Nat.compare_eq_lt.2 hlt
    simp [hbase, hlt]
  · have hbase : compare (baseLength b.toList) (baseLength a.toList) = .eq :=
      Nat.compare_eq_eq.2 heq
    simp only [hbase, Ordering.then, bne_iff_ne, Ne, Nat.compare_eq_gt]
    omega
  · have hbase : compare (baseLength b.toList) (baseLength a.toList) = .gt :=
      Nat.compare_eq_gt.2 hgt
    simp only [hbase, Ordering.then, bne_self_eq_false, Bool.false_eq_true, false_iff]
    omega

theorem pairwise_sortKeys (keys : List String) :
    (sortKeys keys).Pairwise fun a b => (compareKeys a b != .gt) = true := by
  refine List.pairwise_mergeSort ?_ ?_ keys
  · intro a b c hab hbc
    rw [compareKeys_ne_gt] at *
    omega
  · intro a b
    rw [Bool.or_eq_true, compareKeys_ne_gt, compareKeys_ne_gt]
    omega

/-- Two patterns that match one key are told apart by how specific they are. -/
theorem eq_of_captures_of_tie {p q key : String} (hp : (capture? p key).isSome)
    (hq : (capture? q key).isSome) (hpq : (compareKeys p q != .gt) = true)
    (hqp : (compareKeys q p != .gt) = true) : p = q := by
  obtain ⟨c, hc⟩ := Option.isSome_iff_exists.1 hp
  obtain ⟨d, hd⟩ := Option.isSome_iff_exists.1 hq
  obtain ⟨front, back, hpattern, hstar, hkey, -⟩ := capture?_eq_some.1 hc
  obtain ⟨front', back', hpattern', hstar', hkey', -⟩ := capture?_eq_some.1 hd
  -- lengths decide, since the fronts open one key and the backs end it
  rw [compareKeys_ne_gt, hpattern, hpattern', baseLength_append_star hstar,
    baseLength_append_star hstar'] at hpq hqp
  have hbase : byteLength front = byteLength front' := by omega
  have hsame : front ++ (c.toList ++ back) = front' ++ (d.toList ++ back') := by
    rw [← List.append_assoc, ← hkey, hkey', List.append_assoc]
  obtain ⟨rfl, hrest⟩ := append_inj_of_byteLength hsame hbase
  have hback : byteLength back = byteLength back' := by
    simp only [byteLength_append, byteLength_cons] at hpq hqp
    omega
  have hmiddle : byteLength c.toList = byteLength d.toList := by
    have hlength := congrArg byteLength hrest
    rw [byteLength_append, byteLength_append] at hlength
    omega
  obtain ⟨-, rfl⟩ := append_inj_of_byteLength hrest hmiddle
  exact String.toList_inj.1 (hpattern.trans hpattern'.symm)

/-! ## Which entry a key matches -/

/-- Patterns that do not match may be left out. -/
theorem firstMatch?_filter (key : String) (map : TargetMap) (patterns : List String) :
    firstMatch? key map (patterns.filter fun p => (capture? p key).isSome) =
      firstMatch? key map patterns := by
  induction patterns with
  | nil => rfl
  | cons p rest ih =>
      cases hp : capture? p key with
      | none => simp only [hp, firstMatch?, Option.isSome_none, List.filter_cons, ih,
          Bool.false_eq_true, if_false]
      | some captured =>
          simp only [hp, firstMatch?, Option.isSome_some, List.filter_cons, ih, if_true]

theorem firstMatch?_congr {map map' : TargetMap} (h : ∀ key, map.lookup key = map'.lookup key)
    (key : String) (patterns : List String) :
    firstMatch? key map patterns = firstMatch? key map' patterns := by
  induction patterns with
  | nil => rfl
  | cons p rest ih => simp only [firstMatch?, h p, ih]

/-- Of the patterns that match a key the sorted list holds one order only. -/
theorem filter_sortKeys_perm {keys keys' : List String} (h : keys.Perm keys') (key : String) :
    (sortKeys keys).filter (fun p => (capture? p key).isSome) =
      (sortKeys keys').filter fun p => (capture? p key).isSome := by
  have hperm : (sortKeys keys).Perm (sortKeys keys') :=
    (List.mergeSort_perm _ _).trans (h.trans (List.mergeSort_perm _ _).symm)
  refine List.Perm.eq_of_pairwise ?_ ((pairwise_sortKeys keys).filter _)
    ((pairwise_sortKeys keys').filter _) (hperm.filter _)
  intro p q hp hq hpq hqp
  exact eq_of_captures_of_tie (List.mem_filter.1 hp).2 (List.mem_filter.1 hq).2 hpq hqp

/-- In a list without repeated keys an entry is found under its key. -/
theorem lookup_eq_some_iff_mem {β : Type} {entries : List (String × β)}
    (hkeys : (entries.map Prod.fst).Nodup) {key : String} {value : β} :
    entries.lookup key = some value ↔ (key, value) ∈ entries := by
  rw [List.lookup_eq_some_iff]
  constructor
  · rintro ⟨front, back, rfl, -⟩
    exact List.mem_append_right _ List.mem_cons_self
  · intro hmem
    obtain ⟨front, back, rfl⟩ := List.append_of_mem hmem
    refine ⟨front, back, rfl, fun entry hentry => ?_⟩
    rw [List.map_append, List.nodup_append] at hkeys
    have hne := hkeys.2.2 entry.1 (List.mem_map_of_mem hentry) key (by simp)
    exact bne_iff_ne.2 (Ne.symm hne)

theorem lookup_perm {β : Type} {entries entries' : List (String × β)}
    (hkeys : (entries.map Prod.fst).Nodup) (h : entries.Perm entries') (key : String) :
    entries.lookup key = entries'.lookup key := by
  have hkeys' : (entries'.map Prod.fst).Nodup := ((h.map _).nodup_iff).1 hkeys
  ext value
  rw [lookup_eq_some_iff_mem hkeys, lookup_eq_some_iff_mem hkeys', h.mem_iff]

/-- The entry a key matches by pattern does not depend on the order of the entries. -/
theorem firstMatch?_perm {map map' : TargetMap} (hkeys : (map.map Prod.fst).Nodup)
    (h : map.Perm map') (key : String) (p : String → Bool) :
    firstMatch? key map (sortKeys ((map.map Prod.fst).filter p)) =
      firstMatch? key map' (sortKeys ((map'.map Prod.fst).filter p)) := by
  have hfilter : ((map.map Prod.fst).filter p).Perm ((map'.map Prod.fst).filter p) :=
    (h.map _).filter _
  calc firstMatch? key map (sortKeys ((map.map Prod.fst).filter p))
      = firstMatch? key map ((sortKeys ((map.map Prod.fst).filter p)).filter
          fun q => (capture? q key).isSome) := (firstMatch?_filter ..).symm
    _ = firstMatch? key map ((sortKeys ((map'.map Prod.fst).filter p)).filter
          fun q => (capture? q key).isSome) := by rw [filter_sortKeys_perm hfilter key]
    _ = firstMatch? key map (sortKeys ((map'.map Prod.fst).filter p)) := firstMatch?_filter ..
    _ = firstMatch? key map' (sortKeys ((map'.map Prod.fst).filter p)) :=
        firstMatch?_congr (lookup_perm hkeys h) key _

end Pattern

end ModuleGraph
