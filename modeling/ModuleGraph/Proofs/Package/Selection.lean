import ModuleGraph.Proofs.Package.Pattern
import ModuleGraph.Proofs.Text.Utf8

/-!
# The most specific pattern

A pattern cuts a key in three if the key opens with what stands in front of the star, ends with
what stands behind it, and has something in between (`Pattern.Cuts`). Of the patterns that cut a
key the one with the longest front wins, and of those with that front the one with the longest
back (`Pattern.Wins`). There is no more than one such pattern, whatever the order of the map, and
`Pattern.match?` finds it. Whether a pattern cuts a key can be told from lengths in octets, and the
octets between the two ends are then those of what the star stands for.
-/

set_option autoImplicit false

namespace ModuleGraph

open Text

namespace Text

/-- The length that is counted along the characters of a text is that of its octets. -/
theorem byteLength_toList (s : String) : byteLength s.toList = s.utf8ByteSize := by
  have hcount (cs : List Char) : byteLength cs = (String.ofList cs).utf8ByteSize := by
    induction cs with
    | nil => rfl
    | cons c cs ih =>
        have hcons : String.ofList (c :: cs) = String.singleton c ++ String.ofList cs := by
          rw [← List.singleton_append, String.ofList_append]
          rfl
        rw [hcons, String.utf8ByteSize_append, String.utf8ByteSize_singleton, byteLength_cons, ih]
  rw [hcount, String.ofList_toList]

theorem length_encodeChars (cs : List Char) : (encodeChars cs).length = byteLength cs := by
  induction cs with
  | nil => rfl
  | cons c cs ih =>
      rw [encodeChars_cons, List.length_append, String.length_utf8EncodeChar, byteLength_cons, ih]

theorem length_utf8 (s : String) : (utf8 s).length = s.utf8ByteSize := by
  rw [utf8, length_encodeChars, byteLength_toList]

theorem utf8_append (s t : String) : utf8 (s ++ t) = utf8 s ++ utf8 t := by
  rw [utf8, String.toList_append, encodeChars_append]
  rfl

end Text

namespace Pattern

/-! ## Keys that are cut by patterns -/

/-- A pattern `front*back` cuts a key into its front, something in the place of the star, and its
back. -/
structure Cuts (pattern key front captured back : String) : Prop where
  pattern_eq : pattern = front ++ "*" ++ back
  key_eq : key = front ++ captured ++ back
  captured_ne : captured ≠ ""

/-- Of the patterns among some keys that cut a key, the one with the longest front, and among
those with the longest back. -/
structure Wins (keys : List String) (key pattern front captured back : String) : Prop where
  mem : pattern ∈ keys
  cuts : Cuts pattern key front captured back
  longest : ∀ other ∈ keys, ∀ front' captured' back', Cuts other key front' captured' back' →
    front'.utf8ByteSize < front.utf8ByteSize ∨
      front'.utf8ByteSize = front.utf8ByteSize ∧ back'.utf8ByteSize ≤ back.utf8ByteSize

namespace Cuts

variable {pattern other key front captured back front' captured' back' : String}

theorem pattern_toList (h : Cuts pattern key front captured back) :
    pattern.toList = front.toList ++ '*' :: back.toList := by
  rw [h.pattern_eq, String.toList_append, String.toList_append, List.append_assoc]
  rfl

theorem key_toList (h : Cuts pattern key front captured back) :
    key.toList = front.toList ++ (captured.toList ++ back.toList) := by
  rw [h.key_eq, String.toList_append, String.toList_append, List.append_assoc]

/-- A pattern with one star has none in its front. -/
theorem star_not_mem_front (h : Cuts pattern key front captured back)
    (hstar : starCount pattern ≤ 1) : '*' ∉ front.toList := by
  intro hmem
  have hpos : 0 < front.toList.count '*' := List.count_pos_iff.2 hmem
  rw [starCount, h.pattern_toList, List.count_append, List.count_cons_self] at hstar
  omega

/-- The lengths of front and back tell a cut from all others of the same key. -/
theorem eq_of_lengths (h : Cuts pattern key front captured back)
    (h' : Cuts other key front' captured' back')
    (hfront : front.utf8ByteSize = front'.utf8ByteSize)
    (hback : back.utf8ByteSize = back'.utf8ByteSize) :
    front = front' ∧ captured = captured' ∧ back = back' := by
  have hsame : front.toList ++ (captured.toList ++ back.toList) =
      front'.toList ++ (captured'.toList ++ back'.toList) := by rw [← h.key_toList, h'.key_toList]
  rw [← byteLength_toList, ← byteLength_toList] at hfront hback
  obtain ⟨hfronts, hrest⟩ := append_inj_of_byteLength hsame hfront
  have hmiddle : byteLength captured.toList = byteLength captured'.toList := by
    have hlength := congrArg byteLength hrest
    rw [byteLength_append, byteLength_append] at hlength
    omega
  obtain ⟨hcaptures, hbacks⟩ := append_inj_of_byteLength hrest hmiddle
  exact ⟨String.toList_inj.1 hfronts, String.toList_inj.1 hcaptures, String.toList_inj.1 hbacks⟩

/-- How specific two patterns are is a matter of their fronts and then of their backs. -/
theorem compareKeys_ne_gt_iff (h : Cuts pattern key front captured back)
    (h' : Cuts other key front' captured' back') (hstar : starCount pattern ≤ 1)
    (hstar' : starCount other ≤ 1) :
    (compareKeys pattern other != .gt) = true ↔
      front'.utf8ByteSize < front.utf8ByteSize ∨
        front'.utf8ByteSize = front.utf8ByteSize ∧ back'.utf8ByteSize ≤ back.utf8ByteSize := by
  rw [compareKeys_ne_gt, h.pattern_toList, h'.pattern_toList,
    baseLength_append_star (h.star_not_mem_front hstar),
    baseLength_append_star (h'.star_not_mem_front hstar')]
  simp only [byteLength_append, byteLength_cons, byteLength_toList]
  omega

end Cuts

/-- Of one list of keys no more than one wins. -/
theorem Wins.unique {keys : List String} {key pattern other front captured back front' captured'
    back' : String} (h : Wins keys key pattern front captured back)
    (h' : Wins keys key other front' captured' back') :
    pattern = other ∧ front = front' ∧ captured = captured' ∧ back = back' := by
  have hbelow := h.longest other h'.mem front' captured' back' h'.cuts
  have habove := h'.longest pattern h.mem front captured back h.cuts
  have hfront : front.utf8ByteSize = front'.utf8ByteSize := by omega
  have hback : back.utf8ByteSize = back'.utf8ByteSize := by omega
  obtain ⟨rfl, rfl, rfl⟩ := h.cuts.eq_of_lengths h'.cuts hfront hback
  exact ⟨h.cuts.pattern_eq.trans h'.cuts.pattern_eq.symm, rfl, rfl, rfl⟩

/-- What the star of a pattern stands for is told by how the pattern cuts the key. -/
theorem capture?_eq_some_iff_cuts {pattern key captured : String}
    (hstar : starCount pattern ≤ 1) :
    capture? pattern key = some captured ↔
      ∃ front back, Cuts pattern key front captured back := by
  rw [capture?_eq_some]
  constructor
  · rintro ⟨front, back, hpattern, -, hkey, hne⟩
    have hpattern' : pattern = String.ofList front ++ "*" ++ String.ofList back := by
      apply String.toList_inj.1
      simp [hpattern]
    have hkey' : key = String.ofList front ++ captured ++ String.ofList back := by
      apply String.toList_inj.1
      simp [hkey]
    exact ⟨String.ofList front, String.ofList back, hpattern', hkey', hne⟩
  · rintro ⟨front, back, h⟩
    refine ⟨front.toList, back.toList, h.pattern_toList, h.star_not_mem_front hstar, ?_,
      h.captured_ne⟩
    rw [h.key_toList, List.append_assoc]

/-- A pattern wins if it is as specific as all others that match the key. -/
theorem Cuts.wins {keys : List String} {pattern key front captured back : String}
    (h : Cuts pattern key front captured back) (hstars : ∀ k ∈ keys, starCount k ≤ 1)
    (hmem : pattern ∈ keys)
    (hfirst : ∀ other ∈ keys, (capture? other key).isSome →
      (compareKeys pattern other != .gt) = true) :
    Wins keys key pattern front captured back := by
  refine ⟨hmem, h, fun other hother front' captured' back' h' => ?_⟩
  have hstar' := hstars other hother
  have hcapture : capture? other key = some captured' :=
    (capture?_eq_some_iff_cuts hstar').2 ⟨front', back', h'⟩
  have hspecific := hfirst other hother (by rw [hcapture]; rfl)
  exact (h.compareKeys_ne_gt_iff h' (hstars pattern hmem) hstar').1 hspecific

/-! ## The pattern that is found -/

/-- The first pattern of a sorted list that a key matches stands in front of all others that it
matches. -/
theorem exists_first_of_firstMatch? {key : String} {map : TargetMap} {patterns : List String}
    {found : Match} (hentries : ∀ p ∈ patterns, (map.lookup p).isSome)
    (hsorted : patterns.Pairwise fun p q => (compareKeys p q != .gt) = true)
    (h : firstMatch? key map patterns = some found) :
    ∃ p ∈ patterns, capture? p key = some found.captured ∧ map.lookup p = some found.target ∧
      ∀ q ∈ patterns, (capture? q key).isSome → (compareKeys p q != .gt) = true := by
  induction patterns with
  | nil => cases h
  | cons p rest ih =>
      obtain ⟨hhead, hrest⟩ := List.pairwise_cons.1 hsorted
      obtain ⟨target, hlookup⟩ := Option.isSome_iff_exists.1 (hentries p List.mem_cons_self)
      rw [firstMatch?, hlookup] at h
      cases hcapture : capture? p key with
      | some captured =>
          rw [hcapture] at h
          obtain rfl := Option.some.inj h
          refine ⟨p, List.mem_cons_self, hcapture, hlookup, fun q hq _ => ?_⟩
          rcases List.mem_cons.1 hq with rfl | hq
          · exact compareKeys_ne_gt.2 (Or.inr ⟨rfl, Nat.le_refl _⟩)
          · exact hhead q hq
      | none =>
          rw [hcapture] at h
          obtain ⟨first, hmem, hfirst, hentry, hbest⟩ :=
            ih (fun q hq => hentries q (List.mem_cons_of_mem _ hq)) hrest h
          refine ⟨first, List.mem_cons_of_mem _ hmem, hfirst, hentry, fun q hq hmatches => ?_⟩
          rcases List.mem_cons.1 hq with rfl | hq
          · -- the pattern in front does not match, so nothing is asked of it
            rw [hcapture] at hmatches
            cases hmatches
          · exact hbest q hq hmatches

theorem firstMatch?_eq_none_iff {key : String} {map : TargetMap} {patterns : List String}
    (hentries : ∀ p ∈ patterns, (map.lookup p).isSome) :
    firstMatch? key map patterns = none ↔ ∀ p ∈ patterns, capture? p key = none := by
  induction patterns with
  | nil => simp [firstMatch?]
  | cons p rest ih =>
      obtain ⟨target, hlookup⟩ := Option.isSome_iff_exists.1 (hentries p List.mem_cons_self)
      have hrest := ih fun q hq => hentries q (List.mem_cons_of_mem _ hq)
      rw [firstMatch?, hlookup, List.forall_mem_cons]
      cases hcapture : capture? p key with
      | some captured => simp
      | none => simp [hrest]

theorem isSome_lookup_of_mem {map : TargetMap} {key : String} (h : key ∈ map.map Prod.fst) :
    (map.lookup key).isSome := by
  cases hlookup : map.lookup key with
  | some target => rfl
  | none =>
      obtain ⟨⟨k, target⟩, hmem, rfl⟩ := List.mem_map.1 h
      have hne := List.lookup_eq_none_iff.1 hlookup (k, target) hmem
      simp at hne

theorem mem_sortKeys {key : String} {keys : List String} : key ∈ sortKeys keys ↔ key ∈ keys :=
  List.mem_mergeSort

/-- The patterns of a map, the most specific first. -/
def candidates (map : TargetMap) : List String :=
  sortKeys ((map.map Prod.fst).filter fun k => starCount k = 1)

theorem mem_candidates {map : TargetMap} {pattern : String} :
    pattern ∈ candidates map ↔ pattern ∈ map.map Prod.fst ∧ starCount pattern = 1 := by
  rw [candidates, mem_sortKeys, List.mem_filter, decide_eq_true_iff]

theorem Cuts.one_le_starCount {pattern key front captured back : String}
    (h : Cuts pattern key front captured back) : 1 ≤ starCount pattern := by
  rw [starCount, h.pattern_toList, List.count_append, List.count_cons_self]
  omega

section Selection

variable {key : String} {map : TargetMap} (hstars : ∀ k ∈ map.map Prod.fst, starCount k ≤ 1)
include hstars

theorem match?_of_stars : match? key map = .ok (firstMatch? key map (candidates map)) := by
  have hnone : (map.map Prod.fst).find? (fun k => 1 < starCount k) = none := by
    rw [List.find?_eq_none]
    intro k hk
    have hone := hstars k hk
    simp only [decide_eq_true_eq]
    omega
  rw [match?, hnone]
  rfl

theorem mem_candidates_of_cuts {pattern front captured back : String}
    (hmem : pattern ∈ map.map Prod.fst) (h : Cuts pattern key front captured back) :
    pattern ∈ candidates map := by
  have hone := hstars pattern hmem
  have hstar := h.one_le_starCount
  exact mem_candidates.2 ⟨hmem, by omega⟩

/-- A key matches nothing if no pattern cuts it. -/
theorem match?_eq_none_iff :
    match? key map = .ok none ↔
      ∀ pattern ∈ map.map Prod.fst, ∀ front captured back,
        ¬ Cuts pattern key front captured back := by
  have hentries : ∀ p ∈ candidates map, (map.lookup p).isSome :=
    fun p hp => isSome_lookup_of_mem (mem_candidates.1 hp).1
  rw [match?_of_stars hstars, Except.ok.injEq, firstMatch?_eq_none_iff hentries]
  constructor
  · intro h pattern hmem front captured back hcuts
    have hnone := h pattern (mem_candidates_of_cuts hstars hmem hcuts)
    have hsome := (capture?_eq_some_iff_cuts (hstars pattern hmem)).2 ⟨front, back, hcuts⟩
    rw [hnone] at hsome
    cases hsome
  · intro h pattern hpattern
    have hmem := (mem_candidates.1 hpattern).1
    cases hcapture : capture? pattern key with
    | none => rfl
    | some captured =>
        obtain ⟨front, back, hcuts⟩ := (capture?_eq_some_iff_cuts (hstars pattern hmem)).1 hcapture
        exact absurd hcuts (h pattern hmem front captured back)

/-- What a key matches is the entry of the pattern that wins. -/
theorem exists_wins_of_match? {found : Match} (h : match? key map = .ok (some found)) :
    ∃ pattern front back, Wins (map.map Prod.fst) key pattern front found.captured back ∧
      map.lookup pattern = some found.target := by
  rw [match?_of_stars hstars] at h
  have hentries : ∀ p ∈ candidates map, (map.lookup p).isSome :=
    fun p hp => isSome_lookup_of_mem (mem_candidates.1 hp).1
  obtain ⟨pattern, hmem, hcapture, hlookup, hfirst⟩ :=
    exists_first_of_firstMatch? hentries (pairwise_sortKeys _) (Except.ok.inj h)
  have hkey := (mem_candidates.1 hmem).1
  obtain ⟨front, back, hcuts⟩ := (capture?_eq_some_iff_cuts (hstars pattern hkey)).1 hcapture
  refine ⟨pattern, front, back, hcuts.wins hstars hkey fun other hother hmatches => ?_, hlookup⟩
  obtain ⟨captured', hcapture'⟩ := Option.isSome_iff_exists.1 hmatches
  obtain ⟨front', back', hcuts'⟩ := (capture?_eq_some_iff_cuts (hstars other hother)).1 hcapture'
  exact hfirst other (mem_candidates_of_cuts hstars hother hcuts') hmatches

theorem match?_eq_some_iff {found : Match} :
    match? key map = .ok (some found) ↔
      ∃ pattern front back, Wins (map.map Prod.fst) key pattern front found.captured back ∧
        map.lookup pattern = some found.target := by
  constructor
  · exact exists_wins_of_match? hstars
  · rintro ⟨pattern, front, back, hwins, hlookup⟩
    -- some pattern is found, and it can only be the one that wins
    cases hmatch : firstMatch? key map (candidates map) with
    | none =>
        have hnone : match? key map = .ok none := by rw [match?_of_stars hstars, hmatch]
        exact absurd hwins.cuts ((match?_eq_none_iff hstars).1 hnone pattern hwins.mem _ _ _)
    | some other =>
        have hother : match? key map = .ok (some other) := by rw [match?_of_stars hstars, hmatch]
        obtain ⟨pattern', front', back', hwins', hlookup'⟩ := exists_wins_of_match? hstars hother
        obtain ⟨rfl, -, hcaptured, -⟩ := hwins.unique hwins'
        have htarget : found.target = other.target :=
          Option.some.inj (hlookup.symm.trans hlookup')
        have hsame : found = other := by
          cases found
          cases other
          simp_all
        rw [hother, hsame]

end Selection

/-! ## Octets -/

/-- What a key is asked for a pattern `front*back` where lengths are counted in octets. -/
structure Passes (key front back : String) : Prop where
  ne : key ≠ front
  starts : front.toList <+: key.toList
  ends : back = "" ∨ back.toList <:+ key.toList ∧
    (front ++ "*" ++ back).utf8ByteSize ≤ key.utf8ByteSize

theorem Passes.exists_cuts {key front back : String} (h : Passes key front back) :
    ∃ captured, Cuts (front ++ "*" ++ back) key front captured back := by
  obtain ⟨rest, hrest⟩ := h.starts
  have hne : rest ≠ [] := by
    rintro rfl
    rw [List.append_nil] at hrest
    exact h.ne (String.toList_inj.1 hrest).symm
  rcases h.ends with rfl | ⟨hends, hlength⟩
  · refine ⟨String.ofList rest, rfl, ?_, ?_⟩
    · apply String.toList_inj.1
      simp [← hrest]
    · intro hempty
      have hnil := congrArg String.toList hempty
      rw [String.toList_ofList] at hnil
      exact hne hnil
  · obtain ⟨start, hstart⟩ := hends
    have hcut : front.toList ++ rest = start ++ back.toList := by rw [hrest, hstart]
    have hsize : byteLength front.toList + 1 ≤ byteLength start := by
      have hkey := congrArg byteLength hstart
      rw [byteLength_append, byteLength_toList, byteLength_toList] at hkey
      rw [String.utf8ByteSize_append, String.utf8ByteSize_append] at hlength
      have hstar : ("*" : String).utf8ByteSize = 1 := by decide
      rw [byteLength_toList]
      omega
    -- the back starts behind the front, since it is too short to reach into it
    rcases List.append_eq_append_iff.1 hcut with ⟨middle, hmiddle, hback⟩ | ⟨excess, hexcess, -⟩
    · refine ⟨String.ofList middle, rfl, ?_, ?_⟩
      · apply String.toList_inj.1
        simp [← hstart, hmiddle]
      · intro hempty
        have hnil := congrArg String.toList hempty
        rw [String.toList_ofList] at hnil
        rw [hmiddle, hnil, String.toList_empty, List.append_nil] at hsize
        omega
    · have hlonger := congrArg byteLength hexcess
      rw [byteLength_append] at hlonger
      omega

theorem passes_iff {key front back : String} :
    Passes key front back ↔ ∃ captured, Cuts (front ++ "*" ++ back) key front captured back := by
  refine ⟨Passes.exists_cuts, fun ⟨captured, h⟩ => ⟨?_, ?_, Or.inr ⟨?_, ?_⟩⟩⟩
  · intro heq
    have hlength := congrArg String.length (heq.symm.trans h.key_eq)
    have hpos : captured.length ≠ 0 :=
      fun hzero => h.captured_ne (String.length_eq_zero_iff.1 hzero)
    simp only [String.length_append] at hlength
    omega
  · exact ⟨_, h.key_toList.symm⟩
  · exact ⟨front.toList ++ captured.toList, by rw [h.key_toList, List.append_assoc]⟩
  · have hpos : captured.utf8ByteSize ≠ 0 :=
      fun hzero => h.captured_ne (String.utf8ByteSize_eq_zero_iff.1 hzero)
    have hstar : ("*" : String).utf8ByteSize = 1 := by decide
    rw [h.key_eq]
    simp only [String.utf8ByteSize_append]
    omega

/-- A pattern with one star is cut at its star in one way. -/
theorem eq_of_one_star {front back front' back' : String}
    (hstar : starCount (front ++ "*" ++ back) = 1)
    (h : front ++ "*" ++ back = front' ++ "*" ++ back') : front = front' ∧ back = back' := by
  have hcount (f b : String) : starCount (f ++ "*" ++ b) = f.toList.count '*' + 1 +
      b.toList.count '*' := by
    have hone : ("*" : String).toList.count '*' = 1 := by decide
    rw [starCount, String.toList_append, String.toList_append, List.count_append,
      List.count_append, hone]
  have hfront : '*' ∉ front.toList := by
    rw [← List.count_eq_zero]
    have hsum := hcount front back
    omega
  have hfront' : '*' ∉ front'.toList := by
    rw [← List.count_eq_zero]
    have hsum := hcount front' back'
    rw [← h] at hsum
    omega
  have hlist : front.toList ++ '*' :: back.toList = front'.toList ++ '*' :: back'.toList := by
    have htexts := congrArg String.toList h
    simpa using htexts
  have hcut := splitFirst?_star hfront back.toList
  rw [hlist, splitFirst?_star hfront' back'.toList] at hcut
  obtain ⟨hfronts, hbacks⟩ := Prod.mk.inj (Option.some.inj hcut)
  exact ⟨String.toList_inj.1 hfronts.symm, String.toList_inj.1 hbacks.symm⟩

/-- A pattern with one star stands for something in a key exactly if the key passes. -/
theorem isSome_capture?_iff_passes {key front back : String}
    (hstar : starCount (front ++ "*" ++ back) = 1) :
    (capture? (front ++ "*" ++ back) key).isSome ↔ Passes key front back := by
  rw [passes_iff, Option.isSome_iff_exists]
  constructor
  · rintro ⟨captured, hcapture⟩
    obtain ⟨front', back', h⟩ := (capture?_eq_some_iff_cuts hstar.le).1 hcapture
    obtain ⟨rfl, rfl⟩ := eq_of_one_star hstar h.pattern_eq
    exact ⟨captured, h⟩
  · rintro ⟨captured, h⟩
    exact ⟨captured, (capture?_eq_some_iff_cuts hstar.le).2 ⟨front, back, h⟩⟩

/-- The octets of a key between two offsets are a text that stands there: the offsets are in range
and between characters. -/
structure Slices (key : String) (start stop : Nat) (text : String) : Prop where
  le : start ≤ stop
  inRange : stop ≤ key.utf8ByteSize
  startValid : String.Pos.Raw.IsValid key ⟨start⟩
  stopValid : String.Pos.Raw.IsValid key ⟨stop⟩
  octets : (utf8 key).extract start stop = utf8 text

/-- What stands between two texts is a slice of the whole. -/
theorem slices_append (front middle back : String) :
    Slices (front ++ middle ++ back) front.utf8ByteSize (front ++ middle).utf8ByteSize middle := by
  have hmiddle : (front ++ middle).utf8ByteSize = front.utf8ByteSize + middle.utf8ByteSize :=
    String.utf8ByteSize_append
  have hwhole : (front ++ middle ++ back).utf8ByteSize =
      (front ++ middle).utf8ByteSize + back.utf8ByteSize := String.utf8ByteSize_append
  refine ⟨by omega, by omega, ?_, ?_, ?_⟩
  · exact String.Pos.Raw.isValid_iff_exists_append.2
      ⟨front, middle ++ back, String.append_assoc, rfl⟩
  · exact String.Pos.Raw.isValid_iff_exists_append.2 ⟨front ++ middle, back, rfl, rfl⟩
  · have hfront := length_utf8 front
    have hsize : (front ++ middle).utf8ByteSize - front.utf8ByteSize = (utf8 middle).length := by
      rw [length_utf8]
      omega
    rw [List.extract_eq_take_drop, hsize, ← hfront, utf8_append, utf8_append, List.append_assoc,
      List.drop_left, List.take_left]

/-- What the star stands for is the slice between the front and the back. -/
theorem Cuts.slices {pattern key front captured back : String}
    (h : Cuts pattern key front captured back) :
    Slices key front.utf8ByteSize (key.utf8ByteSize - back.utf8ByteSize) captured := by
  have hstop : key.utf8ByteSize - back.utf8ByteSize = (front ++ captured).utf8ByteSize := by
    rw [h.key_eq, String.utf8ByteSize_append]
    omega
  rw [hstop, h.key_eq]
  exact slices_append front captured back

/-! ## What a key matches -/

/-- A map with a key of more than one star is refused, and such a key is named. -/
theorem match?_of_many_stars {map : TargetMap} (h : ∃ k ∈ map.map Prod.fst, 1 < starCount k)
    (key : String) :
    ∃ k ∈ map.map Prod.fst, 1 < starCount k ∧
      match? key map =
        .error ⟨.invalidConfiguration, quoted k ++ " contains more than one \"*\""⟩ := by
  cases hfind : (map.map Prod.fst).find? (fun k => 1 < starCount k) with
  | none =>
      obtain ⟨k, hk, hstars⟩ := h
      have hnot := List.find?_eq_none.1 hfind k hk
      simp only [decide_eq_true_eq] at hnot
      exact absurd hstars hnot
  | some k =>
      have hstars := List.find?_some hfind
      refine ⟨k, List.mem_of_find?_eq_some hfind, by simpa using hstars, ?_⟩
      rw [match?, hfind]

/-- For every map and every key: a map with a key of more than one star is refused. Otherwise the
key matches something exactly if a pattern of the map cuts it, and then what it matches is the
entry of the pattern that wins, with what the star of that one stands for. No more than one pattern
wins. Whether a pattern stands for something in the key can be told by counting octets, and if it
does, the octets behind its front and before its back are in range, lie between characters, and are
what its star stands for. -/
theorem most_specific_pattern_answers (key : String) (map : TargetMap) :
    let keys := map.map Prod.fst
    ((∃ k ∈ keys, 1 < starCount k) →
      ∃ k ∈ keys, 1 < starCount k ∧ match? key map =
        .error ⟨.invalidConfiguration, quoted k ++ " contains more than one \"*\""⟩) ∧
    ((∀ k ∈ keys, starCount k ≤ 1) →
      ((∃ found, match? key map = .ok (some found)) ↔
        ∃ pattern ∈ keys, ∃ front captured back, Cuts pattern key front captured back) ∧
      (match? key map = .ok none ↔
        ∀ pattern ∈ keys, ∀ front captured back, ¬ Cuts pattern key front captured back) ∧
      ∀ found, match? key map = .ok (some found) ↔
        ∃ pattern front back, Wins keys key pattern front found.captured back ∧
          map.lookup pattern = some found.target) ∧
    (∀ pattern front captured back other front' captured' back',
      Wins keys key pattern front captured back → Wins keys key other front' captured' back' →
        pattern = other ∧ front = front' ∧ captured = captured' ∧ back = back') ∧
    (∀ front back, starCount (front ++ "*" ++ back) = 1 →
      ((capture? (front ++ "*" ++ back) key).isSome ↔ Passes key front back)) ∧
    ∀ pattern front captured back, Cuts pattern key front captured back →
      Slices key front.utf8ByteSize (key.utf8ByteSize - back.utf8ByteSize) captured := by
  intro keys
  refine ⟨fun h => match?_of_many_stars h key, fun hstars => ⟨⟨?_, ?_⟩, match?_eq_none_iff hstars,
    fun found => match?_eq_some_iff hstars⟩, fun _ _ _ _ _ _ _ _ h h' => h.unique h',
    fun _ _ hstar => isSome_capture?_iff_passes hstar, fun _ _ _ _ h => h.slices⟩
  · rintro ⟨found, hfound⟩
    obtain ⟨pattern, front, back, hwins, -⟩ := exists_wins_of_match? hstars hfound
    exact ⟨pattern, hwins.mem, front, found.captured, back, hwins.cuts⟩
  · rintro ⟨pattern, hmem, front, captured, back, hcuts⟩
    cases hmatch : firstMatch? key map (candidates map) with
    | some found => exact ⟨found, by rw [match?_of_stars hstars, hmatch]⟩
    | none =>
        have hnone : match? key map = .ok none := by rw [match?_of_stars hstars, hmatch]
        exact absurd hcuts ((match?_eq_none_iff hstars).1 hnone pattern hmem front captured back)

/-- Three patterns cut a key of characters with several octets, two of them with one front. A
key with two stars beside them has the map refused. -/
theorem most_specific_pattern_answers_of_umlauts :
    let key := "./ö/ü/ä.js"
    let map : TargetMap :=
      [("./*", .null), ("./ö/*", .literal "./a/*"), ("./ö/*.js", .literal "./b/*.js"),
        ("./ö/ü/", .null)]
    let map' : TargetMap := map ++ [("./*/*", .null)]
    (∀ k ∈ map.map Prod.fst, starCount k ≤ 1) ∧
      match? key map = .ok (some ⟨.literal "./b/*.js", "ü/ä"⟩) ∧
      (∃ k ∈ map'.map Prod.fst, 1 < starCount k) ∧
      (∃ k ∈ map'.map Prod.fst, 1 < starCount k ∧ match? key map' =
        .error ⟨.invalidConfiguration, quoted k ++ " contains more than one \"*\""⟩) ∧
      Passes key "./ö/" ".js" ∧ Slices key 5 10 "ü/ä" := by
  intro key map map'
  have hstars : ∀ k ∈ map.map Prod.fst, starCount k ≤ 1 := by decide
  have hmany : ∃ k ∈ map'.map Prod.fst, 1 < starCount k := by decide
  have hcuts : Cuts "./ö/*.js" key "./ö/" "ü/ä" ".js" :=
    ⟨by decide +kernel, by decide +kernel, by decide⟩
  have hwins : Wins (map.map Prod.fst) key "./ö/*.js" "./ö/" "ü/ä" ".js" :=
    hcuts.wins hstars (by decide) (by decide +kernel)
  obtain ⟨-, hone, -, hpasses, hslices⟩ := most_specific_pattern_answers key map
  obtain ⟨-, -, hmatch⟩ := hone hstars
  obtain ⟨hrefused, -⟩ := most_specific_pattern_answers key map'
  have hfound := (hmatch ⟨.literal "./b/*.js", "ü/ä"⟩).2 ⟨_, _, _, hwins, rfl⟩
  -- the star stands for three characters, which are five octets
  have hslice := hslices _ _ _ _ hcuts
  have hstart : ("./ö/" : String).utf8ByteSize = 5 := by decide
  have hstop : key.utf8ByteSize - (".js" : String).utf8ByteSize = 10 := by decide
  rw [hstart, hstop] at hslice
  have hpass : Passes key "./ö/" ".js" :=
    (hpasses "./ö/" ".js" (by decide)).1 (by decide +kernel)
  exact ⟨hstars, hfound, hmany, hrefused hmany, hpass, hslice⟩

end Pattern

end ModuleGraph
