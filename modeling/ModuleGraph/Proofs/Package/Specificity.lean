import ModuleGraph.Proofs.Package.Selection

/-!
# The order of specificity

Keys are compared by two numbers: the octets of their base, which is all of a key up to and with its
first star, and the octets of the whole key. The comparison is a total preorder on all keys, so a
sort by it is well defined. Keys that tie may be different, but two patterns with one star that cut
one key never tie: their fronts open that key and their backs end it, so patterns whose lengths are
equal would be one pattern.
-/

set_option autoImplicit false

namespace ModuleGraph.Pattern

open Text

/-! ## Bases -/

/-- The characters up to and with the first star, or all of them if there is none. -/
def upToStar : List Char → List Char
  | [] => []
  | c :: cs => if c = '*' then ['*'] else c :: upToStar cs

/-- What a key is compared by first: its text up to and with its first star, or all of it if it has
none. -/
def base (key : String) : String := String.ofList (upToStar key.toList)

theorem upToStar_append_star {front : List Char} (hfront : '*' ∉ front) (back : List Char) :
    upToStar (front ++ '*' :: back) = front ++ ['*'] := by
  induction front with
  | nil => rfl
  | cons c front ih =>
      have hc : c ≠ '*' := fun heq => hfront (heq ▸ List.mem_cons_self)
      have hrest : '*' ∉ front := fun hmem => hfront (List.mem_cons_of_mem _ hmem)
      rw [List.cons_append, upToStar, if_neg hc, ih hrest]
      rfl

theorem upToStar_eq_self {cs : List Char} (h : '*' ∉ cs) : upToStar cs = cs := by
  induction cs with
  | nil => rfl
  | cons c cs ih =>
      have hc : c ≠ '*' := fun heq => h (heq ▸ List.mem_cons_self)
      have hrest : '*' ∉ cs := fun hmem => h (List.mem_cons_of_mem _ hmem)
      rw [upToStar, if_neg hc, ih hrest]

theorem byteLength_upToStar (cs : List Char) : byteLength (upToStar cs) = baseLength cs := by
  have hstar : '*'.utf8Size = 1 := by decide
  unfold baseLength
  cases hcut : splitFirst? (· == '*') cs with
  | none =>
      have hnone : '*' ∉ cs := by
        intro hmem
        simpa using splitFirst?_eq_none.1 hcut '*' hmem
      rw [upToStar_eq_self hnone]
  | some cut =>
      obtain ⟨front, back⟩ := cut
      obtain ⟨star, hisStar, rfl, hfront⟩ := splitFirst?_eq_some hcut
      obtain rfl : star = '*' := by simpa using hisStar
      have hnone : '*' ∉ front := by
        intro hmem
        simpa using hfront '*' hmem
      rw [upToStar_append_star hnone, byteLength_append, byteLength_cons, hstar]
      rfl

theorem utf8ByteSize_base (key : String) : (base key).utf8ByteSize = baseLength key.toList := by
  rw [← byteLength_toList, base, String.toList_ofList, byteLength_upToStar]

/-! ## The comparison -/

/-- Two numbers of the keys are compared, the second one where the first one ties, and the greater
number stands in front. -/
instance : Std.TransCmp compareKeys :=
  inferInstanceAs (Std.TransCmp fun a b =>
    compareLex (compareOn fun key : String => baseLength key.toList)
      (compareOn fun key : String => byteLength key.toList) b a)

theorem compareKeys_eq_iff (a b : String) : compareKeys a b = .eq ↔
    (base a).utf8ByteSize = (base b).utf8ByteSize ∧ a.utf8ByteSize = b.utf8ByteSize := by
  rw [compareKeys, Ordering.then_eq_eq, Nat.compare_eq_eq, Nat.compare_eq_eq, utf8ByteSize_base,
    utf8ByteSize_base, byteLength_toList, byteLength_toList]
  constructor
  · rintro ⟨hbase, hlength⟩
    exact ⟨hbase.symm, hlength.symm⟩
  · rintro ⟨hbase, hlength⟩
    exact ⟨hbase.symm, hlength.symm⟩

/-- Patterns with one star that cut one key are told apart. -/
theorem Cuts.eq_of_compareKeys_eq {a b key front captured back front' captured' back' : String}
    (h : Cuts a key front captured back) (h' : Cuts b key front' captured' back')
    (hstar : starCount a = 1) (hstar' : starCount b = 1) (htie : compareKeys a b = .eq) :
    a = b := by
  obtain ⟨hbase, hlength⟩ := (compareKeys_eq_iff a b).1 htie
  rw [utf8ByteSize_base, utf8ByteSize_base, h.pattern_toList, h'.pattern_toList,
    baseLength_append_star (h.star_not_mem_front hstar.le),
    baseLength_append_star (h'.star_not_mem_front hstar'.le), byteLength_toList,
    byteLength_toList] at hbase
  have hfront : front.utf8ByteSize = front'.utf8ByteSize := by omega
  -- the whole patterns and their fronts are of one length, so their backs are
  have hback : back.utf8ByteSize = back'.utf8ByteSize := by
    rw [h.pattern_eq, h'.pattern_eq] at hlength
    simp only [String.utf8ByteSize_append] at hlength
    omega
  obtain ⟨rfl, -, rfl⟩ := h.eq_of_lengths h' hfront hback
  exact h.pattern_eq.trans h'.pattern_eq.symm

/-- For all keys: comparing them the other way round gives the reverse, not being greater is
transitive and total, and keys tie exactly if their bases are of one length in octets and they are
so themselves. Two different patterns with one star that cut one key never tie. -/
theorem compareKeys_isLawful (a b c : String) :
    compareKeys b a = (compareKeys a b).swap ∧
    (compareKeys a b ≠ .gt → compareKeys b c ≠ .gt → compareKeys a c ≠ .gt) ∧
    (compareKeys a b ≠ .gt ∨ compareKeys b a ≠ .gt) ∧
    (compareKeys a b = .eq ↔
      (base a).utf8ByteSize = (base b).utf8ByteSize ∧ a.utf8ByteSize = b.utf8ByteSize) ∧
    ∀ key front captured back front' captured' back', starCount a = 1 → starCount b = 1 →
      Cuts a key front captured back → Cuts b key front' captured' back' → a ≠ b →
        compareKeys a b ≠ .eq := by
  have hswap : compareKeys b a = (compareKeys a b).swap := Std.OrientedCmp.eq_swap
  refine ⟨hswap, ?_, ?_, compareKeys_eq_iff a b, ?_⟩
  · simp only [← Ordering.isLE_iff_ne_gt]
    exact Std.TransCmp.isLE_trans
  · rw [hswap]
    cases compareKeys a b with
    | lt => exact Or.inl (by decide)
    | eq => exact Or.inl (by decide)
    | gt => exact Or.inr (by decide)
  · intro key front captured back front' captured' back' hstar hstar' h h' hne htie
    exact hne (h.eq_of_compareKeys_eq h' hstar hstar' htie)

/-- Three patterns from the most specific to the least specific one, the first two of which cut one
key, and two keys of one length that tie though they are different. -/
theorem compareKeys_isLawful_of_umlauts :
    compareKeys "./ä/*.js" "./ä/*" ≠ .gt ∧ compareKeys "./ä/*" "*" ≠ .gt ∧
      compareKeys "./ä/*.js" "*" ≠ .gt ∧
      Cuts "./ä/*.js" "./ä/ö.js" "./ä/" "ö" ".js" ∧ Cuts "./ä/*" "./ä/ö.js" "./ä/" "ö.js" "" ∧
      compareKeys "./ä/*.js" "./ä/*" ≠ .eq ∧ compareKeys "#*ä" "#*aa" = .eq := by
  obtain ⟨-, htrans, -, -, happart⟩ := compareKeys_isLawful "./ä/*.js" "./ä/*" "*"
  obtain ⟨-, -, -, htie, -⟩ := compareKeys_isLawful "#*ä" "#*aa" ""
  have hfirst : compareKeys "./ä/*.js" "./ä/*" ≠ .gt := by decide +kernel
  have hsecond : compareKeys "./ä/*" "*" ≠ .gt := by decide +kernel
  have hcuts : Cuts "./ä/*.js" "./ä/ö.js" "./ä/" "ö" ".js" :=
    ⟨by decide +kernel, by decide +kernel, by decide⟩
  have hcuts' : Cuts "./ä/*" "./ä/ö.js" "./ä/" "ö.js" "" :=
    ⟨by decide +kernel, by decide +kernel, by decide⟩
  have hne := happart _ _ _ _ _ _ _ (by decide +kernel) (by decide +kernel) hcuts hcuts' (by decide)
  exact ⟨hfirst, hsecond, htrans hfirst hsecond, hcuts, hcuts', hne,
    htie.2 ⟨by decide +kernel, by decide +kernel⟩⟩

end ModuleGraph.Pattern
