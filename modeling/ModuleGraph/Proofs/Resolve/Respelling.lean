import ModuleGraph.Proofs.Resolve.Segments
import Mathlib.Data.List.Forall2

/-!
# The guard sees through spellings

A path can be respelled character by character: a letter in the other case, and any character but
a slash by the escapes of its octets. A path is cut before escapes are decoded, and escapes hold no
slash, so both spellings are cut at the same places (`Respelling.segments`). Segment by segment the
octets that are decoded are those of the first spelling but for the case of letters
(`Respelling.exists_decoded`), and case is of no account to the guard. What the guard looks for in a
path without escapes is then a matter of the path's own segments.
-/

set_option autoImplicit false

namespace ModuleGraph

open Text

/-! ## Respelling -/

/-- The escapes of a character's octets, with digits in upper case. -/
def escapedChar (c : Char) : List Char := (String.utf8EncodeChar c).flatMap escapeByte

/-- The second path is spelled as the first one, but for the case of letters and for escapes in the
place of characters other than slashes. The digits of an escape are in either case. -/
inductive Respelling : List Char → List Char → Prop
  | nil : Respelling [] []
  | keep {c d : Char} {path spelled : List Char} : d.toLower = c.toLower →
      Respelling path spelled → Respelling (c :: path) (d :: spelled)
  | escape {c d : Char} {escaped path spelled : List Char} : isAnySlash c = false →
      d.toLower = c.toLower → escaped.map Char.toLower = (escapedChar d).map Char.toLower →
      Respelling path spelled → Respelling (c :: path) (escaped ++ spelled)

/-- The case of letters may change anywhere. -/
theorem Respelling.of_toLower {path spelled : List Char}
    (h : spelled.map Char.toLower = path.map Char.toLower) : Respelling path spelled := by
  induction path generalizing spelled with
  | nil =>
      obtain rfl := List.map_eq_nil_iff.1 h
      exact .nil
  | cons c path ih =>
      obtain ⟨d, spelled, rfl, hd, hrest⟩ := List.map_eq_cons_iff.1 h
      exact .keep hd (ih hrest)

/-! ## Slashes -/

theorem isAnySlash_toLower (c : Char) : isAnySlash c.toLower = isAnySlash c := by
  rcases toLower_cases c with heq | ⟨hlow, hhigh, hnat⟩
  · rw [heq]
  · -- an upper case letter is no slash, nor is its lower case
    have hne {d : Char} (hd : 65 ≤ d.toNat) (hd' : d.toNat ≠ 92) : isAnySlash d = false := by
      simp only [isAnySlash, Bool.or_eq_false_iff, decide_eq_false_iff_not]
      constructor
      · rintro rfl
        exact absurd hd (by decide)
      · rintro rfl
        exact hd' rfl
    rw [hne (by omega) (by omega), hne (by omega) (by omega)]

theorem isAnySlash_eq_of_toLower_eq {c d : Char} (h : d.toLower = c.toLower) :
    isAnySlash d = isAnySlash c := by
  rw [← isAnySlash_toLower d, h, isAnySlash_toLower]

/-- An escape holds no slash. -/
theorem isAnySlash_of_mem_escaped {c x : Char} {escaped : List Char}
    (h : escaped.map Char.toLower = (escapedChar c).map Char.toLower) (hx : x ∈ escaped) :
    isAnySlash x = false := by
  have hlower : x.toLower ∈ (escapedChar c).map Char.toLower := h ▸ List.mem_map_of_mem hx
  obtain ⟨y, hy, hxy⟩ := List.mem_map.1 hlower
  obtain ⟨b, -, hmem⟩ := List.mem_flatMap.1 hy
  have hall : escapeChars.all (fun z => !isAnySlash z) = true := by decide
  rw [isAnySlash_eq_of_toLower_eq hxy.symm]
  simpa using List.all_eq_true.1 hall y (mem_escapeChars_of_mem_escapeByte hmem)

/-! ## Cutting -/

theorem forall₂_modifyHead {α β : Type} {R : α → β → Prop} {f : α → α} {g : β → β}
    {xs : List α} {ys : List β} (hfg : ∀ x y, R x y → R (f x) (g y)) (h : List.Forall₂ R xs ys) :
    List.Forall₂ R (xs.modifyHead f) (ys.modifyHead g) := by
  cases h with
  | nil => exact .nil
  | cons hhead htail => exact .cons (hfg _ _ hhead) htail

/-- Both spellings are cut at the same places. -/
theorem Respelling.segments {path spelled : List Char} (h : Respelling path spelled) :
    List.Forall₂ Respelling (splitAll isAnySlash path) (splitAll isAnySlash spelled) := by
  have hcons {c : Char} (hc : isAnySlash c = false) (cs : List Char) :
      splitAll isAnySlash (c :: cs) = (splitAll isAnySlash cs).modifyHead ([c] ++ ·) := by
    have hone : ∀ x ∈ [c], isAnySlash x = false := by
      intro x hx
      rw [List.mem_singleton.1 hx]
      exact hc
    exact splitAll_append_of_forall hone cs
  induction h with
  | nil => exact .cons .nil .nil
  | @keep c d path spelled hd _ ih =>
      have hslash := isAnySlash_eq_of_toLower_eq hd
      cases hc : isAnySlash c with
      | true =>
          rw [splitAll, if_pos hc, splitAll, if_pos (hslash.trans hc)]
          exact .cons .nil ih
      | false =>
          rw [hcons hc, hcons (hslash.trans hc)]
          exact forall₂_modifyHead (fun _ _ hseg => .keep hd hseg) ih
  | @escape c d escaped path spelled hc hd hescaped _ ih =>
      rw [hcons hc, splitAll_append_of_forall fun x hx => isAnySlash_of_mem_escaped hescaped hx]
      exact forall₂_modifyHead (fun _ _ hseg => .escape hc hd hescaped hseg) ih

/-! ## Decoding -/

/-- A digit of an escape is read in either case. -/
theorem hexValue?_of_toLower {c : Char} {n : Fin 16} (h : c.toLower = (hexDigit n).toLower) :
    c.toNat < 0x80 ∧ hexValue? (UInt8.ofNat c.toNat) = some (UInt8.ofNat n) := by
  have hlower : ∀ n : Fin 16, (hexDigit n).toLower.toNat < 0x80 ∧
      hexValue? (UInt8.ofNat (hexDigit n).toLower.toNat) = some (UInt8.ofNat n) := by decide
  have hupper : ∀ n : Fin 16, (hexDigit n).toNat = (hexDigit n).toLower.toNat - 32 ∨
      (hexDigit n).toLower.toNat < 97 := by decide
  rcases toLower_cases c with heq | ⟨hlow, -, hnat⟩
  · rw [heq.symm.trans h]
    exact hlower n
  · -- an upper case letter is the digit as it is written
    rw [h] at hnat
    have hsame : c = hexDigit n := by
      apply Char.toNat_inj.1
      rcases hupper n with heq | hlt
      · omega
      · omega
    rw [hsame]
    exact hexValue?_hexDigit n

/-- What is spelled by escapes in either case are the octets that were escaped. -/
theorem percentDecode_escaped {bs : Bytes} {escaped : List Char}
    (h : escaped.map Char.toLower = (bs.flatMap escapeByte).map Char.toLower) (rest : Bytes) :
    percentDecode (encodeChars escaped ++ rest) = bs ++ percentDecode rest := by
  induction bs generalizing escaped with
  | nil =>
      obtain rfl := List.map_eq_nil_iff.1 h
      rfl
  | cons b bs ih =>
      have hb : b.toNat < 256 := b.toNat_lt
      rw [List.flatMap_cons, List.map_append, escapeByte, List.map_cons, List.map_cons,
        List.map_singleton, List.cons_append, List.cons_append, List.singleton_append] at h
      obtain ⟨mark, _, rfl, hmark, h₁⟩ := List.map_eq_cons_iff.1 h
      obtain ⟨high, _, rfl, hhigh, h₂⟩ := List.map_eq_cons_iff.1 h₁
      obtain ⟨low, tail, rfl, hlow, htail⟩ := List.map_eq_cons_iff.1 h₂
      obtain rfl : mark = '%' := eq_of_toLower_eq (by decide) hmark
      obtain ⟨hhigh', hhighValue⟩ := hexValue?_of_toLower (n := ⟨b.toNat / 16, by omega⟩) hhigh
      obtain ⟨hlow', hlowValue⟩ := hexValue?_of_toLower (n := ⟨b.toNat % 16, by omega⟩) hlow
      have hpercent : String.utf8EncodeChar '%' = [0x25] := by decide
      rw [encodeChars_cons, encodeChars_cons, encodeChars_cons, hpercent,
        utf8EncodeChar_of_lt hhigh', utf8EncodeChar_of_lt hlow']
      show percentDecode (0x25 :: _ :: _ :: (encodeChars tail ++ rest)) = _
      rw [percentDecode_escape hhighValue hlowValue, ih htail]
      rfl

/-- What is decoded from a respelled path is the path but for the case of letters. -/
theorem Respelling.exists_decoded {path spelled : List Char} (h : Respelling path spelled)
    (hmark : '%' ∉ path) : ∃ decoded : List Char,
      decoded.map Char.toLower = path.map Char.toLower ∧
        percentDecode (encodeChars spelled) = encodeChars decoded := by
  induction h with
  | nil => exact ⟨[], rfl, rfl⟩
  | @keep c d path spelled hd _ ih =>
      obtain ⟨hc, hpath⟩ := not_or.1 (fun hmem => hmark (List.mem_cons.2 hmem))
      obtain ⟨decoded, hlower, hdecode⟩ := ih hpath
      have hoctets : (0x25 : UInt8) ∉ String.utf8EncodeChar d := by
        intro hmem
        have hnat : '%'.toNat = d.toNat := (mem_utf8EncodeChar_of_lt hmem (by decide)).1
        obtain rfl := Char.toNat_inj.1 hnat
        exact hc (eq_of_toLower_eq (by decide) hd.symm).symm
      refine ⟨d :: decoded, ?_, ?_⟩
      · rw [List.map_cons, List.map_cons, hd, hlower]
      · rw [encodeChars_cons, percentDecode_append_of_not_mem hoctets, hdecode, encodeChars_cons]
  | @escape c d escaped path spelled _ hd hescaped _ ih =>
      obtain ⟨-, hpath⟩ := not_or.1 (fun hmem => hmark (List.mem_cons.2 hmem))
      obtain ⟨decoded, hlower, hdecode⟩ := ih hpath
      refine ⟨d :: decoded, ?_, ?_⟩
      · rw [List.map_cons, List.map_cons, hd, hlower]
      · rw [encodeChars_append, percentDecode_escaped hescaped, hdecode, encodeChars_cons]

theorem Respelling.plainSegment_eq {path spelled : List Char} (h : Respelling path spelled)
    (hmark : '%' ∉ path) : plainSegment spelled = String.ofList (path.map Char.toLower) := by
  obtain ⟨decoded, hlower, hdecode⟩ := h.exists_decoded hmark
  have hread : lossy (encodeChars decoded) = String.ofList decoded := by
    have hutf8 := lossy_utf8 (String.ofList decoded)
    rwa [utf8, String.toList_ofList] at hutf8
  rw [plainSegment, hdecode, hread, String.toList_ofList, hlower]

/-! ## The guard -/

/-- A part of a path without slashes that slashes or the ends of the path delimit. -/
structure IsSegmentOf (seg path : List Char) : Prop where
  noSlash : ∀ c ∈ seg, isAnySlash c = false
  delimited : ∃ front back, path = front ++ seg ++ back ∧
    (front = [] ∨ ∃ start slash, isAnySlash slash = true ∧ front = start ++ [slash]) ∧
    (back = [] ∨ ∃ slash rest, isAnySlash slash = true ∧ back = slash :: rest)

/-- A segment that does not go further down in the package, as it is spelled without escapes. -/
def LeavesPackage (seg : List Char) : Prop :=
  seg = ['.'] ∨ seg = ['.', '.'] ∨ seg.map Char.toLower = "node_modules".toList

/-- A path is cut into its segments. -/
theorem mem_splitAll_iff {seg path : List Char} :
    seg ∈ splitAll isAnySlash path ↔ IsSegmentOf seg path := by
  constructor
  · intro hseg
    refine ⟨fun c hc => eq_false_of_mem_splitAll hseg hc, ?_⟩
    -- the first slash leaves a shorter path behind it
    induction hlength : path.length using Nat.strongRecOn generalizing path with
    | ind n ih =>
        subst hlength
        cases hcut : splitFirst? isAnySlash path with
        | none =>
            rw [splitAll_eq_singleton (splitFirst?_eq_none.1 hcut), List.mem_singleton] at hseg
            exact ⟨[], [], by simp [hseg], Or.inl rfl, Or.inl rfl⟩
        | some cut =>
            obtain ⟨first, rest⟩ := cut
            obtain ⟨slash, hslash, rfl, hfirst⟩ := splitFirst?_eq_some hcut
            rw [splitAll_append_cons hslash, splitAll_eq_singleton hfirst] at hseg
            rcases List.mem_cons.1 hseg with rfl | hseg
            · exact ⟨[], slash :: rest, rfl, Or.inl rfl, Or.inr ⟨slash, rest, hslash, rfl⟩⟩
            · obtain ⟨front, back, rfl, hfront, hback⟩ :=
                ih rest.length (by simp; omega) hseg rfl
              refine ⟨first ++ slash :: front, back, by simp, Or.inr ?_, hback⟩
              rcases hfront with rfl | ⟨start, slash', hslash', rfl⟩
              · exact ⟨first, slash, hslash, rfl⟩
              · exact ⟨first ++ slash :: start, slash', hslash', by simp⟩
  · rintro ⟨hnone, front, back, rfl, hfront, hback⟩
    have hend : seg ∈ splitAll isAnySlash (seg ++ back) := by
      rcases hback with rfl | ⟨slash, rest, hslash, rfl⟩
      · rw [List.append_nil, splitAll_eq_singleton hnone]
        exact List.mem_singleton_self seg
      · rw [splitAll_append_cons hslash, splitAll_eq_singleton hnone]
        exact List.mem_append_left _ (List.mem_singleton_self seg)
    rcases hfront with rfl | ⟨start, slash, hslash, rfl⟩
    · exact hend
    · rw [List.append_assoc, List.append_assoc, List.singleton_append,
        splitAll_append_cons hslash]
      exact List.mem_append_right _ hend

/-- Case is of no account to the dots. -/
theorem mem_forbiddenSegments_iff (seg : List Char) :
    String.ofList (seg.map Char.toLower) ∈ forbiddenSegments ↔ LeavesPackage seg := by
  have hdot (dots : List Char) (hdots : ∀ d ∈ dots, d = '.') :
      seg.map Char.toLower = dots ↔ seg = dots := by
    constructor
    · intro h
      induction seg generalizing dots with
      | nil => exact h
      | cons c seg ih =>
          cases dots with
          | nil => cases h
          | cons d dots =>
              obtain ⟨hc, hrest⟩ := List.cons.inj h
              obtain rfl := hdots d List.mem_cons_self
              rw [eq_of_toLower_eq (by decide) hc,
                ih dots (fun e he => hdots e (List.mem_cons_of_mem _ he)) hrest]
    · rintro rfl
      rw [List.eq_replicate_of_mem hdots, List.map_replicate]
      rfl
  simp only [forbiddenSegments, List.mem_cons, List.not_mem_nil, or_false, LeavesPackage]
  rw [← String.toList_inj, ← String.toList_inj, ← String.toList_inj, String.toList_ofList]
  rw [← hdot ['.'] (by simp), ← hdot ['.', '.'] (by simp)]
  rfl

theorem map_plainSegment {parts parts' : List (List Char)}
    (h : List.Forall₂ Respelling parts parts') (hmark : ∀ part ∈ parts, '%' ∉ part) :
    parts'.map plainSegment = parts.map fun part => String.ofList (part.map Char.toLower) := by
  induction h with
  | nil => rfl
  | cons hhead _ ih =>
      rw [List.map_cons, List.map_cons, hhead.plainSegment_eq (hmark _ List.mem_cons_self),
        ih fun part hpart => hmark part (List.mem_cons_of_mem _ hpart)]

/-- What the guard finds in a respelled path are segments of the path itself. -/
theorem Respelling.hasInvalidSegment_iff {path spelled : List Char} (h : Respelling path spelled)
    (hmark : '%' ∉ path) :
    hasInvalidSegment spelled = true ↔ ∃ seg, IsSegmentOf seg path ∧ LeavesPackage seg := by
  have hparts : ∀ part ∈ splitAll isAnySlash path, '%' ∉ part :=
    fun part hpart hmem => hmark (mem_of_mem_splitAll hpart hmem)
  have hplain := map_plainSegment h.segments hparts
  calc hasInvalidSegment spelled = true
      ↔ ∃ plain ∈ (splitAll isAnySlash spelled).map plainSegment, plain ∈ forbiddenSegments := by
        simp [hasInvalidSegment]
    _ ↔ ∃ seg ∈ splitAll isAnySlash path,
          String.ofList (seg.map Char.toLower) ∈ forbiddenSegments := by
        rw [hplain]
        simp only [List.mem_map, exists_exists_and_eq_and]
    _ ↔ ∃ seg, IsSegmentOf seg path ∧ LeavesPackage seg := by
        apply exists_congr
        intro seg
        rw [mem_splitAll_iff, mem_forbiddenSegments_iff]

/-- For every path without percent signs: the guard answers the same for each of its spellings, and
it finds fault exactly if one of the segments that slashes of either kind delimit is `.`, `..`, or
`node_modules` in any case. -/
theorem guard_sees_through_spelling {path spelled : List Char} (hmark : '%' ∉ path)
    (h : Respelling path spelled) :
    hasInvalidSegment spelled = hasInvalidSegment path ∧
      (hasInvalidSegment path = true ↔ ∃ seg, IsSegmentOf seg path ∧ LeavesPackage seg) := by
  have hsame : Respelling path path := .of_toLower rfl
  have hplain := hsame.hasInvalidSegment_iff hmark
  refine ⟨?_, hplain⟩
  rw [Bool.eq_iff_iff, h.hasInvalidSegment_iff hmark, hplain]

/-- Behind a character of two octets and an empty segment, `node_modules` is found with its letters
in both cases and one of them escaped. -/
theorem guard_sees_through_spelling_of_umlauts :
    '%' ∉ "ü//NODE_modules".toList ∧
      Respelling "ü//NODE_modules".toList "%c3%Bc//%6eode_MODULES".toList ∧
      hasInvalidSegment "%c3%Bc//%6eode_MODULES".toList =
        hasInvalidSegment "ü//NODE_modules".toList ∧
      hasInvalidSegment "ü//NODE_modules".toList = true := by
  have hmark : '%' ∉ "ü//NODE_modules".toList := by decide +kernel
  have hpath : "ü//NODE_modules".toList =
      'ü' :: '/' :: '/' :: 'N' :: "ODE_modules".toList := by decide +kernel
  have hspelled : "%c3%Bc//%6eode_MODULES".toList =
      "%c3%Bc".toList ++ '/' :: '/' :: ("%6e".toList ++ "ode_MODULES".toList) := by decide +kernel
  have hrespelled : Respelling "ü//NODE_modules".toList "%c3%Bc//%6eode_MODULES".toList := by
    rw [hpath, hspelled]
    refine .escape (d := 'ü') (by decide) rfl (by decide +kernel) (.keep rfl (.keep rfl ?_))
    refine .escape (d := 'n') (by decide) (by decide) (by decide +kernel) (.of_toLower ?_)
    decide +kernel
  have hnone : "NODE_modules".toList.all (fun c => !isAnySlash c) = true := by decide +kernel
  have hsegment : IsSegmentOf "NODE_modules".toList "ü//NODE_modules".toList :=
    ⟨fun c hc => by simpa using List.all_eq_true.1 hnone c hc, "ü//".toList, [], by decide +kernel,
      Or.inr ⟨"ü/".toList, '/', rfl, by decide +kernel⟩, Or.inl rfl⟩
  obtain ⟨hsame, hfound⟩ := guard_sees_through_spelling hmark hrespelled
  exact ⟨hmark, hrespelled, hsame,
    hfound.2 ⟨_, hsegment, Or.inr (Or.inr (by decide +kernel))⟩⟩

end ModuleGraph
