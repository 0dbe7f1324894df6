import ModuleGraph.Proofs.Text.Ascii
import ModuleGraph.Proofs.Text.Percent
import ModuleGraph.Resolve.Target

/-!
# Segments in plain letters

The guard on targets compares a segment by `plainSegment`, with its escapes decoded; the reader of
locations looks for the spellings of dot segments. Segment by segment the two agree, and what the
reader escapes has the same plain letters as before. So where the guard lets a segment through
that then leads out of the package, the two have not seen the same segment.
-/

set_option autoImplicit false

namespace ModuleGraph

open Text

/-! ## Escaping -/

theorem EscapeSet.path_keepsEscapes : EscapeSet.path.KeepsEscapes where
  mark := by decide
  digit b hb := by
    have hall := forall_octet (P := fun b =>
      (hexValue? b).isSome = true → EscapeSet.path.escapes b = false) (by decide +kernel)
    exact hall b hb

/-- What is written for a segment has the plain letters of what was read. -/
theorem plainSegment_segmentText (seg : List Char) :
    plainSegment (Url.Trail.segmentText seg).toList = plainSegment (Url.dropTabs seg) := by
  have hdecode : percentDecode (encodeChars (percentEncode EscapeSet.path (Url.dropTabs seg))) =
      percentDecode (encodeChars (Url.dropTabs seg)) :=
    percentDecode_escapedBytes EscapeSet.path_keepsEscapes _
  rw [Url.Trail.segmentText, plainSegment, String.toList_ofList, hdecode]
  rfl

/-! ## Dot segments -/

/-- The spellings of a dot. -/
def dotSpellings : List (List Char) := [['.'], ['%', '2', 'e'], ['%', '2', 'E']]

theorem exists_cons_of_encodeChars {cs : List Char} {b : UInt8} {bs : Bytes}
    (h : encodeChars cs = b :: bs) (hb : b.toNat < 0x80) :
    ∃ cs', cs = Char.ofNat b.toNat :: cs' ∧ bs = encodeChars cs' := by
  cases cs with
  | nil => cases h
  | cons c cs =>
      obtain ⟨d, tail, hbytes, -⟩ := decodeHead_utf8EncodeChar c []
      rw [encodeChars_cons, hbytes, List.cons_append] at h
      obtain ⟨rfl, htail⟩ := List.cons.inj h
      obtain ⟨hnat, hone⟩ := mem_utf8EncodeChar_of_lt (hbytes ▸ List.mem_cons_self) hb
      rw [hbytes] at hone
      rw [(List.cons.inj hone).2, List.nil_append] at htail
      exact ⟨cs, by rw [hnat, Char.ofNat_toNat], htail.symm⟩

theorem hexValue?_cases {b n : UInt8} (h : hexValue? b = some n) :
    n.toNat < 16 ∧ (n = 2 → b = 0x32) ∧ (n = 14 → b = 0x65 ∨ b = 0x45) := by
  have hall := forall_octet (P := fun b => ∀ n ∈ hexValue? b,
    n.toNat < 16 ∧ (n = 2 → b = 0x32) ∧ (n = 14 → b = 0x65 ∨ b = 0x45)) (by decide +kernel)
  exact hall b n h

/-- A dot is read from a dot or from its escape. -/
theorem percentDecode_eq_dot {bs rest : Bytes} (h : percentDecode bs = 0x2E :: rest) :
    ∃ bs', percentDecode bs' = rest ∧
      (bs = 0x2E :: bs' ∨ bs = 0x25 :: 0x32 :: 0x65 :: bs' ∨ bs = 0x25 :: 0x32 :: 0x45 :: bs') := by
  cases bs with
  | nil => cases h
  | cons b bs =>
      by_cases hdigits : b = 0x25 ∧ StartsWithDigits bs
      · obtain ⟨rfl, high, low, bs', rfl, hhigh, hlow⟩ := hdigits
        obtain ⟨m, hm⟩ := Option.isSome_iff_exists.1 hhigh
        obtain ⟨n, hn⟩ := Option.isSome_iff_exists.1 hlow
        rw [percentDecode, if_pos rfl, hm, hn] at h
        obtain ⟨hbyte, hrest⟩ := List.cons.inj h
        obtain ⟨hm', hhigh', -⟩ := hexValue?_cases hm
        obtain ⟨hn', -, hlow'⟩ := hexValue?_cases hn
        have hsum : m.toNat * 16 + n.toNat = 0x2E := by
          have hnat := congrArg UInt8.toNat hbyte
          rw [UInt8.toNat_add, UInt8.toNat_mul] at hnat
          have hsixteen : (16 : UInt8).toNat = 16 := rfl
          have hdot : (0x2E : UInt8).toNat = 0x2E := rfl
          rw [hsixteen, hdot] at hnat
          omega
        -- the digits are those of `0x2E`
        have htwo : m = 2 := UInt8.toNat_inj.1 (by show m.toNat = 2; omega)
        have hfourteen : n = 14 := UInt8.toNat_inj.1 (by show n.toNat = 14; omega)
        rw [hhigh' htwo]
        rcases hlow' hfourteen with rfl | rfl
        · exact ⟨bs', hrest, Or.inr (Or.inl rfl)⟩
        · exact ⟨bs', hrest, Or.inr (Or.inr rfl)⟩
      · have hkept : percentDecode (b :: bs) = b :: percentDecode bs := by
          by_cases hmark : b = 0x25
          · subst hmark
            exact percentDecode_mark fun h => hdigits ⟨rfl, h⟩
          · exact percentDecode_cons_of_ne hmark bs
        rw [hkept] at h
        obtain ⟨rfl, hrest⟩ := List.cons.inj h
        exact ⟨bs, hrest, Or.inl rfl⟩

theorem exists_dot_of_percentDecode {cs : List Char} {rest : Bytes}
    (h : percentDecode (encodeChars cs) = 0x2E :: rest) :
    ∃ dot ∈ dotSpellings, ∃ cs', cs = dot ++ cs' ∧ percentDecode (encodeChars cs') = rest := by
  obtain ⟨bs', hrest, hbs | hbs | hbs⟩ := percentDecode_eq_dot h
  · obtain ⟨cs', rfl, rfl⟩ := exists_cons_of_encodeChars hbs (by decide)
    exact ⟨['.'], by decide, cs', rfl, hrest⟩
  · obtain ⟨cs₁, rfl, h₁⟩ := exists_cons_of_encodeChars hbs (by decide)
    obtain ⟨cs₂, rfl, h₂⟩ := exists_cons_of_encodeChars h₁.symm (by decide)
    obtain ⟨cs₃, rfl, rfl⟩ := exists_cons_of_encodeChars h₂.symm (by decide)
    exact ⟨['%', '2', 'e'], by decide, cs₃, rfl, hrest⟩
  · obtain ⟨cs₁, rfl, h₁⟩ := exists_cons_of_encodeChars hbs (by decide)
    obtain ⟨cs₂, rfl, h₂⟩ := exists_cons_of_encodeChars h₁.symm (by decide)
    obtain ⟨cs₃, rfl, rfl⟩ := exists_cons_of_encodeChars h₂.symm (by decide)
    exact ⟨['%', '2', 'E'], by decide, cs₃, rfl, hrest⟩

theorem percentDecode_cons_ne_nil (b : UInt8) (bs : Bytes) : percentDecode (b :: bs) ≠ [] := by
  match bs with
  | [] => exact List.cons_ne_nil _ _
  | [_] => exact List.cons_ne_nil _ _
  | _ :: _ :: _ =>
      rw [percentDecode]
      split
      · split
        · exact List.cons_ne_nil _ _
        · exact List.cons_ne_nil _ _
      · exact List.cons_ne_nil _ _

theorem eq_nil_of_percentDecode {cs : List Char} (h : percentDecode (encodeChars cs) = []) :
    cs = [] := by
  cases cs with
  | nil => rfl
  | cons c cs =>
      obtain ⟨b, tail, hbytes, -⟩ := decodeHead_utf8EncodeChar c []
      rw [encodeChars_cons, hbytes, List.cons_append] at h
      exact absurd h (percentDecode_cons_ne_nil b _)

theorem percentDecode_of_plainSegment {seg : List Char} {dots : String}
    (hdots : dots.toList.all (·.toNat < 97) = true) (h : plainSegment seg = dots) :
    percentDecode (encodeChars seg) = encodeChars dots.toList := by
  have hlow : ∀ c ∈ dots.toList, c.toNat < 97 := by simpa using hdots
  refine eq_encodeChars_of_lower hlow ?_
  rw [← h, plainSegment, String.toList_ofList]

/-- What is a dot in lower case is one of the spellings. -/
theorem exists_dot_of_lower {cs dot rest : List Char} (hdot : dot = ['.'] ∨ dot = ['%', '2', 'e'])
    (h : cs.map Char.toLower = dot ++ rest) :
    ∃ dot' ∈ dotSpellings, ∃ cs', cs = dot' ++ cs' ∧ cs'.map Char.toLower = rest := by
  have hletter {c : Char} (hc : c.toLower = 'e') : c = 'e' ∨ c = 'E' := by
    rcases toLower_cases c with heq | ⟨-, -, hnat⟩
    · exact Or.inl (heq.symm.trans hc)
    · have hcode : 'e'.toNat = 'E'.toNat + 32 := rfl
      rw [hc] at hnat
      have hupper : c.toNat = 'E'.toNat := by omega
      exact Or.inr (Char.toNat_inj.1 hupper)
  rcases hdot with rfl | rfl
  · obtain ⟨c, cs', rfl, hc, hrest⟩ := List.map_eq_cons_iff.1 h
    rw [eq_of_toLower_eq (by decide) hc]
    exact ⟨['.'], by decide, cs', rfl, hrest⟩
  · obtain ⟨c₁, cs₁, rfl, hc₁, h₁⟩ := List.map_eq_cons_iff.1 h
    obtain ⟨c₂, cs₂, rfl, hc₂, h₂⟩ := List.map_eq_cons_iff.1 h₁
    obtain ⟨c₃, cs₃, rfl, hc₃, h₃⟩ := List.map_eq_cons_iff.1 h₂
    rw [eq_of_toLower_eq (by decide) hc₁, eq_of_toLower_eq (by decide) hc₂]
    rcases hletter hc₃ with rfl | rfl
    · exact ⟨['%', '2', 'e'], by decide, cs₃, rfl, h₃⟩
    · exact ⟨['%', '2', 'E'], by decide, cs₃, rfl, h₃⟩

/-- The guard and the reader agree on what names the directory itself. -/
theorem isSingleDot_iff (seg : List Char) :
    Url.isSingleDot seg = true ↔ plainSegment seg = "." := by
  constructor
  · intro h
    have hlower : ∃ dot, (dot = ['.'] ∨ dot = ['%', '2', 'e']) ∧
        seg.map Char.toLower = dot ++ [] := by
      simpa [Url.isSingleDot] using h
    obtain ⟨dot, hdot, heq⟩ := hlower
    obtain ⟨dot', hdot', cs, rfl, hcs⟩ := exists_dot_of_lower hdot heq
    obtain rfl := List.map_eq_nil_iff.1 hcs
    have hall : ∀ dot ∈ dotSpellings, plainSegment (dot ++ []) = "." := by decide +kernel
    exact hall dot' hdot'
  · intro h
    have hdecode := percentDecode_of_plainSegment (by decide) h
    obtain ⟨dot, hdot, cs, rfl, hrest⟩ := exists_dot_of_percentDecode hdecode
    obtain rfl := eq_nil_of_percentDecode hrest
    have hall : ∀ dot ∈ dotSpellings, Url.isSingleDot (dot ++ []) = true := by decide +kernel
    exact hall dot hdot

/-- The guard and the reader agree on what names the directory above. -/
theorem isDoubleDot_iff (seg : List Char) :
    Url.isDoubleDot seg = true ↔ plainSegment seg = ".." := by
  constructor
  · intro h
    have hlower : ∃ dot, (dot = ['.'] ∨ dot = ['%', '2', 'e']) ∧
        ∃ dot', (dot' = ['.'] ∨ dot' = ['%', '2', 'e']) ∧
          seg.map Char.toLower = dot ++ (dot' ++ []) := by
      have hmem : seg.map Char.toLower ∈ [['.', '.'], ['.', '%', '2', 'e'], ['%', '2', 'e', '.'],
          ['%', '2', 'e', '%', '2', 'e']] := List.contains_iff_mem.1 h
      simp only [List.mem_cons, List.not_mem_nil, or_false] at hmem
      rcases hmem with heq | heq | heq | heq
      · exact ⟨_, Or.inl rfl, _, Or.inl rfl, heq⟩
      · exact ⟨_, Or.inl rfl, _, Or.inr rfl, heq⟩
      · exact ⟨_, Or.inr rfl, _, Or.inl rfl, heq⟩
      · exact ⟨_, Or.inr rfl, _, Or.inr rfl, heq⟩
    obtain ⟨dot, hdot, dot', hdot', heq⟩ := hlower
    obtain ⟨front, hfront, cs, rfl, hcs⟩ := exists_dot_of_lower hdot heq
    obtain ⟨back, hback, cs', rfl, hcs'⟩ := exists_dot_of_lower hdot' hcs
    obtain rfl := List.map_eq_nil_iff.1 hcs'
    -- nine spellings are left, and each is looked up
    have hall : ∀ dot ∈ dotSpellings, ∀ dot' ∈ dotSpellings,
        plainSegment (dot ++ (dot' ++ [])) = ".." := by decide +kernel
    exact hall front hfront back hback
  · intro h
    have hdecode := percentDecode_of_plainSegment (by decide) h
    obtain ⟨dot, hdot, cs, rfl, hrest⟩ := exists_dot_of_percentDecode hdecode
    obtain ⟨dot', hdot', cs', rfl, hrest'⟩ := exists_dot_of_percentDecode hrest
    obtain rfl := eq_nil_of_percentDecode hrest'
    have hall : ∀ dot ∈ dotSpellings, ∀ dot' ∈ dotSpellings,
        Url.isDoubleDot (dot ++ (dot' ++ [])) = true := by decide +kernel
    exact hall dot hdot dot' hdot'

end ModuleGraph
