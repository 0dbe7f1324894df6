import ModuleGraph.Proofs.Text.Split
import ModuleGraph.Text.Utf8

/-!
# Reading back what was written

The octets of a character are read back as that character, so a text is what `lossy` makes of its
UTF-8 form. The octets of characters outside ASCII are outside ASCII themselves, and a text is cut
at an ASCII character where its octets are cut at that octet.
-/

set_option autoImplicit false

namespace ModuleGraph.Text

/-! ## Octets of a character -/

theorem toNat_ofNat_of_lt {n : Nat} (h : n < 256) : (UInt8.ofNat n).toNat = n := by
  rw [UInt8.toNat_ofNat']
  exact Nat.mod_eq_of_lt h

/-- What holds of all octets can be looked up octet by octet. -/
theorem forall_octet {P : UInt8 → Prop} (h : ∀ n : Fin 256, P (UInt8.ofNat n)) (b : UInt8) :
    P b := by
  have hb := h ⟨b.toNat, b.toNat_lt⟩
  rw [UInt8.ofNat_toNat] at hb
  exact hb

/-- The UTF-8 form of a character by the number of its octets. -/
theorem utf8EncodeChar_cases (c : Char) :
    (c.toNat < 0x80 ∧ String.utf8EncodeChar c = [UInt8.ofNat c.toNat]) ∨
    (0x80 ≤ c.toNat ∧ c.toNat < 0x800 ∧ String.utf8EncodeChar c =
      [UInt8.ofNat (c.toNat / 64 + 0xC0), UInt8.ofNat (c.toNat % 64 + 0x80)]) ∨
    (0x800 ≤ c.toNat ∧ c.toNat < 0x10000 ∧ String.utf8EncodeChar c =
      [UInt8.ofNat (c.toNat / 4096 + 0xE0), UInt8.ofNat (c.toNat / 64 % 64 + 0x80),
        UInt8.ofNat (c.toNat % 64 + 0x80)]) ∨
    (0x10000 ≤ c.toNat ∧ c.toNat < 0x110000 ∧ String.utf8EncodeChar c =
      [UInt8.ofNat (c.toNat / 262144 + 0xF0), UInt8.ofNat (c.toNat / 4096 % 64 + 0x80),
        UInt8.ofNat (c.toNat / 64 % 64 + 0x80), UInt8.ofNat (c.toNat % 64 + 0x80)]) := by
  have hvalid : c.toNat < 0xD800 ∨ (0xDFFF < c.toNat ∧ c.toNat < 0x110000) := c.valid
  unfold String.utf8EncodeChar
  dsimp only
  have hval : c.val.toNat = c.toNat := rfl
  rw [hval]
  -- the leading octet is not reduced in any of the cases
  by_cases h₁ : c.toNat ≤ 0x7F
  · exact Or.inl ⟨by omega, if_pos h₁⟩
  by_cases h₂ : c.toNat ≤ 0x7FF
  · refine Or.inr (Or.inl ⟨by omega, by omega, ?_⟩)
    rw [Nat.mod_eq_of_lt (show c.toNat / 64 < 32 by omega)]
    exact (if_neg h₁).trans (if_pos h₂)
  by_cases h₃ : c.toNat ≤ 0xFFFF
  · refine Or.inr (Or.inr (Or.inl ⟨by omega, by omega, ?_⟩))
    rw [Nat.mod_eq_of_lt (show c.toNat / 4096 < 16 by omega)]
    exact (if_neg h₁).trans ((if_neg h₂).trans (if_pos h₃))
  · refine Or.inr (Or.inr (Or.inr ⟨by omega, by omega, ?_⟩))
    rw [Nat.mod_eq_of_lt (show c.toNat / 262144 < 8 by omega)]
    exact (if_neg h₁).trans ((if_neg h₂).trans (if_neg h₃))

theorem takeTail_cons {owed bits n : Nat} {low high : UInt8} {rest : Bytes} (hn : n < 256)
    (hlow : low.toNat ≤ n) (hhigh : n ≤ high.toNat) :
    takeTail (owed + 1) low high bits (UInt8.ofNat n :: rest) =
      takeTail owed 0x80 0xBF (bits * 64 + (n - 0x80)) rest := by
  have hcond : low ≤ UInt8.ofNat n ∧ UInt8.ofNat n ≤ high := by
    rw [UInt8.le_iff_toNat_le, UInt8.le_iff_toNat_le, toNat_ofNat_of_lt hn]
    exact ⟨hlow, hhigh⟩
  rw [takeTail, if_pos hcond, toNat_ofNat_of_lt hn]

theorem decodeHead_of_lead {n : Nat} (hlow : 0x80 ≤ n) (hhigh : n < 256) {lead : Lead}
    (hlead : Lead.of? (UInt8.ofNat n) = some lead) (tail : Bytes) :
    decodeHead (UInt8.ofNat n) tail = takeTail lead.owed lead.low lead.high lead.bits tail := by
  have hge : ¬ UInt8.ofNat n < 0x80 := by
    rw [UInt8.lt_iff_toNat_lt, toNat_ofNat_of_lt hhigh]
    exact Nat.not_lt.2 hlow
  rw [decodeHead, if_neg hge, hlead]

/-- What leads two octets allows the first of them, unless the form is overlong or a surrogate. -/
theorem Lead.exists_of?_three (bits next : Nat) (hbits : bits < 16) (hnext : next < 64)
    (hlong : bits = 0 → 32 ≤ next) (hsurrogate : bits = 0xD → next < 32) :
    ∃ low high, Lead.of? (UInt8.ofNat (bits + 0xE0)) = some ⟨bits, 2, low, high⟩ ∧
      low.toNat ≤ next + 0x80 ∧ next + 0x80 ≤ high.toNat := by
  have h80 : (0x80 : UInt8).toNat = 0x80 := rfl
  have hBF : (0xBF : UInt8).toNat = 0xBF := rfl
  have hA0 : (0xA0 : UInt8).toNat = 0xA0 := rfl
  have h9F : (0x9F : UInt8).toNat = 0x9F := rfl
  rw [Lead.of?, toNat_ofNat_of_lt (by omega), if_neg (by omega), if_neg (by omega)]
  by_cases hzero : bits = 0
  · rw [if_pos (by omega), hzero]
    exact ⟨0xA0, 0xBF, rfl, by omega, by omega⟩
  rw [if_neg (by omega)]
  by_cases hD : bits = 0xD
  · rw [if_pos (by omega), hD]
    exact ⟨0x80, 0x9F, rfl, by omega, by omega⟩
  · rw [if_neg (by omega), if_pos (by omega), Nat.add_sub_cancel]
    exact ⟨0x80, 0xBF, rfl, by omega, by omega⟩

/-- What leads three octets allows the first of them, unless the form is overlong or its value too
large. -/
theorem Lead.exists_of?_four (bits next : Nat) (hbits : bits ≤ 4) (hnext : next < 64)
    (hlong : bits = 0 → 16 ≤ next) (hlarge : bits = 4 → next < 16) :
    ∃ low high, Lead.of? (UInt8.ofNat (bits + 0xF0)) = some ⟨bits, 3, low, high⟩ ∧
      low.toNat ≤ next + 0x80 ∧ next + 0x80 ≤ high.toNat := by
  have h80 : (0x80 : UInt8).toNat = 0x80 := rfl
  have hBF : (0xBF : UInt8).toNat = 0xBF := rfl
  have h90 : (0x90 : UInt8).toNat = 0x90 := rfl
  have h8F : (0x8F : UInt8).toNat = 0x8F := rfl
  rw [Lead.of?, toNat_ofNat_of_lt (by omega), if_neg (by omega), if_neg (by omega),
    if_neg (by omega), if_neg (by omega), if_neg (by omega)]
  by_cases hzero : bits = 0
  · rw [if_pos (by omega), hzero]
    exact ⟨0x90, 0xBF, rfl, by omega, by omega⟩
  rw [if_neg (by omega)]
  by_cases hfour : bits = 4
  · rw [if_neg (by omega), if_pos (by omega), hfour]
    exact ⟨0x80, 0x8F, rfl, by omega, by omega⟩
  · rw [if_pos (by omega), Nat.add_sub_cancel]
    exact ⟨0x80, 0xBF, rfl, by omega, by omega⟩

/-- The octets of a character are read as that character. -/
theorem decodeHead_utf8EncodeChar (c : Char) (rest : Bytes) :
    ∃ b tail, String.utf8EncodeChar c = b :: tail ∧
      decodeHead b (tail ++ rest) = (some c, rest) := by
  have hvalid : c.toNat < 0xD800 ∨ (0xDFFF < c.toNat ∧ c.toNat < 0x110000) := c.valid
  have hlow : (0x80 : UInt8).toNat = 0x80 := rfl
  have hhigh : (0xBF : UInt8).toNat = 0xBF := rfl
  rcases utf8EncodeChar_cases c with ⟨h, heq⟩ | ⟨h, h', heq⟩ | ⟨h, h', heq⟩ | ⟨h, h', heq⟩
  · refine ⟨_, _, heq, ?_⟩
    have hlt : UInt8.ofNat c.toNat < 0x80 := by
      rw [UInt8.lt_iff_toNat_lt, toNat_ofNat_of_lt (by omega)]
      exact h
    rw [decodeHead, if_pos hlt, toNat_ofNat_of_lt (by omega), Char.ofNat_toNat]
    rfl
  · refine ⟨_, _, heq, ?_⟩
    have hlead : Lead.of? (UInt8.ofNat (c.toNat / 64 + 0xC0)) =
        some { bits := c.toNat / 64, owed := 1 } := by
      rw [Lead.of?, toNat_ofNat_of_lt (by omega), if_neg (by omega), if_pos (by omega),
        Nat.add_sub_cancel]
    have hsum : c.toNat / 64 * 64 + (c.toNat % 64 + 0x80 - 0x80) = c.toNat := by omega
    rw [decodeHead_of_lead (by omega) (by omega) hlead]
    show takeTail (0 + 1) 0x80 0xBF _ _ = _
    rw [List.cons_append, takeTail_cons (by omega) (by omega) (by omega), takeTail, hsum,
      Char.ofNat_toNat]
    rfl
  · refine ⟨_, _, heq, ?_⟩
    -- the bits put together again
    have hsum : (c.toNat / 4096 * 64 + (c.toNat / 64 % 64 + 0x80 - 0x80)) * 64 +
        (c.toNat % 64 + 0x80 - 0x80) = c.toNat := by omega
    obtain ⟨low, high, hlead, hlow', hhigh'⟩ := Lead.exists_of?_three (c.toNat / 4096)
      (c.toNat / 64 % 64) (by omega) (by omega)
      (fun _ => by omega) (fun _ => by omega)
    rw [decodeHead_of_lead (by omega) (by omega) hlead]
    show takeTail (1 + 1) low high _ _ = _
    rw [List.cons_append, takeTail_cons (by omega) hlow' hhigh', List.cons_append,
      takeTail_cons (by omega) (by omega) (by omega), takeTail, hsum, Char.ofNat_toNat]
    rfl
  · refine ⟨_, _, heq, ?_⟩
    have hsum : ((c.toNat / 262144 * 64 + (c.toNat / 4096 % 64 + 0x80 - 0x80)) * 64 +
        (c.toNat / 64 % 64 + 0x80 - 0x80)) * 64 + (c.toNat % 64 + 0x80 - 0x80) = c.toNat := by
      omega
    obtain ⟨low, high, hlead, hlow', hhigh'⟩ := Lead.exists_of?_four (c.toNat / 262144)
      (c.toNat / 4096 % 64) (by omega) (by omega)
      (fun _ => by omega) (fun _ => by omega)
    rw [decodeHead_of_lead (by omega) (by omega) hlead]
    show takeTail (2 + 1) low high _ _ = _
    rw [List.cons_append, takeTail_cons (by omega) hlow' hhigh', List.cons_append,
      takeTail_cons (by omega) (by omega) (by omega), List.cons_append,
      takeTail_cons (by omega) (by omega) (by omega), takeTail, hsum, Char.ofNat_toNat]
    rfl

/-! ## Texts -/

theorem encodeChars_cons (c : Char) (cs : List Char) :
    encodeChars (c :: cs) = String.utf8EncodeChar c ++ encodeChars cs := by
  rw [encodeChars, List.flatMap_cons]
  rfl

theorem decodeUnits_encodeChars (cs : List Char) : decodeUnits (encodeChars cs) = cs.map some := by
  induction cs with
  | nil => rw [encodeChars, List.flatMap_nil, decodeUnits, List.map_nil]
  | cons c cs ih =>
      obtain ⟨b, tail, hbytes, hhead⟩ := decodeHead_utf8EncodeChar c (encodeChars cs)
      have hcons : encodeChars (c :: cs) = b :: (tail ++ encodeChars cs) := by
        rw [encodeChars_cons, hbytes, List.cons_append]
      rw [hcons, decodeUnits, hhead, ih, List.map_cons]

/-- A text is what its UTF-8 form is read as. -/
theorem lossy_utf8 (s : String) : lossy (utf8 s) = s := by
  rw [lossy, utf8, decodeUnits_encodeChars, List.map_map]
  have hid : ((fun unit : Option Char => unit.getD '\uFFFD') ∘ some) = id := rfl
  rw [hid, List.map_id, String.ofList_toList]

theorem utf8_inj {s t : String} : utf8 s = utf8 t ↔ s = t := by
  refine ⟨fun h => ?_, congrArg utf8⟩
  rw [← lossy_utf8 s, h, lossy_utf8]

/-- Octets below `0x80` stand for themselves. -/
theorem mem_utf8EncodeChar_of_lt {c : Char} {b : UInt8} (hb : b ∈ String.utf8EncodeChar c)
    (hlt : b.toNat < 0x80) : b.toNat = c.toNat ∧ String.utf8EncodeChar c = [b] := by
  have hne {n : Nat} (hn : 0x80 ≤ n) (hn' : n < 256) : b ≠ UInt8.ofNat n := by
    rintro rfl
    rw [toNat_ofNat_of_lt hn'] at hlt
    omega
  rcases utf8EncodeChar_cases c with ⟨h, heq⟩ | ⟨h, h', heq⟩ | ⟨h, h', heq⟩ | ⟨h, h', heq⟩
  · rw [heq, List.mem_singleton] at hb
    rw [heq, hb, toNat_ofNat_of_lt (by omega)]
    exact ⟨rfl, rfl⟩
  all_goals
    rw [heq] at hb
    simp only [List.mem_cons, List.not_mem_nil, or_false] at hb
  · rcases hb with hb | hb
    all_goals exact absurd hb (hne (by omega) (by omega))
  · rcases hb with hb | hb | hb
    all_goals exact absurd hb (hne (by omega) (by omega))
  · rcases hb with hb | hb | hb | hb
    all_goals exact absurd hb (hne (by omega) (by omega))

/-- An octet below `0x80` occurs in the octets of a text where its character does. -/
theorem mem_encodeChars_of_lt {b : UInt8} (hb : b.toNat < 0x80) {cs : List Char}
    (h : b ∈ encodeChars cs) : Char.ofNat b.toNat ∈ cs := by
  obtain ⟨c, hc, hbyte⟩ := List.mem_flatMap.1 h
  rw [(mem_utf8EncodeChar_of_lt hbyte hb).1, Char.ofNat_toNat]
  exact hc

/-- A text is cut at an ASCII character where its octets are. -/
theorem splitAll_encodeChars {d : Char} (hd : d.toNat < 0x80) (cs : List Char) :
    splitAll (· == UInt8.ofNat d.toNat) (encodeChars cs) =
      (splitAll (· == d) cs).map encodeChars := by
  induction cs with
  | nil => rfl
  | cons c cs ih =>
      rw [encodeChars_cons, splitAll]
      by_cases hc : c = d
      · subst hc
        have hbyte : String.utf8EncodeChar c = [UInt8.ofNat c.toNat] := by
          rcases utf8EncodeChar_cases c with ⟨-, heq⟩ | h | h | h
          · exact heq
          all_goals omega
        rw [hbyte, List.singleton_append, splitAll, if_pos (beq_self_eq_true _),
          if_pos (beq_self_eq_true _), ih]
        rfl
      -- no octet of another character is that of `d`
      · have hnone : ∀ b ∈ String.utf8EncodeChar c, (b == UInt8.ofNat d.toNat) = false := by
          intro b hb
          rw [beq_eq_false_iff_ne]
          rintro rfl
          have hlt : (UInt8.ofNat d.toNat).toNat = d.toNat := toNat_ofNat_of_lt (by omega)
          have heq := (mem_utf8EncodeChar_of_lt hb (by omega)).1
          exact hc (Char.toNat_inj.1 (heq.symm.trans hlt))
        rw [splitAll_append_of_forall hnone, ih, if_neg (by simpa using hc)]
        cases hparts : splitAll (· == d) cs with
        | nil => exact absurd hparts (splitAll_ne_nil _ _)
        | cons part parts =>
            show (String.utf8EncodeChar c ++ encodeChars part) :: _ = _
            rw [← encodeChars_cons]
            rfl

/-! ## Octets that are text -/

/-- Whether octets are the UTF-8 form of a text. -/
def IsText (bs : Bytes) : Prop := ∃ cs : List Char, bs = encodeChars cs

theorem isText_utf8 (s : String) : IsText (utf8 s) := ⟨s.toList, rfl⟩

theorem isText_append {as bs : Bytes} (ha : IsText as) (hb : IsText bs) : IsText (as ++ bs) := by
  obtain ⟨cs, rfl⟩ := ha
  obtain ⟨ds, rfl⟩ := hb
  exact ⟨cs ++ ds, (encodeChars_append cs ds).symm⟩

end ModuleGraph.Text
