import ModuleGraph.Proofs.Text.Utf8
import ModuleGraph.Text.Percent

/-!
# Escapes and their octets

Where the percent sign itself is escaped, decoding takes back what escaping has written. What is
not escaped stands for itself, so escaped text brings in no characters but percent signs and
hexadecimal digits.
-/

set_option autoImplicit false

namespace ModuleGraph.Text

/-! ## One octet -/

theorem utf8EncodeChar_of_lt {c : Char} (h : c.toNat < 0x80) :
    String.utf8EncodeChar c = [UInt8.ofNat c.toNat] := by
  rcases utf8EncodeChar_cases c with ⟨-, heq⟩ | h' | h' | h'
  · exact heq
  all_goals omega

theorem toNat_ofNat_of_byte {b : UInt8} (h : b.toNat < 0x80) :
    (Char.ofNat b.toNat).toNat = b.toNat := by
  have hvalid : b.toNat.isValidChar := Or.inl (by omega)
  rw [Char.ofNat, dif_pos hvalid]
  rfl

theorem encodeChars_singleton_of_byte {b : UInt8} (h : b.toNat < 0x80) :
    encodeChars [Char.ofNat b.toNat] = [b] := by
  have hnat := toNat_ofNat_of_byte h
  rw [encodeChars, List.flatMap_singleton, utf8EncodeChar_of_lt (by omega), hnat,
    UInt8.ofNat_toNat]

theorem hexValue?_hexDigit (n : Fin 16) :
    (hexDigit n).toNat < 0x80 ∧
      hexValue? (UInt8.ofNat (hexDigit n).toNat) = some (UInt8.ofNat n) := by
  revert n
  decide

/-- The escape of an octet in octets. -/
theorem encodeChars_escapeByte (b : UInt8) : ∃ h l : UInt8,
    encodeChars (escapeByte b) = [0x25, h, l] ∧
      hexValue? h = some (UInt8.ofNat (b.toNat / 16)) ∧
      hexValue? l = some (UInt8.ofNat (b.toNat % 16)) := by
  have hb : b.toNat < 256 := b.toNat_lt
  obtain ⟨hhigh, hhigh'⟩ := hexValue?_hexDigit ⟨b.toNat / 16, by omega⟩
  obtain ⟨hlow, hlow'⟩ := hexValue?_hexDigit ⟨b.toNat % 16, by omega⟩
  refine ⟨_, _, ?_, hhigh', hlow'⟩
  have hmark : String.utf8EncodeChar '%' = [0x25] := by decide
  rw [escapeByte, encodeChars_cons, encodeChars_cons, encodeChars_cons, hmark,
    utf8EncodeChar_of_lt hhigh, utf8EncodeChar_of_lt hlow]
  rfl

theorem percentDecode_cons_of_ne {b : UInt8} (hb : b ≠ 0x25) (rest : Bytes) :
    percentDecode (b :: rest) = b :: percentDecode rest := by
  match rest with
  | [] => rfl
  | [_] => rfl
  | _ :: _ :: _ => rw [percentDecode, if_neg hb]

theorem percentDecode_escape {b h l : UInt8} (hh : hexValue? h = some (UInt8.ofNat (b.toNat / 16)))
    (hl : hexValue? l = some (UInt8.ofNat (b.toNat % 16))) (rest : Bytes) :
    percentDecode (0x25 :: h :: l :: rest) = b :: percentDecode rest := by
  have hb : b.toNat < 256 := b.toNat_lt
  have hsum : UInt8.ofNat (b.toNat / 16) * 16 + UInt8.ofNat (b.toNat % 16) = b := by
    rw [← UInt8.toNat_inj, UInt8.toNat_add, UInt8.toNat_mul, toNat_ofNat_of_lt (by omega),
      toNat_ofNat_of_lt (by omega)]
    have hsixteen : (16 : UInt8).toNat = 16 := rfl
    rw [hsixteen]
    omega
  rw [percentDecode, if_pos rfl, hh, hl]
  show (_ * 16 + _) :: _ = _
  rw [hsum]

/-! ## Sequences -/

theorem percentEncodeBytes_cons (set : EscapeSet) (b : UInt8) (bs : Bytes) :
    percentEncodeBytes set (b :: bs) =
      (if set.escapes b then escapeByte b else [Char.ofNat b.toNat]) ++
        percentEncodeBytes set bs := by
  rw [percentEncodeBytes, List.flatMap_cons]
  rfl

/-- An octet that is not escaped is a printable ASCII character other than those of the set. -/
theorem EscapeSet.lt_of_not_escapes {set : EscapeSet} {b : UInt8} (h : set.escapes b = false) :
    b.toNat < 0x7F ∧ Char.ofNat b.toNat ∉ set.chars := by
  simp only [EscapeSet.escapes, Bool.or_eq_false_iff, decide_eq_false_iff_not,
    List.contains_eq_mem] at h
  obtain ⟨⟨-, hhigh⟩, hset⟩ := h
  rw [UInt8.le_iff_toNat_le] at hhigh
  have hlimit : (0x7F : UInt8).toNat = 0x7F := rfl
  exact ⟨by omega, hset⟩

/-- Octets without a percent sign stand for themselves, whatever follows. -/
theorem percentDecode_append_of_not_mem {bs : Bytes} (h : (0x25 : UInt8) ∉ bs) (rest : Bytes) :
    percentDecode (bs ++ rest) = bs ++ percentDecode rest := by
  induction bs with
  | nil => rfl
  | cons b bs ih =>
      obtain ⟨hb, hbs⟩ := not_or.1 (fun hmem => h (List.mem_cons.2 hmem))
      rw [List.cons_append, percentDecode_cons_of_ne (Ne.symm hb), ih hbs]
      rfl

theorem percentDecode_eq_self {bs : Bytes} (h : (0x25 : UInt8) ∉ bs) : percentDecode bs = bs := by
  simpa [percentDecode] using percentDecode_append_of_not_mem h []

/-- Decoding takes back what escaping has written. -/
theorem percentDecode_percentEncodeBytes {set : EscapeSet} (hset : '%' ∈ set.chars) (bs : Bytes) :
    percentDecode (encodeChars (percentEncodeBytes set bs)) = bs := by
  induction bs with
  | nil => rfl
  | cons b bs ih =>
      rw [percentEncodeBytes_cons, encodeChars_append]
      cases hescape : set.escapes b with
      | true =>
          obtain ⟨h, l, hbytes, hh, hl⟩ := encodeChars_escapeByte b
          rw [if_pos rfl, hbytes, List.cons_append, List.cons_append, List.cons_append,
            List.nil_append, percentDecode_escape hh hl, ih]
      | false =>
          obtain ⟨hlt, hmem⟩ := EscapeSet.lt_of_not_escapes hescape
          have hne : b ≠ 0x25 := by
            rintro rfl
            exact hmem hset
          rw [if_neg Bool.false_ne_true, encodeChars_singleton_of_byte (by omega),
            List.singleton_append, percentDecode_cons_of_ne hne, ih]

/-! ## Escapes that are there already -/

/-- The hexadecimal digits and the percent sign are not escaped. -/
structure EscapeSet.KeepsEscapes (set : EscapeSet) : Prop where
  mark : set.escapes 0x25 = false
  digit : ∀ b, (hexValue? b).isSome = true → set.escapes b = false

/-- Whether octets begin with two hexadecimal digits. -/
def StartsWithDigits (bs : Bytes) : Prop :=
  ∃ high low rest, bs = high :: low :: rest ∧ (hexValue? high).isSome = true ∧
    (hexValue? low).isSome = true

/-- A percent sign that no two digits follow stands for itself. -/
theorem percentDecode_mark {bs : Bytes} (h : ¬ StartsWithDigits bs) :
    percentDecode (0x25 :: bs) = 0x25 :: percentDecode bs := by
  match bs with
  | [] => rfl
  | [_] => rfl
  | high :: low :: rest =>
      rw [percentDecode, if_pos rfl]
      cases hhigh : hexValue? high with
      | none => rfl
      | some m =>
          cases hlow : hexValue? low with
          | none => rfl
          | some n => exact absurd ⟨high, low, rest, rfl, by simp [hhigh], by simp [hlow]⟩ h

/-- The octets of escaped text. -/
def escapedBytes (set : EscapeSet) (bs : Bytes) : Bytes := encodeChars (percentEncodeBytes set bs)

theorem escapedBytes_cons (set : EscapeSet) (b : UInt8) (bs : Bytes) :
    (set.escapes b = true ∧ ∃ h l : UInt8, escapedBytes set (b :: bs) =
        0x25 :: h :: l :: escapedBytes set bs ∧ hexValue? h = some (UInt8.ofNat (b.toNat / 16)) ∧
          hexValue? l = some (UInt8.ofNat (b.toNat % 16))) ∨
      (set.escapes b = false ∧ escapedBytes set (b :: bs) = b :: escapedBytes set bs) := by
  unfold escapedBytes
  rw [percentEncodeBytes_cons, encodeChars_append]
  cases hescape : set.escapes b with
  | true =>
      obtain ⟨h, l, hbytes, hh, hl⟩ := encodeChars_escapeByte b
      rw [if_pos rfl, hbytes]
      exact Or.inl ⟨rfl, h, l, rfl, hh, hl⟩
  | false =>
      obtain ⟨hlt, -⟩ := EscapeSet.lt_of_not_escapes hescape
      rw [if_neg Bool.false_ne_true, encodeChars_singleton_of_byte (by omega)]
      exact Or.inr ⟨rfl, rfl⟩

/-- Escaping does not put digits where there were none. -/
theorem hexValue?_of_escapedBytes {set : EscapeSet} {bs rest : Bytes} {b : UInt8}
    (h : escapedBytes set bs = b :: rest) (hb : (hexValue? b).isSome = true) :
    ∃ bs', bs = b :: bs' ∧ rest = escapedBytes set bs' := by
  cases bs with
  | nil => cases h
  | cons d bs =>
      rcases escapedBytes_cons set d bs with ⟨-, _, _, heq, -⟩ | ⟨-, heq⟩
      · rw [heq] at h
        rw [← (List.cons.inj h).1] at hb
        cases hb
      · rw [heq] at h
        obtain ⟨rfl, rfl⟩ := List.cons.inj h
        exact ⟨bs, rfl, rfl⟩

theorem startsWithDigits_of_escapedBytes {set : EscapeSet} {bs : Bytes}
    (h : StartsWithDigits (escapedBytes set bs)) : StartsWithDigits bs := by
  obtain ⟨high, low, rest, hbs, hhigh, hlow⟩ := h
  obtain ⟨bs', rfl, hrest⟩ := hexValue?_of_escapedBytes hbs hhigh
  obtain ⟨bs'', rfl, -⟩ := hexValue?_of_escapedBytes hrest.symm hlow
  exact ⟨high, low, bs'', rfl, hhigh, hlow⟩

/-- Where the percent sign is not escaped, escaped text stands for the same octets as before. -/
theorem percentDecode_escapedBytes {set : EscapeSet} (hset : set.KeepsEscapes) (bs : Bytes) :
    percentDecode (escapedBytes set bs) = percentDecode bs := by
  have hkept {b : UInt8} (hb : set.escapes b = false) (bs : Bytes) :
      escapedBytes set (b :: bs) = b :: escapedBytes set bs := by
    rcases escapedBytes_cons set b bs with ⟨hescape, -⟩ | ⟨-, heq⟩
    · rw [hb] at hescape
      cases hescape
    · exact heq
  -- an escape takes three octets at once, so the induction is on the length
  induction h : bs.length using Nat.strongRecOn generalizing bs with
  | ind n ih =>
      subst h
      cases bs with
      | nil => rfl
      | cons b bs =>
          have htail := ih bs.length (by simp) bs rfl
          by_cases hmark : b = 0x25
          · subst hmark
            rw [hkept hset.mark]
            by_cases hdigits : StartsWithDigits bs
            · -- an escape that is there already stays
              obtain ⟨high, low, rest, rfl, hhigh, hlow⟩ := hdigits
              obtain ⟨m, hm⟩ := Option.isSome_iff_exists.1 hhigh
              obtain ⟨n, hn⟩ := Option.isSome_iff_exists.1 hlow
              rw [hkept (hset.digit high hhigh), hkept (hset.digit low hlow), percentDecode,
                percentDecode, if_pos rfl, if_pos rfl, hm, hn]
              show _ :: percentDecode _ = _ :: percentDecode _
              rw [ih rest.length (by simp; omega) rest rfl]
            · -- and escaping brings none about
              rw [percentDecode_mark hdigits,
                percentDecode_mark fun h => hdigits (startsWithDigits_of_escapedBytes h), htail]
          · rw [percentDecode_cons_of_ne hmark]
            rcases escapedBytes_cons set b bs with ⟨-, high, low, heq, hhigh, hlow⟩ | ⟨-, heq⟩
            · rw [heq, percentDecode_escape hhigh hlow, htail]
            · rw [heq, percentDecode_cons_of_ne hmark, htail]

/-! ## Characters of escaped text -/

/-- The characters that escapes are written with. -/
def escapeChars : List Char := '%' :: (List.range 16).map hexDigit

theorem mem_escapeChars_of_mem_escapeByte {b : UInt8} {c : Char} (h : c ∈ escapeByte b) :
    c ∈ escapeChars := by
  have hb : b.toNat < 256 := b.toNat_lt
  have hdigit {n : Nat} (hn : n < 16) : hexDigit n ∈ escapeChars :=
    List.mem_cons_of_mem _ (List.mem_map_of_mem (List.mem_range.2 hn))
  rw [escapeByte, List.mem_cons, List.mem_cons, List.mem_singleton] at h
  rcases h with rfl | rfl | rfl
  · exact List.mem_cons_self
  · exact hdigit (by omega)
  · exact hdigit (by omega)

/-- Escaping brings in no other characters. -/
theorem mem_of_mem_percentEncode {set : EscapeSet} {cs : List Char} {d : Char}
    (hd : d ∉ escapeChars) (h : d ∈ percentEncode set cs) : d ∈ cs := by
  obtain ⟨b, hb, hmem⟩ := List.mem_flatMap.1 h
  cases hescape : set.escapes b with
  | true =>
      rw [hescape] at hmem
      exact absurd (mem_escapeChars_of_mem_escapeByte hmem) hd
  | false =>
      rw [hescape] at hmem
      obtain ⟨hlt, -⟩ := EscapeSet.lt_of_not_escapes hescape
      have hchar : d = Char.ofNat b.toNat := List.mem_singleton.1 hmem
      obtain ⟨c, hc, hbyte⟩ := List.mem_flatMap.1 hb
      obtain ⟨hnat, -⟩ := mem_utf8EncodeChar_of_lt hbyte (by omega)
      rw [hnat, Char.ofNat_toNat] at hchar
      rwa [hchar]

theorem percentEncode_cons (set : EscapeSet) (c : Char) (cs : List Char) :
    percentEncode set (c :: cs) = percentEncode set [c] ++ percentEncode set cs := by
  have hone : encodeChars [c] = String.utf8EncodeChar c := List.flatMap_singleton _ _
  rw [percentEncode, encodeChars_cons, percentEncodeBytes, List.flatMap_append, ← hone]
  rfl

theorem percentEncode_singleton_ne_nil (set : EscapeSet) (c : Char) :
    percentEncode set [c] ≠ [] := by
  obtain ⟨b, tail, hbytes, -⟩ := decodeHead_utf8EncodeChar c []
  rw [percentEncode, encodeChars, List.flatMap_singleton, hbytes, percentEncodeBytes_cons]
  cases set.escapes b with
  | true => exact List.cons_ne_nil _ _
  | false => exact List.cons_ne_nil _ _

/-- Escaped text opens with a character only if the text does. -/
theorem head?_of_percentEncode {set : EscapeSet} {cs : List Char} {d : Char}
    (hd : d ∉ escapeChars) (h : (percentEncode set cs).head? = some d) : cs.head? = some d := by
  cases cs with
  | nil => cases h
  | cons c cs =>
      rw [percentEncode_cons] at h
      cases hone : percentEncode set [c] with
      | nil => exact absurd hone (percentEncode_singleton_ne_nil set c)
      | cons x xs =>
          rw [hone] at h
          obtain rfl := Option.some.inj h
          have hmem : x ∈ percentEncode set [c] := hone ▸ List.mem_cons_self
          rw [List.mem_singleton.1 (mem_of_mem_percentEncode hd hmem)]
          rfl

/-! ## Text that has been escaped -/

/-- A character that a set leaves as it is. -/
def EscapeSet.Keeps (set : EscapeSet) (c : Char) : Prop :=
  0x20 ≤ c.toNat ∧ c.toNat < 0x7F ∧ c ∉ set.chars

instance (set : EscapeSet) (c : Char) : Decidable (set.Keeps c) :=
  inferInstanceAs (Decidable (_ ∧ _ ∧ _))

theorem EscapeSet.keeps_of_not_escapes {set : EscapeSet} {b : UInt8} (h : set.escapes b = false) :
    set.Keeps (Char.ofNat b.toNat) := by
  obtain ⟨hhigh, hmem⟩ := lt_of_not_escapes h
  have hlow : 0x20 ≤ b.toNat := by
    simp only [escapes, Bool.or_eq_false_iff, decide_eq_false_iff_not, UInt8.lt_iff_toNat_lt] at h
    have hlimit : (0x20 : UInt8).toNat = 0x20 := rfl
    omega
  unfold Keeps
  rw [toNat_ofNat_of_byte (by omega)]
  exact ⟨hlow, hhigh, hmem⟩

theorem EscapeSet.escapes_of_keeps {set : EscapeSet} {c : Char} (h : set.Keeps c) :
    set.escapes (UInt8.ofNat c.toNat) = false := by
  obtain ⟨hlow, hhigh, hmem⟩ := h
  have hnat : (UInt8.ofNat c.toNat).toNat = c.toNat := toNat_ofNat_of_lt (by omega)
  have hbelow : ¬ UInt8.ofNat c.toNat < 0x20 := by
    rw [UInt8.lt_iff_toNat_lt, hnat]
    exact Nat.not_lt.2 hlow
  have habove : ¬ 0x7F ≤ UInt8.ofNat c.toNat := by
    rw [UInt8.le_iff_toNat_le, hnat]
    exact Nat.not_le.2 hhigh
  simp [escapes, hbelow, habove, hnat, hmem]

/-- Text of which nothing is escaped is written as it stands. -/
theorem percentEncode_eq_self {set : EscapeSet} {cs : List Char} (h : ∀ c ∈ cs, set.Keeps c) :
    percentEncode set cs = cs := by
  induction cs with
  | nil => rfl
  | cons c cs ih =>
      have hc := h c List.mem_cons_self
      have hlt : c.toNat < 0x80 := Nat.lt_trans hc.2.1 (by decide)
      have hnat : (UInt8.ofNat c.toNat).toNat = c.toNat := toNat_ofNat_of_lt (by omega)
      have hone : percentEncode set [c] = [c] := by
        rw [percentEncode, encodeChars, List.flatMap_singleton,
          utf8EncodeChar_of_lt hlt, percentEncodeBytes_cons,
          EscapeSet.escapes_of_keeps hc, if_neg Bool.false_ne_true, hnat, Char.ofNat_toNat]
        rfl
      rw [percentEncode_cons, hone, ih fun c hc => h c (List.mem_cons_of_mem _ hc)]
      rfl

/-- What one set has escaped a smaller set leaves as it is, if it keeps the characters that escapes
are written with. -/
theorem keeps_of_mem_percentEncodeBytes {set other : EscapeSet}
    (hsmaller : ∀ c ∈ other.chars, c ∈ set.chars) (hescape : ∀ c ∈ escapeChars, other.Keeps c)
    {bs : Bytes} {c : Char} (h : c ∈ percentEncodeBytes set bs) : other.Keeps c := by
  obtain ⟨b, -, hmem⟩ := List.mem_flatMap.1 h
  cases hb : set.escapes b with
  | true =>
      rw [hb] at hmem
      exact hescape c (mem_escapeChars_of_mem_escapeByte hmem)
  | false =>
      rw [hb] at hmem
      obtain ⟨hlow, hhigh, hset⟩ := EscapeSet.keeps_of_not_escapes hb
      rw [List.mem_singleton.1 hmem]
      exact ⟨hlow, hhigh, fun hother => hset (hsmaller _ hother)⟩

end ModuleGraph.Text
