import ModuleGraph.Proofs.Text.Utf8
import Mathlib.Algebra.Group.Nat.Defs

/-!
# Octets that read as ASCII

An ASCII character is only ever read from its own octet: every longer sequence stands for a
character of `0x80` or more, since overlong forms are no characters. So a byte sequence that reads
as ASCII text is that text.
-/

set_option autoImplicit false

namespace ModuleGraph.Text

/-! ## Characters of more than one octet -/

/-- Following octets put six bits each behind the bits there are. -/
theorem takeTail_range {owed bits : Nat} {bs rest : Bytes} {c : Char}
    (h : takeTail owed 0x80 0xBF bits bs = (some c, rest)) :
    ∃ v, c = Char.ofNat v ∧ bits * 64 ^ owed ≤ v ∧ v < (bits + 1) * 64 ^ owed := by
  induction owed generalizing bits bs with
  | zero =>
      rw [takeTail] at h
      obtain ⟨hc, -⟩ := Prod.mk.inj h
      exact ⟨bits, (Option.some.inj hc).symm, by omega, by omega⟩
  | succ owed ih =>
      cases bs with
      | nil =>
          rw [takeTail] at h
          cases (Prod.mk.inj h).1
      | cons b bs =>
          rw [takeTail] at h
          split at h
          · next hb =>
              obtain ⟨v, hc, hlow, hhigh⟩ := ih h
              have hb' : b.toNat ≤ 0xBF := UInt8.le_iff_toNat_le.1 hb.2
              refine ⟨v, hc, ?_, ?_⟩
              · calc bits * 64 ^ (owed + 1) = bits * 64 * 64 ^ owed := by
                      rw [Nat.pow_succ, Nat.mul_comm (64 ^ owed), Nat.mul_assoc]
                  _ ≤ (bits * 64 + (b.toNat - 0x80)) * 64 ^ owed :=
                      Nat.mul_le_mul_right _ (by omega)
                  _ ≤ v := hlow
              · calc v < (bits * 64 + (b.toNat - 0x80) + 1) * 64 ^ owed := hhigh
                  _ ≤ (bits + 1) * 64 * 64 ^ owed := Nat.mul_le_mul_right _ (by omega)
                  _ = (bits + 1) * 64 ^ (owed + 1) := by
                      rw [Nat.pow_succ, Nat.mul_comm (64 ^ owed), Nat.mul_assoc]
          · cases (Prod.mk.inj h).1

/-- Following octets lead to characters outside ASCII only: the range of the first is narrowed where
the bits there are leave room for overlong forms, surrogates or too large values. -/
structure Lead.Narrows (lead : Lead) (owed : Nat) : Prop where
  owed_eq : lead.owed = owed + 1
  low : 0x80 ≤ lead.low.toNat
  range : ∀ d, lead.low.toNat ≤ d → d ≤ lead.high.toNat →
    0x80 ≤ (lead.bits * 64 + (d - 0x80)) * 64 ^ owed ∧
      ((lead.bits * 64 + (d - 0x80) + 1) * 64 ^ owed ≤ 0xD800 ∨
        (0xE000 ≤ (lead.bits * 64 + (d - 0x80)) * 64 ^ owed ∧
          (lead.bits * 64 + (d - 0x80) + 1) * 64 ^ owed ≤ 0x110000))

theorem Lead.exists_narrows {b : UInt8} {lead : Lead} (h : Lead.of? b = some lead) :
    ∃ owed, lead.Narrows owed := by
  have hb : b.toNat < 256 := b.toNat_lt
  have h80 : (0x80 : UInt8).toNat = 0x80 := rfl
  have hBF : (0xBF : UInt8).toNat = 0xBF := rfl
  have hA0 : (0xA0 : UInt8).toNat = 0xA0 := rfl
  have h9F : (0x9F : UInt8).toNat = 0x9F := rfl
  have h90 : (0x90 : UInt8).toNat = 0x90 := rfl
  have h8F : (0x8F : UInt8).toNat = 0x8F := rfl
  unfold Lead.of? at h
  dsimp only at h
  split at h
  · cases h
  split at h
  · obtain rfl := Option.some.inj h
    exact ⟨0, rfl, by dsimp only; omega, by dsimp only; omega⟩
  -- two octets follow: `0xE0`, `0xED` and the others
  iterate 3
    split at h
    · obtain rfl := Option.some.inj h
      exact ⟨1, rfl, by dsimp only; omega, by dsimp only; omega⟩
  -- three octets follow: `0xF0`, `0xF4` and the others
  iterate 3
    split at h
    · obtain rfl := Option.some.inj h
      exact ⟨2, rfl, by dsimp only; omega, by dsimp only; omega⟩
  · cases h

/-- An ASCII character is read from its own octet. -/
theorem decodeHead_ascii {b : UInt8} {bs rest : Bytes} {c : Char}
    (h : decodeHead b bs = (some c, rest)) (hc : c.toNat < 0x80) :
    b.toNat = c.toNat ∧ rest = bs := by
  unfold decodeHead at h
  split at h
  · next hb =>
      obtain ⟨hchar, rfl⟩ := Prod.mk.inj h
      have hlt : b.toNat < 0x80 := UInt8.lt_iff_toNat_lt.1 hb
      refine ⟨?_, rfl⟩
      rw [← Option.some.inj hchar, Char.ofNat, dif_pos (Or.inl (by omega))]
      rfl
  · split at h
    · cases (Prod.mk.inj h).1
    · next lead hlead =>
        -- what a longer sequence stands for is a character, and not one of ASCII
        obtain ⟨owed, howed, hlow, hrange⟩ := Lead.exists_narrows hlead
        rw [howed] at h
        cases bs with
        | nil =>
            rw [takeTail] at h
            cases (Prod.mk.inj h).1
        | cons d bs =>
            rw [takeTail] at h
            split at h
            · next hd =>
                obtain ⟨v, rfl, hv, hv'⟩ := takeTail_range h
                obtain ⟨hleast, hvalid⟩ := hrange d.toNat (UInt8.le_iff_toNat_le.1 hd.1)
                  (UInt8.le_iff_toNat_le.1 hd.2)
                have hchar : v.isValidChar := by
                  rcases hvalid with hvalid | hvalid
                  · exact Or.inl (by omega)
                  · exact Or.inr ⟨by omega, by omega⟩
                rw [Char.ofNat, dif_pos hchar] at hc
                have hnat : v < 0x80 := hc
                omega
            · cases (Prod.mk.inj h).1

/-- Octets that read as ASCII text are that text. -/
theorem eq_encodeChars_of_decodeUnits {bs : Bytes} {cs : List Char}
    (hcs : ∀ c ∈ cs, c.toNat < 0x80) (h : decodeUnits bs = cs.map some) : bs = encodeChars cs := by
  induction cs generalizing bs with
  | nil =>
      cases bs with
      | nil => rfl
      | cons b bs =>
          rw [decodeUnits] at h
          cases h
  | cons c cs ih =>
      have hc := hcs c List.mem_cons_self
      cases bs with
      | nil =>
          rw [decodeUnits] at h
          cases h
      | cons b bs =>
          rw [decodeUnits, List.map_cons] at h
          obtain ⟨hhead, htail⟩ := List.cons.inj h
          have hread : decodeHead b bs = (some c, (decodeHead b bs).2) := Prod.ext hhead rfl
          obtain ⟨hb, hrest⟩ := decodeHead_ascii hread hc
          rw [hrest] at htail
          have hbyte : String.utf8EncodeChar c = [b] := by
            rcases utf8EncodeChar_cases c with ⟨-, heq⟩ | h' | h' | h'
            · rw [heq, ← hb, UInt8.ofNat_toNat]
            all_goals omega
          rw [encodeChars_cons, hbyte, ← ih (fun c hc => hcs c (List.mem_cons_of_mem _ hc)) htail]
          rfl

/-! ## Lower case -/

theorem toLower_cases (c : Char) :
    c.toLower = c ∨ (65 ≤ c.toNat ∧ c.toNat ≤ 90 ∧ c.toLower.toNat = c.toNat + 32) := by
  unfold Char.toLower
  split
  · next hupper =>
      have hhigh : c.val.toNat ≤ 90 := hupper.2
      have hshift : (32 : UInt32).toNat = 32 := rfl
      refine Or.inr ⟨hupper.1, hhigh, ?_⟩
      show (c.val + 32).toNat = c.val.toNat + 32
      rw [UInt32.toNat_add]
      omega
  · exact Or.inl rfl

/-- No letter in lower case stands in front of `a`. -/
theorem eq_of_toLower_eq {c d : Char} (hd : d.toNat < 97) (h : c.toLower = d) : c = d := by
  rcases toLower_cases c with heq | ⟨hlow, -, hnat⟩
  · rw [← h, heq]
  · rw [h] at hnat
    omega

/-- Octets that read as a text without letters, but for the case of letters, are that text. -/
theorem eq_encodeChars_of_lower {bs : Bytes} {cs : List Char} (hcs : ∀ c ∈ cs, c.toNat < 97)
    (h : (lossy bs).toList.map Char.toLower = cs) : bs = encodeChars cs := by
  refine eq_encodeChars_of_decodeUnits (fun c hc => Nat.lt_trans (hcs c hc) (by decide)) ?_
  rw [lossy, String.toList_ofList, List.map_map] at h
  generalize decodeUnits bs = units at h
  induction units generalizing cs with
  | nil =>
      rw [← h]
      rfl
  | cons unit units ih =>
      rw [List.map_cons] at h
      subst h
      -- what is no character is shown as one beyond ASCII
      have hunit : ∃ c, unit = some c ∧ c.toLower = c := by
        have hlt := hcs _ List.mem_cons_self
        cases unit with
        | none => exact absurd hlt (by decide)
        | some c => exact ⟨c, rfl, (eq_of_toLower_eq hlt rfl).symm⟩
      obtain ⟨c, rfl, hlower⟩ := hunit
      rw [List.map_cons]
      have htail := ih (fun c hc => hcs c (List.mem_cons_of_mem _ hc)) rfl
      rw [← htail]
      show some c :: units = some c.toLower :: units
      rw [hlower]

end ModuleGraph.Text
