import ModuleGraph.Resolve.Target
import Mathlib.Algebra.Group.Nat.Defs
import Mathlib.Data.List.Basic
import Mathlib.Data.List.Induction

/-!
# Keys that are array indices

A key that is an array index is the decimal form of a number below `2 ^ 32 - 1`, and it is the only
form of that number: digits without a zero in front are what is written for their value
(`toDigits_digitsValue`). A reader that has words of 64 bits only finds the same keys. It gives up
once a step leaves the word, and from there on the value can only grow (`readWord?_eq`).
-/

set_option autoImplicit false

namespace ModuleGraph

/-! ## Digits and their value -/

/-- Whether characters are the decimal form of a number: digits, one at least, and no zero in front
of others. -/
structure IsDecimal (cs : List Char) : Prop where
  ne_nil : cs ≠ []
  isDigit : ∀ c ∈ cs, c.isDigit = true
  noLeadingZero : cs.head? = some '0' → cs.length = 1

theorem digitsValue_eq (cs : List Char) : digitsValue cs = Nat.ofDigitChars 10 cs 0 := by
  rw [digitsValue, Nat.ofDigitChars_eq_foldl]
  simp only [Nat.mul_comm]
  rfl

theorem digitsValue_concat (cs : List Char) (c : Char) :
    digitsValue (cs ++ [c]) = 10 * digitsValue cs + (c.toNat - 0x30) := by
  rw [digitsValue_eq, digitsValue_eq, Nat.ofDigitChars_append, Nat.ofDigitChars_cons]
  rfl

theorem isDigit_iff (c : Char) : c.isDigit = true ↔ 48 ≤ c.toNat ∧ c.toNat ≤ 57 := by
  simp only [Char.isDigit, Bool.and_eq_true, decide_eq_true_eq, ge_iff_le, UInt32.le_iff_toNat_le]
  rfl

theorem digitChar_of_isDigit {c : Char} (h : c.isDigit = true) :
    Nat.digitChar (c.toNat - 0x30) = c := by
  obtain ⟨hlow, hhigh⟩ := (isDigit_iff c).1 h
  apply Char.toNat_inj.1
  rw [Nat.toNat_digitChar_of_lt_ten (by omega)]
  omega

theorem IsDecimal.of_concat {cs : List Char} {c : Char} (h : IsDecimal (cs ++ [c]))
    (hne : cs ≠ []) : IsDecimal cs ∧ cs.head? ≠ some '0' := by
  have hhead : (cs ++ [c]).head? = cs.head? := List.head?_append_of_ne_nil cs hne
  have hlength : (cs ++ [c]).length ≠ 1 := by
    have hpos := List.length_pos_iff.2 hne
    simp only [List.length_append, List.length_singleton]
    omega
  have hzero : cs.head? ≠ some '0' := fun hcs => hlength (h.noLeadingZero (hhead.trans hcs))
  refine ⟨⟨hne, ?_, fun hcs => absurd hcs hzero⟩, hzero⟩
  intro d hd
  exact h.isDigit d (List.mem_append_left _ hd)

/-- Digits without a zero in front are what is written for their value. -/
theorem toDigits_digitsValue {cs : List Char} (h : IsDecimal cs) :
    Nat.toDigits 10 (digitsValue cs) = cs := by
  -- the last digit is the one written last, so the induction is from the end
  induction cs using List.reverseRecOn with
  | nil => exact absurd rfl h.ne_nil
  | append_singleton cs c ih =>
      have hc : c.isDigit = true := h.isDigit c (by simp)
      have hlt : c.toNat - 0x30 < 10 := by
        have hbounds := (isDigit_iff c).1 hc
        omega
      have hlast : Nat.toDigits 10 (c.toNat - 0x30) = [c] := by
        rw [Nat.toDigits_of_lt_base hlt, digitChar_of_isDigit hc]
      by_cases hne : cs = []
      · subst hne
        simpa [digitsValue] using hlast
      · obtain ⟨hfront, hzero⟩ := h.of_concat hne
        have hdigits := ih hfront
        -- what is in front of the last digit is not zero, since zero is written `0`
        have hpos : 0 < digitsValue cs := by
          apply Nat.pos_of_ne_zero
          intro hvalue
          apply hzero
          rw [← hdigits, hvalue]
          rfl
        calc Nat.toDigits 10 (digitsValue (cs ++ [c]))
            = Nat.toDigits 10 (10 * digitsValue cs + (c.toNat - 0x30)) := by
              rw [digitsValue_concat]
          _ = Nat.toDigits 10 (digitsValue cs) ++ Nat.toDigits 10 (c.toNat - 0x30) :=
              (Nat.toDigits_append_toDigits (by decide) hpos hlt).symm
          _ = cs ++ [c] := by rw [hdigits, hlast]

theorem digitsValue_toDigits (n : Nat) : digitsValue (Nat.toDigits 10 n) = n := by
  rw [digitsValue_eq, Nat.ofDigitChars_ten_toDigits]

/-- What is written for a number other than zero starts with a digit other than zero. -/
theorem head?_toDigits {n : Nat} (hn : 0 < n) : (Nat.toDigits 10 n).head? ≠ some '0' := by
  induction n using Nat.strongRecOn with
  | ind n ih =>
      by_cases hlt : n < 10
      · rw [Nat.toDigits_of_lt_base hlt]
        simp only [List.head?_cons, ne_eq, Option.some.injEq, Nat.digitChar_eq_zero]
        omega
      · have hfront := ih (n / 10) (by omega) (by omega)
        rw [Nat.toDigits_of_base_le (by decide) (by omega), List.head?_append_of_ne_nil _
          Nat.toDigits_ne_nil]
        exact hfront

theorem isDecimal_toDigits (n : Nat) : IsDecimal (Nat.toDigits 10 n) where
  ne_nil := Nat.toDigits_ne_nil
  isDigit _ hc := Nat.isDigit_of_mem_toDigits (by decide) (by decide) hc
  noLeadingZero h := by
    by_cases hn : n = 0
    · rw [hn, Nat.toDigits_zero]
      rfl
    · exact absurd h (head?_toDigits (Nat.pos_of_ne_zero hn))

/-- A key is the decimal form of a number exactly if it is what is written for the value of its
digits. -/
theorem isDecimal_iff_exists {key : String} :
    IsDecimal key.toList ↔ ∃ n : Nat, key = toString n := by
  constructor
  · intro h
    refine ⟨digitsValue key.toList, ?_⟩
    rw [Nat.toString_eq_ofList_toDigits, toDigits_digitsValue h, String.ofList_toList]
  · rintro ⟨n, rfl⟩
    rw [Nat.toString_eq_ofList_toDigits, String.toList_ofList]
    exact isDecimal_toDigits n

theorem digitsValue_toString (n : Nat) : digitsValue (toString n).toList = n := by
  rw [Nat.toString_eq_ofList_toDigits, String.toList_ofList, digitsValue_toDigits]

/-- The test on the look of a key. -/
theorem isDecimal_iff (cs : List Char) :
    IsDecimal cs ↔ (!cs.isEmpty && !(1 < cs.length && cs.head? == some '0') &&
      cs.all Char.isDigit) = true := by
  simp only [Bool.and_eq_true, Bool.not_eq_true', Bool.and_eq_false_iff, decide_eq_false_iff_not,
    beq_eq_false_iff_ne, List.all_eq_true, List.isEmpty_eq_false_iff]
  constructor
  · intro h
    refine ⟨⟨h.ne_nil, ?_⟩, h.isDigit⟩
    by_cases hzero : cs.head? = some '0'
    · have hone := h.noLeadingZero hzero
      exact Or.inl (by omega)
    · exact Or.inr hzero
  · rintro ⟨⟨hne, hzero⟩, hdigits⟩
    refine ⟨hne, hdigits, fun hhead => ?_⟩
    have hpos := List.length_pos_iff.2 hne
    have hshort : ¬ 1 < cs.length := hzero.resolve_right fun h => h hhead
    omega

/-- The keys that are array indices are the decimal forms of the numbers below `2 ^ 32 - 1`. -/
theorem isArrayIndex_iff_isDecimal (key : String) :
    isArrayIndex key = true ↔ IsDecimal key.toList ∧ digitsValue key.toList < 4294967295 := by
  rw [isArrayIndex, Bool.and_eq_true, ← isDecimal_iff, decide_eq_true_iff]

theorem isArrayIndex_iff_exists (key : String) :
    isArrayIndex key = true ↔ ∃ n, n < 2 ^ 32 - 1 ∧ key = toString n := by
  rw [isArrayIndex_iff_isDecimal]
  constructor
  · rintro ⟨hdecimal, hlt⟩
    obtain ⟨n, rfl⟩ := isDecimal_iff_exists.1 hdecimal
    rw [digitsValue_toString] at hlt
    exact ⟨n, hlt, rfl⟩
  · rintro ⟨n, hlt, rfl⟩
    rw [digitsValue_toString]
    exact ⟨isDecimal_iff_exists.2 ⟨n, rfl⟩, hlt⟩

/-! ## Words of 64 bits -/

/-- The product of two words, if it is one. -/
def product? (a b : UInt64) : Option UInt64 :=
  if a.toNat * b.toNat < UInt64.size then some (a * b) else none

/-- The sum of two words, if it is one. -/
def sum? (a b : UInt64) : Option UInt64 :=
  if a.toNat + b.toNat < UInt64.size then some (a + b) else none

/-- The word that one more digit makes of a word. -/
def pushDigit? (n : UInt64) (c : Char) : Option UInt64 :=
  (product? n 10).bind fun scaled => sum? scaled (UInt64.ofNat (c.toNat - 0x30))

/-- The word that digits denote, read from the front, or none once a step leaves 64 bits. -/
def readWord? (cs : List Char) : Option UInt64 := cs.foldlM pushDigit? 0

/-- Whether a key is an array index, for a reader of words. -/
def readsAsIndex (key : String) : Bool :=
  let cs := key.toList
  !cs.isEmpty && !(1 < cs.length && cs.head? == some '0') && cs.all Char.isDigit &&
    (readWord? cs).any (· < 4294967295)

/-- The word of a number, if it has 64 bits. -/
def word? (n : Nat) : Option UInt64 := if n < UInt64.size then some (UInt64.ofNat n) else none

theorem product?_eq (a b : UInt64) : product? a b = word? (a.toNat * b.toNat) := by
  unfold product? word?
  split
  · next h =>
      have heq : a * b = UInt64.ofNat (a.toNat * b.toNat) := by
        apply UInt64.toNat_inj.1
        rw [UInt64.toNat_mul, UInt64.toNat_ofNat']
      rw [heq]
  · rfl

theorem sum?_eq (a b : UInt64) : sum? a b = word? (a.toNat + b.toNat) := by
  unfold sum? word?
  split
  · next h =>
      have heq : a + b = UInt64.ofNat (a.toNat + b.toNat) := by
        apply UInt64.toNat_inj.1
        rw [UInt64.toNat_add, UInt64.toNat_ofNat']
      rw [heq]
  · rfl

theorem toNat_ofNat_of_lt_size {n : Nat} (h : n < UInt64.size) : (UInt64.ofNat n).toNat = n := by
  rw [UInt64.toNat_ofNat']
  exact Nat.mod_eq_of_lt h

theorem pushDigit?_eq (n : UInt64) {c : Char} (hc : c.isDigit = true) :
    pushDigit? n c = word? (10 * n.toNat + (c.toNat - 0x30)) := by
  have hdigit : (UInt64.ofNat (c.toNat - 0x30)).toNat = c.toNat - 0x30 := by
    have hbounds := (isDigit_iff c).1 hc
    apply toNat_ofNat_of_lt_size
    have hsize : UInt64.size = 18446744073709551616 := rfl
    omega
  have hten : (10 : UInt64).toNat = 10 := rfl
  rw [pushDigit?, product?_eq, hten, Nat.mul_comm]
  by_cases hfits : 10 * n.toNat < UInt64.size
  · rw [word?, if_pos hfits, Option.bind_some, sum?_eq, toNat_ofNat_of_lt_size hfits, hdigit]
  · -- the product is too great already
    have hsum : ¬ 10 * n.toNat + (c.toNat - 0x30) < UInt64.size := by omega
    rw [word?, if_neg hfits, Option.bind_none, word?, if_neg hsum]

/-- Digits that follow never make a value smaller. -/
theorem le_ofDigitChars (n : Nat) (cs : List Char) : n ≤ Nat.ofDigitChars 10 cs n := by
  induction cs generalizing n with
  | nil => exact Nat.le_refl n
  | cons c cs ih =>
      rw [Nat.ofDigitChars_cons]
      calc n ≤ 10 * n + (c.toNat - '0'.toNat) := by omega
        _ ≤ Nat.ofDigitChars 10 cs (10 * n + (c.toNat - '0'.toNat)) := ih _

theorem foldlM_pushDigit? (n : UInt64) {cs : List Char} (h : ∀ c ∈ cs, c.isDigit = true) :
    cs.foldlM pushDigit? n = word? (Nat.ofDigitChars 10 cs n.toNat) := by
  induction cs generalizing n with
  | nil =>
      rw [Nat.ofDigitChars_nil, word?, if_pos n.toNat_lt_size, UInt64.ofNat_toNat]
      rfl
  | cons c cs ih =>
      have hrest : ∀ d ∈ cs, d.isDigit = true := fun d hd => h d (List.mem_cons_of_mem _ hd)
      have hzero : '0'.toNat = 0x30 := rfl
      rw [List.foldlM_cons, pushDigit?_eq n (h c List.mem_cons_self), Nat.ofDigitChars_cons, hzero]
      by_cases hfits : 10 * n.toNat + (c.toNat - 0x30) < UInt64.size
      · have hstep := ih (UInt64.ofNat (10 * n.toNat + (c.toNat - 0x30))) hrest
        rw [toNat_ofNat_of_lt_size hfits] at hstep
        rw [word?, if_pos hfits]
        exact hstep
      · -- the value is too great by now, and it will not become smaller
        have hgrows := le_ofDigitChars (10 * n.toNat + (c.toNat - 0x30)) cs
        have hend : ¬ Nat.ofDigitChars 10 cs (10 * n.toNat + (c.toNat - 0x30)) < UInt64.size := by
          omega
        rw [word?, if_neg hfits, word?, if_neg hend]
        rfl

/-- Digits are read as the word of their value, if that has 64 bits. -/
theorem readWord?_eq {cs : List Char} (h : ∀ c ∈ cs, c.isDigit = true) :
    readWord? cs = word? (digitsValue cs) := by
  rw [readWord?, foldlM_pushDigit? 0 h, digitsValue_eq]
  rfl

/-- A value is found to be small by its word. -/
theorem any_word?_iff (n : Nat) : (word? n).any (· < 4294967295) = true ↔ n < 4294967295 := by
  have hsize : UInt64.size = 18446744073709551616 := rfl
  unfold word?
  split
  · next h =>
      have hlimit : (4294967295 : UInt64).toNat = 4294967295 := rfl
      rw [Option.any_some, decide_eq_true_iff, UInt64.lt_iff_toNat_lt, toNat_ofNat_of_lt_size h,
        hlimit]
  · next h =>
      simp only [Option.any_none, Bool.false_eq_true, false_iff]
      omega

theorem readsAsIndex_eq (key : String) : readsAsIndex key = isArrayIndex key := by
  rw [Bool.eq_iff_iff, isArrayIndex_iff_isDecimal, readsAsIndex, Bool.and_eq_true, ← isDecimal_iff]
  apply and_congr_right
  intro hdecimal
  rw [readWord?_eq hdecimal.isDigit, any_word?_iff]

/-! ## What array indices are -/

/-- For every key: it is an array index exactly if it is the decimal form of a number below
`2 ^ 32 - 1`, and that number is the value of its digits. The test can be made with words of 64
bits: digits whose value is beyond them are no word, and the key is no array index. Nor is a key
with any other character than the ten digits. Two different keys that are array indices denote
different numbers. -/
theorem array_indices_are_decimal_forms (key other : String) :
    (isArrayIndex key = true ↔ ∃ n, n < 2 ^ 32 - 1 ∧ key = toString n) ∧
    (∀ n : Nat, key = toString n → digitsValue key.toList = n) ∧
    readsAsIndex key = isArrayIndex key ∧
    ((∀ c ∈ key.toList, c.isDigit = true) → 2 ^ 64 ≤ digitsValue key.toList →
      readWord? key.toList = none ∧ isArrayIndex key = false) ∧
    ((∃ c ∈ key.toList, c < '0' ∨ '9' < c) → isArrayIndex key = false) ∧
    (isArrayIndex key = true → isArrayIndex other = true → key ≠ other →
      digitsValue key.toList ≠ digitsValue other.toList) := by
  refine ⟨isArrayIndex_iff_exists key, ?_, readsAsIndex_eq key, ?_, ?_, ?_⟩
  · rintro n rfl
    exact digitsValue_toString n
  · intro hdigits hlarge
    have hsize : UInt64.size = 2 ^ 64 := rfl
    constructor
    · rw [readWord?_eq hdigits, word?, if_neg (by omega)]
    · rw [Bool.eq_false_iff, Ne, isArrayIndex_iff_isDecimal]
      rintro ⟨-, hsmall⟩
      omega
  · rintro ⟨c, hc, hother⟩
    rw [Bool.eq_false_iff, Ne, isArrayIndex_iff_isDecimal]
    rintro ⟨hdecimal, -⟩
    obtain ⟨hlow, hhigh⟩ := (isDigit_iff c).1 (hdecimal.isDigit c hc)
    rcases hother with hbelow | habove
    · exact absurd hlow (Nat.not_le.2 hbelow)
    · exact absurd hhigh (Nat.not_le.2 habove)
  · intro hkey hother hne hvalue
    obtain ⟨n, -, rfl⟩ := (isArrayIndex_iff_exists key).1 hkey
    obtain ⟨m, -, rfl⟩ := (isArrayIndex_iff_exists other).1 hother
    rw [digitsValue_toString, digitsValue_toString] at hvalue
    exact hne (congrArg toString hvalue)

/-- The greatest array index is one, and so is the number in front of it. The form of `2 ^ 64 + 1`
is none, though it would be read as one if words wrapped, and a digit of another script is none. -/
theorem array_indices_are_decimal_forms_at_limits :
    isArrayIndex "4294967294" = true ∧ isArrayIndex "4294967293" = true ∧
      digitsValue "4294967294".toList ≠ digitsValue "4294967293".toList ∧
      2 ^ 64 ≤ digitsValue "18446744073709551617".toList ∧
      readWord? "18446744073709551617".toList = none ∧
      isArrayIndex "18446744073709551617" = false ∧ isArrayIndex "٣" = false := by
  obtain ⟨hgreatest, -, -, -, -, hapart⟩ :=
    array_indices_are_decimal_forms "4294967294" "4294967293"
  have hone : isArrayIndex "4294967294" = true := hgreatest.2 ⟨4294967294, by decide, by decide⟩
  have htwo : isArrayIndex "4294967293" = true := by decide +kernel
  have hlarge : 2 ^ 64 ≤ digitsValue "18446744073709551617".toList := by decide +kernel
  obtain ⟨-, -, -, hwraps, -, -⟩ := array_indices_are_decimal_forms "18446744073709551617" ""
  obtain ⟨hnone, hrefused⟩ := hwraps (List.all_eq_true.1 (by decide +kernel)) hlarge
  obtain ⟨-, -, -, -, hscript, -⟩ := array_indices_are_decimal_forms "٣" ""
  exact ⟨hone, htwo, hapart hone htwo (by decide), hlarge, hnone, hrefused,
    hscript ⟨'٣', by decide +kernel, by decide⟩⟩

end ModuleGraph
