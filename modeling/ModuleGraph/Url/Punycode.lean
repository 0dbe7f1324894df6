import ModuleGraph.Text.Split

/-!
# Punycode

Text written with ASCII characters only. The characters outside of ASCII are left out; behind the
others, digits tell in ascending order of these characters how far it is from one place where one
is left out to the next. `encode` writes this code and `decode?` reads it.
-/

set_option autoImplicit false

namespace ModuleGraph.Url.Punycode

open Text

/-! ## Digits -/

/-- The digits: letters for 0 to 25, decimal digits for 26 to 35. -/
def digit (d : Nat) : Char :=
  if d < 26 then Char.ofNat (0x61 + d) else Char.ofNat (0x30 + (d - 26))

/-- The value of a digit in either case. -/
def value? (c : Char) : Option Nat :=
  let n := c.toNat
  if 0x61 ≤ n ∧ n ≤ 0x7A then some (n - 0x61)
  else if 0x41 ≤ n ∧ n ≤ 0x5A then some (n - 0x41)
  else if 0x30 ≤ n ∧ n ≤ 0x39 then some (n - 0x30 + 26)
  else none

/-! ## Writing -/

/-- The weight limit of the digit at position `k` under a bias. -/
def threshold (k bias : Nat) : Nat :=
  if k ≤ bias then 1 else if bias + 26 ≤ k then 26 else k - bias

theorem threshold_pos (k bias : Nat) : 1 ≤ threshold k bias := by
  unfold threshold
  split
  · omega
  · split <;> omega

theorem threshold_le (k bias : Nat) : threshold k bias ≤ 26 := by
  unfold threshold
  split
  · omega
  · split <;> omega

/-- Divides a distance by 35 until it is at most 455, counting 36 for every step. -/
def reduce (delta k : Nat) : Nat × Nat :=
  if 455 < delta then reduce (delta / 35) (k + 36) else (delta, k)
termination_by delta
decreasing_by exact Nat.div_lt_self (by omega) (by omega)

/-- The bias after a distance has been written. -/
def adapt (delta points : Nat) (first : Bool) : Nat :=
  let scaled := if first then delta / 700 else delta / 2
  let (rest, k) := reduce (scaled + scaled / points) 0
  k + 36 * rest / (rest + 38)

/-- The digits of a distance. -/
def digits (bias k q : Nat) : List Char :=
  let t := threshold k bias
  if q < t then [digit q]
  else
    digit (t + (q - t) % (36 - t)) :: digits bias (k + 36) ((q - t) / (36 - t))
termination_by q
decreasing_by
  have := threshold_pos k bias
  have := threshold_le k bias
  calc (q - threshold k bias) / (36 - threshold k bias)
      ≤ q - threshold k bias := Nat.div_le_self _ _
    _ < q := by omega

/-- What has been written, and how far the input has been worked off. -/
structure Encoder where
  out : List Char
  delta : Nat := 0
  bias : Nat := 72
  handled : Nat

/-- Passes one character of the input in the round for code point `m`. -/
def Encoder.pass (basic m : Nat) (s : Encoder) (c : Char) : Encoder :=
  if c.toNat < m then { s with delta := s.delta + 1 }
  else if c.toNat = m then
    { out := s.out ++ digits s.bias 36 s.delta
      delta := 0
      bias := adapt s.delta (s.handled + 1) (s.handled == basic)
      handled := s.handled + 1 }
  else s

/-- One round for each code point outside ASCII, in ascending order. -/
def rounds (input : List Char) (basic : Nat) :
    List Nat → Nat → Encoder → Encoder
  | [], _, s => s
  | m :: rest, n, s =>
      let s := { s with delta := s.delta + (m - n) * (s.handled + 1) }
      let s := input.foldl (Encoder.pass basic m) s
      rounds input basic rest (m + 1) { s with delta := s.delta + 1 }

/-- The code of a text: its ASCII characters, and digits that tell what is inserted where. -/
def encode (text : List Char) : List Char :=
  let basic := text.filter (·.toNat < 0x80)
  let points := ((text.map Char.toNat).filter (0x80 ≤ ·)).eraseDups.mergeSort (· ≤ ·)
  let start := if basic.isEmpty then [] else basic ++ ['-']
  (rounds text basic.length points 0x80 { out := start, handled := basic.length }).out

/-! ## Reading -/

/-- Reads the digits of one distance, answering the new sum and the rest. -/
def distance? (bias : Nat) : Nat → Nat → Nat → List Char → Option (Nat × List Char)
  | _, _, _, [] => none
  | k, weight, sum, c :: rest => do
      let digit ← value? c
      let sum := sum + digit * weight
      let t := threshold k bias
      if digit < t then some (sum, rest)
      else distance? bias (k + 36) (weight * (36 - t)) sum rest

/-- Reads the distances after the basic characters, inserting a character for each. The fuel is
the number of characters left, and each distance takes at least one. -/
def inserts : Nat → Nat → Nat → Nat → List Char → List Char → Option (List Char)
  | _, _, _, _, out, [] => some out
  | 0, _, _, _, _, _ => none
  | fuel + 1, n, i, bias, out, cs => do
      let (sum, rest) ← distance? bias 36 1 i cs
      let points := out.length + 1
      let n := n + sum / points
      let place := sum % points
      if n.isValidChar then
        inserts fuel n (place + 1) (adapt (sum - i) points (i == 0))
          (out.take place ++ Char.ofNat n :: out.drop place) rest
      else none

/-- The text a code stands for. A hyphen ends the ASCII characters only if there are some. -/
def decode? (code : List Char) : Option (List Char) :=
  match splitLast? (· == '-') code with
  | some ([], _) => none
  | some (basic, digits) => inserts digits.length 0x80 0 72 basic digits
  | none => inserts code.length 0x80 0 72 [] code

end ModuleGraph.Url.Punycode
