/-!
# Shortest decimals

The decimal with the fewest digits that reads back as a given double. A double is decoded into
`m · 2 ^ e`, which fixes the interval of reals that round to it. For one digit, two digits and
so on the two neighbours of the value on that decimal grid are tested in exact arithmetic; the
first grid with a hit wins, and of two hits the nearer one.
-/

set_option autoImplicit false

namespace ModuleGraph.Decimal

/-- The magnitude of a double as a fraction, with the bounds of what rounds to it over the same
denominator, and whether the bounds themselves round to it. -/
structure Interval where
  low : Nat
  value : Nat
  high : Nat
  den : Nat
  closed : Bool

/-- The interval of a finite double, read from its bits. -/
def Interval.ofBits (bits : UInt64) : Interval :=
  let n := bits.toNat % Nat.pow 2 63
  let biased := n / Nat.pow 2 52
  let fraction := n % Nat.pow 2 52
  let m := if biased = 0 then fraction else fraction + Nat.pow 2 52
  -- in quarters of the last place, whose weight is `2 ^ (max biased 1 - 1075)`
  let e := max biased 1
  let below := if fraction = 0 ∧ 1 < biased then 1 else 2
  let scale := if 1077 ≤ e then Nat.pow 2 (e - 1077) else 1
  { low := (4 * m - below) * scale
    value := 4 * m * scale
    high := (4 * m + 2) * scale
    den := if 1077 ≤ e then 1 else Nat.pow 2 (1077 - e)
    closed := m % 2 = 0 }

/-- The number of decimal digits of a positive number; zero has none. -/
def digitCount (n : Nat) : Nat :=
  if n = 0 then 0 else digitCount (n / 10) + 1

/-- How often a fraction below one has to be multiplied by ten to reach one. -/
def leadingZeros (value den : Nat) : Nat → Nat
  | 0 => 0
  | fuel + 1 => if den ≤ value * 10 then 1 else leadingZeros (value * 10) den fuel + 1

/-- The exponent of the first decimal digit of a positive fraction. Doubles reach down to
`10 ^ -324`. -/
def decimalExponent (value den : Nat) : Int :=
  if den ≤ value then (digitCount (value / den) : Int) - 1 else -(leadingZeros value den 400 : Int)

/-- The factors that turn a fraction into a count of units of `10 ^ p`. -/
def unitFactors (p : Int) : Nat × Nat :=
  if 0 ≤ p then (1, Nat.pow 10 p.toNat) else (Nat.pow 10 (-p).toNat, 1)

/-- The multiple of `10 ^ p` nearest to the value among those that read back as it. -/
def candidate? (i : Interval) (p : Int) : Option Nat :=
  let (up, down) := unitFactors p
  let den := i.den * down
  let value := i.value * up
  let reads (digits : Nat) : Bool :=
    let point := digits * den
    if i.closed then i.low * up ≤ point && point ≤ i.high * up
    else i.low * up < point && point < i.high * up
  let floor := value / den
  let lower := if reads floor && floor ≠ 0 then some floor else none
  let upper := if reads (floor + 1) then some (floor + 1) else none
  match lower, upper with
  | some l, some u =>
      let fromBelow := value - l * den
      let fromAbove := u * den - value
      if fromBelow < fromAbove then some l
      else if fromAbove < fromBelow then some u
      else if l % 2 = 0 then some l else some u
  | some l, none => some l
  | none, upper => upper

/-- Drops zeros at the end of the digits, counting them into the exponent. -/
def stripZeros (digits : Nat) (p : Int) : Nat → Nat × Int
  | 0 => (digits, p)
  | fuel + 1 =>
      if digits ≠ 0 ∧ digits % 10 = 0 then stripZeros (digits / 10) (p + 1) fuel else (digits, p)

/-- Searches the grids of `n`, `n + 1`, … digits. Seventeen digits always suffice. -/
def search (i : Interval) (first : Int) : Nat → Nat → Nat × Int
  | _, 0 => (0, 0)
  | n, fuel + 1 =>
      let p := first - n
      match candidate? i p with
      | some digits => stripZeros digits p 20
      | none => search i first (n + 1) fuel

/-- The shortest decimal `digits · 10 ^ p` that reads back as a finite double other than zero. -/
def shortest (bits : UInt64) : Nat × Int :=
  let i := Interval.ofBits bits
  search i (decimalExponent i.value i.den) 0 18

/-- How a decimal is laid out: the least and greatest position of the point, counted from before
the first digit, for which no exponent is written. -/
structure Layout where
  leastPoint : Int
  greatestPoint : Int

/-- Writes `digits · 10 ^ p` with at least one digit on either side of the point, or with one
digit before it and a signed exponent. -/
def Layout.write (layout : Layout) (digits : Nat) (p : Int) : String :=
  let ds := Nat.toDigits 10 digits
  let point : Int := ds.length + p
  let zeros (n : Int) : List Char := List.replicate n.toNat '0'
  if layout.leastPoint ≤ point ∧ point ≤ layout.greatestPoint then
    if 0 ≤ p then String.ofList (ds ++ zeros p ++ ['.', '0'])
    else if 0 < point then
      String.ofList (ds.take point.toNat ++ '.' :: ds.drop point.toNat)
    else String.ofList (['0', '.'] ++ zeros (-point) ++ ds)
  else
    let exponent := point - 1
    let fraction := if ds.length = 1 then [] else '.' :: ds.drop 1
    let sign := if exponent < 0 then "e-" else "e+"
    String.ofList (ds.take 1 ++ fraction) ++ sign ++ toString exponent.natAbs

end ModuleGraph.Decimal
