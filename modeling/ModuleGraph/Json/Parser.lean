import ModuleGraph.Json.Basic
import ModuleGraph.Text.Split

/-!
# Reading JSON

A strict reader: only space, tab, carriage return and line feed are blank, escapes of
surrogates come in pairs, no number may leave the range of a double, and containers nest to a
given depth. The recursion is bounded by the length of the text, since every step takes at
least one character.
-/

set_option autoImplicit false

namespace ModuleGraph.Json

/-- Drops the blank characters at the front. -/
def skipBlank (cs : List Char) : List Char :=
  cs.dropWhile fun c => c = ' ' || c = '\t' || c = '\r' || c = '\n'

/-! ## Numbers -/

/-- A power of ten as the double nearest to it. -/
def powerOfTen (n : Nat) : Float := Float.ofScientific 1 false n

/-- Scales a double by a power of ten. One beyond `10 ^ 308` is divided out in steps. -/
def scale? (f : Float) (exponent : Int) : Nat → Option Float
  | 0 => some f
  | fuel + 1 =>
      if exponent.natAbs ≤ 308 then
        if 0 ≤ exponent then
          let scaled := f * powerOfTen exponent.natAbs
          if scaled.isInf then none else some scaled
        else some (f / powerOfTen exponent.natAbs)
      else if f == 0.0 then some f
      else if 0 ≤ exponent then none
      else scale? (f / powerOfTen 308) (exponent + 308) fuel

/-- The double for a significand and a power of ten: the significand is rounded first, then
scaled. -/
def double? (negative : Bool) (significand : Nat) (exponent : Int) : Option Number :=
  (scale? significand.toUInt64.toFloat exponent (exponent.natAbs / 308 + 2)).map fun f =>
    .double (if negative then -f else f).toBits

/-- The greatest significand that is kept exactly; digits that would exceed it are dropped. -/
def significandLimit : Nat := Nat.pow 2 64

/-- Adds the digits of a significand, answering it with the number of digits added and whether
all of them were. -/
def addDigits : Nat → List Char → Nat × Nat × Bool
  | significand, [] => (significand, 0, true)
  | significand, c :: cs =>
      let next := significand * 10 + (c.toNat - 0x30)
      if next < significandLimit then
        let (significand, count, all) := addDigits next cs
        (significand, count + 1, all)
      else (significand, 0, false)

/-- The exponent after an `e`: a sign and digits. -/
def exponent? (cs : List Char) : Option (Int × List Char) :=
  let (negative, cs) :=
    match cs with
    | '+' :: rest => (false, rest)
    | '-' :: rest => (true, rest)
    | _ => (false, cs)
  let digits := cs.takeWhile Char.isDigit
  if digits.isEmpty then none
  else
    let n : Nat := digits.foldl (fun n c => n * 10 + (c.toNat - 0x30)) 0
    some (if negative then -(n : Int) else n, cs.dropWhile Char.isDigit)

/-- An exponent too great to count with: zero stays zero, anything else vanishes or is out of
range. -/
def extreme? (negative : Bool) (significand : Nat) (exponent : Int) : Option Number :=
  if significand ≠ 0 ∧ 0 < exponent then none
  else some (.double (if negative then -0.0 else 0.0 : Float).toBits)

/-- Finishes a number that has a fraction or an exponent. -/
def finishDouble? (negative : Bool) (significand : Nat) (exponent : Int) (cs : List Char) :
    Option (Number × List Char) :=
  match cs with
  | 'e' :: rest | 'E' :: rest => do
      let (e, rest) ← exponent? rest
      let number ←
        if Nat.pow 2 31 ≤ e.natAbs then extreme? negative significand e
        else double? negative significand (exponent + e)
      some (number, rest)
  | _ => (double? negative significand exponent).map (·, cs)

/-- Reads the digits of a number after its sign. -/
def unsigned? (negative : Bool) (cs : List Char) : Option (Number × List Char) :=
  let digits := cs.takeWhile Char.isDigit
  let rest := cs.dropWhile Char.isDigit
  if digits.isEmpty ∨ (1 < digits.length ∧ digits.head? = some '0') then none
  else
    let (significand, count, all) := addDigits 0 digits
    let exponent : Int := (digits.length - count : Nat)
    match rest with
    | '.' :: after =>
        let fraction := after.takeWhile Char.isDigit
        if fraction.isEmpty then none
        else
          let (significand, count, _) := addDigits significand fraction
          finishDouble? negative significand (exponent - count) (after.dropWhile Char.isDigit)
    | 'e' :: _ | 'E' :: _ => finishDouble? negative significand exponent rest
    | _ =>
        -- digits have been dropped, so the value is no longer exact
        if !all then finishDouble? negative significand exponent rest
        else if negative then
          if significand = 0 ∨ Nat.pow 2 63 < significand then
            (double? true significand 0).map (·, rest)
          else some (.integer (-significand), rest)
        else some (.integer significand, rest)

/-- Reads a number. -/
def number? : List Char → Option (Number × List Char)
  | '-' :: rest => unsigned? true rest
  | cs => unsigned? false cs

/-! ## Strings -/

/-- Four hexadecimal digits. -/
def hex4? : List Char → Option (Nat × List Char)
  | a :: b :: c :: d :: rest => do
      let digit? (c : Char) : Option Nat :=
        let n := c.toNat
        if 0x30 ≤ n ∧ n ≤ 0x39 then some (n - 0x30)
        else if 0x41 ≤ n ∧ n ≤ 0x46 then some (n - 0x41 + 10)
        else if 0x61 ≤ n ∧ n ≤ 0x66 then some (n - 0x61 + 10)
        else none
      let value := ((← digit? a) * 16 + (← digit? b)) * 256 + (← digit? c) * 16 + (← digit? d)
      some (value, rest)
  | _ => none

/-- The character of an escape after `\u`, two escapes for a pair of surrogates. -/
def unicodeEscape? (cs : List Char) : Option (Char × List Char) := do
  let (high, rest) ← hex4? cs
  if 0xD800 ≤ high ∧ high ≤ 0xDBFF then
    match rest with
    | '\\' :: 'u' :: rest =>
        let (low, rest) ← hex4? rest
        if 0xDC00 ≤ low ∧ low ≤ 0xDFFF then
          some (Char.ofNat (0x10000 + (high - 0xD800) * 0x400 + (low - 0xDC00)), rest)
        else none
    | _ => none
  else if 0xDC00 ≤ high ∧ high ≤ 0xDFFF then none
  else some (Char.ofNat high, rest)

/-- The character of an escape after its backslash. -/
def escape? : List Char → Option (Char × List Char)
  | '"' :: rest => some ('"', rest)
  | '\\' :: rest => some ('\\', rest)
  | '/' :: rest => some ('/', rest)
  | 'b' :: rest => some ('\x08', rest)
  | 'f' :: rest => some ('\x0c', rest)
  | 'n' :: rest => some ('\n', rest)
  | 'r' :: rest => some ('\r', rest)
  | 't' :: rest => some ('\t', rest)
  | 'u' :: rest => unicodeEscape? rest
  | _ => none

/-- Reads a string after its opening quote. -/
def textTail? : Nat → List Char → List Char → Option (String × List Char)
  | 0, _, _ => none
  | fuel + 1, read, cs =>
      match cs with
      | [] => none
      | '"' :: rest => some (String.ofList read.reverse, rest)
      | '\\' :: rest => do
          let (c, rest) ← escape? rest
          textTail? fuel (c :: read) rest
      | c :: rest => if c.toNat < 0x20 then none else textTail? fuel (c :: read) rest

/-- Reads a string after its opening quote. Every character of it takes at least one. -/
def text? (cs : List Char) : Option (String × List Char) := textTail? (cs.length + 1) [] cs

/-! ## Values -/

mutual

/-- Reads a value whose containers may nest `depth` deep. -/
def value? : Nat → Nat → List Char → Option (Json × List Char)
  | 0, _, _ => none
  | fuel + 1, depth, cs =>
      match skipBlank cs with
      | 'n' :: 'u' :: 'l' :: 'l' :: rest => some (.null, rest)
      | 't' :: 'r' :: 'u' :: 'e' :: rest => some (.bool true, rest)
      | 'f' :: 'a' :: 'l' :: 's' :: 'e' :: rest => some (.bool false, rest)
      | '"' :: rest => (text? rest).map fun (s, rest) => (.string s, rest)
      | '[' :: rest =>
          if depth = 0 then none
          else
            match skipBlank rest with
            | ']' :: rest => some (.array [], rest)
            | rest => (items? fuel (depth - 1) rest).map fun (items, rest) => (.array items, rest)
      | '\x7b' :: rest =>
          if depth = 0 then none
          else
            match skipBlank rest with
            | '\x7d' :: rest => some (.object [], rest)
            | rest =>
                (members? fuel (depth - 1) [] rest).map fun (members, rest) =>
                  (.object members, rest)
      | cs => (number? cs).map fun (n, rest) => (.number n, rest)

/-- Reads the items of an array up to its closing bracket. -/
def items? : Nat → Nat → List Char → Option (List Json × List Char)
  | 0, _, _ => none
  | fuel + 1, depth, cs => do
      let (item, rest) ← value? fuel depth cs
      match skipBlank rest with
      | ',' :: rest =>
          let (items, rest) ← items? fuel depth rest
          some (item :: items, rest)
      | ']' :: rest => some ([item], rest)
      | _ => none

/-- Reads the members of an object up to its closing brace, adding them to those read before. -/
def members? : Nat → Nat → List (String × Json) → List Char →
    Option (List (String × Json) × List Char)
  | 0, _, _, _ => none
  | fuel + 1, depth, read, cs => do
      match skipBlank cs with
      | '"' :: rest =>
          let (key, rest) ← text? rest
          match skipBlank rest with
          | ':' :: rest =>
              let (value, rest) ← value? fuel depth rest
              let read := putMember key value read
              match skipBlank rest with
              | ',' :: rest => members? fuel depth read rest
              | '\x7d' :: rest => some (read, rest)
              | _ => none
          | _ => none
      | _ => none

end

/-- Reads a text that is one JSON value with containers nested at most `depth` deep. -/
def parse? (depth : Nat) (s : String) : Option Json :=
  let cs := s.toList
  match value? (2 * cs.length + 2) depth cs with
  | some (value, rest) => if (skipBlank rest).isEmpty then some value else none
  | none => none

end ModuleGraph.Json
