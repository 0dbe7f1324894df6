import ModuleGraph.Text.Percent
import ModuleGraph.Text.Split
import ModuleGraph.Url.Domain

/-!
# Hosts

The written form of a host. In the schemes of the web a host is a domain, an IPv4 address in
any of its notations or a bracketed IPv6 address; in all others it is a text without delimiters,
or a bracketed IPv6 address. `Host.ofDomain?` and `Host.ofText?` read the two kinds and answer
with the one form a host is compared and written in.
-/

set_option autoImplicit false

namespace ModuleGraph.Host

open Text

/-- The value of a digit in a base of at most sixteen. -/
def digitValue? (base : Nat) (c : Char) : Option Nat :=
  let n := c.toNat
  let value? :=
    if 0x30 ≤ n ∧ n ≤ 0x39 then some (n - 0x30)
    else if 0x41 ≤ n ∧ n ≤ 0x46 then some (n - 0x41 + 10)
    else if 0x61 ≤ n ∧ n ≤ 0x66 then some (n - 0x61 + 10)
    else none
  value?.filter (· < base)

/-- The number a digit sequence stands for. -/
def ofDigits? (base : Nat) (cs : List Char) : Option Nat :=
  cs.foldlM (fun n c => (digitValue? base c).map (n * base + ·)) 0

/-! ## IPv4 -/

/-- A part of an IPv4 address: hexadecimal after `0x`, octal after a zero, decimal otherwise. -/
def ipv4Number? : List Char → Option Nat
  | [] => none
  | '0' :: 'x' :: rest => ofDigits? 16 rest
  | '0' :: 'X' :: rest => ofDigits? 16 rest
  | '0' :: c :: rest => ofDigits? 8 (c :: rest)
  | cs => ofDigits? 10 cs

/-- The parts of a domain, without the empty one after a final dot. -/
def labels (cs : List Char) : List (List Char) :=
  let parts := splitAll (· == '.') cs
  if parts.getLast? = some [] then parts.dropLast else parts

/-- Whether a domain has to be read as an IPv4 address: its last part is a number. -/
def endsInNumber (cs : List Char) : Bool :=
  match (labels cs).getLast? with
  | none => false
  | some [] => false
  | some last => last.all Char.isDigit || (ipv4Number? last).isSome

/-- Reads an IPv4 address of one to four parts. The last part fills all octets that are left. -/
def ipv4? (cs : List Char) : Option Nat := do
  let parts ← (labels cs).mapM ipv4Number?
  let last ← parts.getLast?
  let front := parts.dropLast
  if 3 < front.length then none
  else if front.any (255 < ·) then none
  else
    let limit := Nat.pow 256 (4 - front.length)
    if limit ≤ last then none
    else some (front.foldl (fun n part => n * 256 + part) 0 * limit + last)

/-- The dotted decimal form of an IPv4 address. -/
def ipv4Text (n : Nat) : String :=
  ".".intercalate ([n / 16777216, n / 65536 % 256, n / 256 % 256, n % 256].map toString)

/-! ## IPv6 -/

/-- Reads groups of one to four hexadecimal digits between colons. The last group may be a
dotted decimal IPv4 address, which counts for two. -/
def ipv6Groups? : List (List Char) → Option (List Nat)
  | [] => some []
  | [last] =>
      if last.contains '.' then do
        let parts ← (splitAll (· == '.') last).mapM fun part =>
          if part.length = 0 ∨ (1 < part.length ∧ part.head? = some '0') ∨ 3 < part.length then none
          else (ofDigits? 10 part).filter (· < 256)
        match parts with
        | [a, b, c, d] => some [a * 256 + b, c * 256 + d]
        | _ => none
      else if last.length = 0 ∨ 4 < last.length then none
      else (ofDigits? 16 last).map ([·])
  | group :: rest =>
      if group.length = 0 ∨ 4 < group.length then none
      else do
        let n ← ofDigits? 16 group
        let ns ← ipv6Groups? rest
        some (n :: ns)

/-- Groups separated by colons; no groups at all for an empty text. -/
def ipv6Run? (cs : List Char) : Option (List Nat) :=
  if cs.isEmpty then some [] else ipv6Groups? (splitAll (· == ':') cs)

/-- Cuts a text around its first `::`. -/
def splitGap? : List Char → Option (List Char × List Char)
  | ':' :: ':' :: rest => some ([], rest)
  | c :: rest => (splitGap? rest).map fun (l, r) => (c :: l, r)
  | [] => none

/-- Reads the eight groups of an IPv6 address, one `::` standing for the zeros left out. -/
def ipv6? (cs : List Char) : Option (List Nat) := do
  match splitGap? cs with
  | none =>
      let groups ← ipv6Run? cs
      if groups.length = 8 then some groups else none
  | some (front, back) =>
      if front.contains '.' then none
      else
        let before ← ipv6Run? front
        let after ← ipv6Run? back
        if before.length + after.length < 8 then
          some (before ++ List.replicate (8 - before.length - after.length) 0 ++ after)
        else none

/-- The length of the run of zeros at the front. -/
def zeroRun (groups : List Nat) : Nat := (groups.takeWhile (· == 0)).length

/-- Where the first longest run of zeros starts, and its length. -/
def longestZeroRun : List Nat → Nat × Nat
  | [] => (0, 0)
  | g :: gs =>
      let here := zeroRun (g :: gs)
      let (start, length) := longestZeroRun gs
      if length ≤ here then (0, here) else (start + 1, length)

/-- Groups in lower case hexadecimal between colons. -/
def groupsText (groups : List Nat) : String :=
  ":".intercalate (groups.map fun g => String.ofList (Nat.toDigits 16 g))

/-- The form of an IPv6 address with its first longest run of two or more zeros left out. -/
def ipv6Text (groups : List Nat) : String :=
  let (start, length) := longestZeroRun groups
  if length < 2 then "[" ++ groupsText groups ++ "]"
  else "[" ++ groupsText (groups.take start) ++ "::" ++ groupsText (groups.drop (start + length)) ++
    "]"

/-! ## Names and texts -/

/-- The characters no domain holds. -/
def isForbiddenInDomain (c : Char) : Bool :=
  c.toNat ≤ 0x20 || c.toNat = 0x7F ||
    ['#', '/', ':', '<', '>', '?', '@', '[', '\\', ']', '^', '|', '%'].contains c

/-- Reads the host of a location of the web. -/
def ofDomain? (cs : List Char) : Option String := do
  match cs with
  | '[' :: rest =>
      if rest.getLast? = some ']' then (ipv6? rest.dropLast).map ipv6Text else none
  | _ =>
      let decoded ← ofUtf8? (percentDecode (encodeChars cs))
      let domain ← Url.Domain.toAscii? decoded.toList
      if domain.isEmpty ∨ domain.any isForbiddenInDomain then none
      else if endsInNumber domain then (ipv4? domain).map ipv4Text
      else some (String.ofList domain)

/-- The characters no host holds. -/
def isForbidden (c : Char) : Bool :=
  ['\x00', '\t', '\n', '\r', ' ', '#', '/', ':', '<', '>', '?', '@', '[', '\\', ']', '^',
    '|'].contains c

/-- Reads the host of a location outside the web. -/
def ofText? (cs : List Char) : Option String :=
  match cs with
  | '[' :: rest =>
      if rest.getLast? = some ']' then (ipv6? rest.dropLast).map ipv6Text else none
  | _ =>
      if cs.any isForbidden then none
      else some (String.ofList (percentEncode EscapeSet.controls cs))

end ModuleGraph.Host
