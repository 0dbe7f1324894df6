import ModuleGraph.Text.Utf8

/-!
# Percent escapes

A percent escape `%XX` stands for one octet. `percentDecode` replaces every complete escape and
leaves a lone `%` alone; `percentEncode` escapes the octets of an `EscapeSet`, which always
holds the control characters and everything outside ASCII.
-/

set_option autoImplicit false

namespace ModuleGraph.Text

/-- The value of a hexadecimal digit in either case. -/
def hexValue? (b : UInt8) : Option UInt8 :=
  if 0x30 ≤ b ∧ b ≤ 0x39 then some (b - 0x30)
  else if 0x41 ≤ b ∧ b ≤ 0x46 then some (b - 0x41 + 10)
  else if 0x61 ≤ b ∧ b ≤ 0x66 then some (b - 0x61 + 10)
  else none

/-- Replaces every `%XX` by the octet it stands for. -/
def percentDecode : Bytes → Bytes
  | b :: h :: l :: rest =>
      if b = 0x25 then
        match hexValue? h, hexValue? l with
        | some high, some low => (high * 16 + low) :: percentDecode rest
        | _, _ => b :: percentDecode (h :: l :: rest)
      else
        b :: percentDecode (h :: l :: rest)
  | bs => bs

/-- The upper case hexadecimal digit of a number below sixteen. -/
def hexDigit (n : Nat) : Char :=
  Char.ofNat (if n < 10 then 0x30 + n else 0x41 + (n - 10))

/-- The three characters of an octet's escape. -/
def escapeByte (b : UInt8) : List Char := ['%', hexDigit (b.toNat / 16), hexDigit (b.toNat % 16)]

/-- The printable ASCII characters a component of a URL escapes. Control characters and octets
outside ASCII are escaped in every component. -/
structure EscapeSet where
  chars : List Char

namespace EscapeSet

/-- Whether an octet is escaped. -/
def escapes (set : EscapeSet) (b : UInt8) : Bool :=
  b < 0x20 || 0x7F ≤ b || set.chars.contains (Char.ofNat b.toNat)

/-- Opaque paths and opaque hosts: control characters only. -/
def controls : EscapeSet := ⟨[]⟩

def fragment : EscapeSet := ⟨[' ', '"', '<', '>', '\x60']⟩

def query : EscapeSet := ⟨[' ', '"', '#', '<', '>']⟩

/-- Queries of the schemes with a hierarchical web meaning also escape the apostrophe. -/
def specialQuery : EscapeSet := ⟨'\'' :: query.chars⟩

def path : EscapeSet := ⟨fragment.chars ++ ['#', '?', '\x7b', '\x7d']⟩

def userinfo : EscapeSet :=
  ⟨path.chars ++ ['/', ':', ';', '=', '@', '[', '\\', ']', '^', '|']⟩

/-- One segment of a path that is written from a file name: the separators and the percent sign
itself are escaped as well. -/
def fileName : EscapeSet := ⟨path.chars ++ ['/', '%', '\\']⟩

end EscapeSet

/-- Escapes the octets of `set`. -/
def percentEncodeBytes (set : EscapeSet) (bs : Bytes) : List Char :=
  bs.flatMap fun b => if set.escapes b then escapeByte b else [Char.ofNat b.toNat]

/-- Escapes the characters of `set` in a character sequence. -/
def percentEncode (set : EscapeSet) (cs : List Char) : List Char :=
  percentEncodeBytes set (encodeChars cs)

end ModuleGraph.Text
