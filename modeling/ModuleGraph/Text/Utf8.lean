/-!
# UTF-8 text

File names and percent escapes are byte sequences, texts are character sequences. This module
holds the passage between the two: `utf8` writes a text as bytes, `decodeUnits` reads bytes
back stretch by stretch, and the two readers built on it differ only in what they do with a
stretch that is no character: `lossy` puts a replacement character in its place and `ofUtf8?`
refuses the whole sequence.
-/

set_option autoImplicit false

namespace ModuleGraph.Text

/-- A sequence of octets. -/
abbrev Bytes := List UInt8

/-- The UTF-8 form of a sequence of characters. -/
def encodeChars (cs : List Char) : Bytes := cs.flatMap String.utf8EncodeChar

/-- The UTF-8 form of a text. -/
def utf8 (s : String) : Bytes := encodeChars s.toList

/-- The number of octets of a character sequence in UTF-8. -/
def byteLength : List Char → Nat
  | [] => 0
  | c :: cs => c.utf8Size + byteLength cs

@[simp] theorem byteLength_nil : byteLength [] = 0 := rfl

@[simp] theorem byteLength_cons (c : Char) (cs : List Char) :
    byteLength (c :: cs) = c.utf8Size + byteLength cs := rfl

@[simp] theorem byteLength_append (as bs : List Char) :
    byteLength (as ++ bs) = byteLength as + byteLength bs := by
  induction as with
  | nil => simp
  | cons a as ih => simp [ih, Nat.add_assoc]

@[simp] theorem encodeChars_append (as bs : List Char) :
    encodeChars (as ++ bs) = encodeChars as ++ encodeChars bs := by
  simp [encodeChars]

/-! ## Reading -/

/-- What the first octet of a character announces: the bits it contributes, how many octets
are still owed, and the range the next of them must lie in. -/
structure Lead where
  bits : Nat
  owed : Nat
  low : UInt8 := 0x80
  high : UInt8 := 0xBF

/-- The announcement of an octet of `0x80` or more, if it can begin a character. The narrowed
ranges keep out overlong forms, surrogates and values above `0x10FFFF`. -/
def Lead.of? (b : UInt8) : Option Lead :=
  let n := b.toNat
  if n < 0xC2 then none
  else if n < 0xE0 then some { bits := n - 0xC0, owed := 1 }
  else if n = 0xE0 then some { bits := 0, owed := 2, low := 0xA0 }
  else if n = 0xED then some { bits := 0xD, owed := 2, high := 0x9F }
  else if n < 0xF0 then some { bits := n - 0xE0, owed := 2 }
  else if n = 0xF0 then some { bits := 0, owed := 3, low := 0x90 }
  else if n < 0xF4 then some { bits := n - 0xF0, owed := 3 }
  else if n = 0xF4 then some { bits := 4, owed := 3, high := 0x8F }
  else none

/-- Collects the octets still owed to a character. The rest begins with the first octet that
does not fit. -/
def takeTail : Nat → UInt8 → UInt8 → Nat → Bytes → Option Char × Bytes
  | 0, _, _, bits, rest => (some (Char.ofNat bits), rest)
  | _ + 1, _, _, _, [] => (none, [])
  | owed + 1, low, high, bits, b :: rest =>
      if low ≤ b ∧ b ≤ high then
        takeTail owed 0x80 0xBF (bits * 64 + (b.toNat - 0x80)) rest
      else
        (none, b :: rest)

theorem length_takeTail_le (owed : Nat) (low high : UInt8) (bits : Nat) (bs : Bytes) :
    (takeTail owed low high bits bs).2.length ≤ bs.length := by
  induction bs generalizing owed low high bits with
  | nil => cases owed <;> simp [takeTail]
  | cons b rest ih =>
      cases owed with
      | zero => simp [takeTail]
      | succ owed =>
          simp only [takeTail]
          split
          · exact Nat.le_succ_of_le (ih _ _ _ _)
          · simp

/-- The character that starts with octet `b`, or `none` for the longest stretch that began like
a character and is none. -/
def decodeHead (b : UInt8) (rest : Bytes) : Option Char × Bytes :=
  if b < 0x80 then (some (Char.ofNat b.toNat), rest)
  else
    match Lead.of? b with
    | none => (none, rest)
    | some lead => takeTail lead.owed lead.low lead.high lead.bits rest

theorem length_decodeHead_le (b : UInt8) (rest : Bytes) :
    (decodeHead b rest).2.length ≤ rest.length := by
  unfold decodeHead
  split
  · simp
  · split
    · simp
    · exact length_takeTail_le ..

/-- The characters of a byte sequence in order, `none` standing for each stretch that is no
character. -/
def decodeUnits : Bytes → List (Option Char)
  | [] => []
  | b :: rest => (decodeHead b rest).1 :: decodeUnits (decodeHead b rest).2
termination_by bs => bs.length
decreasing_by
  have := length_decodeHead_le b rest
  simp only [List.length_cons]
  omega

/-- The text of a byte sequence with U+FFFD in place of every stretch that is no character. -/
def lossy (bs : Bytes) : String :=
  String.ofList ((decodeUnits bs).map fun unit => unit.getD '\uFFFD')

/-- The text of a byte sequence that is UTF-8 throughout. -/
def ofUtf8? (bs : Bytes) : Option String :=
  ((decodeUnits bs).mapM id).map String.ofList

end ModuleGraph.Text
