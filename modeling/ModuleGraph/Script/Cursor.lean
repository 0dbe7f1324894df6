/-!
# Positions in a source text

A cursor is what is left of a source text together with the number of octets before it.
-/

set_option autoImplicit false

namespace ModuleGraph.Script

/-- A position in a source text. -/
structure Cursor where
  rest : List Char
  /-- The octets in front of the position. -/
  offset : Nat := 0
  deriving Inhabited

namespace Cursor

/-- The position behind the next character, or the same position at the end. -/
def advance (c : Cursor) : Cursor :=
  match c.rest with
  | [] => c
  | a :: rest => ⟨rest, c.offset + a.utf8Size⟩

/-- The position behind the next `n` characters. -/
def skip : Nat → Cursor → Cursor
  | 0, c => c
  | n + 1, c => skip n c.advance

/-- The next character. -/
def peek? (c : Cursor) : Option Char := c.rest.head?

/-- Whether the next character satisfies a test. -/
def sees (c : Cursor) (p : Char → Bool) : Bool := c.peek?.any p

/-- The characters that satisfy a test up to the first that does not, and the position behind
them. -/
def takeWhile (p : Char → Bool) (c : Cursor) : List Char × Cursor :=
  go c.offset c.rest
where
  /-- Walks from an offset. -/
  go (offset : Nat) : List Char → List Char × Cursor
    | [] => ([], ⟨[], offset⟩)
    | a :: rest =>
        if p a then
          let (taken, stop) := go (offset + a.utf8Size) rest
          (a :: taken, stop)
        else ([], ⟨a :: rest, offset⟩)

/-- Taking characters loses none of them. -/
theorem takeWhile_append (p : Char → Bool) (c : Cursor) :
    (c.takeWhile p).1 ++ (c.takeWhile p).2.rest = c.rest := by
  suffices h : ∀ (cs : List Char) (offset : Nat),
      (takeWhile.go p offset cs).1 ++ (takeWhile.go p offset cs).2.rest = cs from h _ _
  intro cs
  induction cs with
  | nil => intro offset; rfl
  | cons a rest ih =>
      intro offset
      simp only [takeWhile.go]
      split
      · simpa using ih _
      · rfl

end Cursor

end ModuleGraph.Script
