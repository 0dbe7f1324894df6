import ModuleGraph.Text.CombiningClass
import ModuleGraph.Text.Composition

/-!
# Composed text

A letter and the marks on it can be written as one character or as several, and marks that do not
touch can be written in any order. `composed` gives all such texts one form: it takes characters
apart (`parts`), puts marks in order (`ordered`) and joins again what one character stands for
(`joined`). It supposes that no character only stands for another.
-/

set_option autoImplicit false

namespace ModuleGraph.Text

/-! ## Taking apart -/

/-- The characters that a character stands for, each pair taken apart in turn as long as there is
fuel. Only the first of a pair can be a pair itself. -/
def partsWithin : Nat → Char → List Char
  | 0, c => [c]
  | fuel + 1, c =>
      match decompose? c with
      | none => [c]
      | some (first, second) => partsWithin fuel first ++ [second]

/-- The characters that a character stands for. None stands for more than four. -/
def parts (c : Char) : List Char := partsWithin 3 c

/-! ## Order -/

/-- Puts a character in front of text in order. A mark goes behind the marks of lower classes. -/
def insertOrdered (c : Char) : List Char → List Char
  | [] => [c]
  | d :: rest =>
      if combiningClass d ≠ 0 ∧ combiningClass d < combiningClass c then
        d :: insertOrdered c rest
      else c :: d :: rest

theorem insertOrdered_perm (c : Char) (ds : List Char) : (insertOrdered c ds).Perm (c :: ds) := by
  induction ds with
  | nil => exact List.Perm.refl _
  | cons d rest ih =>
      unfold insertOrdered
      split
      · exact (ih.cons d).trans (List.Perm.swap c d rest)
      · exact List.Perm.refl _

/-- The marks behind every letter in the order of their classes, those of one class as they
come. -/
def ordered (cs : List Char) : List Char := cs.foldr insertOrdered []

/-- Putting text in order neither adds nor drops a character. -/
theorem ordered_perm (cs : List Char) : (ordered cs).Perm cs := by
  induction cs with
  | nil => exact List.Perm.refl _
  | cons c rest ih => exact (insertOrdered_perm c _).trans (ih.cons c)

/-! ## Joining -/

/-- Text that is being joined. -/
structure Joint where
  /-- What is finished, last character first. -/
  done : List Char := []
  /-- The letter that may still take marks. -/
  letter : Option Char := none
  /-- The marks behind it that it has not taken, last one first. -/
  marks : List Char := []

namespace Joint

/-- All characters, last one first. -/
def toReversed (j : Joint) : List Char := j.marks ++ j.letter.toList ++ j.done

/-- Whether a mark that has not been taken keeps a character from the letter. -/
def isBlocked (j : Joint) (c : Char) : Bool :=
  match j.marks with
  | [] => false
  | last :: _ => combiningClass c ≤ combiningClass last

/-- What the letter and a character behind it are joined to. -/
def merged? (j : Joint) (c : Char) : Option Char :=
  if j.isBlocked c then none else j.letter.bind fun letter => compose? letter c

/-- Goes on behind a character. -/
def step (j : Joint) (c : Char) : Joint :=
  match j.merged? c with
  | some letter => { j with letter := some letter }
  | none =>
      if combiningClass c = 0 then { done := j.toReversed, letter := some c }
      else { j with marks := c :: j.marks }

end Joint

/-- Text in order with letters and marks joined where one character stands for them. -/
def joined (cs : List Char) : List Char := (cs.foldl Joint.step {}).toReversed.reverse

/-- The composed form of a text. -/
def composed (cs : List Char) : List Char := joined (ordered (cs.flatMap parts))

end ModuleGraph.Text
