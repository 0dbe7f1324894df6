/-!
# Cutting character sequences

The scanners of this library work on lists of characters. This module holds the few cuts they
share: at every separator, at the first separator, and at the last one.
-/

set_option autoImplicit false

namespace ModuleGraph.Text

variable {α : Type}

/-- Cuts a list at every element that satisfies `p`. The parts number one more than those
elements, and no part holds one. -/
def splitAll (p : α → Bool) : List α → List (List α)
  | [] => [[]]
  | x :: xs =>
      if p x then [] :: splitAll p xs
      else
        match splitAll p xs with
        | [] => [[x]]
        | part :: parts => (x :: part) :: parts

/-- Cuts a list around the first element that satisfies `p`. -/
def splitFirst? (p : α → Bool) : List α → Option (List α × List α)
  | [] => none
  | x :: xs => if p x then some ([], xs) else (splitFirst? p xs).map fun (l, r) => (x :: l, r)

/-- Cuts a list around the last element that satisfies `p`. -/
def splitLast? (p : α → Bool) : List α → Option (List α × List α)
  | [] => none
  | x :: xs =>
      match splitLast? p xs with
      | some (l, r) => some (x :: l, r)
      | none => if p x then some ([], xs) else none

/-- The rest of a list after a given front. -/
def stripFront? [BEq α] : List α → List α → Option (List α)
  | [], xs => some xs
  | _ :: _, [] => none
  | f :: front, x :: xs => if f == x then stripFront? front xs else none

/-- Whether one list starts with another. -/
def startsWith [BEq α] (xs front : List α) : Bool := (stripFront? front xs).isSome

/-- Drops the elements that satisfy `p` at both ends. -/
def trimBoth (p : α → Bool) (xs : List α) : List α :=
  ((xs.dropWhile p).reverse.dropWhile p).reverse

theorem splitAll_ne_nil (p : α → Bool) (xs : List α) : splitAll p xs ≠ [] := by
  induction xs with
  | nil => simp [splitAll]
  | cons x xs ih =>
      simp only [splitAll]
      split
      · simp
      · split <;> simp

/-- Between separators nothing is lost: the first part is the longest front without one. -/
theorem splitFirst?_eq_some {p : α → Bool} {xs l r : List α} (h : splitFirst? p xs = some (l, r)) :
    ∃ x, p x = true ∧ xs = l ++ x :: r ∧ ∀ y ∈ l, p y = false := by
  induction xs generalizing l with
  | nil => simp [splitFirst?] at h
  | cons x xs ih =>
      simp only [splitFirst?] at h
      split at h
      · next hx =>
          simp only [Option.some.injEq, Prod.mk.injEq] at h
          obtain ⟨rfl, rfl⟩ := h
          exact ⟨x, hx, by simp⟩
      · next hx =>
          obtain ⟨⟨l', r'⟩, hl, he⟩ := Option.map_eq_some_iff.1 h
          simp only [Prod.mk.injEq] at he
          obtain ⟨rfl, rfl⟩ := he
          obtain ⟨y, hy, rfl, hall⟩ := ih hl
          refine ⟨y, hy, rfl, ?_⟩
          intro z hz
          rcases List.mem_cons.1 hz with rfl | hz
          · simpa using hx
          · exact hall z hz

theorem splitFirst?_eq_none {p : α → Bool} {xs : List α} :
    splitFirst? p xs = none ↔ ∀ x ∈ xs, p x = false := by
  induction xs with
  | nil => simp [splitFirst?]
  | cons x xs ih =>
      simp only [splitFirst?, List.mem_cons, forall_eq_or_imp]
      by_cases hx : p x = true
      · simp [hx]
      · simp [hx, ih]

theorem stripFront?_eq_some [BEq α] [LawfulBEq α] {front xs rest : List α} :
    stripFront? front xs = some rest ↔ xs = front ++ rest := by
  induction front generalizing xs with
  | nil => simp [stripFront?, eq_comm]
  | cons f front ih =>
      cases xs with
      | nil => simp [stripFront?]
      | cons x xs =>
          simp only [stripFront?, List.cons_append, List.cons.injEq]
          by_cases hx : f = x
          · simp [hx, ih]
          · simp [hx, Ne.symm hx]

end ModuleGraph.Text
