import ModuleGraph.Text.Split

/-!
# Cuts of composed sequences

`splitAll` is the `List.splitOnP` of the library, so what is known of that one holds here: how a
sequence with a separator in its middle is cut, and that one without is not cut at all. Trimming
stops at what is not to be dropped.
-/

set_option autoImplicit false

namespace ModuleGraph.Text

variable {α : Type} {p : α → Bool}

theorem splitAll_eq_splitOnP (p : α → Bool) (xs : List α) : splitAll p xs = xs.splitOnP p := by
  induction xs with
  | nil => rfl
  | cons x xs ih =>
      rw [List.splitOnP_cons_eq_if_modifyHead, splitAll, ih]
      by_cases hx : p x
      · rw [if_pos hx, if_pos hx]
      · rw [if_neg hx, if_neg hx]
        have hne := List.splitOnP_ne_nil p xs
        cases hparts : xs.splitOnP p with
        | nil => exact absurd hparts hne
        | cons part parts => rfl

theorem splitAll_congr {q : α → Bool} {xs : List α} (h : ∀ x ∈ xs, p x = q x) :
    splitAll p xs = splitAll q xs := by
  induction xs with
  | nil => rfl
  | cons x xs ih =>
      rw [splitAll, splitAll, h x List.mem_cons_self,
        ih fun y hy => h y (List.mem_cons_of_mem _ hy)]

/-- A separator between two sequences keeps their parts apart. -/
theorem splitAll_append_cons {sep : α} (hsep : p sep = true) (xs ys : List α) :
    splitAll p (xs ++ sep :: ys) = splitAll p xs ++ splitAll p ys := by
  rw [splitAll_eq_splitOnP, splitAll_eq_splitOnP, splitAll_eq_splitOnP,
    List.splitOnP_append_cons _ _ hsep]

theorem splitAll_append_singleton {sep : α} (hsep : p sep = true) (xs : List α) :
    splitAll p (xs ++ [sep]) = splitAll p xs ++ [[]] :=
  splitAll_append_cons hsep xs []

/-- What holds no separator goes to the front of the first part. -/
theorem splitAll_append_of_forall {xs : List α} (h : ∀ x ∈ xs, p x = false) (ys : List α) :
    splitAll p (xs ++ ys) = (splitAll p ys).modifyHead (xs ++ ·) := by
  induction xs with
  | nil =>
      cases hparts : splitAll p ys with
      | nil => exact absurd hparts (splitAll_ne_nil p ys)
      | cons part parts => rw [List.nil_append, hparts]; rfl
  | cons x xs ih =>
      have hx : p x = false := h x List.mem_cons_self
      rw [List.cons_append, splitAll, hx, ih fun y hy => h y (List.mem_cons_of_mem _ hy)]
      cases hparts : splitAll p ys with
      | nil => exact absurd hparts (splitAll_ne_nil p ys)
      | cons part parts => rfl

theorem splitAll_eq_singleton {xs : List α} (h : ∀ x ∈ xs, p x = false) :
    splitAll p xs = [xs] := by
  rw [splitAll_eq_splitOnP, List.splitOnP_eq_singleton h]

/-- No part holds a separator. -/
theorem eq_false_of_mem_splitAll {xs part : List α} {x : α} (hpart : part ∈ splitAll p xs)
    (hx : x ∈ part) : p x = false := by
  induction xs generalizing part x with
  | nil =>
      rw [splitAll, List.mem_singleton] at hpart
      rw [hpart] at hx
      exact absurd hx List.not_mem_nil
  | cons y ys ih =>
      rw [splitAll] at hpart
      by_cases hy : p y = true
      · rw [if_pos hy] at hpart
        rcases List.mem_cons.1 hpart with rfl | hpart
        · exact absurd hx List.not_mem_nil
        · exact ih hpart hx
      · rw [if_neg hy] at hpart
        cases hparts : splitAll p ys with
        | nil => exact absurd hparts (splitAll_ne_nil p ys)
        | cons head tail =>
            rw [hparts] at hpart ih
            rcases List.mem_cons.1 hpart with rfl | hpart
            · rcases List.mem_cons.1 hx with rfl | hx
              · simpa using hy
              · exact ih (List.mem_cons_self) hx
            · exact ih (List.mem_cons_of_mem _ hpart) hx

theorem mem_of_mem_splitAll {xs part : List α} {x : α} (hpart : part ∈ splitAll p xs)
    (hx : x ∈ part) : x ∈ xs := by
  induction xs generalizing part x with
  | nil =>
      rw [splitAll, List.mem_singleton] at hpart
      rwa [hpart] at hx
  | cons y ys ih =>
      rw [splitAll] at hpart
      split at hpart
      · rcases List.mem_cons.1 hpart with rfl | hpart
        · exact absurd hx List.not_mem_nil
        · exact List.mem_cons_of_mem _ (ih hpart hx)
      · split at hpart
        · next hparts => exact absurd hparts (splitAll_ne_nil p ys)
        · next head tail hparts =>
            rw [hparts] at ih
            rcases List.mem_cons.1 hpart with rfl | hpart
            · rcases List.mem_cons.1 hx with rfl | hx
              · exact List.mem_cons_self
              · exact List.mem_cons_of_mem _ (ih List.mem_cons_self hx)
            · exact List.mem_cons_of_mem _ (ih (List.mem_cons_of_mem _ hpart) hx)

/-! ## The first separator -/

/-- What is in front of the first separator holds none. -/
theorem splitFirst?_append_cons {sep : α} (hsep : p sep = true) {xs : List α}
    (h : ∀ x ∈ xs, p x = false) (ys : List α) :
    splitFirst? p (xs ++ sep :: ys) = some (xs, ys) := by
  induction xs with
  | nil => rw [List.nil_append, splitFirst?, if_pos hsep]
  | cons x xs ih =>
      have hx : ¬ p x = true := by rw [h x List.mem_cons_self]; exact Bool.false_ne_true
      have htail := ih fun y hy => h y (List.mem_cons_of_mem _ hy)
      rw [List.cons_append, splitFirst?, if_neg hx, htail]
      rfl

/-! ## Trimming -/

/-- Trimming the end stops at the last element that stays. -/
theorem reverse_dropWhile_append {x : α} (hx : p x = false) (xs ys : List α) :
    ((xs ++ x :: ys).reverse.dropWhile p).reverse = xs ++ x :: (ys.reverse.dropWhile p).reverse := by
  have hlast : (x :: xs.reverse).dropWhile p = x :: xs.reverse := by
    rw [List.dropWhile_cons, hx]
    rfl
  rw [List.reverse_append, List.reverse_cons, List.append_assoc, List.singleton_append,
    List.dropWhile_append, hlast]
  split
  · next hempty =>
      rw [List.isEmpty_iff.1 hempty]
      simp
  · simp

theorem reverse_dropWhile_cons {x : α} (hx : p x = false) (xs : List α) :
    ((x :: xs).reverse.dropWhile p).reverse = x :: (xs.reverse.dropWhile p).reverse :=
  reverse_dropWhile_append hx [] xs

/-- The longest front of a kind ends at an element of another. -/
theorem takeWhile_append_cons {x : α} (hx : p x = false) (xs ys : List α) :
    (xs ++ x :: ys).takeWhile p = xs.takeWhile p := by
  induction xs with
  | nil => rw [List.nil_append, List.takeWhile_cons, hx, List.takeWhile_nil]; rfl
  | cons y xs ih => rw [List.cons_append, List.takeWhile_cons, List.takeWhile_cons, ih]

theorem trimBoth_eq_self {xs : List α} (h : ∀ x ∈ xs, p x = false) : trimBoth p xs = xs := by
  have hstop (ys : List α) (hys : ∀ y ∈ ys, p y = false) : ys.dropWhile p = ys := by
    cases ys with
    | nil => rfl
    | cons y ys => rw [List.dropWhile_cons, hys y List.mem_cons_self]; rfl
  rw [trimBoth, hstop xs h, hstop xs.reverse fun y hy => h y (List.mem_reverse.1 hy),
    List.reverse_reverse]

theorem reverse_dropWhile_of_getLast? {xs : List α} (h : ∀ x ∈ xs.getLast?, p x = false) :
    (xs.reverse.dropWhile p).reverse = xs := by
  rcases List.eq_nil_or_concat xs with rfl | ⟨front, x, rfl⟩
  · rfl
  · have hx : p x = false := h x (by simp)
    rw [List.concat_eq_append, List.reverse_append, List.reverse_singleton,
      List.singleton_append, List.dropWhile_cons, hx, if_neg Bool.false_ne_true,
      List.reverse_cons, List.reverse_reverse]

theorem trimBoth_cons {x : α} (hx : p x = false) (xs : List α) :
    trimBoth p (x :: xs) = x :: (xs.reverse.dropWhile p).reverse := by
  have hfront : (x :: xs).dropWhile p = x :: xs := by rw [List.dropWhile_cons, hx]; rfl
  rw [trimBoth, hfront, reverse_dropWhile_cons hx]

end ModuleGraph.Text
