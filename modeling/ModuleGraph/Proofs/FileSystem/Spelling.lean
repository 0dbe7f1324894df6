import ModuleGraph.FileSystem.Tree
import ModuleGraph.Proofs.FilePath.Pieces

/-!
# Spellings of a path

What is at a path does not depend on how the path is spelled, as long as it ends in a name: a
final separator or dot asks for a directory, and so tells more than the components do. Trees
are such file systems. A walk passes over the pieces that mean nothing, also over those that a
link brings in.
-/

set_option autoImplicit false

namespace ModuleGraph

open Text FilePath

/-- Paths that end in a name and have the same components lead to the same file. -/
structure FileSystem.IgnoresSpelling (fs : FileSystem) : Prop where
  isPresent : ∀ p q : FilePath, p.EndsInName → q.EndsInName → p.components = q.components →
    fs.isPresent p = fs.isPresent q
  readText : ∀ p q : FilePath, p.EndsInName → q.EndsInName → p.components = q.components →
    fs.readText p = fs.readText q

/-! ## Walks through a tree -/

namespace Tree

variable (t : Tree)

variable {follow : List Bytes → List Bytes → Except Absence (List Bytes × Node)}

/-- What a walk does behind a kept piece depends only on where the rest of the way leads, from
the place it has come to and behind a link. -/
theorem walkFrom_congr {piece : Bytes} {here rest rest' : List Bytes}
    (hempty : rest = [] ↔ rest' = [])
    (hrest : ∀ here, t.walkFrom follow here rest = t.walkFrom follow here rest')
    (hlink : ∀ here front, follow here (front ++ rest) = follow here (front ++ rest')) :
    t.walkFrom follow here (piece :: rest) = t.walkFrom follow here (piece :: rest') := by
  rw [walkFrom, walkFrom, hrest, hrest]
  split
  · rfl
  · split
    · rfl
    · cases t.node? (here ++ [piece]) with
      | none => rfl
      | some node =>
          cases node with
          | directory => exact hrest _
          | file file => simp only [hempty]
          | link target => exact hlink _ _

/-- A walk to a name passes over the pieces that mean nothing, if it does so behind links. -/
theorem walkFrom_filter {name : Bytes} (hname : isKept name = true)
    (hfollow : ∀ here front rest, follow here (front ++ (rest ++ [name])) =
      follow here (front ++ (rest ++ [name]).filter isKept)) (here front : List Bytes) :
    t.walkFrom follow here (front ++ [name]) =
      t.walkFrom follow here ((front ++ [name]).filter isKept) := by
  have hlast : [name].filter isKept = [name] := by rw [List.filter_cons, hname]; rfl
  induction front generalizing here with
  | nil => rw [List.nil_append, hlast]
  | cons piece rest ih =>
      rw [List.cons_append, List.filter_cons]
      by_cases hkept : isKept piece = true
      · rw [if_pos hkept]
        refine t.walkFrom_congr ?_ (fun here => ih here) (fun here front => hfollow here front rest)
        simp [List.filter_append, hlast]
      · have hskip : piece = [] ∨ piece = dot := isKept_eq_false_iff.1 (by simpa using hkept)
        rw [if_neg hkept, walkFrom, if_pos hskip]
        exact ih here

/-- A walk to a name passes over the pieces that mean nothing. -/
theorem walk_filter (links : Nat) (here front : List Bytes) {name : Bytes}
    (hname : isKept name = true) :
    t.walk links here (front ++ [name]) =
      t.walk links here ((front ++ [name]).filter isKept) := by
  induction links generalizing here front with
  | zero => exact t.walkFrom_filter hname (fun _ _ _ => rfl) here front
  | succ links ih =>
      refine t.walkFrom_filter hname (fun here front rest => ?_) here front
      -- dropping pieces from the rest or from all of the way comes to the same
      have hlast : [name].filter isKept = [name] := by rw [List.filter_cons, hname]; rfl
      have h₁ := ih here (front ++ rest)
      have h₂ := ih here (front ++ rest.filter isKept)
      rw [List.append_assoc] at h₁ h₂
      have hfilter : (front ++ (rest.filter isKept ++ [name])).filter isKept =
          (front ++ (rest ++ [name])).filter isKept := by
        simp only [List.filter_append, List.filter_filter, Bool.and_self]
      rw [List.filter_append (p := isKept) rest, hlast, h₁, h₂, hfilter]

theorem find_eq_of_components_eq {p q : FilePath} (hp : p.EndsInName) (hq : q.EndsInName)
    (h : p.components = q.components) : t.find p = t.find q := by
  unfold find
  cases habs : p.isAbsolute with
  | false =>
      rw [← isAbsolute_eq_of_components_eq h, habs]
      rfl
  | true =>
      obtain ⟨habs', hkept⟩ := filter_isKept_eq h habs
      obtain ⟨front, name, hpieces, hname⟩ := hp
      obtain ⟨front', name', hpieces', hname'⟩ := hq
      rw [habs', if_pos rfl, if_pos rfl, hpieces, hpieces', t.walk_filter _ _ _ hname,
        t.walk_filter _ _ _ hname', ← hpieces, ← hpieces', hkept]

theorem fileSystem_ignoresSpelling : t.fileSystem.IgnoresSpelling where
  isPresent p q hp hq h := by
    show (t.find p).isOk = (t.find q).isOk
    rw [t.find_eq_of_components_eq hp hq h]
  readText p q hp hq h := by
    show t.readText p = t.readText q
    rw [readText, readText, t.find_eq_of_components_eq hp hq h]

end Tree

end ModuleGraph
