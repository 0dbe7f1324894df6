import ModuleGraph.FileSystem.Tree
import ModuleGraph.Proofs.FilePath.Pieces

/-!
# Where walks lead

A walk through a tree ends in a directory that it has come to, or at a file in one. What holds of
the root and is kept by every step, up or down, therefore holds of the place where a walk ends,
whatever links it has followed (`Tree.WalkInvariant`). A walk along a path with a separator at its
end finds no file.
-/

set_option autoImplicit false

namespace ModuleGraph

open Text FilePath

/-- A name that leads down: neither empty nor a dot, and in one piece. -/
structure FilePath.IsName (name : Bytes) : Prop where
  isKept : isKept name = true
  notUp : name ≠ dotDot
  whole : separator ∉ name

theorem FilePath.IsName.not_skipped {name : Bytes} (h : IsName name) :
    ¬ (name = [] ∨ name = dot) := by
  rw [← isKept_eq_false_iff, h.isKept]
  exact Bool.noConfusion

namespace Tree

variable {t : Tree} {Q : List Bytes → Prop}

theorem mem_of_node? {here : List Bytes} {name : Bytes} {node : Node}
    (h : t.node? (here ++ [name]) = some node) : (here ++ [name], node) ∈ t.places := by
  unfold node? at h
  rw [if_neg (List.append_ne_nil_of_right_ne_nil _ (List.cons_ne_nil _ _))] at h
  obtain ⟨front, back, hplaces, -⟩ := List.lookup_eq_some_iff.1 h
  rw [hplaces]
  exact List.mem_append_right _ List.mem_cons_self

/-- What holds of every directory that a walk comes through. -/
structure WalkInvariant (t : Tree) (Q : List Bytes → Prop) : Prop where
  root : Q []
  up : ∀ {here : List Bytes}, Q here → Q here.dropLast
  down : ∀ {here : List Bytes} {name : Bytes}, Q here → IsName name →
    t.node? (here ++ [name]) = some .directory → Q (here ++ [name])

/-- A walk ends in a directory that it has come to, or at a file in one. -/
inductive Lands (t : Tree) (Q : List Bytes → Prop) : List Bytes → Node → Prop
  | directory {here : List Bytes} : Q here → Lands t Q here .directory
  | file {here : List Bytes} {name : Bytes} {file : File} : Q here → IsName name →
      t.node? (here ++ [name]) = some (.file file) → Lands t Q (here ++ [name]) (.file file)

theorem lands_walkFrom (hQ : t.WalkInvariant Q)
    {follow : List Bytes → List Bytes → Except Absence (List Bytes × Node)}
    (hfollow : ∀ {here pieces names node}, Q here → (∀ piece ∈ pieces, separator ∉ piece) →
      follow here pieces = .ok (names, node) → t.Lands Q names node)
    {here pieces names : List Bytes} {node : Node} (hhere : Q here)
    (hpieces : ∀ piece ∈ pieces, separator ∉ piece)
    (h : t.walkFrom follow here pieces = .ok (names, node)) : t.Lands Q names node := by
  induction pieces generalizing here with
  | nil =>
      obtain ⟨rfl, rfl⟩ := Prod.mk.inj (Except.ok.inj h)
      exact .directory hhere
  | cons piece rest ih =>
      have hrest : ∀ piece ∈ rest, separator ∉ piece :=
        fun piece hpiece => hpieces piece (List.mem_cons_of_mem _ hpiece)
      rw [walkFrom] at h
      split at h
      · exact ih hhere hrest h
      · next hkept =>
          split at h
          · exact ih (hQ.up hhere) hrest h
          · next hup =>
              have hname : IsName piece := by
                refine ⟨?_, hup, hpieces piece List.mem_cons_self⟩
                rw [← Bool.not_eq_false, isKept_eq_false_iff]
                exact hkept
              split at h
              · cases h
              · next hnode => exact ih (hQ.down hhere hname hnode) hrest h
              · next hnode =>
                  split at h
                  · obtain ⟨rfl, rfl⟩ := Prod.mk.inj (Except.ok.inj h)
                    exact .file hhere hname hnode
                  · cases h
              · next target hnode =>
                  refine hfollow ?_ (fun piece hpiece => ?_) h
                  · split
                    · exact hQ.root
                    · exact hhere
                  · rcases List.mem_append.1 hpiece with hpiece | hpiece
                    · exact separator_not_mem_pieces hpiece
                    · exact hrest piece hpiece

theorem lands_walk (hQ : t.WalkInvariant Q) (links : Nat) {here pieces names : List Bytes}
    {node : Node} (hhere : Q here) (hpieces : ∀ piece ∈ pieces, separator ∉ piece)
    (h : t.walk links here pieces = .ok (names, node)) : t.Lands Q names node := by
  induction links generalizing here pieces names node with
  | zero => exact lands_walkFrom hQ (fun _ _ h => by cases h) hhere hpieces h
  | succ links ih => exact lands_walkFrom hQ ih hhere hpieces h

theorem lands_find (hQ : t.WalkInvariant Q) {p : FilePath} {names : List Bytes} {node : Node}
    (h : t.find p = .ok (names, node)) : t.Lands Q names node := by
  unfold find at h
  split at h
  · exact lands_walk hQ _ hQ.root (fun _ => separator_not_mem_pieces) h
  · cases h

/-! ## Separators at the end -/

theorem directory_of_walkFrom
    {follow : List Bytes → List Bytes → Except Absence (List Bytes × Node)}
    (hfollow : ∀ {here pieces names node}, pieces.getLast? = some [] →
      follow here pieces = .ok (names, node) → node = .directory)
    {here pieces names : List Bytes} {node : Node} (hlast : pieces.getLast? = some [])
    (h : t.walkFrom follow here pieces = .ok (names, node)) : node = .directory := by
  induction pieces generalizing here with
  | nil => cases hlast
  | cons piece rest ih =>
      -- only an empty piece can be the last one
      have hrest : piece ≠ [] → rest.getLast? = some [] := by
        intro hpiece
        cases rest with
        | nil => exact absurd (Option.some.inj hlast) hpiece
        | cons next rest => exact List.getLast?_cons_cons ▸ hlast
      rw [walkFrom] at h
      split at h
      · cases rest with
        | nil =>
            obtain ⟨-, rfl⟩ := Prod.mk.inj (Except.ok.inj h)
            rfl
        | cons next rest => exact ih (List.getLast?_cons_cons ▸ hlast) h
      · next hkept =>
          replace hrest := hrest fun hpiece => hkept (Or.inl hpiece)
          split at h
          · exact ih hrest h
          · split at h
            · cases h
            · exact ih hrest h
            · split at h
              · next hnil =>
                  rw [hnil] at hrest
                  cases hrest
              · cases h
            · refine hfollow ?_ h
              rw [List.getLast?_append, hrest]
              rfl

theorem directory_of_walk (links : Nat) {here pieces names : List Bytes} {node : Node}
    (hlast : pieces.getLast? = some []) (h : t.walk links here pieces = .ok (names, node)) :
    node = .directory := by
  induction links generalizing here pieces names node with
  | zero => exact directory_of_walkFrom (fun _ h => by cases h) hlast h
  | succ links ih => exact directory_of_walkFrom ih hlast h

end Tree

end ModuleGraph
