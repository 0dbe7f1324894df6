import ModuleGraph.Proofs.FileSystem.Walk
import ModuleGraph.Proofs.Text.Utf8

/-!
# File names that are text

A module is known by the text of its path, which can only tell files apart if their names are
text. In a tree whose names are text every canonical path is, for a walk answers with names of the
tree.
-/

set_option autoImplicit false

namespace ModuleGraph

open Text

theorem isText_intercalate {names : List Bytes} (h : ∀ name ∈ names, IsText name) :
    IsText (List.intercalate [FilePath.separator] names) := by
  induction names with
  | nil => exact ⟨[], rfl⟩
  | cons name names ih =>
      have hname := h name List.mem_cons_self
      cases names with
      | nil =>
          rw [List.intercalate_singleton]
          exact hname
      | cons next names =>
          rw [List.intercalate_cons_cons]
          have htail := ih fun name hname => h name (List.mem_cons_of_mem _ hname)
          exact isText_append (isText_append hname ⟨['/'], rfl⟩) htail

/-- A path that is spelled with texts is a text. -/
theorem FilePath.exists_ofString {names : List Bytes} (h : ∀ name ∈ names, IsText name) :
    ∃ s : String, ofPieces true names = .ofString s := by
  obtain ⟨cs, hcs⟩ := isText_append ⟨['/'], rfl⟩ (isText_intercalate h)
  refine ⟨String.ofList cs, ?_⟩
  rw [FilePath.ofString, utf8, String.toList_ofList, ← hcs]
  rfl

/-- The canonical form of a path can be written as a text. -/
def FileSystem.NamesAreText (fs : FileSystem) : Prop :=
  ∀ p q : FilePath, fs.canonicalize p = .ok q → ∃ s : String, q = .ofString s

namespace Tree

/-- The names of a tree, and the answers that its files bring, are text. -/
structure NamesAreText (t : Tree) : Prop where
  names : ∀ place ∈ t.places, ∀ name ∈ place.1, IsText name
  answers : ∀ place ∈ t.places, ∀ (content : Except String Bytes) (q : FilePath),
    place.2 = .file { content, canonical := some (.ok q) } → ∃ s : String, q = .ofString s

variable {t : Tree}

theorem walkInvariant_isText (ht : t.NamesAreText) :
    t.WalkInvariant fun here => ∀ name ∈ here, IsText name where
  root := by simp
  up h name hname := h name (List.dropLast_subset _ hname)
  down _ _ hnode := ht.names _ (mem_of_node? hnode)

theorem fileSystem_namesAreText (ht : t.NamesAreText) : t.fileSystem.NamesAreText := by
  intro p q hq
  have hq' : t.canonicalize p = .ok q := hq
  unfold canonicalize at hq'
  split at hq'
  · cases hq'
  · next names content answer hfind =>
      rw [hq'] at hfind
      cases lands_find (walkInvariant_isText ht) hfind with
      | file _ _ hnode => exact ht.answers _ (mem_of_node? hnode) _ _ rfl
  · next names node _ hfind =>
      have hnames : ∀ name ∈ names, IsText name := by
        cases lands_find (walkInvariant_isText ht) hfind with
        | directory hhere => exact hhere
        | file _ _ hnode => exact ht.names _ (mem_of_node? hnode)
      obtain rfl := Except.ok.inj hq'
      exact FilePath.exists_ofString hnames

end Tree

end ModuleGraph
