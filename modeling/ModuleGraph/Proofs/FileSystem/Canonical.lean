import ModuleGraph.Proofs.FileSystem.Walk

/-!
# Canonical paths

The canonical form of a path is spelled with names alone, is its own canonical form, and stands for
the same file or directory (`FileSystem.Canonicalizes`). In a tree this holds because a walk ends
where the physical path of what it has found leads: every directory on that path is a directory and
no link. If there are no links at all, the canonical form can be told from the path alone
(`FileSystem.LinkFree`).
-/

set_option autoImplicit false

namespace ModuleGraph

open Text FilePath

/-- An absolute path that is spelled with names alone. -/
def FilePath.IsPlain (p : FilePath) : Prop :=
  ∃ names, (∀ name ∈ names, IsName name) ∧ p = ofPieces true names

/-- What is known of a canonical form. A path with a separator at its end asks for a directory. -/
structure FileSystem.Canonicalizes (fs : FileSystem) : Prop where
  isPlain : ∀ {p q : FilePath}, fs.canonicalize p = .ok q → q.IsPlain
  idempotent : ∀ {p q : FilePath}, fs.canonicalize p = .ok q → fs.canonicalize q = .ok q
  isPresent : ∀ {p q : FilePath}, fs.canonicalize p = .ok q → fs.isPresent q = fs.isPresent p
  isDir : ∀ {p q : FilePath}, fs.canonicalize p = .ok q → fs.isDir q = fs.isDir p
  slash : ∀ {p : FilePath}, p.bytes.getLast? = some separator → fs.isPresent p = true →
    fs.isDir p = true

/-- Without links a path leads where its names do, with every `..` taking a name back. -/
structure FileSystem.LinkFree (fs : FileSystem) : Prop extends fs.Canonicalizes where
  normal : ∀ {p q : FilePath}, fs.canonicalize p = .ok q → q = ofPieces true p.normalNames

namespace FilePath

theorem pieces_ofPieces {names : List Bytes} (h : ∀ name ∈ names, IsName name) (hne : names ≠ []) :
    (ofPieces true names).pieces = names := by
  have hcut := List.splitOn_intercalate separator (fun name hname => (h name hname).whole) hne
  show splitAll (· == separator) (List.intercalate [separator] names) = names
  rw [splitAll_eq_splitOnP]
  exact hcut

theorem getLast?_pieces_of_slash {p : FilePath} (hp : p.isAbsolute = true)
    (h : p.bytes.getLast? = some separator) : p.pieces.getLast? = some [] := by
  obtain ⟨bytes⟩ := p
  obtain ⟨tail, rfl⟩ : ∃ tail, bytes = separator :: tail :=
    List.head?_eq_some_iff.1 (eq_of_beq hp)
  rw [pieces_rooted]
  rcases List.eq_nil_or_concat tail with rfl | ⟨front, last, rfl⟩
  · rfl
  · rw [List.concat_eq_append] at h ⊢
    rw [← List.cons_append, List.getLast?_concat] at h
    obtain rfl := Option.some.inj h
    rw [splitAll_append_singleton (by simp), List.getLast?_concat]

/-- Where a piece leads from a list of names. -/
def stepNames (names : List Bytes) (piece : Bytes) : List Bytes :=
  if piece = [] ∨ piece = dot then names
  else if piece = dotDot then names.dropLast
  else names ++ [piece]

theorem normalNames_eq {p : FilePath} (hp : p.isAbsolute = true) :
    p.normalNames = p.pieces.foldl stepNames [] := by
  have hfold (step : List Bytes → Component → List Bytes)
      (hnormal : ∀ names name, step names (.normal name) = names ++ [name])
      (hparent : ∀ names, step names .parent = names.dropLast) (pieces names : List Bytes) :
      (pieces.filterMap Component.ofPiece?).foldl step names = pieces.foldl stepNames names := by
    induction pieces generalizing names with
    | nil => rfl
    | cons piece rest ih =>
        rw [List.foldl_cons, stepNames, ← ih]
        by_cases hskip : piece = [] ∨ piece = dot
        · rw [if_pos hskip, List.filterMap_cons_none (by rw [Component.ofPiece?, if_pos hskip])]
        · rw [if_neg hskip]
          by_cases hup : piece = dotDot
          · have hpiece : Component.ofPiece? piece = some .parent := by
              rw [Component.ofPiece?, if_neg hskip, if_pos hup]
            rw [if_pos hup, List.filterMap_cons_some hpiece, List.foldl_cons, hparent]
          · have hpiece : Component.ofPiece? piece = some (.normal piece) := by
              rw [Component.ofPiece?, if_neg hskip, if_neg hup]
            rw [if_neg hup, List.filterMap_cons_some hpiece, List.foldl_cons, hnormal]
  rw [normalNames, components, if_pos hp]
  exact hfold _ (fun _ _ => rfl) (fun _ => rfl) p.pieces []

/-- A path without `..` leads where its pieces say. -/
theorem normalNames_of_not_up {p : FilePath} (hp : p.isAbsolute = true) (hup : dotDot ∉ p.pieces) :
    p.normalNames = p.pieces.filter isKept := by
  have hfold (pieces names : List Bytes) (hup : dotDot ∉ pieces) :
      pieces.foldl stepNames names = names ++ pieces.filter isKept := by
    induction pieces generalizing names with
    | nil => exact (List.append_nil names).symm
    | cons piece rest ih =>
        obtain ⟨hpiece, hrest⟩ := not_or.1 (fun h => hup (List.mem_cons.2 h))
        rw [List.foldl_cons, ih _ hrest, stepNames, List.filter_cons]
        by_cases hskip : piece = [] ∨ piece = dot
        · rw [if_pos hskip, isKept_eq_false_iff.2 hskip, if_neg Bool.false_ne_true]
        · have hkept : isKept piece = true := by
            rw [← Bool.not_eq_false, isKept_eq_false_iff]
            exact hskip
          rw [if_neg hskip, if_neg (Ne.symm hpiece), if_pos hkept, List.append_assoc]
          rfl
  rw [normalNames_eq hp, hfold _ _ hup, List.nil_append]

end FilePath

namespace Tree

variable {t : Tree}

/-! ## Physical paths -/

/-- Every place on the way is a directory. -/
def IsDirectory (t : Tree) (here : List Bytes) : Prop :=
  (∀ name ∈ here, IsName name) ∧ ∀ front, front <+: here → t.node? front = some .directory

theorem walkInvariant_isDirectory : t.WalkInvariant t.IsDirectory where
  root := by
    refine ⟨by simp, fun front hfront => ?_⟩
    rw [List.prefix_nil.1 hfront]
    rfl
  up h := ⟨fun name hname => h.1 name (List.dropLast_subset _ hname),
    fun front hfront => h.2 front (hfront.trans (List.dropLast_prefix _))⟩
  down h hname hnode := by
    refine ⟨List.forall_mem_append.2 ⟨h.1, List.forall_mem_singleton.2 hname⟩,
      fun front hfront => ?_⟩
    · rcases List.prefix_concat_iff.1 hfront with rfl | hfront
      · exact hnode
      · exact h.2 front hfront

/-- The way down to a directory is taken name by name, and meets no link. -/
theorem walkFrom_isDirectory
    (follow : List Bytes → List Bytes → Except Absence (List Bytes × Node))
    (front : List Bytes) {back : List Bytes} (h : t.IsDirectory (front ++ back))
    (rest : List Bytes) :
    t.walkFrom follow front (back ++ rest) = t.walkFrom follow (front ++ back) rest := by
  induction back generalizing front with
  | nil => rw [List.nil_append, List.append_nil]
  | cons name back ih =>
      have hsplit : front ++ name :: back = front ++ [name] ++ back := by simp
      have hname := h.1 name (by simp)
      have hnode := h.2 (front ++ [name]) (hsplit ▸ List.prefix_append _ _)
      rw [List.cons_append, walkFrom, if_neg hname.not_skipped, if_neg hname.notUp, hnode]
      dsimp only
      rw [ih (front ++ [name]) (hsplit ▸ h), ← hsplit]

theorem exists_find_eq {p : FilePath} (hp : p.isAbsolute = true) :
    ∃ follow, t.find p = t.walkFrom follow [] p.pieces := by
  refine ⟨t.walk (linkLimit - 1), ?_⟩
  rw [find, if_pos hp]
  rfl

/-- Where a walk ends, the physical path leads as well. -/
theorem find_ofPieces {names : List Bytes} {node : Node} (h : t.Lands t.IsDirectory names node) :
    t.find (ofPieces true names) = .ok (names, node) := by
  obtain ⟨follow, hfollow⟩ := exists_find_eq (t := t) (p := ofPieces true names) rfl
  cases h with
  | directory hhere =>
      by_cases hne : names = []
      · subst hne
        rfl
      · have hwalk := walkFrom_isDirectory follow [] hhere []
        rw [List.append_nil] at hwalk
        rw [hfollow, pieces_ofPieces hhere.1 hne, hwalk]
        rfl
  | @file here name file hhere hname hnode =>
      have hnames : ∀ other ∈ here ++ [name], IsName other :=
        List.forall_mem_append.2 ⟨hhere.1, List.forall_mem_singleton.2 hname⟩
      rw [hfollow, pieces_ofPieces hnames (by simp), walkFrom_isDirectory _ [] hhere,
        List.nil_append, walkFrom, if_neg hname.not_skipped, if_neg hname.notUp, hnode]
      exact if_pos rfl

/-! ## Canonical forms -/

/-- No file brings a canonical path of its own. -/
def NoAnswers (t : Tree) : Prop :=
  ∀ place ∈ t.places, ∀ file, place.2 = .file file → file.canonical = none

/-- The canonical path is the one that a walk has come to. -/
theorem find_of_canonicalize (ht : t.NoAnswers) {p q : FilePath} (h : t.canonicalize p = .ok q) :
    ∃ names node, t.find p = .ok (names, node) ∧ q = ofPieces true names ∧
      t.Lands t.IsDirectory names node := by
  unfold canonicalize at h
  split at h
  · cases h
  · next names content answer hfind =>
      -- the file would have to be one that brings an answer
      cases lands_find walkInvariant_isDirectory hfind with
      | file _ _ hnode => cases ht _ (mem_of_node? hnode) _ rfl
  · next names node _ hfind =>
      obtain rfl := Except.ok.inj h
      exact ⟨names, node, hfind, rfl, lands_find walkInvariant_isDirectory hfind⟩

/-- In a tree canonical forms are what they should be. -/
theorem fileSystem_canonicalizes (ht : t.NoAnswers) : t.fileSystem.Canonicalizes where
  isPlain h := by
    obtain ⟨names, node, -, rfl, hlands⟩ := find_of_canonicalize ht h
    refine ⟨names, ?_, rfl⟩
    cases hlands with
    | directory hhere => exact hhere.1
    | file hhere hname _ =>
        exact List.forall_mem_append.2 ⟨hhere.1, List.forall_mem_singleton.2 hname⟩
  idempotent h := by
    obtain ⟨names, node, hfind, rfl, hlands⟩ := find_of_canonicalize ht h
    have hagain := find_ofPieces hlands
    show t.canonicalize _ = _
    rw [canonicalize, hagain, ← hfind]
    exact h
  isPresent h := by
    obtain ⟨names, node, hfind, rfl, hlands⟩ := find_of_canonicalize ht h
    show (t.find _).isOk = (t.find _).isOk
    rw [find_ofPieces hlands, hfind]
  isDir h := by
    obtain ⟨names, node, hfind, rfl, hlands⟩ := find_of_canonicalize ht h
    simp only [fileSystem, find_ofPieces hlands, hfind]
  slash := by
    intro p hslash hpresent
    have hok : (t.find p).isOk = true := hpresent
    cases hfind : t.find p with
    | error absence =>
        rw [hfind] at hok
        cases hok
    | ok found =>
        obtain ⟨names, node⟩ := found
        have hnode : node = .directory := by
          unfold find at hfind
          split at hfind
          · next habs => exact directory_of_walk _ (getLast?_pieces_of_slash habs hslash) hfind
          · cases hfind
        subst hnode
        simp only [fileSystem, hfind]

/-! ## Trees without links -/

/-- Nothing in the tree is a link. -/
def NoLinks (t : Tree) : Prop := ∀ place ∈ t.places, ∀ target, place.2 ≠ .link target

theorem walkFrom_of_noLinks (ht : t.NoLinks)
    {follow : List Bytes → List Bytes → Except Absence (List Bytes × Node)}
    {here pieces names : List Bytes} {node : Node}
    (h : t.walkFrom follow here pieces = .ok (names, node)) :
    names = pieces.foldl stepNames here := by
  induction pieces generalizing here with
  | nil => exact (Prod.mk.inj (Except.ok.inj h)).1.symm
  | cons piece rest ih =>
      rw [List.foldl_cons, stepNames]
      rw [walkFrom] at h
      split at h
      · next hskip =>
          rw [if_pos hskip]
          exact ih h
      · next hskip =>
          rw [if_neg hskip]
          split at h
          · next hup =>
              rw [if_pos hup]
              exact ih h
          · next hup =>
              rw [if_neg hup]
              split at h
              · cases h
              · exact ih h
              · split at h
                · next hlast =>
                    rw [hlast]
                    exact (Prod.mk.inj (Except.ok.inj h)).1.symm
                · cases h
              · next target hnode => exact absurd rfl (ht _ (mem_of_node? hnode) target)

theorem fileSystem_linkFree (hanswers : t.NoAnswers) (ht : t.NoLinks) :
    t.fileSystem.LinkFree where
  toCanonicalizes := fileSystem_canonicalizes hanswers
  normal := by
    intro p q h
    obtain ⟨names, node, hfind, rfl, -⟩ := find_of_canonicalize hanswers h
    have habs : p.isAbsolute = true := by
      unfold find at hfind
      split at hfind
      · next habs => exact habs
      · cases hfind
    obtain ⟨follow, hfollow⟩ := exists_find_eq (t := t) habs
    rw [hfollow] at hfind
    rw [walkFrom_of_noLinks ht hfind, normalNames_eq habs]

end Tree

end ModuleGraph
