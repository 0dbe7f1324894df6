import ModuleGraph.Proofs.FilePath.Pieces
import Mathlib.Logic.Relation

/-!
# The way up from a path

The ancestors of a path are found in one pass over its pieces. They are the path itself and the
ancestors of its parent (`FilePath.ancestors_of_parent?`), for relative paths too, so a search
through them goes up by parents (`FilePath.Ascends`). Every step up takes away the last component,
so the ways up from a path are those to the fronts of its components, and no way leads in a circle.
The name of a path is its last component, if that is a name.
-/

set_option autoImplicit false

namespace ModuleGraph.FilePath

open Relation Text

/-! ## What pieces mean -/

/-- The components that pieces stand for, below the root or not. -/
def reading (rooted : Bool) (pieces : List Bytes) : List Component :=
  let named := pieces.filterMap Component.ofPiece?
  if rooted then .root :: named
  else if pieces.head? = some dot then .current :: named
  else named

theorem components_eq_reading (p : FilePath) : p.components = reading p.isAbsolute p.pieces := rfl

/-- Whether a piece is skipped that has the given ones before it. -/
def Skipped (rooted : Bool) (earlier : List Bytes) (piece : Bytes) : Prop :=
  piece = [] ∨ (piece = dot ∧ (rooted = true ∨ earlier ≠ []))

variable {rooted : Bool} {piece : Bytes} {earlier rev pieces : List Bytes}

theorem dropSkipped_of_skipped (h : Skipped rooted earlier piece) :
    dropSkipped rooted (piece :: earlier) = dropSkipped rooted earlier := by
  rw [dropSkipped]
  exact if_pos h

theorem dropSkipped_of_not_skipped (h : ¬ Skipped rooted earlier piece) :
    dropSkipped rooted (piece :: earlier) = piece :: earlier := by
  rw [dropSkipped]
  exact if_neg h

/-- A skipped piece adds nothing to what the ones before it mean. -/
theorem reading_concat_of_skipped (h : Skipped rooted earlier piece) :
    reading rooted (earlier.reverse ++ [piece]) = reading rooted earlier.reverse := by
  have hnone : Component.ofPiece? piece = none := by
    rw [Component.ofPiece?]
    exact if_pos (h.imp_right And.left)
  have hnamed : (earlier.reverse ++ [piece]).filterMap Component.ofPiece? =
      earlier.reverse.filterMap Component.ofPiece? := by
    rw [List.filterMap_append, List.filterMap_cons_none hnone, List.filterMap_nil,
      List.append_nil]
  cases rooted with
  | true => simp only [reading, hnamed, if_true]
  | false =>
      have hhead : (earlier.reverse ++ [piece]).head? = some dot ↔
          earlier.reverse.head? = some dot := by
        rcases List.eq_nil_or_concat earlier with rfl | ⟨others, first, rfl⟩
        · have hempty : piece = [] := h.resolve_right fun hdot => by simp at hdot
          simp [hempty, dot]
        · simp
      simp only [reading, hnamed, hhead, Bool.false_eq_true, if_false]

/-- The component that a piece stands for which is not skipped. -/
def meaning (piece : Bytes) : Component := (Component.ofPiece? piece).getD .current

/-- A piece that is not skipped adds one component. -/
theorem reading_concat_of_not_skipped (h : ¬ Skipped rooted earlier piece) :
    reading rooted (earlier.reverse ++ [piece]) =
      reading rooted earlier.reverse ++ [meaning piece] := by
  obtain ⟨hempty, hdot⟩ := not_or.1 h
  by_cases hlone : piece = dot
  · -- a dot that is not skipped opens a relative path
    obtain ⟨hrooted, hearlier⟩ := not_or.1 (not_and.1 hdot hlone)
    rw [Bool.not_eq_true] at hrooted
    obtain rfl : earlier = [] := Classical.not_not.1 hearlier
    subst hlone hrooted
    rfl
  · have hpiece : Component.ofPiece? piece = some (meaning piece) := by
      unfold meaning Component.ofPiece?
      rw [if_neg (not_or.2 ⟨hempty, hlone⟩)]
      split <;> rfl
    have hnamed : (earlier.reverse ++ [piece]).filterMap Component.ofPiece? =
        earlier.reverse.filterMap Component.ofPiece? ++ [meaning piece] := by
      rw [List.filterMap_append, List.filterMap_cons_some hpiece, List.filterMap_nil]
    have hhead : (earlier.reverse ++ [piece]).head? = some dot ↔
        earlier.reverse.head? = some dot := by
      rcases List.eq_nil_or_concat earlier with rfl | ⟨others, first, rfl⟩
      · simp [hlone]
      · simp
    simp only [reading, hnamed, hhead]
    split
    · rfl
    · split <;> rfl

/-- What is left once pieces have been skipped means the same, and begins with a piece that is not
skipped. -/
theorem dropSkipped_spec (rooted : Bool) (rev : List Bytes) :
    dropSkipped rooted rev <:+ rev ∧
      reading rooted (dropSkipped rooted rev).reverse = reading rooted rev.reverse ∧
      ∀ piece earlier, dropSkipped rooted rev = piece :: earlier →
        ¬ Skipped rooted earlier piece := by
  induction rev with
  | nil => exact ⟨List.suffix_refl _, rfl, fun _ _ h => by cases h⟩
  | cons piece earlier ih =>
      by_cases hskip : Skipped rooted earlier piece
      · obtain ⟨hsuffix, hreading, hkept⟩ := ih
        rw [dropSkipped_of_skipped hskip]
        refine ⟨hsuffix.trans (List.suffix_cons _ _), ?_, hkept⟩
        rw [hreading, List.reverse_cons, reading_concat_of_skipped hskip]
      · rw [dropSkipped_of_not_skipped hskip]
        refine ⟨List.suffix_refl _, rfl, fun piece' earlier' h => ?_⟩
        obtain ⟨rfl, rfl⟩ := List.cons.inj h
        exact hskip

/-! ## Pieces that are written down -/

/-- Pieces that are read back as they have been written: none holds a separator, and a relative
path does not open with an empty one. -/
structure Spellable (rooted : Bool) (pieces : List Bytes) : Prop where
  whole : ∀ piece ∈ pieces, separator ∉ piece
  front : rooted = false → pieces.head? ≠ some []

theorem Spellable.of_prefix {front : List Bytes} (h : Spellable rooted pieces)
    (hfront : front <+: pieces) : Spellable rooted front where
  whole piece hpiece := h.whole piece (hfront.subset hpiece)
  front hrel hhead := by
    obtain ⟨rest, rfl⟩ := hfront
    rw [List.head?_eq_some_iff] at hhead
    obtain ⟨others, rfl⟩ := hhead
    exact h.front hrel rfl

theorem Spellable.isAbsolute_ofPieces (h : Spellable rooted pieces) :
    (ofPieces rooted pieces).isAbsolute = rooted := by
  cases rooted with
  | true => rfl
  | false =>
      cases pieces with
      | nil => rfl
      | cons first rest =>
          cases first with
          | nil => exact absurd rfl (h.front rfl)
          | cons b bs =>
              have hb : b ≠ separator := fun heq =>
                h.whole _ List.mem_cons_self (heq ▸ List.mem_cons_self)
              have hbytes : ∃ tail, ofPieces false ((b :: bs) :: rest) = ⟨b :: tail⟩ := by
                cases rest with
                | nil => exact ⟨_, rfl⟩
                | cons second others => exact ⟨_, rfl⟩
              obtain ⟨tail, htail⟩ := hbytes
              rw [htail, isAbsolute_cons]
              exact beq_eq_false_iff_ne.2 hb

/-- Pieces are read back, and no pieces as an empty one. -/
theorem Spellable.pieces_ofPieces (h : Spellable rooted pieces) :
    (ofPieces rooted pieces).pieces = if pieces = [] then [[]] else pieces := by
  have hpieces : (ofPieces rooted pieces).pieces =
      splitAll (· == separator) (List.intercalate [separator] pieces) := by
    rw [FilePath.pieces, h.isAbsolute_ofPieces]
    cases rooted with
    | true => rfl
    | false => rfl
  rw [hpieces, splitAll_eq_splitOnP]
  by_cases hnil : pieces = []
  · subst hnil
    rfl
  · rw [if_neg hnil]
    exact List.splitOn_intercalate separator h.whole hnil

theorem Spellable.components_ofPieces (h : Spellable rooted pieces) :
    (ofPieces rooted pieces).components = reading rooted pieces := by
  rw [components_eq_reading, h.isAbsolute_ofPieces, h.pieces_ofPieces]
  by_cases hnil : pieces = []
  · rw [if_pos hnil, hnil]
    rfl
  · rw [if_neg hnil]

/-- Only the empty path opens with an empty piece and is relative. -/
theorem pieces_of_head?_eq_nil {p : FilePath} (hp : p.isAbsolute = false)
    (h : p.pieces.head? = some []) : p.pieces = [[]] := by
  obtain ⟨bytes⟩ := p
  cases bytes with
  | nil => rfl
  | cons b bs =>
      rw [isAbsolute_cons] at hp
      rw [pieces_cons (beq_eq_false_iff_ne.1 hp), splitAll, hp, if_neg Bool.false_ne_true] at h
      split at h <;> cases h

/-- What is left of the pieces of a path once some have been skipped can be written down. -/
theorem spellable_dropSkipped (p : FilePath) :
    Spellable p.isAbsolute (dropSkipped p.isAbsolute p.pieces.reverse).reverse := by
  obtain ⟨hsuffix, -, hkept⟩ := dropSkipped_spec p.isAbsolute p.pieces.reverse
  have hfront : (dropSkipped p.isAbsolute p.pieces.reverse).reverse <+: p.pieces := by
    rw [← List.reverse_suffix, List.reverse_reverse]
    exact hsuffix
  refine ⟨fun piece hpiece => separator_not_mem_pieces (hfront.subset hpiece), ?_⟩
  intro hrel hhead
  obtain ⟨rest, hrest⟩ := List.head?_eq_some_iff.1 hhead
  have hpieces : p.pieces = [[]] := by
    refine pieces_of_head?_eq_nil hrel (List.head?_eq_some_iff.2 ?_)
    obtain ⟨others, hothers⟩ := hfront
    exact ⟨rest ++ others, by rw [← hothers, hrest]; rfl⟩
  rw [hpieces, hrel] at hrest
  cases hrest

/-! ## Parents -/

/-- The ancestors of pieces are those of what is left once some have been skipped. -/
theorem properAncestors_dropSkipped (rooted : Bool) (rev : List Bytes) :
    properAncestors rooted (dropSkipped rooted rev) = properAncestors rooted rev := by
  induction rev with
  | nil => rfl
  | cons piece earlier ih =>
      by_cases hskip : Skipped rooted earlier piece
      · rw [dropSkipped_of_skipped hskip, ih, properAncestors]
        exact (if_pos hskip).symm
      · rw [dropSkipped_of_not_skipped hskip]

/-- A path with a parent has one component more than the parent, and is below the parent and its
ancestors. A path without one has no component but the root, and stands alone. -/
theorem parent?_spec (p : FilePath) :
    (p.parent? = none ∧ p.fileName? = none ∧ p.ancestors = [p] ∧
        (p.components = [] ∨ p.components = [.root])) ∨
      ∃ up piece, p.parent? = some up ∧ p.ancestors = p :: up.ancestors ∧
        p.components = up.components ++ [meaning piece] ∧
        p.fileName? = (if piece = dotDot ∨ piece = dot then none else some piece) ∧
        piece ≠ [] ∧ up.isAbsolute = p.isAbsolute := by
  obtain ⟨-, hreading, hkept⟩ := dropSkipped_spec p.isAbsolute p.pieces.reverse
  rw [List.reverse_reverse, ← components_eq_reading] at hreading
  have hspell := spellable_dropSkipped p
  have hancestors : p.ancestors =
      p :: properAncestors p.isAbsolute (dropSkipped p.isAbsolute p.pieces.reverse) := by
    rw [properAncestors_dropSkipped]
    rfl
  rw [parent?, fileName?, hancestors, ← hreading]
  cases hdrop : dropSkipped p.isAbsolute p.pieces.reverse with
  | nil =>
      refine Or.inl ⟨rfl, rfl, rfl, ?_⟩
      cases p.isAbsolute with
      | true => exact Or.inr rfl
      | false => exact Or.inl rfl
  | cons piece earlier =>
      have hnot := hkept piece earlier hdrop
      rw [hdrop] at hspell
      obtain ⟨hsuffix, hearlier, -⟩ := dropSkipped_spec p.isAbsolute earlier
      have hup : Spellable p.isAbsolute (dropSkipped p.isAbsolute earlier).reverse := by
        refine hspell.of_prefix (List.reverse_prefix.2 ?_)
        exact hsuffix.trans (List.suffix_cons piece earlier)
      refine Or.inr ⟨_, piece, rfl, ?_, ?_, rfl, fun hempty => hnot (Or.inl hempty),
        hup.isAbsolute_ofPieces⟩
      · have hproper : properAncestors p.isAbsolute (piece :: earlier) =
            ofPieces p.isAbsolute (dropSkipped p.isAbsolute earlier).reverse ::
              properAncestors p.isAbsolute earlier := by
          rw [properAncestors]
          exact if_neg hnot
        rw [hproper, ancestors, hup.isAbsolute_ofPieces, hup.pieces_ofPieces,
          ← properAncestors_dropSkipped _ earlier]
        split
        · next hnil =>
            rw [List.reverse_eq_nil_iff.1 hnil]
            rfl
        · rw [List.reverse_reverse]
      · rw [List.reverse_cons, reading_concat_of_not_skipped hnot, hup.components_ofPieces,
          hearlier]

variable {p q up : FilePath} {name : Bytes}

theorem ancestors_of_parent? (h : p.parent? = some up) : p.ancestors = p :: up.ancestors := by
  rcases parent?_spec p with ⟨hnone, -⟩ | ⟨up', -, hup, hancestors, -⟩
  · cases hnone.symm.trans h
  · rw [hancestors, Option.some.inj (hup.symm.trans h)]

theorem ancestors_of_no_parent (h : p.parent? = none) : p.ancestors = [p] := by
  rcases parent?_spec p with ⟨-, -, halone, -⟩ | ⟨up, -, hup, -⟩
  · exact halone
  · cases h.symm.trans hup

theorem length_components_of_no_parent (h : p.parent? = none) : p.components.length ≤ 1 := by
  rcases parent?_spec p with ⟨-, -, -, hroot | hroot⟩ | ⟨up, -, hup, -⟩
  · rw [hroot]
    exact Nat.zero_le 1
  · rw [hroot]
    exact Nat.le_refl 1
  · cases h.symm.trans hup

theorem exists_components_of_parent? (h : p.parent? = some up) :
    ∃ c, p.components = up.components ++ [c] := by
  rcases parent?_spec p with ⟨hnone, -⟩ | ⟨up', piece, hup, -, hcomp, -⟩
  · cases hnone.symm.trans h
  · rw [Option.some.inj (hup.symm.trans h)] at hcomp
    exact ⟨meaning piece, hcomp⟩

/-- The name of a path is its last component, if that is a name. -/
theorem fileName?_eq_some_iff :
    p.fileName? = some name ↔ ∃ front, p.components = front ++ [.normal name] := by
  rcases parent?_spec p with ⟨-, hname, -, hroot⟩ | ⟨up, piece, -, -, hcomp, hname, hempty, -⟩
  · rw [hname]
    constructor
    · intro h
      cases h
    · rintro ⟨front, hfront⟩
      have hmem : Component.normal name ∈ p.components := by simp [hfront]
      rcases hroot with hroot | hroot
      · rw [hroot] at hmem
        cases hmem
      · rw [hroot] at hmem
        cases List.mem_singleton.1 hmem
  · have hlast : (∃ front, p.components = front ++ [.normal name]) ↔
        meaning piece = .normal name := by
      rw [hcomp]
      constructor
      · rintro ⟨front, hfront⟩
        exact List.singleton_inj.1 (List.append_inj_right' hfront rfl)
      · intro h
        exact ⟨up.components, by rw [h]⟩
    rw [hname, hlast]
    unfold meaning Component.ofPiece?
    by_cases hdot : piece = dot
    · rw [if_pos (Or.inr hdot), if_pos (Or.inr hdot)]
      exact iff_of_false (by simp) (by simp)
    · rw [if_neg (not_or.2 ⟨hempty, hdot⟩)]
      by_cases hup : piece = dotDot
      · rw [if_pos (Or.inl hup), if_pos hup]
        exact iff_of_false (by simp) (by simp)
      · rw [if_neg (not_or.2 ⟨hup, hdot⟩), if_neg hup, Option.some.injEq, Option.getD_some,
          Component.normal.injEq]

/-! ## The way up -/

/-- From `p` parents lead up to `q`, which may be `p` itself. -/
def Ascends : FilePath → FilePath → Prop := ReflTransGen fun p up => p.parent? = some up

/-- What holds of a path if it holds of its parent holds of every path. -/
theorem induction_up {motive : FilePath → Prop}
    (step : ∀ p, (∀ up, p.parent? = some up → motive up) → motive p) (p : FilePath) :
    motive p := by
  induction hlen : p.components.length using Nat.strongRecOn generalizing p with
  | ind n ih =>
      refine step p fun up hup => ih up.components.length ?_ up rfl
      obtain ⟨c, hc⟩ := exists_components_of_parent? hup
      rw [← hlen, hc, List.length_append, List.length_singleton]
      exact Nat.lt_succ_self _

namespace Ascends

/-- Upwards only components at the end are lost. -/
theorem exists_components (h : p.Ascends q) : ∃ below, p.components = q.components ++ below := by
  induction h using ReflTransGen.head_induction_on with
  | refl => exact ⟨[], (List.append_nil _).symm⟩
  | head hup _ ih =>
      obtain ⟨c, hc⟩ := exists_components_of_parent? hup
      obtain ⟨below, hbelow⟩ := ih
      exact ⟨below ++ [c], by rw [hc, hbelow, List.append_assoc]⟩

/-- What is above the parent has fewer components. -/
theorem length_lt_of_parent? (hup : p.parent? = some up) (h : up.Ascends q) :
    q.components.length < p.components.length := by
  obtain ⟨c, hc⟩ := exists_components_of_parent? hup
  obtain ⟨below, hbelow⟩ := h.exists_components
  simp only [hc, hbelow, List.length_append, List.length_singleton]
  omega

/-- No way up leads in a circle. -/
theorem antisymm (h : p.Ascends q) (h' : q.Ascends p) : p = q := by
  rcases ReflTransGen.cases_head h with heq | ⟨up, hup, hq⟩
  · exact heq
  · have hlt := length_lt_of_parent? hup (hq.trans h')
    exact absurd hlt (Nat.lt_irrefl _)

/-- Of two places on one way up, one is above the other. -/
theorem total {d : FilePath} (h : d.Ascends p) (h' : d.Ascends q) :
    p.Ascends q ∨ q.Ascends p :=
  ReflTransGen.total_of_right_unique
    (fun _ _ _ hup hup' => Option.some.inj (hup.symm.trans hup')) h h'

end Ascends

/-- The way up leads to every front of the components that is not empty. -/
theorem exists_ascends {front : List Component} (hne : front ≠ [])
    (h : front <+: p.components) : ∃ q, p.Ascends q ∧ q.components = front := by
  induction p using induction_up with
  | step p ih =>
      by_cases heq : front = p.components
      · exact ⟨p, .refl, heq.symm⟩
      · have hlt : front.length < p.components.length :=
          Nat.lt_of_le_of_ne h.length_le fun hlen => heq (h.eq_of_length hlen)
        cases hup : p.parent? with
        | none =>
            -- without a parent there is one component at most, and the front has it
            have hle := length_components_of_no_parent hup
            have hpos := List.length_pos_iff.2 hne
            omega
        | some up =>
            obtain ⟨c, hc⟩ := exists_components_of_parent? hup
            have hfront : front <+: up.components := by
              rw [hc] at h heq
              exact (List.prefix_concat_iff.1 h).resolve_left heq
            obtain ⟨q, hq, hcomp⟩ := ih up hup hfront
            exact ⟨q, .head hup hq, hcomp⟩

end ModuleGraph.FilePath
