import ModuleGraph.FilePath
import ModuleGraph.Proofs.Text.Utf8

/-!
# Pieces and components

The pieces that mean something can be told from the components of a path, and the other way round.
A relative path that is followed from a directory puts its pieces behind those of the directory,
but for the empty piece that a final separator leaves. So the components of the whole are those
of the two parts.
-/

set_option autoImplicit false

namespace ModuleGraph.FilePath

open Text

/-! ## Pieces that mean something -/

/-- Whether a piece means something, so that a walk does not pass over it. -/
def isKept (piece : Bytes) : Bool := (Component.ofPiece? piece).isSome

theorem isKept_eq_false_iff {piece : Bytes} : isKept piece = false ↔ piece = [] ∨ piece = dot := by
  unfold isKept Component.ofPiece?
  by_cases h : piece = [] ∨ piece = dot
  · simp [h]
  · rw [if_neg h]
    constructor
    · intro hsome
      split at hsome <;> cases hsome
    · exact fun hor => absurd hor h

/-- The piece that a component below the root is spelled with. -/
def Component.piece : Component → Bytes
  | .root => []
  | .current => dot
  | .parent => dotDot
  | .normal name => name

theorem Component.piece_of_ofPiece? {piece : Bytes} {c : Component}
    (h : Component.ofPiece? piece = some c) : c.piece = piece := by
  unfold Component.ofPiece? at h
  split at h
  · cases h
  · split at h
    · next hup =>
        obtain rfl := Option.some.inj h
        exact hup.symm
    · obtain rfl := Option.some.inj h
      rfl

/-- The kept pieces can be told from the components. -/
theorem filter_isKept (pieces : List Bytes) :
    pieces.filter isKept = (pieces.filterMap Component.ofPiece?).map Component.piece := by
  induction pieces with
  | nil => rfl
  | cons piece rest ih =>
      cases h : Component.ofPiece? piece with
      | none =>
          have hkept : isKept piece = false := by rw [isKept, h]; rfl
          rw [List.filterMap_cons_none h, List.filter_cons, hkept]
          exact ih
      | some c =>
          have hkept : isKept piece = true := by rw [isKept, h]; rfl
          rw [List.filterMap_cons_some h, List.filter_cons, hkept, List.map_cons,
            Component.piece_of_ofPiece? h]
          exact congrArg (piece :: ·) ih

theorem separator_not_mem_pieces {p : FilePath} {piece : Bytes} (h : piece ∈ p.pieces) :
    separator ∉ piece := by
  intro hmem
  have hfalse := eq_false_of_mem_splitAll h hmem
  simp at hfalse

/-- Absolute paths of the same components have the same kept pieces. -/
theorem filter_isKept_eq {p q : FilePath} (h : p.components = q.components)
    (hp : p.isAbsolute = true) :
    q.isAbsolute = true ∧ p.pieces.filter isKept = q.pieces.filter isKept := by
  simp only [components, hp, if_true] at h
  by_cases hq : q.isAbsolute = true
  · rw [if_pos hq] at h
    rw [filter_isKept, filter_isKept, (List.cons.inj h).2]
    exact ⟨hq, rfl⟩
  · rw [if_neg hq] at h
    have hroot : Component.root ∉ q.pieces.filterMap Component.ofPiece? := by
      intro hmem
      obtain ⟨piece, -, hpiece⟩ := List.mem_filterMap.1 hmem
      unfold Component.ofPiece? at hpiece
      split at hpiece
      · cases hpiece
      · split at hpiece <;> cases hpiece
    split at h
    · cases (List.cons.inj h).1
    · rw [← h] at hroot
      exact absurd List.mem_cons_self hroot

theorem isAbsolute_eq_of_components_eq {p q : FilePath} (h : p.components = q.components) :
    p.isAbsolute = q.isAbsolute := by
  cases hp : p.isAbsolute with
  | true => exact (filter_isKept_eq h hp).1.symm
  | false =>
      cases hq : q.isAbsolute with
      | false => rfl
      | true => exact absurd (filter_isKept_eq h.symm hq).1 (by simp [hp])

/-! ## Joined paths -/

/-- Whether a path ends in a piece that means something, and not in a separator or a dot. -/
def EndsInName (p : FilePath) : Prop :=
  ∃ front name, p.pieces = front ++ [name] ∧ isKept name = true

theorem isAbsolute_cons (b : UInt8) (bs : Bytes) :
    isAbsolute ⟨b :: bs⟩ = (b == separator) := rfl

theorem pieces_of_relative {p : FilePath} (hp : p.isAbsolute = false) :
    p.pieces = splitAll (· == separator) p.bytes := by
  simp [pieces, hp]

theorem pieces_rooted (bs : Bytes) :
    pieces ⟨separator :: bs⟩ = splitAll (· == separator) bs := rfl

theorem pieces_cons {b : UInt8} (hb : b ≠ separator) (bs : Bytes) :
    pieces ⟨b :: bs⟩ = splitAll (· == separator) (b :: bs) :=
  pieces_of_relative (by simp [isAbsolute_cons, hb])

/-- A text that does not open with a slash spells a relative path, piece by piece between its
slashes. -/
theorem pieces_ofString_of_head {s : String} (h : s.toList.head? ≠ some '/') :
    (ofString s).isAbsolute = false ∧
      (ofString s).pieces = (splitAll (· == '/') s.toList).map encodeChars := by
  have habs : (ofString s).isAbsolute = false := by
    unfold isAbsolute
    rw [beq_eq_false_iff_ne]
    intro hhead
    cases hs : s.toList with
    | nil =>
        rw [ofString, utf8, hs] at hhead
        cases hhead
    | cons c cs =>
        obtain ⟨b, tail, hbytes, -⟩ := decodeHead_utf8EncodeChar c []
        rw [ofString, utf8, hs, encodeChars_cons, hbytes] at hhead
        obtain rfl : b = separator := Option.some.inj hhead
        have hmem : separator ∈ String.utf8EncodeChar c := hbytes ▸ List.mem_cons_self
        have hslash : '/' = c := Char.toNat_inj.1 (mem_utf8EncodeChar_of_lt hmem (by decide)).1
        exact h (by rw [hs, ← hslash]; rfl)
  exact ⟨habs, (pieces_of_relative habs).trans (splitAll_encodeChars (d := '/') (by decide) _)⟩

/-- The pieces of a relative path stand at the end of what it is joined to. -/
theorem exists_pieces_join (p : FilePath) {q : FilePath} (hq : q.isAbsolute = false) :
    (p.join q).isAbsolute = p.isAbsolute ∧
      ∃ front, (p.join q).pieces = front ++ q.pieces ∧
        (p.pieces = front ∨ p.pieces = front ++ [[]]) := by
  have hcut (xs ys : Bytes) : splitAll (· == separator) (xs ++ separator :: ys) =
      splitAll (· == separator) xs ++ splitAll (· == separator) ys :=
    splitAll_append_cons rfl xs ys
  have hlast (xs : Bytes) : splitAll (· == separator) (xs ++ [separator]) =
      splitAll (· == separator) xs ++ [[]] :=
    splitAll_append_singleton rfl xs
  obtain ⟨bytes⟩ := p
  cases bytes with
  | nil =>
      have hjoin : join ⟨[]⟩ q = q := by simp [join, hq]
      rw [hjoin, hq]
      exact ⟨rfl, [], rfl, Or.inr rfl⟩
  | cons b bs =>
      rw [pieces_of_relative hq]
      by_cases hend : (b :: bs).getLast? = some separator
      · have hjoin : join ⟨b :: bs⟩ q = ⟨b :: (bs ++ q.bytes)⟩ := by
          simp [join, hq, hend]
        rw [hjoin, isAbsolute_cons, isAbsolute_cons]
        refine ⟨rfl, ?_⟩
        obtain ⟨init, hinit⟩ := List.getLast?_eq_some_iff.1 hend
        -- the first separator of a rooted path is no cut, so the root has nothing before `q`
        by_cases hb : b = separator
        · subst hb
          cases init with
          | nil =>
              obtain rfl : bs = [] := by simpa using hinit
              exact ⟨[], rfl, Or.inr rfl⟩
          | cons a init =>
              obtain ⟨-, rfl⟩ : separator = a ∧ bs = init ++ [separator] := by simpa using hinit
              refine ⟨splitAll (· == separator) init, ?_, Or.inr ?_⟩
              · rw [pieces_rooted, List.append_assoc, List.singleton_append, hcut]
              · rw [pieces_rooted, hlast]
        · refine ⟨splitAll (· == separator) init, ?_, Or.inr ?_⟩
          · rw [pieces_cons hb, ← List.cons_append, hinit, List.append_assoc,
              List.singleton_append, hcut]
          · rw [pieces_cons hb, hinit, hlast]
      · have hjoin : join ⟨b :: bs⟩ q = ⟨b :: (bs ++ separator :: q.bytes)⟩ := by
          simp [join, hq, hend]
        rw [hjoin, isAbsolute_cons, isAbsolute_cons]
        refine ⟨rfl, ?_⟩
        by_cases hb : b = separator
        · subst hb
          refine ⟨splitAll (· == separator) bs, ?_, Or.inl rfl⟩
          rw [pieces_rooted, hcut]
        · refine ⟨splitAll (· == separator) (b :: bs), ?_, Or.inl (pieces_cons hb bs)⟩
          rw [pieces_cons hb, ← List.cons_append, hcut]

theorem endsInName_join (p : FilePath) {q : FilePath} (hq : q.isAbsolute = false)
    (h : q.EndsInName) : (p.join q).EndsInName := by
  obtain ⟨front, name, hpieces, hname⟩ := h
  obtain ⟨-, above, hjoin, -⟩ := exists_pieces_join p hq
  refine ⟨above ++ front, name, ?_, hname⟩
  rw [hjoin, hpieces, List.append_assoc]

/-- A relative path that does not open with a dot brings its own components and no others. -/
theorem components_join (p : FilePath) {q : FilePath} (hq : q.isAbsolute = false)
    (hdot : q.pieces.head? ≠ some dot) : (p.join q).components = p.components ++ q.components := by
  obtain ⟨habs, front, hjoin, hfront⟩ := exists_pieces_join p hq
  have hempty : Component.ofPiece? [] = none := rfl
  have hnamed : p.pieces.filterMap Component.ofPiece? = front.filterMap Component.ofPiece? := by
    rcases hfront with h | h
    · rw [h]
    · rw [h, List.filterMap_append]
      simp [hempty]
  have hhead : (front ++ q.pieces).head? = some dot ↔ p.pieces.head? = some dot := by
    cases front with
    | nil =>
        -- the path in front is empty, or the root
        have hp : p.pieces = [[]] := by
          rcases hfront with h | h
          · exact absurd h (splitAll_ne_nil _ _)
          · exact h
        rw [hp, List.nil_append]
        exact ⟨fun h => absurd h hdot, fun h => by simp [dot] at h⟩
    | cons piece rest =>
        rcases hfront with h | h <;> rw [h] <;> rfl
  simp only [components, habs, hjoin, hq, hdot, hhead, hnamed, List.filterMap_append]
  split
  · simp
  · split <;> simp

end ModuleGraph.FilePath
