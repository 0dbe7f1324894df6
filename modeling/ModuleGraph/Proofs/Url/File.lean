import ModuleGraph.Proofs.FilePath.Pieces
import ModuleGraph.Proofs.Text.Percent
import ModuleGraph.Url.File

/-!
# From paths to locations and back

The location of an absolute path keeps the names of the path and nothing else. The path that the
location denotes is spelled with those names, so two locations are the same if the paths they
denote are shown alike, provided the names are text.
-/

set_option autoImplicit false

namespace ModuleGraph

open Text FilePath

/-- The names of an absolute path, dots and empty pieces left out. -/
def FilePath.names (p : FilePath) : List Bytes := p.pieces.filter isKept

theorem FilePath.isKept_of_mem_names {p : FilePath} : ∀ name ∈ p.names, isKept name = true :=
  fun _ h => (List.mem_filter.1 h).2

/-- The components of an absolute path are the root and what its names mean. -/
theorem FilePath.components_of_names {p : FilePath} (hp : p.isAbsolute = true) :
    p.components = .root :: p.names.filterMap Component.ofPiece? := by
  have hnamed : p.names.filterMap Component.ofPiece? = p.pieces.filterMap Component.ofPiece? := by
    rw [names, List.filterMap_filter]
    refine congrArg (fun f => p.pieces.filterMap f) (funext fun piece => ?_)
    rw [isKept]
    cases Component.ofPiece? piece with
    | none => rfl
    | some c => rfl
  rw [components, if_pos hp, hnamed]

namespace Url

theorem isAbsolute_of_ofFilePath? {p : FilePath} {u : Url} (h : ofFilePath? p = some u) :
    p.isAbsolute = true := by
  unfold ofFilePath? at h
  split at h
  · next habs => exact habs
  · cases h

theorem isFile_ofFilePath? {p : FilePath} {u : Url} (h : ofFilePath? p = some u) :
    u.isFile = true := by
  unfold ofFilePath? at h
  split at h
  · exact Option.some.inj h ▸ rfl
  · cases h

theorem isFile_ofDirPath? {p : FilePath} {u : Url} (h : ofDirPath? p = some u) :
    u.isFile = true := by
  obtain ⟨v, hv, rfl⟩ := Option.map_eq_some_iff.1 h
  have hfile := isFile_ofFilePath? hv
  split
  · split
    · exact hfile
    · exact hfile
  · exact hfile

/-! ## Segments of names -/

/-- The segments that names are written as. -/
def segmentsOfNames (names : List Bytes) : List String :=
  (names.filterMap Component.ofPiece?).filterMap segmentOfComponent

theorem ofFilePath?_eq {p : FilePath} (hp : p.isAbsolute = true) :
    ofFilePath? p =
      some
        { scheme := "file", authority := some { host := "" }
          path := .segments
            (if (segmentsOfNames p.names).isEmpty then [""] else segmentsOfNames p.names) } := by
  have hsegments : p.components.filterMap segmentOfComponent = segmentsOfNames p.names := by
    rw [components_of_names hp, segmentsOfNames]
    rfl
  rw [ofFilePath?, if_pos hp]
  dsimp only
  rw [hsegments]

/-- The octets a segment stands for. -/
def octets (seg : String) : Bytes := percentDecode (utf8 seg)

theorem octets_of_component {c : Component} {piece : Bytes}
    (hc : Component.ofPiece? piece = some c) :
    ∃ seg, segmentOfComponent c = some seg ∧ octets seg = piece := by
  have hpiece := Component.piece_of_ofPiece? hc
  cases c with
  | root =>
      unfold Component.ofPiece? at hc
      split at hc
      · cases hc
      · split at hc <;> cases hc
  | current =>
      unfold Component.ofPiece? at hc
      split at hc
      · cases hc
      · split at hc <;> cases hc
  | parent => exact ⟨"..", rfl, hpiece ▸ by decide⟩
  | normal name =>
      refine ⟨_, rfl, ?_⟩
      have hset : '%' ∈ EscapeSet.fileName.chars := by decide
      rw [octets, utf8, String.toList_ofList, percentDecode_percentEncodeBytes hset]
      exact hpiece

/-- The segments of names stand for the names. -/
theorem map_octets_segmentsOfNames {names : List Bytes} (h : ∀ name ∈ names, isKept name = true) :
    (segmentsOfNames names).map octets = names := by
  induction names with
  | nil => rfl
  | cons name names ih =>
      have hname := h name List.mem_cons_self
      obtain ⟨c, hc⟩ := Option.isSome_iff_exists.1 hname
      obtain ⟨seg, hseg, hoctets⟩ := octets_of_component hc
      rw [segmentsOfNames, List.filterMap_cons_some hc, List.filterMap_cons_some hseg,
        List.map_cons, hoctets]
      exact congrArg (name :: ·) (ih fun name hname => h name (List.mem_cons_of_mem _ hname))

theorem octets_mem_of_segmentsOfNames {names : List Bytes}
    (h : ∀ name ∈ names, isKept name = true) {seg : String} (hseg : seg ∈ segmentsOfNames names) :
    octets seg ∈ names := by
  rw [← map_octets_segmentsOfNames h]
  exact List.mem_map_of_mem hseg

theorem segmentsOfNames_append (front back : List Bytes) :
    segmentsOfNames (front ++ back) = segmentsOfNames front ++ segmentsOfNames back := by
  rw [segmentsOfNames, List.filterMap_append, List.filterMap_append]
  rfl

/-! ## Paths of names -/

/-- Names spelled below the root. -/
def spell (names : List Bytes) : Bytes := names.flatMap (separator :: ·)

theorem splitAll_separator (bs : Bytes) :
    splitAll (· == separator) (separator :: bs) = [] :: splitAll (· == separator) bs := rfl

theorem splitAll_spell {names : List Bytes} (hsep : ∀ name ∈ names, separator ∉ name) :
    splitAll (· == separator) (spell names) = [] :: names := by
  induction names with
  | nil => rfl
  | cons name names ih =>
      have hname : ∀ b ∈ name, (b == separator) = false := by
        intro b hb
        rw [beq_eq_false_iff_ne]
        rintro rfl
        exact hsep name List.mem_cons_self hb
      have htail := ih fun name hname => hsep name (List.mem_cons_of_mem _ hname)
      rw [spell, List.flatMap_cons, List.cons_append, splitAll_separator,
        splitAll_append_of_forall hname]
      show [] :: (splitAll _ (spell names)).modifyHead (name ++ ·) = _
      rw [htail, List.modifyHead_cons, List.append_nil]

/-- A path spelled with pieces has those of them for its names that mean something, with or without
a separator at the end. -/
theorem names_spell {pieces : List Bytes} (hsep : ∀ piece ∈ pieces, separator ∉ piece)
    {bytes : Bytes}
    (hbytes : bytes = separator :: (spell pieces).tail ∨
      bytes = separator :: (spell pieces).tail ++ [separator]) :
    FilePath.names ⟨bytes⟩ = pieces.filter isKept := by
  have hempty : ([[]] : List Bytes).filter isKept = [] := by decide
  have hcut : (splitAll (· == separator) (spell pieces).tail).filter isKept =
      pieces.filter isKept := by
    have hspell := splitAll_spell hsep
    cases pieces with
    | nil => rfl
    | cons piece pieces =>
        rw [spell, List.flatMap_cons, List.cons_append, splitAll_separator] at hspell
        rw [spell, List.flatMap_cons, List.cons_append, List.tail_cons, (List.cons.inj hspell).2]
  -- a separator at the end adds an empty piece, which is no name
  rcases hbytes with rfl | rfl
  · rw [FilePath.names, pieces_rooted]
    exact hcut
  · have hlast : splitAll (· == separator) ((spell pieces).tail ++ [separator]) =
        splitAll (· == separator) (spell pieces).tail ++ [[]] :=
      splitAll_append_singleton rfl _
    rw [FilePath.names, List.cons_append, pieces_rooted, hlast, List.filter_append, hcut, hempty,
      List.append_nil]

theorem separator_not_mem_names {p : FilePath} {name : Bytes} (h : name ∈ p.names) :
    separator ∉ name :=
  separator_not_mem_pieces (List.mem_filter.1 h).1

/-! ## The path of a location -/

/-- The names that segments stand for. -/
def namesOfSegments (segs : List String) : List Bytes := (segs.map octets).filter isKept

theorem namesOfSegments_segmentsOfNames {names : List Bytes}
    (h : ∀ name ∈ names, isKept name = true) :
    namesOfSegments (segmentsOfNames names) = names := by
  rw [namesOfSegments, map_octets_segmentsOfNames h, List.filter_eq_self.2 h]

/-- A location with segments denotes the path spelled with what they stand for. What looks like a
drive is completed by a separator. -/
theorem toFilePath?_of_segments {u : Url} {segs : List String} (hpath : u.path = .segments segs)
    (hne : segs ≠ []) (hlocal : u.isLocal = true) :
    u.toFilePath? = some ⟨if endsLikeDrive (spell (segs.map octets)) then
      spell (segs.map octets) ++ [separator] else spell (segs.map octets)⟩ := by
  have hspell : spell (segs.map octets) = segs.flatMap fun seg => separator :: octets seg := by
    rw [spell, List.flatMap_map]
  unfold toFilePath?
  rw [hpath, hspell]
  cases segs with
  | nil => exact absurd rfl hne
  | cons seg segs => exact if_pos hlocal

/-- The path has the names that the segments stand for. -/
theorem exists_path_of_segments {u : Url} {segs : List String} (hpath : u.path = .segments segs)
    (hne : segs ≠ []) (hlocal : u.isLocal = true)
    (hsep : ∀ seg ∈ segs, separator ∉ octets seg) :
    ∃ p, u.toFilePath? = some p ∧ p.isAbsolute = true ∧ p.names = namesOfSegments segs := by
  refine ⟨_, toFilePath?_of_segments hpath hne hlocal, ?_⟩
  obtain ⟨tail, htail⟩ : ∃ tail, spell (segs.map octets) = separator :: tail := by
    cases segs with
    | nil => exact absurd rfl hne
    | cons seg segs => exact ⟨_, rfl⟩
  have hwhole : ∀ piece ∈ segs.map octets, separator ∉ piece := by
    intro piece hpiece
    obtain ⟨seg, hseg, rfl⟩ := List.mem_map.1 hpiece
    exact hsep seg hseg
  have hnames := @names_spell _ hwhole
  rw [htail, List.tail_cons] at hnames
  rw [htail]
  split
  · exact ⟨rfl, hnames (Or.inr rfl)⟩
  · exact ⟨rfl, hnames (Or.inl rfl)⟩

/-- The location of an absolute path denotes a path spelled with the same names. -/
theorem exists_toFilePath? {p : FilePath} (hp : p.isAbsolute = true) {u : Url}
    (hu : ofFilePath? p = some u) :
    ∃ q, u.toFilePath? = some q ∧
      (q.bytes = separator :: (spell p.names).tail ∨
        q.bytes = separator :: (spell p.names).tail ++ [separator]) := by
  have hoctets := map_octets_segmentsOfNames (isKept_of_mem_names (p := p))
  rw [ofFilePath?_eq hp] at hu
  obtain rfl := Option.some.inj hu
  have hne : (if (segmentsOfNames p.names).isEmpty then [""] else segmentsOfNames p.names) ≠
      [] := by
    cases segmentsOfNames p.names with
    | nil => exact List.cons_ne_nil _ _
    | cons seg segs => exact List.cons_ne_nil _ _
  have hbytes : spell ((if (segmentsOfNames p.names).isEmpty then [""]
      else segmentsOfNames p.names).map octets) = separator :: (spell p.names).tail := by
    cases hsegs : segmentsOfNames p.names with
    | nil =>
        rw [hsegs, List.map_nil] at hoctets
        rw [← hoctets]
        rfl
    | cons seg segs =>
        rw [hsegs] at hoctets
        rw [← hoctets]
        rfl
  refine ⟨_, toFilePath?_of_segments rfl hne rfl, ?_⟩
  dsimp only
  rw [hbytes]
  split
  · exact Or.inr rfl
  · exact Or.inl rfl

/-- The path that the location of a path denotes is absolute and has the same names. -/
theorem names_of_toFilePath? {p q : FilePath} {u : Url} (hu : ofFilePath? p = some u)
    (hq : u.toFilePath? = some q) : q.isAbsolute = true ∧ q.names = p.names := by
  obtain ⟨q', hq', hbytes⟩ := exists_toFilePath? (isAbsolute_of_ofFilePath? hu) hu
  obtain rfl : q' = q := Option.some.inj (hq'.symm.trans hq)
  have hsep : ∀ name ∈ p.names, separator ∉ name := fun name h => separator_not_mem_names h
  refine ⟨?_, (names_spell hsep hbytes).trans (List.filter_eq_self.2 isKept_of_mem_names)⟩
  rw [isAbsolute]
  rcases hbytes with hbytes | hbytes
  · rw [hbytes]
    rfl
  · rw [hbytes]
    rfl

/-! ## Paths that are text -/

theorem isText_names {s : String} (h : (FilePath.ofString s).isAbsolute = true) :
    ∀ name ∈ (FilePath.ofString s).names, IsText name := by
  intro name hname
  have hpiece : name ∈ (FilePath.ofString s).pieces := (List.mem_filter.1 hname).1
  cases hcs : s.toList with
  | nil =>
      rw [isAbsolute, FilePath.ofString, utf8, hcs] at h
      cases h
  | cons c cs =>
      obtain ⟨b, tail, hc, -⟩ := decodeHead_utf8EncodeChar c []
      -- the first octet of an absolute path is all of its first character
      have hb : b = separator := by
        rw [isAbsolute, FilePath.ofString, utf8, hcs, encodeChars_cons, hc] at h
        simpa using h
      have hone : String.utf8EncodeChar c = [separator] := by
        have hmem : b ∈ String.utf8EncodeChar c := hc ▸ List.mem_cons_self
        rw [hb] at hmem
        exact (mem_utf8EncodeChar_of_lt hmem (by decide)).2
      have hbytes : FilePath.ofString s = ⟨separator :: encodeChars cs⟩ := by
        rw [FilePath.ofString, utf8, hcs, encodeChars_cons, hone]
        rfl
      have hsplit : splitAll (· == separator) (encodeChars cs) =
          (splitAll (· == '/') cs).map encodeChars :=
        splitAll_encodeChars (d := '/') (by decide) cs
      rw [hbytes, pieces_rooted, hsplit] at hpiece
      obtain ⟨part, -, rfl⟩ := List.mem_map.1 hpiece
      exact ⟨part, rfl⟩

theorem isText_spell {names : List Bytes} (h : ∀ name ∈ names, IsText name) :
    IsText (separator :: (spell names).tail) := by
  cases names with
  | nil => exact ⟨['/'], rfl⟩
  | cons name names =>
      show IsText (spell (name :: names))
      generalize name :: names = names at h
      induction names with
      | nil => exact ⟨[], rfl⟩
      | cons name names ih =>
          obtain ⟨cs, rfl⟩ := h name List.mem_cons_self
          obtain ⟨rest, hrest⟩ := ih fun name hname => h name (List.mem_cons_of_mem _ hname)
          refine ⟨'/' :: cs ++ rest, ?_⟩
          rw [encodeChars_append, encodeChars_cons, ← hrest]
          rfl

/-- The path that the location of a text denotes is told from how it is shown, and spelled with the
names of the text. -/
theorem spelled_of_toFilePath? {s : String} {u : Url} {p : FilePath}
    (hu : ofFilePath? (.ofString s) = some u) (hp : u.toFilePath? = some p) :
    FilePath.ofString p.display = p ∧ p.isAbsolute = true ∧
      p.names = (FilePath.ofString s).names := by
  have habs := isAbsolute_of_ofFilePath? hu
  obtain ⟨p', hp', hbytes⟩ := exists_toFilePath? habs hu
  obtain rfl : p' = p := Option.some.inj (hp'.symm.trans hp)
  obtain ⟨cs, hcs⟩ := isText_spell (isText_names habs)
  have htext : ∃ cs, p'.bytes = encodeChars cs := by
    rcases hbytes with hbytes | hbytes
    · exact ⟨cs, hbytes.trans hcs⟩
    · refine ⟨cs ++ ['/'], ?_⟩
      rw [hbytes, hcs, encodeChars_append]
      rfl
  obtain ⟨cs', hcs'⟩ := htext
  have hstring : p' = .ofString (String.ofList cs') := by
    rw [FilePath.ofString, utf8, String.toList_ofList, ← hcs']
  refine ⟨?_, names_of_toFilePath? hu hp⟩
  rw [hstring]
  exact congrArg FilePath.ofString (lossy_utf8 _)

/-- Locations of paths that are text are the same if the paths they denote are shown alike. -/
theorem ofFilePath?_eq_of_display_eq {s t : String} {u v : Url} {p q : FilePath}
    (hu : ofFilePath? (.ofString s) = some u) (hv : ofFilePath? (.ofString t) = some v)
    (hp : u.toFilePath? = some p) (hq : v.toFilePath? = some q) (hdisplay : p.display = q.display) :
    u = v := by
  obtain ⟨hshown, -, hnames⟩ := spelled_of_toFilePath? hu hp
  obtain ⟨hshown', -, hnames'⟩ := spelled_of_toFilePath? hv hq
  have hpath : p = q := by rw [← hshown, hdisplay, hshown']
  have hsame : (FilePath.ofString s).names = (FilePath.ofString t).names := by
    rw [← hnames, ← hnames', hpath]
  rw [ofFilePath?_eq (isAbsolute_of_ofFilePath? hu), hsame,
    ← ofFilePath?_eq (isAbsolute_of_ofFilePath? hv), hv] at hu
  exact (Option.some.inj hu).symm

end Url

end ModuleGraph
