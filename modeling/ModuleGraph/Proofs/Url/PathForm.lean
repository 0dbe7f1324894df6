import ModuleGraph.Proofs.Url.Rereading
import ModuleGraph.Resolve.Specifier

/-!
# Paths that are read as references

A user may write a path where a reference is expected. A reference takes `..` back as it is read,
segment by segment, and a path keeps it; but for that, a text of plain characters that opens with a
dot says the same to both: the names it adds to a directory are its pieces.
-/

set_option autoImplicit false

namespace ModuleGraph

open Text FilePath

/-- A path is told by its opening. -/
theorem SpecifierKind.of_eq_path_iff {s : String} :
    SpecifierKind.of s = .path ↔ ∃ opening ∈ pathOpenings, ∃ cs, s.toList = opening ++ cs := by
  constructor
  · intro h
    unfold SpecifierKind.of at h
    dsimp only at h
    split at h
    · cases h
    · split at h
      · next hpath =>
          obtain ⟨opening, hopening, hstarts⟩ := List.any_eq_true.1 hpath
          obtain ⟨cs, hcs⟩ := Option.isSome_iff_exists.1 hstarts
          exact ⟨opening, hopening, cs, stripFront?_eq_some.1 hcs⟩
      · split at h
        · cases h
        · cases h
  · rintro ⟨opening, hopening, cs, hs⟩
    unfold SpecifierKind.of
    rw [hs]
    simp only [pathOpenings, List.mem_cons, List.not_mem_nil, or_false] at hopening
    rcases hopening with rfl | rfl | rfl
    · rfl
    · rfl
    · rfl

namespace Url

/-! ## Plain text -/

/-- Whether a character stands for itself in a path and in a reference: no control, no escape, no
mark that ends a path, and no second kind of slash. -/
def isPlain (c : Char) : Bool := 0x20 ≤ c.toNat && c != '%' && c != '?' && c != '#' && c != '\\'

/-- A relative path in plain characters that opens with `./` or `../`. Blanks at the end would not
be read. -/
structure IsPathForm (s : String) : Prop where
  opening : ∃ cs, s.toList = '.' :: '/' :: cs ∨ s.toList = '.' :: '.' :: '/' :: cs
  plain : ∀ c ∈ s.toList, isPlain c = true
  last : s.toList.getLast? ≠ some ' '

/-- What stands between the slashes of a text. -/
def segmentsOf (s : String) : List (List Char) := splitAll (· == '/') s.toList

theorem isPlain_iff {c : Char} : isPlain c = true ↔
    0x20 ≤ c.toNat ∧ c ≠ '%' ∧ c ≠ '?' ∧ c ≠ '#' ∧ c ≠ '\\' := by
  simp [isPlain, and_assoc]

theorem ne_of_isPlain {c d : Char} (hc : isPlain c = true) (hd : isPlain d = false) : c ≠ d := by
  rintro rfl
  rw [hc] at hd
  cases hd

/-- A text that opens with a dot, holds no mark and does not end in a blank is all path. -/
theorem reference_of_dot {s : String} {cs : List Char} (hs : s.toList = '.' :: cs)
    (hlast : ∀ c ∈ s.toList.getLast?, isControlOrSpace c = false) (hquery : '?' ∉ s.toList)
    (hfragment : '#' ∉ s.toList) : Reference.ofString s =
      { scheme := none, body := s.toList, query := none, fragment := none } := by
  rw [Reference.ofString_cons hs (by decide) (by decide), reverse_dropWhile_of_getLast? hlast,
    cutAt_of_not_mem hfragment]
  dsimp only
  rw [cutAt_of_not_mem hquery]

namespace IsPathForm

variable {s : String} (h : IsPathForm s)
include h

theorem exists_dot : ∃ cs, s.toList = '.' :: cs := by
  obtain ⟨cs, hs | hs⟩ := h.opening
  · exact ⟨_, hs⟩
  · exact ⟨_, hs⟩

theorem specifierKind : SpecifierKind.of s = .path := by
  obtain ⟨cs, hs | hs⟩ := h.opening
  · exact SpecifierKind.of_eq_path_iff.2 ⟨['.', '/'], by decide, cs, hs⟩
  · exact SpecifierKind.of_eq_path_iff.2 ⟨['.', '.', '/'], by decide, cs, hs⟩

/-- As a reference the text is all path. -/
theorem reference_ofString : Reference.ofString s =
    { scheme := none, body := s.toList, query := none, fragment := none } := by
  obtain ⟨cs, hs⟩ := h.exists_dot
  have hmark {mark : Char} (hmark : isPlain mark = false) : mark ∉ s.toList :=
    fun hmem => ne_of_isPlain (h.plain mark hmem) hmark rfl
  refine reference_of_dot hs (fun c hc => ?_) (hmark (by decide)) (hmark (by decide))
  have hlow := (isPlain_iff.1 (h.plain c (List.mem_of_getLast? hc))).1
  have hspace : c.toNat ≠ ' '.toNat := by
    intro heq
    rw [Char.toNat_inj.1 heq] at hc
    exact h.last hc
  have hcode : ' '.toNat = 0x20 := rfl
  simp only [isControlOrSpace, decide_eq_false_iff_not]
  omega

theorem segmentsRead_eq : segmentsRead s = segmentsOf s := by
  rw [segmentsRead, h.reference_ofString]
  refine splitAll_congr fun c hc => ?_
  have hbackslash : c ≠ '\\' := ne_of_isPlain (h.plain c hc) (by decide)
  show (decide (c = '/') || decide (c = '\\')) = decide (c = '/')
  rw [decide_eq_false hbackslash, Bool.or_false]

/-- Followed from a directory on the local machine it leads to a file there. -/
theorem exists_join? {u : Url} {dirs : List String}
    (hu : u.IsDirectory dirs ∧ u.authority = some localFile) :
    ∃ v, u.join? s = some v ∧ v.isLocal = true ∧ v.isFile = true ∧
      v.path = .segments (destination dirs (segmentsOf s)) ∧ v.query = none ∧
      v.fragment = none := by
  obtain ⟨cs, hs⟩ := h.exists_dot
  have hjoin := join?_dot hu.1.startsAt hs
  rw [h.reference_ofString, hu.2, h.segmentsRead_eq] at hjoin
  exact ⟨_, hjoin, rfl, rfl, rfl, rfl, rfl⟩

theorem pieces_ofString : (FilePath.ofString s).isAbsolute = false ∧
    (FilePath.ofString s).pieces = (segmentsOf s).map encodeChars := by
  obtain ⟨cs, hs⟩ := h.exists_dot
  refine pieces_ofString_of_head fun hslash => ?_
  rw [hs] at hslash
  cases hslash

/-- As a path the text adds its pieces to those of a directory. -/
theorem names_joinText (p : FilePath) : (p.joinText s).isAbsolute = p.isAbsolute ∧
    (p.joinText s).names = p.names ++ ((segmentsOf s).map encodeChars).filter isKept := by
  obtain ⟨hrelative, hpieces⟩ := h.pieces_ofString
  obtain ⟨habs, front, hjoin, hfront⟩ := exists_pieces_join p hrelative
  have hempty : ([[]] : List Bytes).filter isKept = [] := by decide
  have hnames : p.names = front.filter isKept := by
    rw [FilePath.names]
    rcases hfront with hfront | hfront
    · rw [hfront]
    · rw [hfront, List.filter_append, hempty, List.append_nil]
  refine ⟨habs, ?_⟩
  rw [FilePath.names, joinText, hjoin, List.filter_append, hnames, hpieces]

theorem plain_segmentsOf : ∀ seg ∈ segmentsOf s, ∀ c ∈ seg, isPlain c = true :=
  fun _ hseg c hc => h.plain c (mem_of_mem_splitAll hseg hc)

end IsPathForm

theorem slash_not_mem_segmentsOf {s : String} : ∀ seg ∈ segmentsOf s, '/' ∉ seg := by
  intro seg hseg hmem
  cases eq_false_of_mem_splitAll hseg hmem

/-! ## Plain segments -/

/-- A drive is only cut off where a tab or a line end follows it. -/
theorem cutDrive?_of_dropTabs {seg : List Char} (h : dropTabs seg = seg) :
    cutDrive? seg = none := by
  cases hdrive : cutDrive? seg with
  | none => rfl
  | some parts =>
      obtain ⟨-, -, -, -, -, c, hc, htab⟩ := cutDrive?_eq_some hdrive
      have hkept : c ∈ dropTabs seg := h.symm ▸ hc
      have hfalse := (List.mem_filter.1 hkept).2
      rw [htab] at hfalse
      cases hfalse

theorem keeps_of_isAlpha {c : Char} (h : c.isAlpha = true) : EscapeSet.path.Keeps c := by
  have hmarks : ∀ d ∈ EscapeSet.path.chars, d.isAlpha = false :=
    List.all_iff_forall_prop.1 (by decide)
  have hrange := toNat_of_isAlpha h
  refine ⟨by omega, by omega, fun hmem => ?_⟩
  rw [hmarks c hmem] at h
  cases h

section Segment

variable {seg : List Char} (h : ∀ c ∈ seg, isPlain c = true)
include h

theorem dropTabs_plain : dropTabs seg = seg :=
  dropTabs_eq_self fun c hc => (isPlain_iff.1 (h c hc)).1

theorem percentDecode_plain : percentDecode (encodeChars seg) = encodeChars seg :=
  percentDecode_eq_self fun hmem =>
    absurd (h _ (mem_encodeChars_of_lt (by decide) hmem)) (by decide)

/-- A plain segment stands for its own octets. -/
theorem octets_segmentText : octets (Trail.segmentText seg) = encodeChars seg := by
  have hdecode : percentDecode (encodeChars (percentEncode EscapeSet.path seg)) =
      percentDecode (encodeChars seg) :=
    percentDecode_escapedBytes EscapeSet.path_keepsEscapes _
  rw [octets, utf8, Trail.segmentText, String.toList_ofList, dropTabs_plain h, hdecode,
    percentDecode_plain h]

theorem isDoubleDot_plain : isDoubleDot seg = true ↔ encodeChars seg = dotDot := by
  rw [isDoubleDot_iff]
  constructor
  · intro hdot
    rw [← percentDecode_plain h]
    exact percentDecode_of_plainSegment (by decide) hdot
  · intro hdot
    rw [plainSegment, percentDecode_plain h, hdot]
    decide +kernel

theorem not_doubleDot_plain (hup : encodeChars seg ≠ dotDot) :
    isDoubleDot (dropTabs seg) = false := by
  rw [dropTabs_plain h, ← Bool.not_eq_true, isDoubleDot_plain h]
  exact hup

theorem isSingleDot_plain : isSingleDot seg = true ↔ encodeChars seg = dot := by
  rw [isSingleDot_iff]
  constructor
  · intro hdot
    rw [← percentDecode_plain h]
    exact percentDecode_of_plainSegment (by decide) hdot
  · intro hdot
    rw [plainSegment, percentDecode_plain h, hdot]
    decide +kernel

/-- A plain segment is written for itself, unless it is read as a drive at the root. -/
theorem namesOf_plain {atRoot : Bool}
    (hbar : atRoot = false ∨ ∀ letter : Char, letter.isAlpha = true → seg ≠ [letter, '|']) :
    namesOf atRoot seg = [Trail.segmentText seg] := by
  have htabs := dropTabs_plain h
  have hnone := cutDrive?_of_dropTabs (dropTabs_plain h)
  unfold namesOf
  rw [hnone, htabs]
  cases atRoot with
  | false => rfl
  | true =>
      show (if isDrive seg = true then _ else _) = _
      split
      · next hdrive =>
          obtain ⟨letter, mark, rfl, halpha, hmark⟩ := exists_of_isDrive hdrive
          rcases hmark with rfl | rfl
          · have hkeeps : ∀ c ∈ [letter, ':'], EscapeSet.path.Keeps c := by
              simp only [List.mem_cons, List.not_mem_nil, or_false]
              rintro c (rfl | rfl)
              · exact keeps_of_isAlpha halpha
              · decide
            rw [Trail.segmentText, htabs, percentEncode_eq_self hkeeps]
            rfl
          · exact absurd rfl (hbar.resolve_left (by decide) letter halpha)
      · rfl

/-- At the root a drive may be written with a colon in the place of its bar. -/
theorem octets_of_mem_namesOf {atRoot : Bool} {name : String} (hname : name ∈ namesOf atRoot seg) :
    octets name = encodeChars seg ∨
      ∃ letter ∈ seg, octets name = encodeChars [letter, ':'] := by
  by_cases hdrive : atRoot = true ∧ isDrive seg = true
  · obtain ⟨rfl, hdrive⟩ := hdrive
    have hnone := cutDrive?_of_dropTabs (dropTabs_plain h)
    obtain ⟨letter, mark, rfl, -, -⟩ := exists_of_isDrive hdrive
    have hplain : ∀ c ∈ [letter, ':'], isPlain c = true := by
      simp only [List.mem_cons, List.not_mem_nil, or_false]
      rintro c (rfl | rfl)
      · exact h c List.mem_cons_self
      · decide
    refine Or.inr ⟨letter, List.mem_cons_self, ?_⟩
    unfold namesOf at hname
    rw [if_pos rfl, hnone, dropTabs_plain h, hdrive] at hname
    rw [List.mem_singleton.1 hname, octets, utf8, String.toList_ofList]
    exact percentDecode_plain hplain
  · refine Or.inl ?_
    have hbar : atRoot = false ∨ ∀ letter : Char, letter.isAlpha = true → seg ≠ [letter, '|'] := by
      cases atRoot with
      | false => exact Or.inl rfl
      | true =>
          refine Or.inr fun letter halpha heq => hdrive ⟨rfl, ?_⟩
          rw [heq, isDrive, halpha]
          rfl
    rw [namesOf_plain h hbar] at hname
    rw [List.mem_singleton.1 hname, octets_segmentText h]

end Segment

/-- A piece of text that takes no name back. -/
structure IsTextPiece (bs : Bytes) : Prop where
  whole : separator ∉ bs
  text : IsText bs
  notUp : bs ≠ dotDot

theorem separator_not_mem_encodeChars {cs : List Char} (h : '/' ∉ cs) :
    separator ∉ encodeChars cs :=
  fun hmem => h (mem_encodeChars_of_lt (by decide) hmem)

/-! ## Names on the way -/

section Names

variable {here : List String} {segs : List (List Char)}

theorem namesOfSegments_append (front back : List String) :
    namesOfSegments (front ++ back) = namesOfSegments front ++ namesOfSegments back := by
  rw [namesOfSegments, List.map_append, List.filter_append]
  rfl

theorem namesOfSegments_empty : namesOfSegments [""] = [] := by decide

theorem namesOfSegments_dropEmptyFront (segs : List String) :
    namesOfSegments (dropEmptyFront segs) = namesOfSegments segs := by
  induction segs with
  | nil => rfl
  | cons seg segs ih =>
      by_cases hseg : seg = ""
      · subst hseg
        rw [dropEmptyFront_empty_cons, ih]
        exact (namesOfSegments_append [""] segs).symm
      · rw [dropEmptyFront_of_head (List.cons_ne_nil _ _) (by simpa using hseg)]

/-- A slash at the end adds no name. -/
theorem namesOfSegments_followFrom (here : List String) (segs : List (List Char)) :
    namesOfSegments (followFrom here segs) = namesOfSegments (segs.foldl stepFrom here) := by
  rcases List.eq_nil_or_concat segs with rfl | ⟨front, seg, rfl⟩
  · rfl
  · rw [List.concat_eq_append, followFrom_append _ _ (List.cons_ne_nil _ _), List.foldl_append]
    show namesOfSegments (lastFrom _ seg) = namesOfSegments (stepFrom _ seg)
    rcases lastFrom_cases (front.foldl stepFrom here) seg with hlast | hlast
    · rw [hlast]
    · rw [hlast, namesOfSegments_append, namesOfSegments_empty, List.append_nil]

/-- A plain segment that is not `..` adds the name that it stands for, if any. -/
theorem names_stepFrom {seg : List Char} (h : ∀ c ∈ seg, isPlain c = true)
    (hup : encodeChars seg ≠ dotDot)
    (hbar : here ≠ [] ∨ ∀ letter : Char, letter.isAlpha = true → seg ≠ [letter, '|']) :
    namesOfSegments (stepFrom here seg) =
      namesOfSegments here ++ [encodeChars seg].filter isKept := by
  rw [stepFrom, not_doubleDot_plain h hup, if_neg Bool.false_ne_true]
  by_cases hdot : encodeChars seg = dot
  · have hsingle : isSingleDot (dropTabs seg) = true := by
      rw [dropTabs_plain h, isSingleDot_plain h]
      exact hdot
    rw [if_pos hsingle, hdot]
    exact (List.append_nil _).symm
  · have hsingle : isSingleDot (dropTabs seg) = false := by
      rw [dropTabs_plain h, ← Bool.not_eq_true, isSingleDot_plain h]
      exact hdot
    have hroot : here.isEmpty = false ∨
        ∀ letter : Char, letter.isAlpha = true → seg ≠ [letter, '|'] := by
      simpa using hbar
    rw [hsingle, if_neg Bool.false_ne_true, namesOf_plain h hroot, namesOfSegments_append]
    exact congrArg (namesOfSegments here ++ [·].filter isKept) (octets_segmentText h)

theorem stepFrom_ne_nil (hhere : here ≠ []) {seg : List Char}
    (hdouble : isDoubleDot (dropTabs seg) = false) : stepFrom here seg ≠ [] := by
  rw [stepFrom, hdouble, if_neg Bool.false_ne_true]
  split
  · exact hhere
  · exact List.append_ne_nil_of_left_ne_nil hhere _

/-- Without `..`, plain segments add the names that they stand for. -/
theorem names_foldl_stepFrom (h : ∀ seg ∈ segs, ∀ c ∈ seg, isPlain c = true)
    (hup : dotDot ∉ segs.map encodeChars)
    (hbar : here ≠ [] ∨
      ∀ seg ∈ segs, ∀ letter : Char, letter.isAlpha = true → seg ≠ [letter, '|']) :
    namesOfSegments (segs.foldl stepFrom here) =
      namesOfSegments here ++ (segs.map encodeChars).filter isKept := by
  induction segs generalizing here with
  | nil => exact (List.append_nil _).symm
  | cons seg segs ih =>
      obtain ⟨hseg, hsegs⟩ := List.forall_mem_cons.1 h
      obtain ⟨hfirst, hrest⟩ := not_or.1 (fun hmem => hup (List.mem_cons.2 hmem))
      have hdouble := not_doubleDot_plain hseg (Ne.symm hfirst)
      have hbar' : here ≠ [] ∨ ∀ letter : Char, letter.isAlpha = true → seg ≠ [letter, '|'] :=
        hbar.imp_right fun hall => hall seg List.mem_cons_self
      have hnext : stepFrom here seg ≠ [] ∨
          ∀ seg ∈ segs, ∀ letter : Char, letter.isAlpha = true → seg ≠ [letter, '|'] := by
        rcases hbar with hhere | hall
        · exact Or.inl (stepFrom_ne_nil hhere hdouble)
        · exact Or.inr fun seg hmem => hall seg (List.mem_cons_of_mem _ hmem)
      rw [List.foldl_cons, ih hsegs hrest hnext, names_stepFrom hseg (Ne.symm hfirst) hbar',
        List.append_assoc, ← List.filter_append]
      rfl

theorem climb_sublist (here : List String) : (climb here).Sublist here := by
  unfold climb
  split
  · exact .refl _
  · split
    · exact .refl _
    · exact List.dropLast_sublist _

/-- With `..`, they do not add more than the names that they stand for. -/
theorem length_names_foldl_stepFrom (here : List String)
    (h : ∀ seg ∈ segs, ∀ c ∈ seg, isPlain c = true)
    (hbar : ∀ seg ∈ segs, ∀ letter : Char, letter.isAlpha = true → seg ≠ [letter, '|']) :
    (namesOfSegments (segs.foldl stepFrom here)).length ≤
      (namesOfSegments here).length +
        (((segs.map encodeChars).filter (· != dotDot)).filter isKept).length := by
  induction segs generalizing here with
  | nil => exact Nat.le_refl _
  | cons seg segs ih =>
      obtain ⟨hseg, hsegs⟩ := List.forall_mem_cons.1 h
      obtain ⟨hbar, hbars⟩ := List.forall_mem_cons.1 hbar
      have htail := ih (stepFrom here seg) hsegs hbars
      rw [List.foldl_cons, List.map_cons]
      by_cases hup : encodeChars seg = dotDot
      · have hstep : stepFrom here seg = climb here := by
          rw [stepFrom, dropTabs_plain hseg, (isDoubleDot_plain hseg).2 hup, if_pos rfl]
        have hclimb : (namesOfSegments (climb here)).length ≤ (namesOfSegments here).length :=
          (((climb_sublist here).map octets).filter isKept).length_le
        rw [List.filter_cons_of_neg (by simpa using hup)]
        rw [hstep] at htail ⊢
        exact Nat.le_trans htail (Nat.add_le_add_right hclimb _)
      · rw [names_stepFrom hseg hup (Or.inr hbar), List.length_append] at htail
        rw [List.filter_cons_of_pos (by simpa using hup), ← List.singleton_append,
          List.filter_append, List.length_append]
        omega

theorem length_names_lt (here : List String) (h : ∀ seg ∈ segs, ∀ c ∈ seg, isPlain c = true)
    (hbar : ∀ seg ∈ segs, ∀ letter : Char, letter.isAlpha = true → seg ≠ [letter, '|'])
    (hup : dotDot ∈ segs.map encodeChars) :
    (namesOfSegments (segs.foldl stepFrom here)).length <
      (namesOfSegments here).length + ((segs.map encodeChars).filter isKept).length := by
  have hle := length_names_foldl_stepFrom here h hbar
  have hlt : (((segs.map encodeChars).filter isKept).filter (· != dotDot)).length <
      ((segs.map encodeChars).filter isKept).length :=
    List.length_filter_lt_length_iff_exists.2
      ⟨dotDot, List.mem_filter.2 ⟨hup, by decide⟩, by decide⟩
  have hcomm : ((segs.map encodeChars).filter (· != dotDot)).filter isKept =
      ((segs.map encodeChars).filter isKept).filter (· != dotDot) := by
    rw [List.filter_filter, List.filter_filter]
    exact List.filter_congr fun _ _ => Bool.and_comm _ _
  rw [hcomm] at hle
  omega

/-- What segments lead to stands for pieces of text and takes no name back. -/
theorem isTextPiece_of_destination (hdirs : ∀ name ∈ here, IsTextPiece (octets name))
    (h : ∀ seg ∈ segs, ∀ c ∈ seg, isPlain c = true) (hslash : ∀ seg ∈ segs, '/' ∉ seg) :
    ∀ name ∈ destination here segs, IsTextPiece (octets name) := by
  have hempty : IsTextPiece (octets "") := ⟨by decide, ⟨[], rfl⟩, by decide⟩
  refine (forall_dropEmptyFront (P := fun name => IsTextPiece (octets name)) hempty _).2 ?_
  refine forall_followFrom hdirs hempty fun seg hseg hdouble atRoot name hname => ?_
  rcases octets_of_mem_namesOf (h seg hseg) hname with heq | ⟨letter, hletter, heq⟩
  · rw [heq]
    refine ⟨separator_not_mem_encodeChars (hslash seg hseg), ⟨seg, rfl⟩, ?_⟩
    rw [dropTabs_plain (h seg hseg), ← Bool.not_eq_true, isDoubleDot_plain (h seg hseg)] at hdouble
    exact hdouble
  · rw [heq]
    have hslash' : '/' ∉ [letter, ':'] := by
      simp only [List.mem_cons, List.not_mem_nil, or_false, not_or]
      refine ⟨?_, by decide⟩
      rintro rfl
      exact hslash seg hseg hletter
    have hcolon : (0x3A : UInt8) ∈ encodeChars [letter, ':'] :=
      List.mem_flatMap.2 ⟨':', by simp, by decide⟩
    refine ⟨separator_not_mem_encodeChars hslash', ⟨_, rfl⟩, fun hup => ?_⟩
    rw [hup] at hcolon
    exact absurd hcolon (by decide)

end Names

/-! ## Ordinary names -/

/-- A name that a location takes for nothing else: it holds no backslash, which is escaped as a
slash is, and it does not end like a drive. -/
structure IsOrdinaryName (name : Bytes) : Prop where
  noBackslash : (0x5C : UInt8) ∉ name
  noDrive : endsLikeDrive (separator :: name) = false

theorem IsOrdinaryName.of_not_kept {piece : Bytes} (h : isKept piece = false) :
    IsOrdinaryName piece := by
  rcases isKept_eq_false_iff.1 h with rfl | rfl
  · exact ⟨by decide, by decide⟩
  · exact ⟨by decide, by decide⟩

theorem endsLikeDrive_of_letter {letter mark : Char} (hletter : letter.isAlpha = true)
    (hmark : mark = ':' ∨ mark = '|') :
    endsLikeDrive (separator :: encodeChars [letter, mark]) = true := by
  have hrange := toNat_of_isAlpha hletter
  have hnat : (UInt8.ofNat letter.toNat).toNat = letter.toNat := toNat_ofNat_of_lt (by omega)
  have hbytes : encodeChars [letter, mark] =
      [UInt8.ofNat letter.toNat, UInt8.ofNat mark.toNat] := by
    rw [encodeChars_cons, utf8EncodeChar_of_lt (by omega)]
    rcases hmark with rfl | rfl
    · rfl
    · rfl
  rw [hbytes]
  show ((_ || _) && (_ || _)) = true
  simp only [Bool.and_eq_true, Bool.or_eq_true, decide_eq_true_eq, UInt8.le_iff_toNat_le, hnat]
  refine ⟨?_, hrange⟩
  rcases hmark with rfl | rfl
  · exact Or.inl rfl
  · exact Or.inr rfl

/-- A segment that stands for an ordinary name is no drive. -/
theorem isDrive_eq_false {seg : String} (h : endsLikeDrive (separator :: octets seg) = false) :
    isDrive seg.toList = false := by
  rw [← Bool.not_eq_true]
  intro hdrive
  obtain ⟨letter, mark, hseg, halpha, hmark⟩ := exists_of_isDrive hdrive
  have hplain : (0x25 : UInt8) ∉ encodeChars [letter, mark] := by
    intro hmem
    have hpercent := mem_encodeChars_of_lt (by decide) hmem
    simp only [List.mem_cons, List.not_mem_nil, or_false] at hpercent
    rcases hpercent with rfl | rfl
    · exact absurd halpha (by decide)
    · exact absurd hmark (by decide)
  rw [octets, utf8, hseg, percentDecode_eq_self hplain, endsLikeDrive_of_letter halpha hmark] at h
  cases h

theorem isDrive_of_mem_segmentsOfNames {names : List Bytes}
    (hkept : ∀ name ∈ names, isKept name = true) (h : ∀ name ∈ names, IsOrdinaryName name) :
    ∀ seg ∈ segmentsOfNames names, isDrive seg.toList = false := by
  intro seg hseg
  exact isDrive_eq_false (h _ (octets_mem_of_segmentsOfNames hkept hseg)).noDrive

theorem isDrive_nameText {name : Bytes} (h : endsLikeDrive (separator :: name) = false) :
    isDrive (nameText name) = false := by
  rw [← String.toList_ofList (l := nameText name)]
  refine isDrive_eq_false ?_
  rw [octets_nameText]
  exact h

theorem isNormalDrive_eq_false {seg : List Char} (h : isDrive seg = false) :
    isNormalDrive seg = false := by
  rw [← Bool.not_eq_true]
  intro hdrive
  unfold isNormalDrive at hdrive
  split at hdrive
  · rw [isDrive, hdrive] at h
    cases h
  · cases hdrive

theorem not_barDrive {seg : List Char} (h : endsLikeDrive (separator :: encodeChars seg) = false) :
    ∀ letter : Char, letter.isAlpha = true → seg ≠ [letter, '|'] := by
  rintro letter halpha rfl
  rw [endsLikeDrive_of_letter halpha (Or.inr rfl)] at h
  cases h

/-- Ordinary segments lead to ordinary names. -/
theorem isOrdinaryName_foldl_stepFrom {here : List String} {segs : List (List Char)}
    (hhere : ∀ name ∈ here, IsOrdinaryName (octets name))
    (h : ∀ seg ∈ segs, ∀ c ∈ seg, isPlain c = true)
    (hsegs : ∀ seg ∈ segs, IsOrdinaryName (encodeChars seg)) :
    ∀ name ∈ namesOfSegments (segs.foldl stepFrom here), IsOrdinaryName name := by
  have hempty : IsOrdinaryName (octets "") := .of_not_kept (by decide)
  have hall : ∀ name ∈ followFrom here segs, IsOrdinaryName (octets name) := by
    refine forall_followFrom hhere hempty fun seg hseg _ atRoot name hname => ?_
    rw [namesOf_plain (h seg hseg) (Or.inr (not_barDrive (hsegs seg hseg).noDrive))] at hname
    rw [List.mem_singleton.1 hname, octets_segmentText (h seg hseg)]
    exact hsegs seg hseg
  intro name hname
  rw [← namesOfSegments_followFrom] at hname
  obtain ⟨seg, hseg, rfl⟩ := List.mem_map.1 (List.mem_filter.1 hname).1
  exact hall seg hseg

/-- Whether a path ends like a drive is seen from its last piece. -/
theorem endsLikeDrive_append {piece : Bytes} (h : endsLikeDrive (separator :: piece) = false)
    (front : Bytes) : endsLikeDrive (front ++ separator :: piece) = false := by
  unfold endsLikeDrive at h ⊢
  rw [List.reverse_cons] at h
  rw [List.reverse_append, List.reverse_cons, List.append_assoc, List.singleton_append]
  match piece.reverse, h with
  | [], _ =>
      match front.reverse with
      | [] => rfl
      | [_] => rfl
      | _ :: _ :: _ => rfl
  | [_], _ =>
      match front.reverse with
      | [] => rfl
      | _ :: _ => exact Bool.and_false _
  | _ :: _ :: [], h => exact h
  | _ :: _ :: _ :: _, h => exact h

theorem endsLikeDrive_ofPieces {names : List Bytes} (h : ∀ name ∈ names, IsOrdinaryName name) :
    endsLikeDrive (ofPieces true names).bytes = false := by
  rcases List.eq_nil_or_concat names with rfl | ⟨front, name, rfl⟩
  · rfl
  · have hspell : spell (front ++ [name]) = spell front ++ separator :: name := by
      rw [spell, List.flatMap_append, List.flatMap_singleton]
      rfl
    rw [List.concat_eq_append] at h ⊢
    rw [← spell_eq_ofPieces (by simp), hspell]
    exact endsLikeDrive_append (h name (by simp)).noDrive _

/-! ## References that climb -/

/-- The reference that climbs a number of directories and goes down some names. -/
def climbTo (up : Nat) (names : List Bytes) : String :=
  "." ++ (Path.segments (List.replicate up ".." ++ plainSegments names)).text

/-- From the location of a path without drives, references are followed below all names of the path
but the last. -/
theorem exists_startsAt {p : FilePath} (hp : p.isAbsolute = true)
    (hdrive : ∀ seg ∈ segmentsOfNames p.names, isDrive seg.toList = false) :
    ∃ u, ofFilePath? p = some u ∧ u.authority = some localFile ∧
      u.StartsAt (segmentsOfNames p.names).dropLast := by
  refine ⟨_, ofFilePath?_eq hp, rfl, ?_⟩
  cases hsegs : segmentsOfNames p.names with
  | nil =>
      have hroot : StartsAt { scheme := "file", authority := some localFile,
                              path := .segments [""] } [""].dropLast :=
        startsAt_of_segments rfl rfl (by decide)
      exact hroot
  | cons seg segs =>
      rw [hsegs] at hdrive
      exact startsAt_of_segments rfl rfl fun last hlast =>
        isNormalDrive_eq_false (hdrive last (List.mem_of_getLast? hlast))

/-- All but one of the directories of a path can be climbed out of. -/
theorem take_one_segmentsOfNames {first : Bytes} {rest : List Bytes} (hfirst : IsName first)
    (hne : rest ≠ []) (hkept : ∀ name ∈ rest, isKept name = true) :
    (segmentsOfNames (first :: rest)).dropLast.take 1 = segmentsOfNames [first] := by
  have hback : segmentsOfNames rest ≠ [] := by
    intro hnil
    have hoctets := map_octets_segmentsOfNames hkept
    rw [hnil] at hoctets
    exact hne hoctets.symm
  have hfront := segmentsOfNames_eq fun name (hname : name ∈ [first]) =>
    List.mem_singleton.1 hname ▸ hfirst
  rw [← List.singleton_append, segmentsOfNames_append, List.dropLast_append_of_ne_nil hback, hfront]
  rfl

/-- Where there is no drive on the way, climbing takes back one name for each `..`. -/
theorem foldl_climb {here : List String} (h : ∀ name ∈ here, isDrive name.toList = false)
    (up : Nat) : (List.replicate up ['.', '.']).foldl stepFrom here =
      here.take (here.length - up) := by
  induction up generalizing here with
  | zero => rw [Nat.sub_zero, List.take_length]; rfl
  | succ up ih =>
      have hstep : stepFrom here ['.', '.'] = here.dropLast := by
        show climb here = _
        unfold climb
        split
        · next hnone =>
            rw [List.getLast?_eq_none_iff.1 hnone]
            rfl
        · next last hlast =>
            rw [h last (List.mem_of_getLast? hlast), if_neg Bool.false_ne_true]
      rw [List.replicate_succ, List.foldl_cons, hstep,
        ih fun name hname => h name (List.dropLast_subset _ hname), List.length_dropLast,
        List.dropLast_eq_take, List.take_take]
      congr 1
      omega

/-- Names that are no drives lead to themselves, from the root as from anywhere else. -/
theorem followFrom_names_of_not_drive (here : List String) {names : List Bytes}
    (h : ∀ name ∈ names, IsName name) (hdrive : ∀ name ∈ names, isDrive (nameText name) = false) :
    followFrom here (names.map nameText) =
      here ++ names.map fun name => String.ofList (nameText name) := by
  by_cases hhere : here = []
  · subst hhere
    cases names with
    | nil => rfl
    | cons name names =>
        obtain ⟨hname, hnames⟩ := List.forall_mem_cons.1 h
        obtain ⟨hsingle, hdouble⟩ := not_dot_nameText hname
        have htabs := dropTabs_nameText name
        have hroot : namesOf true (nameText name) = [String.ofList (nameText name)] := by
          unfold namesOf
          rw [if_pos rfl, cutDrive?_of_dropTabs htabs, htabs, hdrive name List.mem_cons_self,
            ← segmentText_nameText]
          rfl
        have hstep : stepFrom [] (nameText name) = [String.ofList (nameText name)] := by
          rw [stepFrom, htabs, hdouble, hsingle]
          exact hroot
        cases names with
        | nil =>
            show lastFrom [] (nameText name) = _
            rw [lastFrom, htabs, hdouble, hsingle]
            exact hroot
        | cons next names =>
            rw [List.map_cons, List.map_cons, followFrom_cons_cons, hstep, ← List.map_cons,
              followFrom_names (List.cons_ne_nil _ _) hnames]
            rfl
  · exact followFrom_names hhere h

theorem climbTo_toList (up : Nat) (names : List Bytes) : (climbTo up names).toList =
    '.' :: (Path.segments (List.replicate up ".." ++ plainSegments names)).text.toList := by
  rw [climbTo, String.toList_append]
  rfl

theorem specifierKind_climbTo (up : Nat) (names : List Bytes) :
    SpecifierKind.of (climbTo up names) = .path := by
  have hne : List.replicate up ".." ++ plainSegments names ≠ [] :=
    List.append_ne_nil_of_right_ne_nil _ (plainSegments_ne_nil names)
  obtain ⟨seg, segs, hsegs⟩ := List.exists_cons_of_ne_nil hne
  refine SpecifierKind.of_eq_path_iff.2
    ⟨['.', '/'], by decide, seg.toList ++ (Path.segments segs).text.toList, ?_⟩
  rw [climbTo_toList, hsegs, Path.text_cons]
  rfl

theorem segmentsRead_climbTo (up : Nat) (names : List Bytes) :
    Reference.ofString (climbTo up names) =
        { scheme := none, body := (climbTo up names).toList, query := none, fragment := none } ∧
      segmentsRead (climbTo up names) =
        ['.'] :: (List.replicate up ['.', '.'] ++ (plainSegments names).map String.toList) := by
  have hsegs : ∀ seg ∈ List.replicate up ".." ++ plainSegments names, ∀ c ∈ seg.toList,
      EscapeSet.path.Keeps c ∧ isSlash c = false := by
    intro seg hseg c hc
    rcases List.mem_append.1 hseg with hseg | hseg
    · rw [(List.mem_replicate.1 hseg).2] at hc
      have hdots : ∀ c ∈ "..".toList, EscapeSet.path.Keeps c ∧ isSlash c = false :=
        List.all_iff_forall_prop.1 (by decide)
      exact hdots c hc
    · exact plainSegments_keeps names seg hseg c hc
  have htext := climbTo_toList up names
  have hkeeps : ∀ c ∈ (climbTo up names).toList, EscapeSet.path.Keeps c := by
    rw [htext]
    exact List.forall_mem_cons.2
      ⟨by decide, Path.forall_text (by decide) fun seg hseg c hc => (hsegs seg hseg c hc).1⟩
  have hreference := reference_of_dot htext
    (fun c hc => isControlOrSpace_of_keeps (by decide) (hkeeps c (List.mem_of_getLast? hc)))
    (fun hmem => absurd (hkeeps _ hmem) (by decide))
    (fun hmem => absurd (hkeeps _ hmem) (by decide))
  refine ⟨hreference, ?_⟩
  have hdot : ∀ c ∈ ['.'], isSlash c = false := List.forall_mem_singleton.2 rfl
  have hsplit := Path.splitAll_text_of (p := isSlash) (by decide)
    fun seg hseg c hc => (hsegs seg hseg c hc).2
  rw [segmentsRead, hreference]
  dsimp only
  rw [htext, ← List.singleton_append, splitAll_append_of_forall hdot, hsplit,
    List.modifyHead_cons, List.map_append, List.map_replicate]
  rfl

/-- The reference leads to its names, below what is left of the directories it starts from. -/
theorem join?_climbTo {u : Url} {dirs : List String} (hu : u.StartsAt dirs)
    (hempty : "" ∉ dirs) (hdirs : ∀ name ∈ dirs, isDrive name.toList = false)
    (up : Nat) {names : List Bytes} (hne : names ≠ []) (hnames : ∀ name ∈ names, IsName name)
    (hdrive : ∀ name ∈ names, isDrive (nameText name) = false) :
    u.join? (climbTo up names) = some
      { scheme := "file", authority := u.authority
        path := .segments (dirs.take (dirs.length - up) ++
          names.map fun name => String.ofList (nameText name)) } := by
  obtain ⟨hreference, hsegments⟩ := segmentsRead_climbTo up names
  have hmap : (plainSegments names).map String.toList = names.map nameText := by
    simp [plainSegments, hne]
  have hfollow : followFrom dirs (segmentsRead (climbTo up names)) =
      dirs.take (dirs.length - up) ++ names.map fun name => String.ofList (nameText name) := by
    have hdot : stepFrom dirs ['.'] = dirs := rfl
    rw [hsegments, hmap, ← List.cons_append, followFrom_append _ _ (by simpa using hne),
      List.foldl_cons, hdot, foldl_climb hdirs, followFrom_names_of_not_drive _ hnames hdrive]
  have hfront : (dirs.take (dirs.length - up) ++
      names.map fun name => String.ofList (nameText name)).head? ≠ some "" := by
    intro hhead
    rcases List.mem_append.1 (List.mem_of_head? hhead) with hmem | hmem
    · exact hempty (List.mem_of_mem_take hmem)
    · obtain ⟨name, hname, htext⟩ := List.mem_map.1 hmem
      refine nameText_ne_nil (hnames name hname) ?_
      rw [← String.toList_ofList (l := nameText name), htext]
      rfl
  rw [join?_dot hu (climbTo_toList up names), destination, hfollow,
    dropEmptyFront_of_head (by simp [hne]) hfront, hreference]
  rfl

end Url

end ModuleGraph
