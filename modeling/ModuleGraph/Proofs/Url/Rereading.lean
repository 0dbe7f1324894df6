import ModuleGraph.Proofs.FileSystem.Canonical
import ModuleGraph.Proofs.Resolve.Segments
import ModuleGraph.Proofs.Url.Directory
import Mathlib.Data.Bool.AllAny

/-!
# Reading a location again

The location of a plain path is written with escapes, and reading what is written escapes nothing
twice, finds no dot segment and takes no name for a host or a drive. So the location of a file that
has been resolved is read from its own text, from wherever it is followed: its query and fragment
have been escaped when they were first read.
-/

set_option autoImplicit false

namespace ModuleGraph

open Text FilePath

namespace Url

/-! ## Queries and fragments -/

/-- The query and the fragment hold nothing that reading would escape in those of a file. -/
structure HasEscapedParts (u : Url) : Prop where
  query : ∀ q ∈ u.query, ∀ c ∈ q.toList, EscapeSet.specialQuery.Keeps c
  fragment : ∀ f ∈ u.fragment, ∀ c ∈ f.toList, EscapeSet.fragment.Keeps c

theorem keeps_of_mem_percentEncode {set : EscapeSet} (hescape : ∀ c ∈ escapeChars, set.Keeps c)
    {cs : List Char} : ∀ c ∈ (String.ofList (percentEncode set cs)).toList, set.Keeps c := by
  intro c hc
  rw [String.toList_ofList] at hc
  exact keeps_of_mem_percentEncodeBytes (fun _ hmem => hmem) hescape hc

namespace Reference

variable (r : Reference)

theorem keeps_queryText : ∀ q ∈ r.queryText true, ∀ c ∈ q.toList,
    EscapeSet.specialQuery.Keeps c := by
  intro q hq
  obtain ⟨cs, -, rfl⟩ := Option.map_eq_some_iff.1 (Option.mem_def.1 hq)
  exact keeps_of_mem_percentEncode (List.all_iff_forall_prop.1 (by decide))

theorem keeps_fragmentText : ∀ f ∈ r.fragmentText, ∀ c ∈ f.toList,
    EscapeSet.fragment.Keeps c := by
  intro f hf
  obtain ⟨cs, -, rfl⟩ := Option.map_eq_some_iff.1 (Option.mem_def.1 hf)
  exact keeps_of_mem_percentEncode (List.all_iff_forall_prop.1 (by decide))

theorem hasEscapedParts_file (authority : Option Authority) (t : Trail) :
    (r.file authority t).HasEscapedParts :=
  ⟨r.keeps_queryText, r.keeps_fragmentText⟩

theorem hasEscapedParts_onBase {base : Url} (hfile : base.isFile = true)
    (h : base.HasEscapedParts) : (r.onBase base).HasEscapedParts := by
  have hscheme : base.scheme = "file" := of_decide_eq_true hfile
  refine ⟨?_, r.keeps_fragmentText⟩
  unfold onBase
  dsimp only
  split
  · rw [hscheme]
    exact r.keeps_queryText
  · exact h.query

end Reference

/-- Parts that have been escaped are not escaped again. -/
theorem map_percentEncode_eq_self {set : EscapeSet} {part : Option String}
    (hpart : ∀ text ∈ part, ∀ c ∈ text.toList, set.Keeps c) :
    (part.map String.toList).map (fun cs => String.ofList (percentEncode set cs)) = part := by
  cases part with
  | none => rfl
  | some text =>
      rw [Option.map_some, Option.map_some, percentEncode_eq_self (hpart text rfl),
        String.ofList_toList]

theorem hasEscapedParts_of_resolve? {s : String} {base : Option Url} {u : Url}
    (hbase : ∀ b ∈ base, b.isFile = true → b.HasEscapedParts)
    (h : (Reference.ofString s).resolve? base = some u) (hfile : u.isFile = true) :
    u.HasEscapedParts := by
  rcases Reference.resolve?_cases _ h hfile with ⟨authority, t, rfl⟩ | ⟨b, hb, hbfile, rfl⟩
  · exact Reference.hasEscapedParts_file _ authority t
  · exact Reference.hasEscapedParts_onBase _ hbfile (hbase b hb hbfile)

/-- The locations that a program can come by: read from a text, followed from another location,
made of a path, and with the query and fragment of one file put on another. -/
inductive Formed : Url → Prop
  | read {s : String} {u : Url} : parse? s = some u → Formed u
  | followed {base u : Url} {s : String} : Formed base → base.join? s = some u → Formed u
  | ofFilePath {p : FilePath} {u : Url} : ofFilePath? p = some u → Formed u
  | ofDirPath {p : FilePath} {u : Url} : ofDirPath? p = some u → Formed u
  | withParts {u v : Url} : Formed u → Formed v → v.isFile = true →
      Formed { u with query := v.query, fragment := v.fragment }

theorem parts_of_ofFilePath? {p : FilePath} {u : Url} (h : ofFilePath? p = some u) :
    u.query = none ∧ u.fragment = none := by
  unfold ofFilePath? at h
  split at h
  · exact Option.some.inj h ▸ ⟨rfl, rfl⟩
  · cases h

theorem parts_of_ofDirPath? {p : FilePath} {u : Url} (h : ofDirPath? p = some u) :
    u.query = none ∧ u.fragment = none := by
  obtain ⟨v, hv, rfl⟩ := Option.map_eq_some_iff.1 h
  have hparts := parts_of_ofFilePath? hv
  split
  · split
    · exact hparts
    · exact hparts
  · exact hparts

theorem HasEscapedParts.of_none {u : Url} (h : u.query = none ∧ u.fragment = none) :
    u.HasEscapedParts := by
  constructor
  · rw [h.1]
    exact fun q hq => absurd hq (by simp)
  · rw [h.2]
    exact fun f hf => absurd hf (by simp)

theorem Formed.hasEscapedParts {u : Url} (h : u.Formed) (hfile : u.isFile = true) :
    u.HasEscapedParts := by
  induction h with
  | read h =>
      refine hasEscapedParts_of_resolve? (fun b hb => ?_) h hfile
      cases hb
  | followed _ h ih =>
      refine hasEscapedParts_of_resolve? (fun b hb hbfile => ?_) h hfile
      obtain rfl := Option.some.inj hb
      exact ih hbfile
  | ofFilePath h => exact .of_none (parts_of_ofFilePath? h)
  | ofDirPath h => exact .of_none (parts_of_ofDirPath? h)
  | withParts _ _ hvfile _ ih => exact ⟨(ih hvfile).query, (ih hvfile).fragment⟩

/-! ## Names in a location -/

/-- The written form of a name. -/
def nameText (name : Bytes) : List Char := percentEncodeBytes EscapeSet.fileName name

theorem keeps_of_mem_nameText {name : Bytes} {c : Char} (h : c ∈ nameText name) :
    EscapeSet.path.Keeps c :=
  keeps_of_mem_percentEncodeBytes (List.all_iff_forall_prop.1 (by decide))
    (List.all_iff_forall_prop.1 (by decide)) h

theorem isSlash_of_mem_nameText {name : Bytes} {c : Char} (h : c ∈ nameText name) :
    isSlash c = false := by
  have hkeeps : EscapeSet.Keeps ⟨['/', '\\']⟩ c :=
    keeps_of_mem_percentEncodeBytes (List.all_iff_forall_prop.1 (by decide))
      (List.all_iff_forall_prop.1 (by decide)) h
  obtain ⟨-, -, hmem⟩ := hkeeps
  simpa [isSlash] using hmem

theorem segmentsOfNames_eq {names : List Bytes} (h : ∀ name ∈ names, IsName name) :
    segmentsOfNames names = names.map fun name => String.ofList (nameText name) := by
  induction names with
  | nil => rfl
  | cons name names ih =>
      obtain ⟨hname, hnames⟩ := List.forall_mem_cons.1 h
      have hpiece : Component.ofPiece? name = some (.normal name) := by
        rw [Component.ofPiece?, if_neg hname.not_skipped, if_neg hname.notUp]
      have hseg : segmentOfComponent (.normal name) = some (String.ofList (nameText name)) := rfl
      have htail := ih hnames
      unfold segmentsOfNames at htail ⊢
      rw [List.filterMap_cons_some hpiece, List.filterMap_cons_some hseg, htail, List.map_cons]

theorem percentDecode_nameText (name : Bytes) :
    percentDecode (encodeChars (nameText name)) = name :=
  percentDecode_percentEncodeBytes (by decide) name

/-- A name is not read as a dot segment. -/
theorem not_dot_nameText {name : Bytes} (h : IsName name) :
    isSingleDot (nameText name) = false ∧ isDoubleDot (nameText name) = false := by
  constructor
  · rw [← Bool.not_eq_true, isSingleDot_iff]
    intro hdot
    have hbytes := percentDecode_of_plainSegment (by decide) hdot
    rw [percentDecode_nameText] at hbytes
    exact h.not_skipped (Or.inr hbytes)
  · rw [← Bool.not_eq_true, isDoubleDot_iff]
    intro hdot
    have hbytes := percentDecode_of_plainSegment (by decide) hdot
    rw [percentDecode_nameText] at hbytes
    exact h.notUp hbytes

theorem dropTabs_eq_self {cs : List Char} (h : ∀ c ∈ cs, 0x20 ≤ c.toNat) : dropTabs cs = cs := by
  refine List.filter_eq_self.2 fun c hc => ?_
  have hne {d : Char} (hd : d.toNat < 0x20) : c ≠ d := by
    rintro rfl
    have := h c hc
    omega
  simp [isTabOrNewline, hne (d := '\t') (by decide), hne (d := '\n') (by decide),
    hne (d := '\r') (by decide)]

theorem dropTabs_nameText (name : Bytes) : dropTabs (nameText name) = nameText name :=
  dropTabs_eq_self fun _ hc => (keeps_of_mem_nameText hc).1

/-- What is written for a name stays as it is when it is read. -/
theorem segmentText_nameText (name : Bytes) :
    Trail.segmentText (nameText name) = String.ofList (nameText name) := by
  rw [Trail.segmentText, dropTabs_nameText, percentEncode_eq_self fun _ => keeps_of_mem_nameText]

theorem nameText_ne_nil {name : Bytes} (h : IsName name) : nameText name ≠ [] := by
  intro hnil
  have hname := percentDecode_nameText name
  rw [hnil] at hname
  exact h.not_skipped (Or.inl hname.symm)

/-- Below another segment, names lead to themselves. -/
theorem followFrom_names {here : List String} (hhere : here ≠ []) {names : List Bytes}
    (h : ∀ name ∈ names, IsName name) :
    followFrom here (names.map nameText) =
      here ++ names.map fun name => String.ofList (nameText name) := by
  induction names generalizing here with
  | nil => simp [followFrom]
  | cons name names ih =>
      obtain ⟨hname, hnames⟩ := List.forall_mem_cons.1 h
      obtain ⟨hsingle, hdouble⟩ := not_dot_nameText hname
      have hroot : here.isEmpty = false := by simpa using hhere
      have hstep : stepFrom here (nameText name) = here ++ [String.ofList (nameText name)] := by
        rw [stepFrom, dropTabs_nameText, hdouble, hsingle, hroot, ← segmentText_nameText]
        rfl
      cases names with
      | nil =>
          show lastFrom here (nameText name) = _
          rw [lastFrom, dropTabs_nameText, hdouble, hsingle, hroot]
          show here ++ [Trail.segmentText (nameText name)] = _
          rw [segmentText_nameText]
          rfl
      | cons next names =>
          rw [List.map_cons, List.map_cons, followFrom_cons_cons, hstep, ← List.map_cons,
            ih (by simp) hnames, List.append_assoc]
          rfl

/-! ## The location of a plain path -/

/-- The segments of the location of a plain path. -/
def plainSegments (names : List Bytes) : List String :=
  if names = [] then [""] else names.map fun name => String.ofList (nameText name)

theorem names_ofPieces {names : List Bytes} (h : ∀ name ∈ names, IsName name) :
    (ofPieces true names).names = names := by
  unfold FilePath.names
  by_cases hne : names = []
  · subst hne
    rfl
  · rw [pieces_ofPieces h hne]
    exact List.filter_eq_self.2 fun name hname => (h name hname).isKept

theorem ofFilePath?_ofPieces {names : List Bytes} (h : ∀ name ∈ names, IsName name) :
    ofFilePath? (ofPieces true names) =
      some { scheme := "file", authority := some localFile,
             path := .segments (plainSegments names) } := by
  rw [ofFilePath?_eq rfl, names_ofPieces h, segmentsOfNames_eq h, plainSegments]
  cases names with
  | nil => rfl
  | cons name names => rfl

theorem plainSegments_eq {names : List Bytes} (h : ∀ name ∈ names, IsName name) (hne : names ≠ []) :
    plainSegments names = segmentsOfNames names := by
  rw [plainSegments, if_neg hne, segmentsOfNames_eq h]

theorem plainSegments_keeps (names : List Bytes) :
    ∀ seg ∈ plainSegments names, ∀ c ∈ seg.toList,
      EscapeSet.path.Keeps c ∧ isSlash c = false := by
  intro seg hseg c hc
  unfold plainSegments at hseg
  split at hseg
  · rw [List.mem_singleton.1 hseg] at hc
    cases hc
  · obtain ⟨name, -, rfl⟩ := List.mem_map.1 hseg
    rw [String.toList_ofList] at hc
    exact ⟨keeps_of_mem_nameText hc, isSlash_of_mem_nameText hc⟩

/-- The text of the path of a plain path leads to that path. -/
theorem walkFile_plainSegments {names : List Bytes} (h : ∀ name ∈ names, IsName name) :
    dropEmptyFront (Trail.walkFile {} (Path.segments (plainSegments names)).text.toList).done =
      plainSegments names := by
  have hsplit := Path.splitAll_text_of (p := isSlash) (by decide)
    fun seg hseg c hc => (plainSegments_keeps names seg hseg c hc).2
  rw [Trail.walkFile, Trail.walk_done rfl, hsplit]
  cases names with
  | nil => decide
  | cons name names =>
      have hmap : (plainSegments (name :: names)).map String.toList =
          (name :: names).map nameText := by
        simp [plainSegments]
      -- the empty segment in front keeps the first name from being read as a drive
      have hfront : followFrom [] ([] :: (name :: names).map nameText) =
          followFrom [""] ((name :: names).map nameText) := by
        rw [List.map_cons, followFrom_cons_cons]
        rfl
      have hhead : String.ofList (nameText name) ≠ "" := by
        intro hempty
        have hnil := congrArg String.toList hempty
        rw [String.toList_ofList] at hnil
        exact nameText_ne_nil (h name List.mem_cons_self) hnil
      rw [hmap, hfront, followFrom_names (by simp) h, plainSegments, if_neg (List.cons_ne_nil _ _)]
      rw [List.singleton_append, dropEmptyFront_empty_cons]
      exact dropEmptyFront_of_head (by simp) (by simpa using hhead)

/-! ## Texts of locations -/

theorem cutAt_of_not_mem {mark : Char} {cs : List Char} (h : mark ∉ cs) :
    cutAt mark cs = (cs, none) := by
  have hnone : splitFirst? (· == mark) cs = none := by
    refine splitFirst?_eq_none.2 fun c hc => ?_
    rw [beq_eq_false_iff_ne]
    rintro rfl
    exact h hc
  rw [cutAt, hnone]

/-- A part that follows its mark is cut off there. -/
theorem cutAt_optionalPart (delimiter : String) (mark : Char) (hmark : delimiter.toList = [mark])
    {front : List Char} (hfront : mark ∉ front) {part : Option String}
    (hpart : ∀ text ∈ part, ∀ c ∈ text.toList, 0x20 ≤ c.toNat) :
    cutAt mark (front ++ (optionalPart delimiter part).toList) =
      (front, part.map String.toList) := by
  cases part with
  | none =>
      show cutAt mark (front ++ []) = _
      rw [List.append_nil]
      exact cutAt_of_not_mem hfront
  | some text =>
      have hfront' : ∀ c ∈ front, (c == mark) = false := by
        intro c hc
        rw [beq_eq_false_iff_ne]
        rintro rfl
        exact hfront hc
      have hcut := splitFirst?_append_cons (p := (· == mark)) (beq_self_eq_true mark) hfront'
        text.toList
      have htext : (optionalPart delimiter (some text)).toList = mark :: text.toList := by
        rw [optionalPart, String.toList_append, hmark]
        rfl
      rw [htext, cutAt, hcut]
      dsimp only
      rw [dropTabs_eq_self (hpart text rfl)]
      rfl

/-- A text that starts with `file:` is cut behind the colon. -/
theorem cutScheme_file (cs : List Char) :
    cutScheme ('f' :: 'i' :: 'l' :: 'e' :: ':' :: cs) = (some "file", cs) := rfl

/-! ## What stands in front of the query -/

/-- What a location has between its scheme and its query. -/
def front (u : Url) : List Char := u.authorityText.toList ++ u.pathText.toList

/-- A character that stays in the body of a reference: it ends no path, and is not trimmed. -/
def StaysInBody (c : Char) : Prop := 0x20 < c.toNat ∧ c ≠ '?' ∧ c ≠ '#'

instance (c : Char) : Decidable (StaysInBody c) := inferInstanceAs (Decidable (_ ∧ _ ∧ _))

theorem lt_toNat_of_keeps {set : EscapeSet} (hset : ' ' ∈ set.chars) {c : Char}
    (h : set.Keeps c) : 0x20 < c.toNat := by
  obtain ⟨hlow, -, hmem⟩ := h
  have hne : c.toNat ≠ ' '.toNat := by
    intro heq
    rw [Char.toNat_inj.1 heq] at hmem
    exact hmem hset
  have hspace : ' '.toNat = 0x20 := rfl
  omega

theorem isControlOrSpace_of_keeps {set : EscapeSet} (hset : ' ' ∈ set.chars) {c : Char}
    (h : set.Keeps c) : isControlOrSpace c = false :=
  decide_eq_false (Nat.not_le.2 (lt_toNat_of_keeps hset h))

theorem staysInBody_of_keeps {c : Char} (h : EscapeSet.path.Keeps c) : StaysInBody c := by
  refine ⟨lt_toNat_of_keeps (by decide) h, ?_, ?_⟩
  · rintro rfl
    exact absurd h (by decide)
  · rintro rfl
    exact absurd h (by decide)

theorem forall_optionalPart {P : Char → Prop} {delimiter : String} {mark : Char}
    (hmark : delimiter.toList = [mark]) (hP : P mark) {part : Option String}
    (hpart : ∀ text ∈ part, ∀ c ∈ text.toList, P c) :
    ∀ c ∈ (optionalPart delimiter part).toList, P c := by
  cases part with
  | none =>
      intro c hc
      cases hc
  | some text =>
      rw [optionalPart, String.toList_append, hmark, List.singleton_append]
      exact List.forall_mem_cons.2 ⟨hP, hpart text rfl⟩

/-- The text of a file is cut into the parts that the location has. -/
theorem reference_href {u : Url} (hscheme : u.scheme = "file")
    (hfront : ∀ c ∈ u.front, StaysInBody c) (hparts : u.HasEscapedParts) :
    Reference.ofString u.href =
      { scheme := some "file", body := u.front, query := u.query.map String.toList,
        fragment := u.fragment.map String.toList } := by
  have hquery : ∀ c ∈ (optionalPart "?" u.query).toList, EscapeSet.specialQuery.Keeps c :=
    forall_optionalPart rfl (by decide) hparts.query
  have hfragment : ∀ c ∈ (optionalPart "#" u.fragment).toList, EscapeSet.fragment.Keeps c :=
    forall_optionalPart rfl (by decide) hparts.fragment
  have htext : u.href.toList = 'f' :: 'i' :: 'l' :: 'e' :: ':' ::
      (u.front ++ (optionalPart "?" u.query).toList ++ (optionalPart "#" u.fragment).toList) := by
    rw [href_toList, hscheme, String.toList_append, String.toList_append, String.toList_append]
    rfl
  have htrim : trimBoth isControlOrSpace u.href.toList = u.href.toList := by
    refine trimBoth_eq_self fun c hc => ?_
    rw [htext] at hc
    simp only [List.mem_cons, List.mem_append] at hc
    rcases hc with rfl | rfl | rfl | rfl | rfl | (hc | hc) | hc
    · decide
    · decide
    · decide
    · decide
    · decide
    · exact decide_eq_false (Nat.not_le.2 (hfront c hc).1)
    · exact isControlOrSpace_of_keeps (by decide) (hquery c hc)
    · exact isControlOrSpace_of_keeps (by decide) (hfragment c hc)
  have hnoQuery : '?' ∉ u.front := fun hmem => (hfront _ hmem).2.1 rfl
  have hnoFragment : '#' ∉ u.front ++ (optionalPart "?" u.query).toList := by
    rw [List.mem_append, not_or]
    exact ⟨fun hmem => (hfront _ hmem).2.2 rfl, fun hmem => absurd (hquery _ hmem) (by decide)⟩
  have hcutFragment := cutAt_optionalPart "#" '#' rfl hnoFragment
    fun f hf c hc => (hparts.fragment f hf c hc).1
  have hcutQuery := cutAt_optionalPart "?" '?' rfl hnoQuery
    fun q hq c hc => (hparts.query q hq c hc).1
  unfold Reference.ofString
  rw [htrim, htext, cutScheme_file]
  dsimp only
  rw [hcutFragment]
  dsimp only
  rw [hcutQuery]

/-! ## The text of a plain path -/

/-- The location of a plain path, with a query and a fragment that need no escapes. -/
structure IsPlainFile (u : Url) (names : List Bytes) : Prop where
  isName : ∀ name ∈ names, IsName name
  scheme : u.scheme = "file"
  authority : u.authority = some localFile
  path : u.path = .segments (plainSegments names)
  parts : u.HasEscapedParts

theorem Path.forall_text {P : Char → Prop} (hslash : P '/') {segs : List String}
    (h : ∀ seg ∈ segs, ∀ c ∈ seg.toList, P c) : ∀ c ∈ (Path.segments segs).text.toList, P c := by
  induction segs with
  | nil =>
      intro c hc
      cases hc
  | cons seg segs ih =>
      obtain ⟨hseg, hsegs⟩ := List.forall_mem_cons.1 h
      rw [text_cons]
      exact List.forall_mem_cons.2 ⟨hslash, List.forall_mem_append.2 ⟨hseg, ih hsegs⟩⟩

namespace IsPlainFile

variable {u : Url} {names : List Bytes} (h : u.IsPlainFile names)
include h

theorem keeps_pathText : ∀ c ∈ u.pathText.toList, EscapeSet.path.Keeps c := by
  rw [pathText, h.path]
  exact Path.forall_text (by decide) fun seg hseg c hc => (plainSegments_keeps _ seg hseg c hc).1

theorem front_eq : u.front = '/' :: '/' :: u.pathText.toList := by
  have hauthority : u.authorityText = "//" := by
    rw [authorityText, h.authority]
    rfl
  rw [front, hauthority]
  rfl

/-- The text of the location is cut into the parts that the location has. -/
theorem ofString_href : Reference.ofString u.href =
    { scheme := some "file", body := '/' :: '/' :: u.pathText.toList,
      query := u.query.map String.toList, fragment := u.fragment.map String.toList } := by
  have hfront : ∀ c ∈ u.front, StaysInBody c := by
    rw [h.front_eq]
    refine List.forall_mem_cons.2 ⟨by decide, List.forall_mem_cons.2 ⟨by decide, fun c hc => ?_⟩⟩
    exact staysInBody_of_keeps (h.keeps_pathText c hc)
  rw [reference_href h.scheme hfront h.parts, h.front_eq]

theorem exists_pathText : ∃ cs, u.pathText.toList = '/' :: cs := by
  rw [pathText, h.path, plainSegments]
  cases names with
  | nil => exact ⟨[], rfl⟩
  | cons name names =>
      rw [if_neg (List.cons_ne_nil _ _), List.map_cons, Path.text_cons]
      exact ⟨_, rfl⟩

/-- The parts are those of a file on the local machine, whatever they are followed from. -/
theorem resolve?_parts (base : Option Url) (query fragment : Option (List Char)) :
    Reference.resolve?
        { scheme := some "file", body := '/' :: '/' :: u.pathText.toList, query, fragment } base =
      some (Reference.file
        { scheme := some "file", body := '/' :: '/' :: u.pathText.toList, query, fragment }
        (some localFile) (Trail.walkFile {} u.pathText.toList)) := by
  obtain ⟨cs, hcs⟩ := h.exists_pathText
  rw [hcs]
  unfold Reference.resolve?
  dsimp only
  rw [if_pos rfl]
  -- an empty host stands between the two slashes and the path
  rfl

/-- The text of the location is read as the location, whatever it is followed from. -/
theorem resolve?_href (base : Option Url) : (Reference.ofString u.href).resolve? base = some u := by
  have hquery := map_percentEncode_eq_self h.parts.query
  have hfragment := map_percentEncode_eq_self h.parts.fragment
  have hwalk := walkFile_plainSegments h.isName
  rw [h.ofString_href, h.resolve?_parts, pathText, h.path]
  obtain ⟨scheme, authority, path, query, fragment⟩ := u
  obtain rfl : scheme = "file" := h.scheme
  obtain rfl : authority = some localFile := h.authority
  obtain rfl : path = .segments (plainSegments names) := h.path
  show some (Url.mk _ _ (.segments (dropEmptyFront _)) (Option.map _ (Option.map _ query))
    (Option.map _ (Option.map _ fragment))) = _
  rw [hwalk]
  exact congrArg some (congr (congrArg (Url.mk _ _ _) hquery) hfragment)

end IsPlainFile

/-! ## The path of the location -/

theorem spell_eq_ofPieces {names : List Bytes} (hne : names ≠ []) :
    spell names = (ofPieces true names).bytes := by
  induction names with
  | nil => exact absurd rfl hne
  | cons name names ih =>
      cases names with
      | nil => simp [spell, ofPieces]
      | cons next names =>
          have htail := ih (List.cons_ne_nil _ _)
          rw [spell, List.flatMap_cons]
          show separator :: name ++ spell (next :: names) = _
          rw [htail]
          simp [ofPieces, List.intercalate_cons_cons]

theorem bytes_ofPieces (names : List Bytes) :
    (ofPieces true names).bytes = separator :: (spell names).tail := by
  cases names with
  | nil => rfl
  | cons name names =>
      rw [← spell_eq_ofPieces (List.cons_ne_nil name names)]
      rfl

theorem octets_nameText (name : Bytes) : octets (String.ofList (nameText name)) = name := by
  rw [octets, utf8, String.toList_ofList]
  exact percentDecode_nameText name

theorem plainSegments_ne_nil (names : List Bytes) : plainSegments names ≠ [] := by
  unfold plainSegments
  split
  · exact List.cons_ne_nil _ _
  · next hne => simpa using hne

theorem spell_plainSegments (names : List Bytes) :
    spell ((plainSegments names).map octets) = (ofPieces true names).bytes := by
  by_cases hne : names = []
  · subst hne
    rfl
  · have hoctets : (plainSegments names).map octets = names := by
      rw [plainSegments, if_neg hne, List.map_map]
      exact List.map_id'' octets_nameText names
    rw [hoctets, spell_eq_ofPieces hne]

namespace IsPlainFile

variable {u : Url} {names : List Bytes} (h : u.IsPlainFile names)
include h

theorem toFilePath?_eq : u.toFilePath? =
    some ⟨if endsLikeDrive (ofPieces true names).bytes then
      (ofPieces true names).bytes ++ [separator] else (ofPieces true names).bytes⟩ := by
  have hlocal : u.isLocal = true := by
    rw [isLocal, h.authority]
    rfl
  rw [toFilePath?_of_segments h.path (plainSegments_ne_nil names) hlocal, spell_plainSegments]

/-- The location denotes the path, or looks like a drive there and has a separator at the end. -/
theorem exists_toFilePath? :
    ∃ path, u.toFilePath? = some path ∧ path.isAbsolute = true ∧ path.names = names ∧
      (path = ofPieces true names ∨ path.bytes.getLast? = some separator) := by
  have hspelled := bytes_ofPieces names
  have hkept : ∀ name ∈ names, isKept name = true := fun name hname => (h.isName name hname).isKept
  have hwhole : ∀ name ∈ names, separator ∉ name := fun name hname => (h.isName name hname).whole
  refine ⟨_, h.toFilePath?_eq, ?_, ?_, ?_⟩
  · split
    · rfl
    · rfl
  · refine (names_spell hwhole ?_).trans (List.filter_eq_self.2 hkept)
    rw [← hspelled]
    split
    · exact Or.inr rfl
    · exact Or.inl rfl
  · split
    · exact Or.inr List.getLast?_concat
    · exact Or.inl rfl

end IsPlainFile

/-! ## Escaped separators -/

theorem search_cons_of_ne {c : Char} (hc : c ≠ '%') (cs : List Char) :
    hasEncodedSeparator.search (c :: cs) = hasEncodedSeparator.search cs := by
  rw [hasEncodedSeparator.search]
  intro high low rest heq
  exact absurd heq hc

/-- An escape is that of a separator or of no account. -/
theorem search_escapeByte (b : UInt8) (cs : List Char) :
    hasEncodedSeparator.search (escapeByte b ++ cs) =
      (b == separator || b == 0x5C || hasEncodedSeparator.search cs) := by
  have hdigits := forall_octet (P := fun b =>
    hexDigit (b.toNat / 16) ≠ '%' ∧ hexDigit (b.toNat % 16) ≠ '%' ∧
      ((hexDigit (b.toNat / 16) = '2' && (hexDigit (b.toNat % 16) = 'f' ||
        hexDigit (b.toNat % 16) = 'F')) || (hexDigit (b.toNat / 16) = '5' &&
          (hexDigit (b.toNat % 16) = 'c' || hexDigit (b.toNat % 16) = 'C'))) =
        (b == separator || b == 0x5C)) (by decide +kernel) b
  obtain ⟨hhigh, hlow, hcode⟩ := hdigits
  show hasEncodedSeparator.search
    ('%' :: hexDigit (b.toNat / 16) :: hexDigit (b.toNat % 16) :: cs) = _
  rw [hasEncodedSeparator.search, hcode, search_cons_of_ne hhigh, search_cons_of_ne hlow]

/-- Of the octets of a name only a backslash is written as the escape of a separator. -/
theorem search_nameText {name : Bytes} (hname : separator ∉ name) (cs : List Char) :
    hasEncodedSeparator.search (nameText name ++ cs) =
      (name.contains 0x5C || hasEncodedSeparator.search cs) := by
  induction name with
  | nil => rfl
  | cons b bs ih =>
      obtain ⟨hb, hbs⟩ := not_or.1 (fun h => hname (List.mem_cons.2 h))
      have hseparator : (b == separator) = false := beq_eq_false_iff_ne.2 (Ne.symm hb)
      have hcontains : (b :: bs).contains 0x5C = (b == 0x5C || bs.contains 0x5C) := by
        rw [List.contains_cons, Bool.beq_comm]
      rw [nameText, percentEncodeBytes_cons, List.append_assoc, hcontains]
      cases hescape : EscapeSet.fileName.escapes b with
      | true =>
          rw [if_pos rfl, search_escapeByte, hseparator, Bool.false_or, Bool.or_assoc]
          exact congrArg _ (ih hbs)
      | false =>
          obtain ⟨-, -, hmem⟩ := EscapeSet.keeps_of_not_escapes hescape
          have hmark : Char.ofNat b.toNat ≠ '%' := fun heq => hmem (heq ▸ by decide)
          have hbackslash : (b == 0x5C) = false := by
            rw [beq_eq_false_iff_ne]
            rintro rfl
            exact absurd hescape (by decide)
          rw [if_neg Bool.false_ne_true, List.singleton_append, search_cons_of_ne hmark,
            hbackslash, Bool.false_or]
          exact ih hbs

/-- The location holds the escape of a separator if one of the names holds a backslash. -/
theorem IsPlainFile.hasEncodedSeparator_iff {u : Url} {names : List Bytes}
    (h : u.IsPlainFile names) :
    u.hasEncodedSeparator = true ↔ ∃ name ∈ names, (0x5C : UInt8) ∈ name := by
  have hsearch : hasEncodedSeparator.search
      (Path.segments (names.map fun name => String.ofList (nameText name))).text.toList =
        names.any (·.contains 0x5C) := by
    have hnames := h.isName
    clear h
    induction names with
    | nil => rfl
    | cons name names ih =>
        obtain ⟨hname, hnames⟩ := List.forall_mem_cons.1 hnames
        rw [List.map_cons, Path.text_cons, String.toList_ofList, search_cons_of_ne (by decide),
          search_nameText hname.whole, ih hnames, List.any_cons]
  have hall : u.hasEncodedSeparator = names.any (·.contains 0x5C) := by
    rw [hasEncodedSeparator, pathText, h.path, plainSegments]
    split
    · next hnil =>
        subst hnil
        rfl
    · exact hsearch
  rw [hall, List.any_eq_true]
  simp

end Url

end ModuleGraph
