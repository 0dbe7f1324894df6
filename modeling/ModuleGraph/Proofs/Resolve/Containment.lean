import ModuleGraph.Proofs.Resolve.Results
import ModuleGraph.Proofs.Resolve.Segments
import ModuleGraph.Proofs.Url.Directory
import Mathlib.Control.Monad.Basic

/-!
# Staying in the package

A target of `exports` is meant to stay in its package. The guard looks at the literal and at what
its star stands for, each by itself and as written; the location is then read from the text that
is put together of both. So the target stays in the package exactly if the segments that are
*read* lead there, and that is decided here. Where none of them is `..`, it comes down to whether
one of them is `node_modules`.
-/

set_option autoImplicit false

namespace ModuleGraph

open Text Url

/-- The location is a file below a directory, and none of the segments behind the directory is one
that does not go further down in the package, however it is spelled. -/
structure Url.StaysIn (u dir : Url) : Prop where
  isFile : u.isFile = true
  below : ∃ rest, u.pathText.toList = dir.pathText.toList ++ rest ∧
    ∀ seg ∈ splitAll (· == '/') rest, plainSegment seg ∉ forbiddenSegments

/-- Segments lead to a place below a directory, and no name behind the directory is forbidden. -/
def Url.LeadBelow (dirs : List String) (segs : List (List Char)) : Prop :=
  ∃ rest, rest ≠ [] ∧ destination dirs segs = dirs ++ rest ∧
    ∀ name ∈ rest, plainSegment name.toList ∉ forbiddenSegments

theorem Url.staysIn_iff_leadBelow {u dir : Url} {dirs : List String} (hdir : dir.IsDirectory dirs)
    (hfile : u.isFile = true) {s : String}
    (hpath : u.path = .segments (destination dirs (segmentsRead s))) :
    u.StaysIn dir ↔ LeadBelow dirs (segmentsRead s) := by
  have hslash : ∀ name ∈ destination dirs (segmentsRead s), '/' ∉ name.toList :=
    slash_not_mem_destination hdir.slash fun _ => slash_not_mem_segmentsRead
  have hbelow := Path.below_iff hdir.slash hslash fun seg => plainSegment seg ∉ forbiddenSegments
  rw [← hpath, ← hdir.path] at hbelow
  exact ⟨fun h => hbelow.1 h.below, fun h => ⟨hfile, hbelow.2 h⟩⟩

/-! ## Names of segments -/

/-- Two characters of ASCII that are no percent sign are read as they stand. -/
theorem plainSegment_pair {a b : Char} (ha : a.toNat < 0x80) (hb : b.toNat < 0x80) :
    (plainSegment [a, b]).toList = [a.toLower, b.toLower] := by
  have hbytes : encodeChars [a, b] = [UInt8.ofNat a.toNat, UInt8.ofNat b.toNat] := by
    rw [encodeChars_cons, encodeChars_cons, utf8EncodeChar_of_lt ha, utf8EncodeChar_of_lt hb]
    rfl
  have hdecode : percentDecode (encodeChars [a, b]) = utf8 (String.ofList [a, b]) := by
    rw [utf8, String.toList_ofList, hbytes]
    rfl
  rw [plainSegment, hdecode, lossy_utf8, String.toList_ofList, String.toList_ofList]
  rfl

/-- A drive is neither a dot segment nor a directory of packages. -/
theorem plainSegment_drive {seg : List Char} (h : isDrive seg = true) :
    plainSegment seg ∉ forbiddenSegments := by
  obtain ⟨letter, mark, rfl, hletter, hmark⟩ := exists_of_isDrive h
  have hletter' : letter.toNat < 0x80 := by
    have hrange := toNat_of_isAlpha hletter
    omega
  have hmark' : mark.toNat < 0x80 ∧ mark.toLower ≠ '.' := by
    rcases hmark with rfl | rfl
    · decide
    · decide
  have hpair := plainSegment_pair hletter' hmark'.1
  have hlength : (plainSegment [letter, mark]).toList.length = 2 := by
    rw [hpair]
    rfl
  intro hmem
  -- of the forbidden names only `..` has two characters, and it ends in a dot
  simp only [forbiddenSegments, List.mem_cons, List.not_mem_nil, or_false] at hmem
  rcases hmem with heq | heq | heq
  · rw [heq] at hlength
    exact absurd hlength (by decide)
  · rw [heq] at hpair
    exact hmark'.2 (List.cons.inj (List.cons.inj hpair).2).1.symm
  · rw [heq] at hlength
    exact absurd hlength (by decide)

theorem plainSegment_empty : plainSegment "".toList ∉ forbiddenSegments := by decide +kernel

theorem not_mem_forbiddenSegments {seg : List Char} (hdouble : isDoubleDot seg = false)
    (hsingle : isSingleDot seg = false) :
    plainSegment seg ∉ forbiddenSegments ↔ plainSegment seg ≠ "node_modules" := by
  have hdouble' : plainSegment seg ≠ ".." := by
    intro heq
    rw [(isDoubleDot_iff seg).2 heq] at hdouble
    cases hdouble
  have hsingle' : plainSegment seg ≠ "." := by
    intro heq
    rw [(isSingleDot_iff seg).2 heq] at hsingle
    cases hsingle
  simp [forbiddenSegments, hdouble', hsingle']

/-- A segment that is no dot segment adds one name, unless a drive at the root has something
behind it on another line. The name is forbidden if the segment reads as `node_modules`. -/
theorem namesOf_eq_singleton {seg : List Char} {atRoot : Bool}
    (htabs : atRoot = true → dropTabs seg = seg) (hdouble : isDoubleDot (dropTabs seg) = false)
    (hsingle : isSingleDot (dropTabs seg) = false) :
    ∃ name, namesOf atRoot seg = [name] ∧ (plainSegment name.toList ∉ forbiddenSegments ↔
      plainSegment (dropTabs seg) ≠ "node_modules") := by
  have hcut : (if atRoot then cutDrive? seg else none) = none := by
    cases atRoot with
    | false => rfl
    | true =>
        cases hdrive : cutDrive? seg with
        | none => rfl
        | some parts =>
            -- a drive is cut off at a tab, and there are none
            obtain ⟨-, -, -, -, -, c, hc, htab⟩ := cutDrive?_eq_some hdrive
            rw [← htabs rfl] at hc
            have hkept := (List.mem_filter.1 hc).2
            rw [htab] at hkept
            cases hkept
  unfold namesOf
  rw [hcut]
  dsimp only
  split
  · next hdrive =>
      obtain ⟨-, hdrive⟩ := Bool.and_eq_true_iff.1 hdrive
      refine ⟨_, rfl, ?_⟩
      have hdrive' : isDrive ((dropTabs seg).take 1 ++ [':']) = true := by
        match dropTabs seg, hdrive with
        | [letter, mark], hdrive =>
            obtain ⟨hletter, -⟩ := Bool.and_eq_true_iff.1 hdrive
            exact Bool.and_eq_true_iff.2 ⟨hletter, rfl⟩
      rw [String.toList_ofList, ← not_mem_forbiddenSegments hdouble hsingle]
      exact ⟨fun _ => plainSegment_drive hdrive, fun _ => plainSegment_drive hdrive'⟩
  · refine ⟨_, rfl, ?_⟩
    rw [plainSegment_segmentText]
    exact not_mem_forbiddenSegments hdouble hsingle

theorem plainSegment_ne_of_single {seg : List Char} (h : isSingleDot (dropTabs seg) = true) :
    plainSegment (dropTabs seg) ≠ "node_modules" := by
  rw [(isSingleDot_iff _).1 h]
  decide

/-- A segment on the way that does not go up adds at most one name. -/
theorem exists_stepFrom_eq_append {here : List String} {seg : List Char}
    (hdouble : isDoubleDot (dropTabs seg) = false) (htabs : here = [] → dropTabs seg = seg) :
    ∃ names, stepFrom here seg = here ++ names ∧
      ((∀ name ∈ names, plainSegment name.toList ∉ forbiddenSegments) ↔
        plainSegment (dropTabs seg) ≠ "node_modules") := by
  cases hsingle : isSingleDot (dropTabs seg) with
  | true =>
      refine ⟨[], ?_, fun _ => plainSegment_ne_of_single hsingle,
        fun _ name hname => absurd hname List.not_mem_nil⟩
      rw [stepFrom, hdouble, hsingle, List.append_nil]
      rfl
  | false =>
      obtain ⟨name, hname, hiff⟩ :=
        namesOf_eq_singleton (fun h => htabs (List.isEmpty_iff.1 h)) hdouble hsingle
      refine ⟨[name], ?_, by rw [List.forall_mem_singleton, hiff]⟩
      rw [stepFrom, hdouble, hsingle, ← hname]
      rfl

/-- The last segment adds one name if it does not go up, if only an empty one. -/
theorem exists_lastFrom_eq_append {here : List String} {seg : List Char}
    (hdouble : isDoubleDot (dropTabs seg) = false) (htabs : here = [] → dropTabs seg = seg) :
    ∃ name, lastFrom here seg = here ++ [name] ∧
      (plainSegment name.toList ∉ forbiddenSegments ↔
        plainSegment (dropTabs seg) ≠ "node_modules") := by
  cases hsingle : isSingleDot (dropTabs seg) with
  | true =>
      refine ⟨"", ?_, fun _ => plainSegment_ne_of_single hsingle, fun _ => plainSegment_empty⟩
      rw [lastFrom, hdouble, hsingle]
      rfl
  | false =>
      obtain ⟨name, hname, hiff⟩ :=
        namesOf_eq_singleton (fun h => htabs (List.isEmpty_iff.1 h)) hdouble hsingle
      refine ⟨name, ?_, hiff⟩
      rw [lastFrom, hdouble, hsingle, hname]
      rfl

/-- Segments that never go up lead below the directory they start from. -/
theorem exists_followFrom_eq_append {here : List String} {segs : List (List Char)} (hne : segs ≠ [])
    (hdouble : ∀ seg ∈ segs, isDoubleDot (dropTabs seg) = false)
    (htabs : here = [] → ∀ seg ∈ segs, dropTabs seg = seg) :
    ∃ rest, rest ≠ [] ∧ followFrom here segs = here ++ rest ∧
      ((∀ name ∈ rest, plainSegment name.toList ∉ forbiddenSegments) ↔
        ∀ seg ∈ segs, plainSegment (dropTabs seg) ≠ "node_modules") := by
  induction segs generalizing here with
  | nil => exact absurd rfl hne
  | cons seg rest ih =>
      have hseg := hdouble seg List.mem_cons_self
      have htab (h : here = []) : dropTabs seg = seg := htabs h seg List.mem_cons_self
      cases rest with
      | nil =>
          obtain ⟨name, hlast, hiff⟩ := exists_lastFrom_eq_append hseg htab
          refine ⟨[name], List.cons_ne_nil _ _, hlast, ?_⟩
          rw [List.forall_mem_singleton, List.forall_mem_singleton, hiff]
      | cons next rest =>
          obtain ⟨names, hstep, hiff⟩ := exists_stepFrom_eq_append hseg htab
          obtain ⟨names', hne', hfollow, hiff'⟩ := ih (List.cons_ne_nil _ _)
            (fun seg hseg => hdouble seg (List.mem_cons_of_mem _ hseg))
            fun h seg hseg =>
              htabs (List.append_eq_nil_iff.1 h).1 seg (List.mem_cons_of_mem _ hseg)
          refine ⟨names ++ names', List.append_ne_nil_of_right_ne_nil _ hne', ?_, ?_⟩
          · rw [followFrom_cons_cons, hstep, hfollow, List.append_assoc]
          · rw [List.forall_mem_append, List.forall_mem_cons (a := seg), hiff, hiff']

/-- Where no segment goes up, only `node_modules` is forbidden. -/
theorem leadBelow_iff {dirs : List String} {segs : List (List Char)} (hne : segs ≠ [])
    (hhead : dirs.head? ≠ some "") (hdouble : ∀ seg ∈ segs, plainSegment (dropTabs seg) ≠ "..")
    (htabs : dirs = [] → ∀ seg ∈ segs, dropTabs seg = seg) :
    LeadBelow dirs segs ↔ ∀ seg ∈ segs, plainSegment (dropTabs seg) ≠ "node_modules" := by
  have hdouble' : ∀ seg ∈ segs, isDoubleDot (dropTabs seg) = false := by
    intro seg hseg
    cases h : isDoubleDot (dropTabs seg) with
    | false => rfl
    | true => exact absurd ((isDoubleDot_iff _).1 h) (hdouble seg hseg)
  obtain ⟨rest, hrest, hfollow, hiff⟩ := exists_followFrom_eq_append hne hdouble' htabs
  rw [← hiff, LeadBelow, destination, hfollow]
  cases dirs with
  | nil =>
      have hempty := forall_dropEmptyFront (P := fun name : String =>
        plainSegment name.toList ∉ forbiddenSegments) plainSegment_empty rest
      rw [List.nil_append, ← hempty]
      constructor
      · rintro ⟨rest', -, heq, h⟩
        rw [heq]
        exact h
      · exact fun h => ⟨_, dropEmptyFront_ne_nil rest, rfl, h⟩
  | cons dir dirs =>
      -- below a named directory nothing is dropped at the front
      have hfront : dropEmptyFront (dir :: dirs ++ rest) = dir :: dirs ++ rest :=
        dropEmptyFront_of_head (List.cons_ne_nil _ _) hhead
      rw [hfront]
      constructor
      · rintro ⟨rest', -, heq, h⟩
        rw [List.append_cancel_left heq]
        exact h
      · exact fun h => ⟨rest, hrest, rfl, h⟩

/-! ## Targets of a package -/

/-- The guard lets a literal and what its star stands for through, each by itself, and a location
is read from the text that is put together of both. -/
structure TargetContext.Admits (ctx : TargetContext) (dirs : List String) (text : String)
    (u : Url) : Prop where
  literal : ∃ inner, text.toList = '.' :: '/' :: inner ∧ hasInvalidSegment inner = false
  captured : ∀ captured ∈ ctx.captured, hasInvalidSegment captured.toList = false
  isFile : u.isFile = true
  path : u.path = .segments (destination dirs (segmentsRead (substitute? ctx.captured text)))

theorem segmentsRead_ne_nil (s : String) : segmentsRead s ≠ [] := splitAll_ne_nil _ _

theorem substitute?_dotSlash {text : String} {inner : List Char}
    (h : text.toList = '.' :: '/' :: inner) (captured : Option String) :
    (substitute? captured text).toList =
      '.' :: '/' :: (substitute? captured (String.ofList inner)).toList := by
  cases captured with
  | none => rw [substitute?, substitute?, String.toList_ofList, h]
  | some captured =>
      rw [substitute?, substitute?, String.toList_ofList, String.toList_ofList,
        String.toList_ofList, h]
      rfl

/-- A literal stands for nothing but what is read from it. -/
theorem TargetContext.yields_admits {ctx : TargetContext} {dirs : List String}
    (hpackage : ctx.packageUrl.IsDirectory dirs) (henter : ctx.enter = none) (text : String) :
    (ctx.literal text).Yields (ctx.Admits dirs text) := by
  unfold TargetContext.literal
  split
  · next inner hinner =>
      refine .ofExcept fun u hu => ?_
      have htext := stripFront?_eq_some.1 hinner
      unfold innerLocation at hu
      split at hu
      · cases hu
      · next hguard =>
          split at hu
          · cases hu
          · next hcaptured =>
              dsimp only at hu
              split at hu
              · next hjoin =>
                  obtain rfl := Except.ok.inj hu
                  obtain ⟨v, hv, hfile, hpath⟩ :=
                    join?_dotSlash hpackage (substitute?_dotSlash htext ctx.captured)
                  obtain rfl := Option.some.inj (hjoin.symm.trans hv)
                  refine ⟨⟨inner, htext, by simpa using hguard⟩,
                    fun captured hc => ?_, hfile, hpath⟩
                  have hnone := Option.filter_eq_none_iff.1 hcaptured captured hc
                  simpa using hnone
              · cases hu
  · rw [henter]
    exact .throw _

/-! ## Ordinary text -/

/-- A character that is read as it stands, wherever it stands: no control, no space and no mark
that ends the path. -/
def Url.isOrdinary (c : Char) : Bool := !isControlOrSpace c && c != '?' && c != '#'

theorem Url.segmentsRead_of_ordinary {s : String} {cs : List Char}
    (hs : s.toList = '.' :: '/' :: cs) (h : ∀ c ∈ cs, isOrdinary c = true) :
    segmentsRead s = ['.'] :: splitAll isSlash cs := by
  have hcut (mark : Char) (hmark : isOrdinary mark = false) : (cutAt mark cs).1 = cs := by
    have hnone : splitFirst? (· == mark) cs = none := by
      refine splitFirst?_eq_none.2 fun c hc => ?_
      rw [beq_eq_false_iff_ne]
      rintro rfl
      rw [h c hc] at hmark
      cases hmark
    rw [cutAt, hnone]
  have htrim : (cs.reverse.dropWhile isControlOrSpace).reverse = cs := by
    cases hlast : cs.reverse with
    | nil =>
        rw [List.reverse_eq_nil_iff.1 hlast]
        rfl
    | cons c rest =>
        have hc : isControlOrSpace c = false := by
          have hord := h c (List.mem_reverse.1 (hlast ▸ List.mem_cons_self))
          simp only [isOrdinary, Bool.and_eq_true, Bool.not_eq_true'] at hord
          exact hord.1.1
        rw [List.dropWhile_cons, hc, ← List.reverse_reverse cs, hlast]
        rfl
  rw [segmentsRead, (Reference.body_of_dotSlash hs).2, htrim, hcut '#' (by decide),
    hcut '?' (by decide)]
  rfl

theorem dropTabs_of_ordinary {cs : List Char} (h : ∀ c ∈ cs, isOrdinary c = true) :
    dropTabs cs = cs := by
  refine List.filter_eq_self.2 fun c hc => ?_
  cases htab : isTabOrNewline c with
  | false => rfl
  | true =>
      have hord := h c hc
      simp only [isTabOrNewline, Bool.or_eq_true, decide_eq_true_eq] at htab
      rcases htab with (rfl | rfl) | rfl
      all_goals cases hord

theorem substitute_of_not_mem {captured : String} {cs : List Char} (h : '*' ∉ cs) :
    substitute captured cs = cs := by
  induction cs with
  | nil => rfl
  | cons c cs ih =>
      have hc : c ≠ '*' := fun heq => h (heq ▸ List.mem_cons_self)
      rw [substitute, List.flatMap_cons, if_neg hc]
      exact congrArg (c :: ·) (ih fun hmem => h (List.mem_cons_of_mem _ hmem))

theorem mem_substitute {captured : String} {cs : List Char} {c : Char}
    (h : c ∈ substitute captured cs) : c ∈ captured.toList ∨ c ∈ cs := by
  obtain ⟨d, hd, hc⟩ := List.mem_flatMap.1 h
  split at hc
  · exact Or.inl hc
  · exact Or.inr (List.mem_singleton.1 hc ▸ hd)

/-- A segment that is a star or holds none brings the segments of what the star stands for, or
itself. -/
theorem mem_splitAll_substitute_segment {captured : String} {part seg : List Char}
    (hpart : splitAll isAnySlash part = [part]) (hstar : '*' ∈ part → part = ['*'])
    (hseg : seg ∈ splitAll isAnySlash (substitute captured part)) :
    seg ∈ splitAll isAnySlash captured.toList ∨ seg = part := by
  by_cases hmem : '*' ∈ part
  · rw [hstar hmem] at hseg
    have hcaptured : substitute captured ['*'] = captured.toList := List.append_nil _
    rw [hcaptured] at hseg
    exact Or.inl hseg
  · rw [substitute_of_not_mem hmem, hpart] at hseg
    exact Or.inr (List.mem_singleton.1 hseg)

/-- What stands in the place of a star that is a segment of its own brings its own segments, and
the others stay. -/
theorem mem_splitAll_substitute {captured : String} {cs : List Char}
    (hstars : ∀ seg ∈ splitAll isAnySlash cs, '*' ∈ seg → seg = ['*']) {seg : List Char}
    (hseg : seg ∈ splitAll isAnySlash (substitute captured cs)) :
    seg ∈ splitAll isAnySlash captured.toList ∨ seg ∈ splitAll isAnySlash cs := by
  -- the induction takes one segment off, so it is on the length
  induction h : cs.length using Nat.strongRecOn generalizing cs with
  | ind n ih =>
      subst h
      cases hcut : splitFirst? isAnySlash cs with
      | none =>
          have hsingle := splitAll_eq_singleton (splitFirst?_eq_none.1 hcut)
          rw [hsingle] at hstars ⊢
          have hmem := mem_splitAll_substitute_segment hsingle
            (hstars cs (List.mem_singleton_self _)) hseg
          exact hmem.imp_right (List.mem_singleton.2 ·)
      | some parts =>
          obtain ⟨front, back⟩ := parts
          obtain ⟨slash, hslash, rfl, hfront⟩ := splitFirst?_eq_some hcut
          have hsingle := splitAll_eq_singleton hfront
          have hstar : slash ≠ '*' := by
            rintro rfl
            cases hslash
          have hsubstitute : substitute captured (front ++ slash :: back) =
              substitute captured front ++ slash :: substitute captured back := by
            rw [substitute, List.flatMap_append, List.flatMap_cons, if_neg hstar]
            rfl
          rw [hsubstitute, splitAll_append_cons hslash] at hseg
          rw [splitAll_append_cons hslash, hsingle] at hstars ⊢
          rcases List.mem_append.1 hseg with hseg | hseg
          · have hmem := mem_splitAll_substitute_segment hsingle (hstars front (by simp)) hseg
            exact hmem.imp_right fun heq => List.mem_append_left _ (List.mem_singleton.2 heq)
          · have hback := ih back.length (by simp; omega)
              (fun seg hseg => hstars seg (List.mem_append_right _ hseg)) hseg rfl
            exact hback.imp_right (List.mem_append_right _)

theorem plainSegment_of_guard {cs : List Char} (h : hasInvalidSegment cs = false) :
    ∀ seg ∈ splitAll isAnySlash cs, plainSegment seg ∉ forbiddenSegments := by
  simpa [hasInvalidSegment] using h

/-- Ordinary text that the guard has seen throughout is read as segments that stay below. -/
theorem leadBelow_of_ordinary {dirs : List String} (hhead : dirs.head? ≠ some "") {s : String}
    {cs : List Char} (hs : s.toList = '.' :: '/' :: cs) (hcs : ∀ c ∈ cs, isOrdinary c = true)
    (hsegs : ∀ seg ∈ splitAll isAnySlash cs, plainSegment seg ∉ forbiddenSegments) :
    LeadBelow dirs (segmentsRead s) := by
  have hread := segmentsRead_of_ordinary hs hcs
  have htabs : ∀ seg ∈ segmentsRead s, dropTabs seg = seg := by
    rw [hread]
    intro seg hseg
    rcases List.mem_cons.1 hseg with rfl | hseg
    · rfl
    · exact dropTabs_of_ordinary fun c hc => hcs c (mem_of_mem_splitAll hseg hc)
  have hplain : ∀ seg ∈ segmentsRead s,
      plainSegment (dropTabs seg) ≠ ".." ∧ plainSegment (dropTabs seg) ≠ "node_modules" := by
    intro seg hseg
    rw [htabs seg hseg]
    rw [hread] at hseg
    rcases List.mem_cons.1 hseg with rfl | hseg
    · decide +kernel
    · have hforbidden := hsegs seg hseg
      simp only [forbiddenSegments, List.mem_cons, List.not_mem_nil, or_false, not_or] at hforbidden
      exact hforbidden.2
  refine (leadBelow_iff (segmentsRead_ne_nil s) hhead (fun seg hseg => (hplain seg hseg).1)
    fun _ => htabs).2 ?_
  exact fun seg hseg => (hplain seg hseg).2

/-- Where the literal and the capture are ordinary text and every star is a segment of its own, the
guard sees all that is read. -/
theorem TargetContext.Admits.leadBelow_of_ordinary {ctx : TargetContext} {dirs : List String}
    (hhead : dirs.head? ≠ some "") {text : String} {u : Url} (h : ctx.Admits dirs text u)
    (htext : ∀ c ∈ text.toList, isOrdinary c = true)
    (hcaptured : ∀ captured ∈ ctx.captured, ∀ c ∈ captured.toList, isOrdinary c = true)
    (hstars : ∀ seg ∈ splitAll isAnySlash text.toList, '*' ∈ seg → seg = ['*']) :
    LeadBelow dirs (segmentsRead (substitute? ctx.captured text)) := by
  obtain ⟨inner, hinner, hguard⟩ := h.literal
  have hsplit : splitAll isAnySlash text.toList = ['.'] :: splitAll isAnySlash inner := by
    rw [hinner]
    rfl
  have hinner' : ∀ c ∈ inner, isOrdinary c = true :=
    fun c hc => htext c (by rw [hinner]; exact List.mem_cons_of_mem _ (List.mem_cons_of_mem _ hc))
  refine ModuleGraph.leadBelow_of_ordinary hhead (substitute?_dotSlash hinner ctx.captured) ?_ ?_
  · intro c hc
    cases hcapture : ctx.captured with
    | none =>
        rw [hcapture, substitute?, String.toList_ofList] at hc
        exact hinner' c hc
    | some captured =>
        rw [hcapture, substitute?, String.toList_ofList, String.toList_ofList] at hc
        rcases mem_substitute hc with hc | hc
        · exact hcaptured captured hcapture c hc
        · exact hinner' c hc
  · intro seg hseg
    cases hcapture : ctx.captured with
    | none =>
        rw [hcapture, substitute?, String.toList_ofList] at hseg
        exact plainSegment_of_guard hguard seg hseg
    | some captured =>
        rw [hcapture, substitute?, String.toList_ofList, String.toList_ofList] at hseg
        rw [hsplit] at hstars
        -- every segment that is read has been seen, in the literal or in the capture
        have hmem := mem_splitAll_substitute
          (fun seg hseg => hstars seg (List.mem_cons_of_mem _ hseg)) hseg
        rcases hmem with hseg | hseg
        · exact plainSegment_of_guard (h.captured captured hcapture) seg hseg
        · exact plainSegment_of_guard hguard seg hseg

namespace Target

/-- What a target resolves to is read from one of its literals. -/
theorem exists_admits_of_resolve {ctx : TargetContext} {dirs : List String} {u : Url}
    (hpackage : ctx.packageUrl.IsDirectory dirs) (henter : ctx.enter = none) {target : Target}
    {store : Store} (h : ((target.resolve ctx).run.run store).1 = .ok (some u)) :
    ∃ text ∈ target.literals, ctx.Admits dirs text u := by
  have hleaf (text : String) (htext : text ∈ target.literals) :
      (ctx.literal text).Yields fun u => ∃ text ∈ target.literals, ctx.Admits dirs text u :=
    (TargetContext.yields_admits hpackage henter text).mono fun u hu => ⟨text, htext, hu⟩
  exact target.yields_resolve hleaf store (some u) h u rfl

/-- A target stays in its package if its literals and what their stars stand for are ordinary text
and every star is a segment of its own. -/
theorem staysIn_of_ordinary {ctx : TargetContext} {dirs : List String} {u : Url}
    (hpackage : ctx.packageUrl.IsDirectory dirs) (henter : ctx.enter = none) {target : Target}
    {store : Store} (h : ((target.resolve ctx).run.run store).1 = .ok (some u))
    (hliterals : ∀ text ∈ target.literals, (∀ c ∈ text.toList, isOrdinary c = true) ∧
      ∀ seg ∈ splitAll isAnySlash text.toList, '*' ∈ seg → seg = ['*'])
    (hcaptured : ∀ captured ∈ ctx.captured, ∀ c ∈ captured.toList, isOrdinary c = true) :
    u.StaysIn ctx.packageUrl := by
  obtain ⟨text, htext, hadmits⟩ := exists_admits_of_resolve hpackage henter h
  obtain ⟨hordinary, hstars⟩ := hliterals text htext
  rw [staysIn_iff_leadBelow hpackage hadmits.isFile hadmits.path]
  exact hadmits.leadBelow_of_ordinary hpackage.head hordinary hcaptured hstars

/-- Whatever tree of targets a package has under `exports`, whatever its stars stand for and
whichever conditions hold: what it resolves to is read from one of its literals, and stays in the
package exactly if the segments that are read lead below it. If none of them reads as `..`, that
is if none of them reads as `node_modules`.

The location of a package is that of a directory, as is every location of a file that is read and
ends in a slash (`Url.exists_isDirectory_of_parse?`). -/
theorem staysIn_iff_of_resolve {packageUrl u : Url} {dirs : List String}
    (hpackage : packageUrl.IsDirectory dirs) (target : Target) (captured : Option String)
    (conditions : ConditionSet) (store : Store)
    (h : ((target.resolve { packageUrl, captured, conditions, enter := none }).run.run store).1 =
      .ok (some u)) :
    ∃ text ∈ target.literals,
      let segs := segmentsRead (substitute? captured text)
      TargetContext.Admits { packageUrl, captured, conditions, enter := none } dirs text u ∧
        (u.StaysIn packageUrl ↔ LeadBelow dirs segs) ∧
        ((∀ seg ∈ segs, plainSegment (dropTabs seg) ≠ "..") →
          (dirs = [] → ∀ seg ∈ segs, dropTabs seg = seg) →
          (u.StaysIn packageUrl ↔ ∀ seg ∈ segs, plainSegment (dropTabs seg) ≠ "node_modules")) := by
  obtain ⟨text, htext, hadmits⟩ := exists_admits_of_resolve hpackage rfl h
  have hiff := staysIn_iff_leadBelow hpackage hadmits.isFile hadmits.path
  refine ⟨text, htext, hadmits, hiff, fun hdouble htabs => ?_⟩
  rw [hiff]
  exact leadBelow_iff (segmentsRead_ne_nil _) hpackage.head hdouble htabs

/-- A package that is installed in a project. -/
def exampleContext (captured : Option String) : TargetContext where
  packageUrl :=
    { scheme := "file", authority := some { host := "" }
      path := .segments ["proj", "node_modules", "pkg", ""] }
  captured := captured
  conditions := .ofList ["import"]
  enter := none

/-- The location of a file by the names on the way to it. -/
def fileUrl (names : List String) : Url :=
  { scheme := "file", authority := some { host := "" }, path := .segments names }

/-- A literal behind a condition that holds, with two directories in the place of its star. The
location of the package is read from a text. -/
theorem staysIn_iff_of_resolve_pattern :
    let packageUrl := (exampleContext none).packageUrl
    let u := fileUrl ["proj", "node_modules", "pkg", "lib", "a", "b", "index.js"]
    let target : Target := .conditional [("import", .literal "./lib/*/index.js")]
    Url.parse? "file:///proj/node_modules/pkg/" = some packageUrl ∧
      ((target.resolve (exampleContext (some "a/b"))).run.run {}).1 = .ok (some u) ∧
      u.StaysIn packageUrl := by
  intro packageUrl u target
  have hparse : Url.parse? "file:///proj/node_modules/pkg/" = some packageUrl := by decide +kernel
  have hresolve : ((target.resolve (exampleContext (some "a/b"))).run.run {}).1 = .ok (some u) := by
    decide +kernel
  obtain ⟨dirs, hpackage⟩ := exists_isDirectory_of_parse? hparse rfl (by decide +kernel)
  obtain ⟨text, htext, -, -, hplain⟩ :=
    staysIn_iff_of_resolve hpackage target (some "a/b") (.ofList ["import"]) {} hresolve
  have hliterals : target.literals = ["./lib/*/index.js"] := by decide +kernel
  rw [hliterals, List.mem_singleton] at htext
  subst htext
  have hsegs : segmentsRead (substitute? (some "a/b") "./lib/*/index.js") =
      [".".toList, "lib".toList, "a".toList, "b".toList, "index.js".toList] := by decide +kernel
  rw [hsegs] at hplain
  exact ⟨hparse, hresolve, (hplain (by decide +kernel) fun _ => by decide +kernel).2
    (by decide +kernel)⟩

/-- A tab between two dots hides them from the guard and not from the reader. -/
theorem not_staysIn_of_tab :
    let u := fileUrl ["proj", "node_modules", "secret.js"]
    (((literal "./.\t./secret.js").resolve (exampleContext none)).run.run {}).1 = .ok (some u) ∧
      ¬ u.StaysIn (exampleContext none).packageUrl := by
  intro u
  refine ⟨by decide +kernel, ?_⟩
  rintro ⟨-, rest, htext, -⟩
  have hprefix : (exampleContext none).packageUrl.pathText.toList <+: u.pathText.toList :=
    ⟨rest, htext.symm⟩
  exact absurd hprefix (by decide +kernel)

end Target

end ModuleGraph
