import ModuleGraph.Proofs.Url.File
import ModuleGraph.Proofs.Url.Regular

/-!
# Following a path from a directory

A reference that starts with `./` is followed segment by segment from the directory its base lies
in. From a directory nothing is ever carried over, so the trail is a list of names:
`Url.destination` says where the segments lead. The segments are those of the text as it is read,
which may not be the ones it seems to have: blanks at the ends, tabs, line ends, the query and the
fragment have gone.
-/

set_option autoImplicit false

namespace ModuleGraph.Url

open Text

/-- The location of a directory: a file with a final slash, below a list of names. -/
structure IsDirectory (u : Url) (dirs : List String) : Prop where
  isFile : u.isFile = true
  path : u.path = .segments (dirs ++ [""])
  head : dirs.head? ≠ some ""
  slash : ∀ name ∈ dirs, '/' ∉ name.toList

/-! ## Where segments lead -/

/-- The directory above. The root has none, and neither has a drive. -/
def climb (here : List String) : List String :=
  match here.getLast? with
  | none => here
  | some last => if isDrive last.toList then here else here.dropLast

/-- The names that a segment adds if it is no dot segment: its escaped form, but at the root a
drive is written with a colon and may be followed by a name of its own. -/
def namesOf (atRoot : Bool) (seg : List Char) : List String :=
  match if atRoot then cutDrive? seg else none with
  | some (drive, rest) => [String.ofList drive, Trail.segmentText rest]
  | none =>
      if atRoot && isDrive (dropTabs seg) then [String.ofList ((dropTabs seg).take 1 ++ [':'])]
      else [Trail.segmentText seg]

/-- Where a segment leads that a separator follows. -/
def stepFrom (here : List String) (seg : List Char) : List String :=
  if isDoubleDot (dropTabs seg) then climb here
  else if isSingleDot (dropTabs seg) then here
  else here ++ namesOf here.isEmpty seg

/-- Where the last segment leads. A dot segment leaves the directory with its slash. -/
def lastFrom (here : List String) (seg : List Char) : List String :=
  if isDoubleDot (dropTabs seg) then climb here ++ [""]
  else if isSingleDot (dropTabs seg) then here ++ [""]
  else here ++ namesOf here.isEmpty seg

/-- Where segments lead from a directory. -/
def followFrom (here : List String) : List (List Char) → List String
  | [] => here
  | [seg] => lastFrom here seg
  | seg :: rest => followFrom (stepFrom here seg) rest

theorem followFrom_cons_cons (here : List String) (seg next : List Char)
    (rest : List (List Char)) :
    followFrom here (seg :: next :: rest) = followFrom (stepFrom here seg) (next :: rest) := rfl

/-- The last segment leads where it would lead in front of a separator, but for a slash that a dot
segment leaves. -/
theorem lastFrom_cases (here : List String) (seg : List Char) :
    lastFrom here seg = stepFrom here seg ∨ lastFrom here seg = stepFrom here seg ++ [""] := by
  unfold lastFrom stepFrom
  split
  · exact Or.inr rfl
  · split
    · exact Or.inr rfl
    · exact Or.inl rfl

/-- Segments lead where those in front have led and the others lead from there. -/
theorem followFrom_append (here : List String) (front : List (List Char))
    {back : List (List Char)} (hback : back ≠ []) :
    followFrom here (front ++ back) = followFrom (front.foldl stepFrom here) back := by
  induction front generalizing here with
  | nil => rfl
  | cons seg front ih =>
      rw [List.cons_append, List.foldl_cons, ← ih]
      cases hrest : front ++ back with
      | nil => exact absurd (List.append_eq_nil_iff.1 hrest).2 hback
      | cons next rest => rfl

/-- Where segments lead from a directory, without empty names at the root. -/
def destination (dirs : List String) (segs : List (List Char)) : List String :=
  dropEmptyFront (followFrom dirs segs)

/-- The segments of the path of a reference, as they are read. -/
def segmentsRead (s : String) : List (List Char) := splitAll isSlash (Reference.ofString s).body

/-! ## Trails from a directory -/

namespace Trail

variable {t : Trail}

theorem flush_of_carry (h : t.carry = "") : t.flush = t := if_pos h

theorem up_eq (t : Trail) : t.up = { t with done := climb t.done } := by
  obtain ⟨done, carry, drive⟩ := t
  unfold up climb
  dsimp only
  cases done.getLast? with
  | none => rfl
  | some last =>
      dsimp only
      split
      · rfl
      · rfl

theorem push_done (h : t.carry = "") (seg : List Char) :
    (t.push true seg).done = t.done ++ namesOf t.done.isEmpty seg ∧
      (t.push true seg).carry = "" := by
  obtain ⟨done, carry, drive⟩ := t
  obtain rfl : carry = "" := h
  unfold push namesOf
  -- at the front both look at the same segment, and nothing is carried into the others
  cases done with
  | nil =>
      simp only [List.isEmpty_nil, Bool.true_and, decide_true, if_true]
      cases cutDrive? seg with
      | some parts => exact ⟨rfl, rfl⟩
      | none =>
          dsimp only
          split
          · exact ⟨rfl, rfl⟩
          · exact ⟨by rw [String.empty_append], rfl⟩
  | cons name names =>
      refine ⟨?_, rfl⟩
      show name :: names ++ ["" ++ segmentText seg] = name :: names ++ [segmentText seg]
      rw [String.empty_append]

theorem step_done (h : t.carry = "") (seg : List Char) :
    (t.step true seg).done = stepFrom t.done seg ∧ (t.step true seg).carry = "" := by
  unfold step stepFrom
  split
  · rw [up_eq]
    exact ⟨rfl, h⟩
  · split
    · rw [flush_of_carry h]
      exact ⟨rfl, h⟩
    · exact push_done h seg

theorem finish_done (h : t.carry = "") (seg : List Char) :
    (t.finish true seg).done = lastFrom t.done seg := by
  unfold finish lastFrom
  split
  · rw [up_eq]
  · split
    · rw [flush_of_carry h]
    · exact (push_done h seg).1

/-- From a directory on, a trail is the list of its names. -/
theorem walk_done (h : t.carry = "") (segs : List (List Char)) :
    (t.walk true segs).done = followFrom t.done segs := by
  induction segs generalizing t with
  | nil => rfl
  | cons seg rest ih =>
      cases rest with
      | nil => exact finish_done h seg
      | cons next rest =>
          obtain ⟨hdone, hcarry⟩ := step_done h seg
          show (walk true (t.step true seg) (next :: rest)).done = _
          rw [ih hcarry, hdone, followFrom_cons_cons]

end Trail

/-! ## References from a directory -/

theorem cutAt_cons_of_ne {mark c : Char} (h : c ≠ mark) (cs : List Char) :
    (cutAt mark (c :: cs)).1 = c :: (cutAt mark cs).1 := by
  unfold cutAt
  rw [splitFirst?, if_neg (by simpa using h)]
  cases splitFirst? (· == mark) cs with
  | none => rfl
  | some parts => rfl

theorem isTabOrNewline_of_not_control {c : Char} (h : isControlOrSpace c = false) :
    isTabOrNewline c = false := by
  rw [← Bool.not_eq_true]
  intro htab
  simp only [isTabOrNewline, Bool.or_eq_true, decide_eq_true_eq] at htab
  rcases htab with (rfl | rfl) | rfl
  · cases h
  · cases h
  · cases h

/-- A scheme opens with a letter. -/
theorem cutScheme_cons {c : Char} (hcontrol : isControlOrSpace c = false)
    (halpha : c.isAlpha = false) (cs : List Char) : cutScheme (c :: cs) = (none, c :: cs) := by
  have hplain : (!isTabOrNewline c) = true := by rw [isTabOrNewline_of_not_control hcontrol]; rfl
  have htabs : dropTabs (c :: cs) = c :: dropTabs cs := List.filter_cons_of_pos hplain
  rw [cutScheme, htabs, splitScheme?, halpha]
  rfl

/-- Of a text that starts with neither a blank nor a letter, what is trimmed at its end, the
fragment and the query are cut off. -/
theorem Reference.ofString_cons {s : String} {c : Char} {cs : List Char} (hs : s.toList = c :: cs)
    (hcontrol : isControlOrSpace c = false) (halpha : c.isAlpha = false) :
    let cut := cutAt '#' (s.toList.reverse.dropWhile isControlOrSpace).reverse
    ofString s = { scheme := none, body := (cutAt '?' cut.1).1, query := (cutAt '?' cut.1).2,
                   fragment := cut.2 } := by
  have htrim : trimBoth isControlOrSpace s.toList =
      (s.toList.reverse.dropWhile isControlOrSpace).reverse := by
    rw [hs, trimBoth_cons hcontrol, reverse_dropWhile_cons hcontrol]
  have hscheme : cutScheme (s.toList.reverse.dropWhile isControlOrSpace).reverse =
      (none, (s.toList.reverse.dropWhile isControlOrSpace).reverse) := by
    rw [hs, reverse_dropWhile_cons hcontrol, cutScheme_cons hcontrol halpha]
  unfold ofString
  rw [htrim, hscheme]

theorem Reference.body_of_dot {s : String} {cs : List Char} (h : s.toList = '.' :: cs) :
    (ofString s).scheme = none ∧
      (ofString s).body =
        '.' :: (cutAt '?' (cutAt '#' (cs.reverse.dropWhile isControlOrSpace).reverse).1).1 := by
  rw [ofString_cons h (by decide) (by decide), h, reverse_dropWhile_cons (by decide)]
  refine ⟨rfl, ?_⟩
  dsimp only
  rw [cutAt_cons_of_ne (by decide), cutAt_cons_of_ne (by decide)]

theorem Reference.body_of_dotSlash {s : String} {cs : List Char} (h : s.toList = '.' :: '/' :: cs) :
    (ofString s).scheme = none ∧
      (ofString s).body =
        '.' :: '/' ::
          (cutAt '?' (cutAt '#' (cs.reverse.dropWhile isControlOrSpace).reverse).1).1 := by
  obtain ⟨hscheme, hbody⟩ := body_of_dot h
  refine ⟨hscheme, ?_⟩
  rw [hbody, reverse_dropWhile_cons (by decide), cutAt_cons_of_ne (by decide),
    cutAt_cons_of_ne (by decide)]

/-- A file from which references are followed below a list of names: a directory of these names, or
a file in it. -/
structure StartsAt (u : Url) (dirs : List String) : Prop where
  isFile : u.isFile = true
  hierarchical : u.isRootless = false
  trail : Trail.ofBase u = { done := dirs }

theorem startsAt_of_segments {u : Url} {segs : List String} (hfile : u.isFile = true)
    (hpath : u.path = .segments segs)
    (hlast : ∀ last ∈ segs.getLast?, isNormalDrive last.toList = false) :
    u.StartsAt segs.dropLast := by
  refine ⟨hfile, by rw [isRootless, hpath], ?_⟩
  unfold Trail.ofBase
  rw [hpath]
  dsimp only
  cases hsegs : segs.getLast? with
  | none =>
      rw [List.getLast?_eq_none_iff.1 hsegs]
      rfl
  | some last =>
      dsimp only
      rw [hlast last hsegs, Bool.and_false, if_neg Bool.false_ne_true]

theorem IsDirectory.startsAt {u : Url} {dirs : List String} (h : u.IsDirectory dirs) :
    u.StartsAt dirs := by
  have hlast : (dirs ++ [""]).getLast? = some "" := List.getLast?_concat
  have hstarts := startsAt_of_segments h.isFile h.path fun last hmem => by
    obtain rfl := Option.some.inj (hlast.symm.trans hmem)
    rfl
  rwa [List.dropLast_concat] at hstarts

/-- A reference that starts with a dot can be followed from every file. -/
theorem join?_dot {u : Url} {dirs : List String} (h : u.StartsAt dirs) {s : String}
    {cs : List Char} (hs : s.toList = '.' :: cs) :
    u.join? s = some ((Reference.ofString s).finish "file" u.authority
      (.segments (destination dirs (segmentsRead s)))) := by
  obtain ⟨hscheme, hbody⟩ := Reference.body_of_dot hs
  generalize (cutAt '?' (cutAt '#' (cs.reverse.dropWhile isControlOrSpace).reverse).1).1 = rest
    at hbody
  have htext : (Reference.ofString s).text = '.' :: dropTabs rest := by
    rw [Reference.text, hbody]
    rfl
  have hslash : behindSlash? (Reference.ofString s).body = none := by
    rw [hbody]
    rfl
  have hdrive : startsWithDrive (Reference.ofString s).text = false := by
    rw [htext]
    match dropTabs rest with
    | [] => rfl
    | [_] => rfl
    | _ :: _ :: _ => rfl
  -- with no scheme, no slash in front and no drive it is followed from the base
  unfold join? Reference.resolve?
  rw [hscheme]
  dsimp only
  rw [if_neg (by simp [htext]), h.hierarchical, if_neg Bool.false_ne_true, if_pos h.isFile]
  unfold Reference.file?
  rw [if_neg (by simp [htext]), hslash]
  dsimp only
  rw [hdrive, if_neg Bool.false_ne_true, h.trail]
  show some (Reference.finish _ _ _ (.segments (dropEmptyFront (Trail.walk true _ _).done))) = _
  rw [Trail.walk_done rfl]
  rfl

/-- A reference that starts with `./` can be followed from every directory. -/
theorem join?_dotSlash {u : Url} {dirs : List String} (h : u.IsDirectory dirs) {s : String}
    {cs : List Char} (hs : s.toList = '.' :: '/' :: cs) :
    ∃ v, u.join? s = some v ∧ v.isFile = true ∧
      v.path = .segments (destination dirs (segmentsRead s)) :=
  ⟨_, join?_dot h.startsAt hs, rfl, rfl⟩

/-! ## Names on the way -/

section Names

variable {P : String → Prop} {here : List String}

theorem mem_climb {name : String} (h : name ∈ climb here) : name ∈ here := by
  unfold climb at h
  split at h
  · exact h
  · split at h
    · exact h
    · exact List.dropLast_subset _ h

theorem forall_stepFrom {seg : List Char} (hhere : ∀ name ∈ here, P name)
    (hnames : isDoubleDot (dropTabs seg) = false → ∀ name ∈ namesOf here.isEmpty seg, P name) :
    ∀ name ∈ stepFrom here seg, P name := by
  intro name hname
  unfold stepFrom at hname
  split at hname
  · exact hhere name (mem_climb hname)
  · next hdouble =>
      split at hname
      · exact hhere name hname
      · rcases List.mem_append.1 hname with hname | hname
        · exact hhere name hname
        · exact hnames (Bool.eq_false_iff.2 hdouble) name hname

theorem forall_lastFrom {seg : List Char} (hhere : ∀ name ∈ here, P name) (hempty : P "")
    (hnames : isDoubleDot (dropTabs seg) = false → ∀ name ∈ namesOf here.isEmpty seg, P name) :
    ∀ name ∈ lastFrom here seg, P name := by
  intro name hname
  rcases lastFrom_cases here seg with hlast | hlast
  · rw [hlast] at hname
    exact forall_stepFrom hhere hnames name hname
  · rw [hlast] at hname
    rcases List.mem_append.1 hname with hname | hname
    · exact forall_stepFrom hhere hnames name hname
    · rwa [List.mem_singleton.1 hname]

/-- Every name that segments lead to was there before or comes from one of them. -/
theorem forall_followFrom {segs : List (List Char)} (hhere : ∀ name ∈ here, P name)
    (hempty : P "") (hnames : ∀ seg ∈ segs, isDoubleDot (dropTabs seg) = false →
      ∀ atRoot, ∀ name ∈ namesOf atRoot seg, P name) :
    ∀ name ∈ followFrom here segs, P name := by
  induction segs generalizing here with
  | nil => exact hhere
  | cons seg rest ih =>
      have hseg (hdouble : isDoubleDot (dropTabs seg) = false) :=
        hnames seg List.mem_cons_self hdouble here.isEmpty
      cases rest with
      | nil => exact forall_lastFrom hhere hempty hseg
      | cons next rest =>
          exact ih (forall_stepFrom hhere hseg) fun seg hseg =>
            hnames seg (List.mem_cons_of_mem _ hseg)

/-- The front that is dropped is empty names. -/
theorem forall_dropEmptyFront (hempty : P "") (names : List String) :
    (∀ name ∈ dropEmptyFront names, P name) ↔ ∀ name ∈ names, P name := by
  unfold dropEmptyFront
  induction names with
  | nil =>
      constructor
      · intro _ name hname
        cases hname
      · intro _ name hname
        rwa [List.mem_singleton.1 hname]
  | cons name names ih =>
      rw [List.dropWhile_cons]
      by_cases hname : name = ""
      · subst hname
        rw [if_pos (by rfl), ih]
        exact ⟨fun h => List.forall_mem_cons.2 ⟨hempty, h⟩, fun h => (List.forall_mem_cons.1 h).2⟩
      · rw [if_neg (by simpa using hname)]

theorem dropEmptyFront_ne_nil (names : List String) : dropEmptyFront names ≠ [] := by
  unfold dropEmptyFront
  split
  · exact List.cons_ne_nil _ _
  · next hne => exact hne

theorem dropEmptyFront_empty_cons (names : List String) :
    dropEmptyFront ("" :: names) = dropEmptyFront names := by
  unfold dropEmptyFront
  rw [List.dropWhile_cons_of_pos (by simp)]

theorem dropEmptyFront_of_head {names : List String} (hne : names ≠ [])
    (hhead : names.head? ≠ some "") : dropEmptyFront names = names := by
  unfold dropEmptyFront
  cases names with
  | nil => exact absurd rfl hne
  | cons name names =>
      have hname : (name == "") = false := by
        rw [beq_eq_false_iff_ne]
        rintro rfl
        exact hhead rfl
      rw [List.dropWhile_cons, hname]
      rfl

end Names

/-! ## Names and slashes -/

theorem mem_of_mem_dropTabs {c : Char} {cs : List Char} (h : c ∈ dropTabs cs) : c ∈ cs :=
  (List.mem_filter.1 h).1

theorem exists_of_isDrive {seg : List Char} (h : isDrive seg = true) :
    ∃ letter mark, seg = [letter, mark] ∧ letter.isAlpha = true ∧ (mark = ':' ∨ mark = '|') := by
  unfold isDrive at h
  split at h
  · next letter mark =>
      simp only [Bool.and_eq_true, Bool.or_eq_true, decide_eq_true_eq] at h
      exact ⟨letter, mark, rfl, h⟩
  · cases h

theorem toNat_of_isAlpha {c : Char} (h : c.isAlpha = true) :
    (0x41 ≤ c.toNat ∧ c.toNat ≤ 0x5A) ∨ (0x61 ≤ c.toNat ∧ c.toNat ≤ 0x7A) := by
  rcases (Bool.or_eq_true _ _).mp h with hupper | hlower
  · exact Or.inl (of_decide_eq_true hupper)
  · obtain ⟨hlow, hhigh⟩ := (Bool.and_eq_true _ _).mp hlower
    exact Or.inr ⟨of_decide_eq_true hlow, of_decide_eq_true hhigh⟩

/-- What `cutDrive?` finds: a letter, and a tab or a line end between what it cuts. -/
theorem cutDrive?_eq_some {seg drive rest : List Char} (h : cutDrive? seg = some (drive, rest)) :
    ∃ letter ∈ seg, letter.isAlpha = true ∧ drive = [letter, ':'] ∧ (∀ c ∈ rest, c ∈ seg) ∧
      ∃ c ∈ seg, isTabOrNewline c = true := by
  unfold cutDrive? at h
  split at h
  · cases h
  · next letter behind hfront =>
      split at h
      · next mark back hback =>
          split at h
          · next hcut =>
              obtain ⟨rfl, rfl⟩ := Prod.mk.inj (Option.some.inj h)
              have hmem {c : Char} (hc : c ∈ letter :: behind) : c ∈ seg :=
                List.dropWhile_subset _ (hfront ▸ hc)
              have hmem' {c : Char} (hc : c ∈ ':' :: mark :: back) : c ∈ seg :=
                hmem (List.mem_cons_of_mem _ (List.dropWhile_subset _ (hback ▸ hc)))
              simp only [Bool.and_eq_true] at hcut
              refine ⟨letter, hmem List.mem_cons_self, hcut.1.1, rfl, fun c hc => hmem' ?_, mark,
                hmem' (by simp), hcut.1.2⟩
              exact List.mem_cons_of_mem _ (List.mem_cons_of_mem _ (mem_of_mem_dropTabs hc))
          · cases h
      · cases h

theorem slash_not_mem_segmentText {seg : List Char} (h : '/' ∉ seg) :
    '/' ∉ (Trail.segmentText seg).toList := by
  rw [Trail.segmentText, String.toList_ofList]
  intro hmem
  exact h (mem_of_mem_dropTabs (mem_of_mem_percentEncode (by decide) hmem))

theorem slash_not_mem_namesOf {seg : List Char} (h : '/' ∉ seg) (atRoot : Bool) :
    ∀ name ∈ namesOf atRoot seg, '/' ∉ name.toList := by
  intro name hname
  unfold namesOf at hname
  split at hname
  · next drive rest hcut =>
      have hdrive : cutDrive? seg = some (drive, rest) := by
        cases atRoot with
        | true => exact hcut
        | false => cases hcut
      obtain ⟨letter, hletter, -, rfl, hrest, -⟩ := cutDrive?_eq_some hdrive
      rcases List.mem_cons.1 hname with rfl | hname
      · rw [String.toList_ofList]
        intro hmem
        rcases List.mem_cons.1 hmem with rfl | hmem
        · exact h hletter
        · cases List.mem_singleton.1 hmem
      · rw [List.mem_singleton.1 hname]
        exact slash_not_mem_segmentText fun hmem => h (hrest _ hmem)
  · split at hname
    · rw [List.mem_singleton.1 hname, String.toList_ofList]
      intro hmem
      rcases List.mem_append.1 hmem with hmem | hmem
      · exact h (mem_of_mem_dropTabs (List.mem_of_mem_take hmem))
      · cases List.mem_singleton.1 hmem
    · rw [List.mem_singleton.1 hname]
      exact slash_not_mem_segmentText h

theorem slash_not_mem_segmentsRead {s : String} {seg : List Char} (h : seg ∈ segmentsRead s) :
    '/' ∉ seg := by
  intro hmem
  have hslash := eq_false_of_mem_splitAll h hmem
  cases hslash

theorem slash_not_mem_destination {dirs : List String} {segs : List (List Char)}
    (hdirs : ∀ name ∈ dirs, '/' ∉ name.toList) (hsegs : ∀ seg ∈ segs, '/' ∉ seg) :
    ∀ name ∈ destination dirs segs, '/' ∉ name.toList := by
  have hempty : '/' ∉ "".toList := by decide
  refine (forall_dropEmptyFront (P := fun name => '/' ∉ name.toList) hempty _).2 ?_
  exact forall_followFrom hdirs hempty fun seg hseg _ => slash_not_mem_namesOf (hsegs seg hseg)

/-! ## The text of a path -/

theorem Path.text_cons (name : String) (names : List String) :
    (Path.segments (name :: names)).text.toList =
      '/' :: (name.toList ++ (Path.segments names).text.toList) := by
  simp [Path.text, String.join_cons, String.toList_append]

theorem Path.text_append (names names' : List String) :
    (Path.segments (names ++ names')).text.toList =
      (Path.segments names).text.toList ++ (Path.segments names').text.toList := by
  induction names with
  | nil => rfl
  | cons name names ih =>
      rw [List.cons_append, text_cons, text_cons, ih, List.cons_append, List.append_assoc]

/-- Cutting a path gives its names back, if none of them can be cut. -/
theorem Path.splitAll_text_of {p : Char → Bool} (hslash : p '/' = true) {names : List String}
    (h : ∀ name ∈ names, ∀ c ∈ name.toList, p c = false) :
    splitAll p (Path.segments names).text.toList = [] :: names.map String.toList := by
  induction names with
  | nil => rfl
  | cons name names ih =>
      have hcut (cs : List Char) : splitAll p ('/' :: cs) = [] :: splitAll p cs := by
        rw [splitAll, if_pos hslash]
      rw [text_cons, hcut, splitAll_append_of_forall (h name List.mem_cons_self),
        ih fun name hname => h name (List.mem_cons_of_mem _ hname), List.modifyHead_cons,
        List.append_nil, List.map_cons]

theorem Path.splitAll_text {names : List String} (h : ∀ name ∈ names, '/' ∉ name.toList) :
    splitAll (· == '/') (Path.segments names).text.toList = [] :: names.map String.toList := by
  refine splitAll_text_of (by decide) fun name hname c hc => ?_
  rw [beq_eq_false_iff_ne]
  rintro rfl
  exact h name hname hc

/-- A path starts with that of a directory exactly if it has the names of the directory and more. -/
theorem Path.below_iff {dirs names : List String} (hdirs : ∀ name ∈ dirs, '/' ∉ name.toList)
    (hnames : ∀ name ∈ names, '/' ∉ name.toList) (P : List Char → Prop) :
    (∃ rest, (Path.segments names).text.toList =
        (Path.segments (dirs ++ [""])).text.toList ++ rest ∧
          ∀ seg ∈ splitAll (· == '/') rest, P seg) ↔
      ∃ rest, rest ≠ [] ∧ names = dirs ++ rest ∧ ∀ name ∈ rest, P name.toList := by
  have hdir : (Path.segments (dirs ++ [""])).text.toList =
      (Path.segments dirs).text.toList ++ ['/'] := by
    rw [text_append]
    rfl
  rw [hdir]
  constructor
  · rintro ⟨rest, htext, hrest⟩
    have hsplit := splitAll_text hnames
    rw [htext, List.append_assoc, List.singleton_append, splitAll_append_cons (by rfl),
      splitAll_text hdirs, List.cons_append] at hsplit
    -- cutting the text at its slashes gives the names back
    have hnames' : names = dirs ++ (splitAll (· == '/') rest).map String.ofList := by
      have hmap := congrArg (List.map String.ofList) (List.cons.inj hsplit).2
      have hid : String.ofList ∘ String.toList = id := funext fun _ => String.ofList_toList
      rw [List.map_append, List.map_map, List.map_map, hid, List.map_id, List.map_id] at hmap
      exact hmap.symm
    refine ⟨_, ?_, hnames', ?_⟩
    · intro hnil
      exact splitAll_ne_nil _ _ (List.map_eq_nil_iff.1 hnil)
    · intro name hname
      obtain ⟨seg, hseg, rfl⟩ := List.mem_map.1 hname
      rw [String.toList_ofList]
      exact hrest seg hseg
  · rintro ⟨rest, hne, rfl, hrest⟩
    cases rest with
    | nil => exact absurd rfl hne
    | cons name rest =>
        refine ⟨name.toList ++ (Path.segments rest).text.toList, ?_, ?_⟩
        · rw [text_append, text_cons, List.append_assoc, List.singleton_append]
        · have hbelow : ∀ name' ∈ name :: rest, '/' ∉ name'.toList :=
            fun name' hname => hnames name' (List.mem_append_right _ hname)
          have hsplit := splitAll_text hbelow
          rw [text_cons] at hsplit
          have htail := (List.cons.inj hsplit).2
          intro seg hseg
          rw [htail] at hseg
          obtain ⟨name', hname', rfl⟩ := List.mem_map.1 hseg
          exact hrest name' hname'

/-! ## Which locations are directories -/

/-- The path of a file, as it is read without a base. -/
def IsFilePath (names : List String) : Prop :=
  ∃ cs, names = destination [] (splitAll isSlash cs)

namespace Reference

variable (r : Reference) {u : Url}

theorem file_path (authority : Option Authority) (cs : List Char) :
    ∃ names, (r.file authority (Trail.walkFile {} cs)).path = .segments names ∧
      IsFilePath names := by
  refine ⟨_, rfl, cs, ?_⟩
  rw [destination, Trail.walkFile, Trail.walk_done rfl]

theorem file?_path (h : r.file? none = some u) :
    ∃ names, u.path = .segments names ∧ IsFilePath names := by
  unfold file? at h
  split at h
  · exact Option.some.inj h ▸ file_path r _ _
  · split at h
    · split at h
      · unfold fileWithHost? at h
        dsimp only at h
        split at h
        · exact Option.some.inj h ▸ file_path r _ _
        · split at h
          · exact Option.some.inj h ▸ file_path r _ _
          · obtain ⟨host, -, rfl⟩ := Option.map_eq_some_iff.1 h
            split
            · exact file_path r _ _
            · exact file_path r _ _
      · have hroot : r.fileFromRoot none _ = u := Option.some.inj h
        unfold fileFromRoot at hroot
        split at hroot
        · exact hroot ▸ file_path r _ _
        · exact hroot ▸ file_path r _ _
    · exact Option.some.inj h ▸ file_path r _ _

end Reference

/-- A file that is read without a base has such a path. -/
theorem exists_isFilePath_of_parse? {s : String} {u : Url} (h : parse? s = some u)
    (hfile : u.isFile = true) : ∃ names, u.path = .segments names ∧ IsFilePath names := by
  have hscheme : u.scheme = "file" := of_decide_eq_true hfile
  unfold parse? Reference.resolve? at h
  split at h
  · next scheme _ =>
      split at h
      · exact Reference.file?_path _ h
      · next hother =>
          -- the scheme stays what it was read as
          split at h
          · exact absurd ((Reference.scheme_of_withAuthority? _ h).symm.trans hscheme) hother
          · exact absurd ((Reference.scheme_of_plain? _ h).symm.trans hscheme) hother
  · cases h

theorem IsFilePath.slash {names : List String} (h : IsFilePath names) :
    ∀ name ∈ names, '/' ∉ name.toList := by
  obtain ⟨cs, rfl⟩ := h
  refine slash_not_mem_destination (by simp) fun seg hseg hmem => ?_
  cases eq_false_of_mem_splitAll hseg hmem

theorem IsFilePath.head {names : List String} (h : IsFilePath names) :
    names = [""] ∨ names.head? ≠ some "" := by
  obtain ⟨cs, rfl⟩ := h
  unfold destination dropEmptyFront
  split
  · exact Or.inl rfl
  · refine Or.inr fun hhead => ?_
    have hfront := List.head?_dropWhile_not (· == "") (followFrom [] (splitAll isSlash cs))
    rw [hhead] at hfront
    cases hfront

theorem Path.text_concat (names : List String) (name : String) :
    (Path.segments (names ++ [name])).text.toList =
      (Path.segments names).text.toList ++ '/' :: name.toList := by
  rw [text_append, text_cons]
  show _ ++ '/' :: (name.toList ++ []) = _
  rw [List.append_nil]

/-- Every file with a slash at the end is a directory. -/
theorem exists_isDirectory_of_parse? {s : String} {u : Url} (h : parse? s = some u)
    (hfile : u.isFile = true) (hslash : u.pathText.toList.getLast? = some '/') :
    ∃ dirs, u.IsDirectory dirs := by
  obtain ⟨names, hpath, hnames⟩ := exists_isFilePath_of_parse? h hfile
  rw [pathText, hpath] at hslash
  -- the last name is empty, since it holds no slash
  have hlast : ∃ dirs, names = dirs ++ [""] := by
    rcases List.eq_nil_or_concat names with rfl | ⟨dirs, name, rfl⟩
    · cases hslash
    · refine ⟨dirs, ?_⟩
      have hname : name.toList = [] := by
        cases hchars : name.toList with
        | nil => rfl
        | cons c rest =>
            have hlast : (c :: rest).getLast? = some '/' := by
              rw [List.concat_eq_append, Path.text_concat, hchars, List.getLast?_append,
                List.getLast?_cons_cons] at hslash
              simpa using hslash
            refine absurd (List.mem_of_getLast? hlast) ?_
            rw [← hchars]
            exact hnames.slash name (by simp)
      rw [List.concat_eq_append, String.toList_eq_nil_iff.1 hname]
  obtain ⟨dirs, rfl⟩ := hlast
  refine ⟨dirs, hfile, hpath, ?_,
    fun name hname => hnames.slash name (List.mem_append_left _ hname)⟩
  rcases hnames.head with hroot | hhead
  · cases dirs with
    | nil => simp
    | cons dir dirs =>
        have hlength := congrArg List.length hroot
        simp at hlength
  · cases dirs with
    | nil => simp
    | cons dir dirs => exact hhead

/-- What a name is written as is not empty and holds no slash. -/
theorem segment_of_mem {names : List Bytes} {seg : String} (h : seg ∈ segmentsOfNames names) :
    seg ≠ "" ∧ '/' ∉ seg.toList := by
  obtain ⟨c, hc, hseg⟩ := List.mem_filterMap.1 h
  obtain ⟨name, -, hname⟩ := List.mem_filterMap.1 hc
  constructor
  · rintro rfl
    obtain ⟨seg, hseg', hoctets⟩ := octets_of_component hname
    obtain rfl := Option.some.inj (hseg.symm.trans hseg')
    have hempty : octets "" = [] := rfl
    rw [hempty] at hoctets
    rw [← hoctets] at hname
    cases hname
  · intro hmem
    cases c with
    | root => cases hseg
    | current =>
        obtain rfl := Option.some.inj hseg
        exact absurd hmem (by decide)
    | parent =>
        obtain rfl := Option.some.inj hseg
        exact absurd hmem (by decide)
    | normal name =>
        obtain rfl := Option.some.inj hseg
        rw [String.toList_ofList] at hmem
        obtain ⟨b, -, hmem⟩ := List.mem_flatMap.1 hmem
        cases hescape : EscapeSet.fileName.escapes b with
        | true =>
            rw [hescape] at hmem
            exact absurd (mem_escapeChars_of_mem_escapeByte hmem) (by decide)
        | false =>
            rw [hescape] at hmem
            rw [if_neg Bool.false_ne_true, List.mem_singleton] at hmem
            obtain ⟨-, hset⟩ := EscapeSet.lt_of_not_escapes hescape
            rw [← hmem] at hset
            exact hset (by decide)

/-- The location of the directory at a path is a directory below the names of the path. -/
theorem isDirectory_of_ofDirPath? {p : FilePath} {u : Url} (h : ofDirPath? p = some u) :
    u.IsDirectory (segmentsOfNames p.names) ∧ u.authority = some localFile := by
  obtain ⟨v, hv, hu⟩ := Option.map_eq_some_iff.1 h
  rw [ofFilePath?_eq (isAbsolute_of_ofFilePath? hv)] at hv
  have hsegments : ∀ seg ∈ segmentsOfNames p.names, seg ≠ "" ∧ '/' ∉ seg.toList :=
    fun seg hseg => segment_of_mem hseg
  generalize segmentsOfNames p.names = segs at hv hsegments ⊢
  obtain rfl := Option.some.inj hv
  cases segs with
  | nil =>
      obtain rfl := hu
      exact ⟨⟨rfl, rfl, by decide, by simp⟩, rfl⟩
  | cons seg segs =>
      have hlast : (seg :: segs).getLast? ≠ some "" := by
        intro hlast
        exact (hsegments "" (List.mem_of_getLast? hlast)).1 rfl
      replace hu := (if_neg hlast).symm.trans hu
      obtain rfl := hu
      refine ⟨⟨rfl, rfl, ?_, fun seg hseg => (hsegments seg hseg).2⟩, rfl⟩
      intro hhead
      exact (hsegments seg List.mem_cons_self).1 (Option.some.inj hhead)

end ModuleGraph.Url
