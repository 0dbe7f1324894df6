import ModuleGraph.Package.Name
import ModuleGraph.Proofs.Package.Selection
import Mathlib.Data.List.TakeWhile

/-!
# The cut behind a package name

What a bare specifier can be cut into is said without the way the cut is found
(`PackageSpecifier.Splits`): the two pieces put together are the specifier, the first holds as many
slashes as the name of a package has, and the second opens with a slash if there is one. A
specifier is cut in one way at most, and `PackageSpecifier.parse` finds that one. The cut is also
found by counting octets up to the first slash, or up to the second one from the octet behind the
first (`PackageSpecifier.nameEnd?`).
-/

set_option autoImplicit false

namespace ModuleGraph

open Text Pattern

namespace PackageSpecifier

/-- A specifier is a package name with the rest behind it. A name that opens with `@` has one slash
in it and any other name has none. The subpath is a dot with the rest. -/
structure Splits (specifier : String) (parts : PackageSpecifier) (rest : String) : Prop where
  whole : specifier = parts.name ++ rest
  subpath : parts.subpath = "." ++ rest
  slashes : parts.name.toList.count '/' = if specifier.toList.head? = some '@' then 1 else 0
  opens : rest = "" ∨ rest.toList.head? = some '/'
  closes : rest.toList.getLast? ≠ some '/'
  undotted : parts.name.toList.head? ≠ some '.'
  noBackslash : '\\' ∉ parts.name.toList
  noPercent : '%' ∉ parts.name.toList

/-- The octet of a slash. -/
def slashOctet : UInt8 := 0x2F

/-- The offset of the first slash that is not in front of a given offset. -/
def slashFrom? (s : String) (start : Nat) : Option Nat :=
  (((utf8 s).drop start).findIdx? (· == slashOctet)).map (start + ·)

/-- Where the name ends that a specifier opens with, counted in octets. -/
def nameEnd? (s : String) : Option Nat :=
  if s.toList.head? = some '@' then
    (slashFrom? s 0).map fun scopeEnd => (slashFrom? s (scopeEnd + 1)).getD s.utf8ByteSize
  else some ((slashFrom? s 0).getD s.utf8ByteSize)

/-! ## Cuts of characters -/

/-- What is cut off at the first slash is told by the slashes of the two pieces. -/
theorem cutAtSlash_eq_iff {cs front back : List Char} :
    cutAtSlash cs = (front, back) ↔
      cs = front ++ back ∧ '/' ∉ front ∧ (back = [] ∨ back.head? = some '/') := by
  unfold cutAtSlash
  constructor
  · intro h
    obtain ⟨rfl, rfl⟩ := Prod.mk.inj h
    refine ⟨List.takeWhile_append_dropWhile.symm, ?_, ?_⟩
    · intro hmem
      have hne := List.mem_takeWhile_imp hmem
      simp at hne
    · have hhead := List.head?_dropWhile_not (· != '/') cs
      cases hback : cs.dropWhile (· != '/') with
      | nil => exact Or.inl rfl
      | cons c back =>
          rw [hback] at hhead
          have hc : c = '/' := by simpa using hhead
          exact Or.inr (congrArg some hc)
  · rintro ⟨rfl, hfront, hback⟩
    have hfront' : ∀ c ∈ front, (c != '/') = true := by
      intro c hc
      rw [bne_iff_ne]
      rintro rfl
      exact hfront hc
    have hstop : back.takeWhile (· != '/') = [] ∧ back.dropWhile (· != '/') = back := by
      cases back with
      | nil => exact ⟨rfl, rfl⟩
      | cons c back =>
          obtain rfl : c = '/' := by simpa using hback
          exact ⟨rfl, rfl⟩
    rw [List.takeWhile_append_of_pos hfront', List.dropWhile_append_of_pos hfront', hstop.1,
      hstop.2, List.append_nil]

theorem cut?_of_head_ne {cs : List Char} (h : cs.head? ≠ some '@') :
    cut? cs = some (cutAtSlash cs) := by
  unfold cut?
  split
  · exact absurd rfl h
  · rfl

/-- A scope is not cut off its name. -/
theorem cut?_of_scope {scope behind : List Char} (hat : scope.head? = some '@')
    (hscope : '/' ∉ scope) :
    cut? (scope ++ '/' :: behind) =
      some (scope ++ '/' :: (cutAtSlash behind).1, (cutAtSlash behind).2) := by
  cases scope with
  | nil => cases hat
  | cons c scope =>
      obtain rfl : c = '@' := Option.some.inj hat
      have hcut : cutAtSlash ('@' :: (scope ++ '/' :: behind)) =
          ('@' :: scope, '/' :: behind) := cutAtSlash_eq_iff.2 ⟨rfl, hscope, Or.inr rfl⟩
      rw [List.cons_append, cut?, hcut]

theorem cut?_of_no_slash {cs : List Char} (hat : cs.head? = some '@') (hslash : '/' ∉ cs) :
    cut? cs = none := by
  cases cs with
  | nil => cases hat
  | cons c cs =>
      obtain rfl : c = '@' := Option.some.inj hat
      have hcut : cutAtSlash ('@' :: cs) = ('@' :: cs, []) :=
        cutAtSlash_eq_iff.2 ⟨(List.append_nil _).symm, hslash, Or.inl rfl⟩
      rw [cut?, hcut]

/-- Characters with one slash have it between two pieces without. -/
theorem exists_append_of_count_eq_one {cs : List Char} (h : cs.count '/' = 1) :
    ∃ front back, cs = front ++ '/' :: back ∧ '/' ∉ front ∧ '/' ∉ back := by
  have hmem : '/' ∈ cs := List.count_pos_iff.1 (by omega)
  obtain ⟨front, back, rfl⟩ := List.append_of_mem hmem
  rw [List.count_append, List.count_cons_self] at h
  exact ⟨front, back, rfl, List.count_eq_zero.1 (by omega), List.count_eq_zero.1 (by omega)⟩

theorem head?_of_head?_append_slash {cs rest : List Char}
    (h : (cs ++ '/' :: rest).head? = some '@') : cs.head? = some '@' := by
  cases cs with
  | nil => simp at h
  | cons c cs => exact h

/-- The cut is told by the slashes of the name and by what stands behind it. -/
theorem cut?_eq_some_iff {cs name rest : List Char} :
    cut? cs = some (name, rest) ↔
      cs = name ++ rest ∧ name.count '/' = (if cs.head? = some '@' then 1 else 0) ∧
        (rest = [] ∨ rest.head? = some '/') := by
  by_cases hat : cs.head? = some '@'
  · rw [if_pos hat]
    constructor
    · intro h
      cases hcut : cutAtSlash cs with
      | mk scope behind =>
          obtain ⟨rfl, hscope, hbehind⟩ := cutAtSlash_eq_iff.1 hcut
          cases behind with
          | nil =>
              rw [List.append_nil] at hat h
              rw [cut?_of_no_slash hat hscope] at h
              cases h
          | cons slash behind =>
              obtain rfl : slash = '/' := by simpa using hbehind
              cases hcut' : cutAtSlash behind with
              | mk front back =>
                  rw [cut?_of_scope (head?_of_head?_append_slash hat) hscope, hcut'] at h
                  obtain ⟨rfl, rfl⟩ := Prod.mk.inj (Option.some.inj h)
                  obtain ⟨rfl, hfront, hback⟩ := cutAtSlash_eq_iff.1 hcut'
                  refine ⟨by rw [List.append_assoc, List.cons_append], ?_, hback⟩
                  rw [List.count_append, List.count_cons_self, List.count_eq_zero.2 hscope,
                    List.count_eq_zero.2 hfront]
    · rintro ⟨rfl, hcount, hrest⟩
      obtain ⟨scope, name, rfl, hscope, hname⟩ := exists_append_of_count_eq_one hcount
      rw [List.append_assoc, List.cons_append] at hat
      have hat' := head?_of_head?_append_slash hat
      have hcut : cutAtSlash (name ++ rest) = (name, rest) :=
        cutAtSlash_eq_iff.2 ⟨rfl, hname, hrest⟩
      rw [List.append_assoc, List.cons_append, cut?_of_scope hat' hscope, hcut]
  · rw [if_neg hat, cut?_of_head_ne hat, Option.some.injEq, cutAtSlash_eq_iff, List.count_eq_zero]

/-! ## Cuts of octets -/

theorem findIdx?_encodeChars {cs front back : List Char} (hcut : cutAtSlash cs = (front, back)) :
    (encodeChars cs).findIdx? (· == slashOctet) =
      if back = [] then none else some (byteLength front) := by
  obtain ⟨rfl, hfront, hback⟩ := cutAtSlash_eq_iff.1 hcut
  have hnone : (encodeChars front).findIdx? (· == slashOctet) = none := by
    rw [List.findIdx?_eq_none_iff]
    intro b hb
    rw [beq_eq_false_iff_ne]
    rintro rfl
    exact hfront (mem_encodeChars_of_lt (by decide) hb)
  rw [encodeChars_append, List.findIdx?_append, hnone, Option.none_or]
  cases back with
  | nil => rfl
  | cons c back =>
      obtain rfl : c = '/' := by simpa using hback
      have hslash : (encodeChars ('/' :: back)).findIdx? (· == slashOctet) = some 0 := rfl
      rw [hslash, if_neg (List.cons_ne_nil _ _), length_encodeChars]
      simp

/-- The first slash behind some characters of a specifier is where the rest is cut. -/
theorem slashFrom?_eq {s : String} {before behind front back : List Char}
    (hs : s.toList = before ++ behind) (hcut : cutAtSlash behind = (front, back)) :
    slashFrom? s (byteLength before) =
      if back = [] then none else some (byteLength (before ++ front)) := by
  have hdrop : (utf8 s).drop (byteLength before) = encodeChars behind := by
    rw [utf8, hs, encodeChars_append, ← length_encodeChars, List.drop_left]
  rw [slashFrom?, hdrop, findIdx?_encodeChars hcut]
  by_cases hback : back = []
  · rw [if_pos hback, if_pos hback]
    rfl
  · rw [if_neg hback, if_neg hback, byteLength_append]
    rfl

theorem getD_slashFrom? {s : String} {before behind front back : List Char}
    (hs : s.toList = before ++ behind) (hcut : cutAtSlash behind = (front, back)) :
    (slashFrom? s (byteLength before)).getD s.utf8ByteSize = byteLength (before ++ front) := by
  rw [slashFrom?_eq hs hcut]
  by_cases hback : back = []
  · obtain ⟨hbehind, -, -⟩ := cutAtSlash_eq_iff.1 hcut
    rw [if_pos hback, Option.getD_none, ← byteLength_toList, hs, hbehind, hback, List.append_nil]
  · rw [if_neg hback, Option.getD_some]

/-- Counting octets finds the cut that is made between characters. -/
theorem nameEnd?_eq (s : String) :
    nameEnd? s = (cut? s.toList).map fun pieces => byteLength pieces.1 := by
  unfold nameEnd?
  cases hcut : cutAtSlash s.toList with
  | mk front back =>
      have hnil : s.toList = [] ++ s.toList := rfl
      by_cases hat : s.toList.head? = some '@'
      · have hfirst := slashFrom?_eq hnil hcut
        obtain ⟨hwhole, hfront, hback⟩ := cutAtSlash_eq_iff.1 hcut
        rw [byteLength_nil, List.nil_append] at hfirst
        rw [if_pos hat, hfirst]
        cases back with
        | nil =>
            rw [List.append_nil] at hwhole
            rw [cut?_of_no_slash hat (hwhole ▸ hfront)]
            rfl
        | cons c behind =>
            obtain rfl : c = '/' := by simpa using hback
            cases hcut' : cutAtSlash behind with
            | mk name rest =>
                have hwhole' : s.toList = (front ++ ['/']) ++ behind := by
                  rw [hwhole, List.append_assoc]
                  rfl
                have hsecond := getD_slashFrom? hwhole' hcut'
                have hstart : byteLength (front ++ ['/']) = byteLength front + 1 :=
                  byteLength_append _ _
                rw [hwhole] at hat
                rw [hwhole, cut?_of_scope (head?_of_head?_append_slash hat) hfront, hcut',
                  if_neg (List.cons_ne_nil _ _), Option.map_some, Option.map_some, ← hstart,
                  hsecond, List.append_assoc]
                rfl
      · have hfirst := getD_slashFrom? hnil hcut
        rw [byteLength_nil, List.nil_append] at hfirst
        rw [if_neg hat, hfirst, cut?_of_head_ne hat, hcut]
        rfl

/-! ## Splits of specifiers -/

variable {specifier other : String} {parts parts' : PackageSpecifier} {rest rest' : String}

/-- A name is told by the three characters it must not have. -/
theorem isName_iff {name : List Char} :
    isName name = true ↔ name.head? ≠ some '.' ∧ '\\' ∉ name ∧ '%' ∉ name := by
  unfold isName
  simp [and_assoc]

/-- A split is a cut of the characters, with the name and the rest as they have to be. -/
theorem splits_iff :
    Splits specifier parts rest ↔
      cut? specifier.toList = some (parts.name.toList, rest.toList) ∧
        isName parts.name.toList = true ∧ rest.toList.getLast? ≠ some '/' ∧
        parts.subpath = "." ++ rest := by
  rw [cut?_eq_some_iff, isName_iff, ← String.toList_append, String.toList_inj]
  constructor
  · intro h
    have hopens : rest.toList = [] ∨ rest.toList.head? = some '/' :=
      h.opens.imp_left fun hempty => by rw [hempty]; rfl
    exact ⟨⟨h.whole, h.slashes, hopens⟩, ⟨h.undotted, h.noBackslash, h.noPercent⟩, h.closes,
      h.subpath⟩
  · rintro ⟨⟨hwhole, hslashes, hopens⟩, ⟨hdot, hbackslash, hpercent⟩, hcloses, hsubpath⟩
    have hopens' : rest = "" ∨ rest.toList.head? = some '/' :=
      hopens.imp_left String.toList_eq_nil_iff.1
    exact ⟨hwhole, hsubpath, hslashes, hopens', hcloses, hdot, hbackslash, hpercent⟩

/-- A specifier is split in one way at most. -/
theorem Splits.unique (h : Splits specifier parts rest) (h' : Splits specifier parts' rest') :
    parts = parts' ∧ rest = rest' := by
  obtain ⟨hcut, -, -, hsubpath⟩ := splits_iff.1 h
  obtain ⟨hcut', -, -, hsubpath'⟩ := splits_iff.1 h'
  obtain ⟨hname, hrest⟩ := Prod.mk.inj (Option.some.inj (hcut.symm.trans hcut'))
  obtain rfl := String.toList_inj.1 hrest
  obtain ⟨name, subpath⟩ := parts
  obtain ⟨name', subpath'⟩ := parts'
  obtain rfl : name = name' := String.toList_inj.1 hname
  obtain rfl : subpath = subpath' := hsubpath.trans hsubpath'.symm
  exact ⟨rfl, rfl⟩

/-- The pieces of a split tell what was split. -/
theorem Splits.specifier_eq (h : Splits specifier parts rest) (h' : Splits other parts rest') :
    specifier = other := by
  have hsubpaths : "." ++ rest = "." ++ rest' := h.subpath.symm.trans h'.subpath
  have hrest : rest = rest' := by
    have hlists := congrArg String.toList hsubpaths
    rw [String.toList_append, String.toList_append] at hlists
    exact String.toList_inj.1 (List.append_cancel_left hlists)
  rw [h.whole, h'.whole, hrest]

/-- A name is empty only if nothing or a slash opens the specifier. -/
theorem Splits.name_eq_empty_iff (h : Splits specifier parts rest) :
    parts.name = "" ↔ specifier = "" ∨ specifier.toList.head? = some '/' := by
  constructor
  · intro hname
    have hrest : specifier = rest := by rw [h.whole, hname, String.empty_append]
    rw [hrest]
    exact h.opens
  · rintro (hempty | hslash)
    · have hwhole := h.whole
      rw [hempty] at hwhole
      exact (String.append_eq_empty_iff.1 hwhole.symm).1
    · have hat : specifier.toList.head? ≠ some '@' := by rw [hslash]; decide
      have hcount := h.slashes
      rw [if_neg hat, List.count_eq_zero] at hcount
      rw [h.whole, String.toList_append] at hslash
      -- the slash would be the first character of the name
      cases hname : parts.name.toList with
      | nil => exact String.toList_eq_nil_iff.1 hname
      | cons c name =>
          rw [hname] at hslash hcount
          obtain rfl : c = '/' := Option.some.inj hslash
          exact absurd List.mem_cons_self hcount

theorem Splits.subpath_cases (h : Splits specifier parts rest) :
    parts.subpath = rootSubpath ∨ ∃ cs, parts.subpath.toList = '.' :: '/' :: cs := by
  rw [h.subpath]
  rcases h.opens with rfl | hslash
  · exact Or.inl rfl
  · cases hrest : rest.toList with
    | nil =>
        rw [hrest] at hslash
        cases hslash
    | cons c cs =>
        rw [hrest] at hslash
        obtain rfl : c = '/' := Option.some.inj hslash
        refine Or.inr ⟨cs, ?_⟩
        rw [String.toList_append, hrest]
        rfl

theorem parse_eq_ok_iff_splits :
    parse specifier = .ok parts ↔ ∃ rest, Splits specifier parts rest := by
  unfold parse
  constructor
  · intro h
    split at h
    · next name rest hcut =>
        split at h
        · next hguard =>
            obtain rfl := Except.ok.inj h
            rw [Bool.and_eq_true, bne_iff_ne] at hguard
            refine ⟨String.ofList rest, splits_iff.2 ?_⟩
            rw [String.toList_ofList, String.toList_ofList]
            exact ⟨hcut, hguard.1, hguard.2, String.ofList_cons⟩
        · cases h
    · cases h
  · rintro ⟨rest, h⟩
    obtain ⟨hcut, hname, hcloses, hsubpath⟩ := splits_iff.1 h
    rw [hcut]
    dsimp only
    rw [hname, Bool.true_and, if_pos (bne_iff_ne.2 hcloses), String.ofList_toList,
      String.ofList_cons, String.ofList_toList]
    cases parts
    cases hsubpath
    rfl

theorem parse_eq_ok (hne : specifier ≠ "") (h : parse specifier = .ok parts) :
    (parts.name = "" ↔ specifier.toList.head? = some '/') ∧
      (parts.subpath = rootSubpath ∨ ∃ cs, parts.subpath.toList = '.' :: '/' :: cs) := by
  obtain ⟨rest, hsplits⟩ := parse_eq_ok_iff_splits.1 h
  have hname := hsplits.name_eq_empty_iff
  rw [or_iff_right hne] at hname
  exact ⟨hname, hsplits.subpath_cases⟩

/-- There is one error, and it names the specifier. -/
theorem parse_eq_error {e : ResolveError} (h : parse specifier = .error e) :
    e = ⟨.invalidSpecifier, specifier⟩ := by
  unfold parse at h
  split at h
  · split at h
    · cases h
    · exact (Except.error.inj h).symm
  · exact (Except.error.inj h).symm

/-! ## Slices of specifiers -/

/-- Wherever a specifier is cut between characters, both pieces are slices of its octets. -/
theorem slices_of_toList {front back : List Char} (h : specifier.toList = front ++ back) :
    Slices specifier 0 (byteLength front) (String.ofList front) ∧
      Slices specifier (byteLength front) specifier.utf8ByteSize (String.ofList back) := by
  have hwhole : specifier = String.ofList front ++ String.ofList back := by
    rw [← String.ofList_append, ← h, String.ofList_toList]
  have hlength : byteLength front = (String.ofList front).utf8ByteSize := by
    rw [← byteLength_toList, String.toList_ofList]
  have hfront := slices_append "" (String.ofList front) (String.ofList back)
  have hback := slices_append (String.ofList front) (String.ofList back) ""
  rw [String.empty_append, String.utf8ByteSize_empty] at hfront
  rw [String.append_empty] at hback
  rw [hlength, hwhole]
  exact ⟨hfront, hback⟩

/-- In front of the place where the name ends and behind it are the two pieces that the characters
are cut into. -/
theorem exists_slices_of_nameEnd? {stop : Nat} (h : nameEnd? specifier = some stop) :
    ∃ name rest, cut? specifier.toList = some (name, rest) ∧
      Slices specifier 0 stop (String.ofList name) ∧
      Slices specifier stop specifier.utf8ByteSize (String.ofList rest) := by
  rw [nameEnd?_eq] at h
  obtain ⟨⟨name, rest⟩, hcut, rfl⟩ := Option.map_eq_some_iff.1 h
  obtain ⟨hwhole, -, -⟩ := cut?_eq_some_iff.1 hcut
  exact ⟨name, rest, hcut, slices_of_toList hwhole⟩

theorem nameEnd?_eq_none_iff : nameEnd? specifier = none ↔ cut? specifier.toList = none := by
  rw [nameEnd?_eq, Option.map_eq_none_iff]

/-- The first slash takes one octet, and there is a slice behind it. -/
theorem exists_slices_of_slashFrom? {scopeEnd : Nat} (h : slashFrom? specifier 0 = some scopeEnd) :
    ∃ behind, Slices specifier (scopeEnd + 1) specifier.utf8ByteSize behind := by
  cases hcut : cutAtSlash specifier.toList with
  | mk front back =>
      have hnil : specifier.toList = [] ++ specifier.toList := rfl
      have hfirst := slashFrom?_eq hnil hcut
      obtain ⟨hwhole, -, hback⟩ := cutAtSlash_eq_iff.1 hcut
      rw [byteLength_nil, h, List.nil_append] at hfirst
      cases back with
      | nil =>
          rw [if_pos rfl] at hfirst
          cases hfirst
      | cons c behind =>
          obtain rfl : c = '/' := by simpa using hback
          rw [if_neg (List.cons_ne_nil _ _)] at hfirst
          have hwhole' : specifier.toList = (front ++ ['/']) ++ behind := by
            rw [hwhole, List.append_assoc]
            rfl
          have hstart : byteLength (front ++ ['/']) = scopeEnd + 1 := by
            rw [byteLength_append, ← Option.some.inj hfirst]
            rfl
          obtain ⟨-, hslice⟩ := slices_of_toList hwhole'
          rw [hstart] at hslice
          exact ⟨String.ofList behind, hslice⟩

/-- For every specifier: what it is read as is exactly a way to split it behind a package name, and
there is one such way at most. If there is none, the one error that is left names the specifier.
No other specifier is read as the same. Counted in octets the name ends nowhere exactly if the
characters cannot be cut; otherwise the octets in front of that place and behind it are in range,
lie between characters, and are the two pieces, and so are the octets behind the first slash, where
the search for the second one starts. -/
theorem parse_splits_behind_name (specifier : String) :
    (∀ parts, parse specifier = .ok parts ↔ ∃ rest, Splits specifier parts rest) ∧
    (∀ parts rest parts' rest', Splits specifier parts rest → Splits specifier parts' rest' →
      parts = parts' ∧ rest = rest') ∧
    ((∀ parts rest, ¬ Splits specifier parts rest) ↔
      parse specifier = .error ⟨.invalidSpecifier, specifier⟩) ∧
    (∀ other parts, parse specifier = .ok parts → parse other = .ok parts → specifier = other) ∧
    (nameEnd? specifier = none ↔ cut? specifier.toList = none) ∧
    (∀ stop, nameEnd? specifier = some stop →
      ∃ name rest, cut? specifier.toList = some (name, rest) ∧
        Slices specifier 0 stop (String.ofList name) ∧
        Slices specifier stop specifier.utf8ByteSize (String.ofList rest)) ∧
    ∀ scopeEnd, slashFrom? specifier 0 = some scopeEnd →
      ∃ behind, Slices specifier (scopeEnd + 1) specifier.utf8ByteSize behind := by
  refine ⟨fun _ => parse_eq_ok_iff_splits, fun _ _ _ _ h h' => h.unique h', ⟨?_, ?_⟩, ?_,
    nameEnd?_eq_none_iff, fun _ h => exists_slices_of_nameEnd? h,
    fun _ h => exists_slices_of_slashFrom? h⟩
  · intro hnone
    cases hparse : parse specifier with
    | ok parts =>
        obtain ⟨rest, h⟩ := parse_eq_ok_iff_splits.1 hparse
        exact absurd h (hnone parts rest)
    | error e => rw [parse_eq_error hparse]
  · intro herror parts rest h
    rw [parse_eq_ok_iff_splits.2 ⟨rest, h⟩] at herror
    cases herror
  · intro other parts hparse hother
    obtain ⟨rest, h⟩ := parse_eq_ok_iff_splits.1 hparse
    obtain ⟨rest', h'⟩ := parse_eq_ok_iff_splits.1 hother
    exact h.specifier_eq h'

/-- A scope and a name with characters of two octets, and names at the edge: a scope without a
slash is none, and the name behind a scope may be empty. -/
theorem parse_splits_behind_name_of_edges :
    let specifier := "@ö/ü/ä.js"
    parse specifier = .ok ⟨"@ö/ü", "./ä.js"⟩ ∧ nameEnd? specifier = some 6 ∧
      Slices specifier 0 6 "@ö/ü" ∧ Slices specifier 6 12 "/ä.js" ∧
      (parse "@s//x" = .ok ⟨"@s/", "./x"⟩ ∧ Splits "@s//x" ⟨"@s/", "./x"⟩ "/x") ∧
      (parse "@s" = .error ⟨.invalidSpecifier, "@s"⟩ ∧ ∀ parts rest, ¬ Splits "@s" parts rest) ∧
      ∀ parts rest, ¬ Splits "a/" parts rest := by
  intro specifier
  have hsplits : Splits specifier ⟨"@ö/ü", "./ä.js"⟩ "/ä.js" :=
    ⟨by decide, by decide, by decide, by decide, by decide, by decide, by decide, by decide⟩
  have hsplits' : Splits "@s//x" ⟨"@s/", "./x"⟩ "/x" :=
    ⟨by decide, by decide, by decide, by decide, by decide, by decide, by decide, by decide⟩
  have hend : nameEnd? specifier = some 6 := by decide
  have hscope : parse "@s" = .error ⟨.invalidSpecifier, "@s"⟩ := by decide +kernel
  have hclosed : parse "a/" = .error ⟨.invalidSpecifier, "a/"⟩ := by decide +kernel
  obtain ⟨hparse, -, -, -, -, hslices, -⟩ := parse_splits_behind_name specifier
  obtain ⟨hparse', -⟩ := parse_splits_behind_name "@s//x"
  obtain ⟨-, -, hnone, -⟩ := parse_splits_behind_name "@s"
  obtain ⟨-, -, hnone', -⟩ := parse_splits_behind_name "a/"
  obtain ⟨name, rest, hcut, hfront, hback⟩ := hslices 6 hend
  have hpieces : cut? specifier.toList = some ("@ö/ü".toList, "/ä.js".toList) := by decide
  obtain ⟨rfl, rfl⟩ := Prod.mk.inj (Option.some.inj (hcut.symm.trans hpieces))
  exact ⟨(hparse _).2 ⟨_, hsplits⟩, hend, hfront, hback, ⟨(hparse' _).2 ⟨_, hsplits'⟩, hsplits'⟩,
    ⟨hscope, hnone.2 hscope⟩, hnone'.2 hclosed⟩

end PackageSpecifier

end ModuleGraph
