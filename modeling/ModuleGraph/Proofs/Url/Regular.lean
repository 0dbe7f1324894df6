import ModuleGraph.Proofs.Text.Ascii
import ModuleGraph.Proofs.Text.Percent
import ModuleGraph.Proofs.Text.Split
import ModuleGraph.Resolve.Format
import ModuleGraph.Url.Parser

/-!
# What a location looks like when it is written

Every location that has been read is *regular*: its scheme is told by the first colon, and a path
without a hierarchy ends at the first question mark or hash. So the format of a location that is
no file can be told from its text.
-/

set_option autoImplicit false

namespace ModuleGraph

open Text

/-- A location whose parts can be told from its text. -/
structure Url.Regular (u : Url) : Prop where
  scheme : ∀ c ∈ u.scheme.toList, c ≠ ':' ∧ c ≠ '/'
  rootless : ∀ text, u.path = .rootless text → u.authority = none ∧
    text.toList.head? ≠ some '/' ∧ ∀ c ∈ text.toList, c ≠ '?' ∧ c ≠ '#'

namespace Url

/-! ## Reading -/

theorem ne_of_mem_cutAt {mark c : Char} {cs : List Char} (h : c ∈ (cutAt mark cs).1) :
    c ≠ mark ∧ c ∈ cs := by
  unfold cutAt at h
  split at h
  · next front back hsplit =>
      obtain ⟨x, -, rfl, hfront⟩ := splitFirst?_eq_some hsplit
      exact ⟨ne_of_beq_false (hfront c h), List.mem_append_left _ h⟩
  · next hsplit => exact ⟨ne_of_beq_false (splitFirst?_eq_none.1 hsplit c h), h⟩

theorem splitScheme?_mem {cs rest : List Char} {scheme : String}
    (h : splitScheme? cs = some (scheme, rest)) : ∀ c ∈ scheme.toList, c ≠ ':' ∧ c ≠ '/' := by
  have hletter {c : Char} (hc : c.isAlpha = true) : isSchemeChar c = true := by
    simp [isSchemeChar, Char.isAlphanum, hc]
  have hlower {c : Char} (hc : isSchemeChar c = true) : c.toLower ≠ ':' ∧ c.toLower ≠ '/' := by
    constructor
    · intro heq
      rw [eq_of_toLower_eq (by decide) heq] at hc
      cases hc
    · intro heq
      rw [eq_of_toLower_eq (by decide) heq] at hc
      cases hc
  cases cs with
  | nil => cases h
  | cons c cs =>
      rw [splitScheme?] at h
      split at h
      · next hc =>
          split at h
          · obtain ⟨rfl, -⟩ := Prod.mk.inj (Option.some.inj h)
            intro d hd
            rw [String.toList_ofList, List.mem_map] at hd
            obtain ⟨a, ha, rfl⟩ := hd
            rcases List.mem_cons.1 ha with rfl | ha
            · exact hlower (hletter hc)
            · exact hlower (List.all_eq_true.1 List.all_takeWhile a ha)
          · cases h
      · cases h

namespace Reference

theorem mem_scheme {s scheme : String} (h : (ofString s).scheme = some scheme) :
    ∀ c ∈ scheme.toList, c ≠ ':' ∧ c ≠ '/' := by
  have hcut : (cutScheme (trimBoth isControlOrSpace s.toList)).1 = some scheme := h
  unfold cutScheme at hcut
  split at hcut
  · next hsplit =>
      obtain rfl := Option.some.inj hcut
      exact splitScheme?_mem hsplit
  · cases hcut

/-- The query and the fragment have been cut off the body. -/
theorem ne_of_mem_body {s : String} {c : Char} (h : c ∈ (ofString s).body) : c ≠ '?' ∧ c ≠ '#' := by
  obtain ⟨hquery, hfront⟩ := ne_of_mem_cutAt h
  obtain ⟨hfragment, -⟩ := ne_of_mem_cutAt hfront
  exact ⟨hquery, hfragment⟩

variable (r : Reference) {u : Url}

theorem withAuthority?_eq {scheme : String} {cs : List Char}
    (h : r.withAuthority? scheme cs = some u) :
    ∃ authority segs, u = r.finish scheme (some authority) (.segments segs) := by
  obtain ⟨⟨username, password, rest⟩, -, h⟩ := Option.bind_eq_some_iff.1 h
  obtain ⟨host, -, h⟩ := Option.bind_eq_some_iff.1 h
  dsimp only at h
  split at h
  · cases h
  · obtain ⟨⟨port, rest⟩, -, rfl⟩ := Option.map_eq_some_iff.1 h
    exact ⟨_, _, rfl⟩

theorem regular_finish {scheme : String} (h : ∀ c ∈ scheme.toList, c ≠ ':' ∧ c ≠ '/')
    (authority : Option Authority) (segs : List String) :
    (r.finish scheme authority (.segments segs)).Regular :=
  ⟨h, fun _ htext => by cases htext⟩

theorem regular_plain? {scheme : String} (hscheme : ∀ c ∈ scheme.toList, c ≠ ':' ∧ c ≠ '/')
    (hbody : ∀ c ∈ r.text, c ≠ '?' ∧ c ≠ '#') (h : r.plain? scheme = some u) : u.Regular := by
  unfold plain? at h
  split at h
  · obtain ⟨authority, segs, rfl⟩ := withAuthority?_eq r h
    exact regular_finish r hscheme _ _
  · obtain rfl := Option.some.inj h
    exact regular_finish r hscheme _ _
  · next hroot hslash =>
      obtain rfl := Option.some.inj h
      refine ⟨hscheme, fun text htext => ⟨rfl, ?_⟩⟩
      obtain rfl := Path.rootless.inj htext
      rw [String.toList_ofList]
      constructor
      · intro hhead
        have hfront := head?_of_percentEncode (by decide) hhead
        obtain ⟨rest, hrest⟩ := List.head?_eq_some_iff.1 hfront
        exact hslash rest hrest
      · intro c hc
        have hmem {d : Char} (hd : d ∉ escapeChars) (heq : c = d) : d ∈ r.text := by
          subst heq
          exact mem_of_mem_percentEncode hd hc
        constructor
        · intro heq
          exact (hbody _ (hmem (by decide) heq)).1 rfl
        · intro heq
          exact (hbody _ (hmem (by decide) heq)).2 rfl

/-! ## References from files -/

theorem exists_file_of_fileWithHost? {cs : List Char} (h : r.fileWithHost? cs = some u) :
    ∃ authority t, u = r.file authority t := by
  unfold fileWithHost? at h
  dsimp only at h
  split at h
  · exact ⟨_, _, (Option.some.inj h).symm⟩
  · split at h
    · exact ⟨_, _, (Option.some.inj h).symm⟩
    · obtain ⟨host, -, rfl⟩ := Option.map_eq_some_iff.1 h
      split
      · exact ⟨_, _, rfl⟩
      · exact ⟨_, _, rfl⟩

theorem exists_file_fromRoot (base : Option Url) (cs : List Char) :
    ∃ authority t, r.fileFromRoot base cs = r.file authority t := by
  unfold fileFromRoot
  split
  · exact ⟨_, _, rfl⟩
  · split
    · exact ⟨_, _, rfl⟩
    · split
      · split
        · exact ⟨_, _, rfl⟩
        · exact ⟨_, _, rfl⟩
      · exact ⟨_, _, rfl⟩

/-- A `file` reference leads to a file with the query and fragment of the reference, or asks the
base for others. -/
theorem file?_cases {base : Option Url} (h : r.file? base = some u) :
    (∃ authority t, u = r.file authority t) ∨ ∃ b ∈ base, u = r.onBase b := by
  unfold file? at h
  split at h
  · obtain rfl := Option.some.inj h
    cases base with
    | none => exact Or.inl ⟨_, _, rfl⟩
    | some b => exact Or.inr ⟨b, rfl, rfl⟩
  · split at h
    · split at h
      · exact Or.inl (exists_file_of_fileWithHost? r h)
      · obtain rfl := Option.some.inj h
        exact Or.inl (exists_file_fromRoot r base _)
    · split at h
      · exact Or.inl ⟨_, _, (Option.some.inj h).symm⟩
      · split at h
        · exact Or.inl ⟨_, _, (Option.some.inj h).symm⟩
        · exact Or.inl ⟨_, _, (Option.some.inj h).symm⟩

/-- A `file` reference leads to a file. -/
theorem isFile_of_file? {base : Option Url} (hbase : ∀ b ∈ base, b.isFile = true)
    (h : r.file? base = some u) : u.isFile = true := by
  rcases file?_cases r h with ⟨authority, t, rfl⟩ | ⟨b, hb, rfl⟩
  · rfl
  · exact hbase b hb

/-! ## References to files -/

theorem scheme_of_withAuthority? {scheme : String} {cs : List Char}
    (h : r.withAuthority? scheme cs = some u) : u.scheme = scheme := by
  obtain ⟨authority, segs, rfl⟩ := withAuthority?_eq r h
  rfl

theorem scheme_of_plain? {scheme : String} (h : r.plain? scheme = some u) : u.scheme = scheme := by
  unfold plain? at h
  split at h
  · exact scheme_of_withAuthority? r h
  · exact Option.some.inj h ▸ rfl
  · exact Option.some.inj h ▸ rfl

theorem scheme_of_relative? {base : Url} (h : r.relative? base = some u) :
    u.scheme = base.scheme := by
  unfold relative? at h
  dsimp only at h
  split at h
  · exact Option.some.inj h ▸ rfl
  · exact scheme_of_withAuthority? r h
  · split at h
    · split at h
      · exact scheme_of_withAuthority? r h
      · exact Option.some.inj h ▸ rfl
    · exact Option.some.inj h ▸ rfl

/-- A file is only reached by a `file` reference, from a file if the base has a say. -/
theorem exists_file?_of_resolve? {base : Option Url} (h : r.resolve? base = some u)
    (hfile : u.isFile = true) :
    (∃ base', (∀ b ∈ base', b ∈ base ∧ b.isFile = true) ∧ r.file? base' = some u) ∨
      ∃ b ∈ base, b.isFile = true ∧ u = r.onBase b := by
  have hscheme : u.scheme = "file" := of_decide_eq_true hfile
  unfold resolve? at h
  split at h
  · next scheme _ =>
      split at h
      · exact Or.inl ⟨_, fun b hb => Option.mem_filter_iff.1 hb, h⟩
      · next hother =>
          -- any other scheme stays what it is
          split at h
          · split at h
            · split at h
              · next hboth =>
                  exact absurd (hboth.1.symm.trans ((scheme_of_relative? r h).symm.trans hscheme))
                    hother
              · exact absurd ((scheme_of_withAuthority? r h).symm.trans hscheme) hother
            · exact absurd ((scheme_of_withAuthority? r h).symm.trans hscheme) hother
          · exact absurd ((scheme_of_plain? r h).symm.trans hscheme) hother
  · split at h
    · cases h
    · next base =>
        split at h
        · obtain rfl := Option.some.inj h
          exact Or.inr ⟨base, rfl, hfile, rfl⟩
        · split at h
          · cases h
          · split at h
            · next hbase =>
                refine Or.inl ⟨some base, fun b hb => ?_, h⟩
                obtain rfl := Option.some.inj hb
                exact ⟨rfl, hbase⟩
            · next hbase =>
                have hsame := (scheme_of_relative? r h).symm.trans hscheme
                exact absurd (decide_eq_true hsame) hbase

/-- It has the query and the fragment of the reference, or is a file that has been started from. -/
theorem resolve?_cases {base : Option Url} (h : r.resolve? base = some u)
    (hfile : u.isFile = true) :
    (∃ authority t, u = r.file authority t) ∨ ∃ b ∈ base, b.isFile = true ∧ u = r.onBase b := by
  rcases exists_file?_of_resolve? r h hfile with ⟨base', hbase, hu⟩ | hbase
  · rcases file?_cases r hu with hnew | ⟨b, hb, rfl⟩
    · exact Or.inl hnew
    · exact Or.inr ⟨b, (hbase b hb).1, (hbase b hb).2, rfl⟩
  · exact Or.inr hbase

end Reference

/-- A location that is a file, or can be told from its text. -/
def Legible (u : Url) : Prop := u.isFile = true ∨ u.Regular

/-- A reference from a file, or from nowhere, leads to a legible location. -/
theorem legible_of_resolve? {s : String} {base : Option Url} (hbase : ∀ b ∈ base, b.isFile = true)
    {u : Url} (h : (Reference.ofString s).resolve? base = some u) : u.Legible := by
  have hauthority {scheme : String} (hs : (Reference.ofString s).scheme = some scheme)
      {cs : List Char} (h : (Reference.ofString s).withAuthority? scheme cs = some u) :
      u.Regular := by
    obtain ⟨authority, segs, rfl⟩ := Reference.withAuthority?_eq _ h
    exact Reference.regular_finish _ (Reference.mem_scheme hs) _ _
  unfold Reference.resolve? at h
  split at h
  · next scheme hs =>
      split at h
      · refine Or.inl (Reference.isFile_of_file? _ (fun b hb => ?_) h)
        exact hbase b (Option.mem_filter_iff.1 hb).1
      · next hfile =>
          refine Or.inr ?_
          split at h
          · split at h
            · next base =>
                -- the scheme is not that of the base, which is a file
                have hother : ¬ base.scheme = scheme := by
                  rintro rfl
                  exact hfile (of_decide_eq_true (hbase base rfl))
                rw [if_neg fun hboth => hother hboth.1] at h
                exact hauthority hs h
            · exact hauthority hs h
          · refine Reference.regular_plain? _ (Reference.mem_scheme hs) (fun c hc => ?_) h
            exact Reference.ne_of_mem_body (List.mem_filter.1 hc).1
  · split at h
    · cases h
    · next base =>
        have hfile : base.isFile = true := hbase base rfl
        refine Or.inl ?_
        split at h
        · exact Option.some.inj h ▸ hfile
        · split at h
          · cases h
          · exact Reference.isFile_of_file? _ hbase h

theorem legible_of_parse? {s : String} {u : Url} (h : parse? s = some u) : u.Legible := by
  refine legible_of_resolve? (fun b hb => ?_) h
  cases hb

theorem legible_of_join? {base u : Url} {s : String} (hbase : base.isFile = true)
    (h : base.join? s = some u) : u.Legible := by
  refine legible_of_resolve? (fun b hb => ?_) h
  obtain rfl := Option.some.inj hb
  exact hbase

/-! ## Writing -/

theorem href_toList (u : Url) :
    u.href.toList = u.scheme.toList ++ ':' :: (u.authorityText ++ u.pathText ++
      optionalPart "?" u.query ++ optionalPart "#" u.fragment).toList := by
  simp [href, String.toList_append]

theorem optionalPart_cases {mark : String} {m : Char} (hmark : mark.toList = [m])
    (part : Option String) : (optionalPart mark part).toList = [] ∨
      ∃ cs, (optionalPart mark part).toList = m :: cs := by
  cases part with
  | none => exact Or.inl rfl
  | some text =>
      refine Or.inr ⟨text.toList, ?_⟩
      rw [optionalPart, String.toList_append, hmark]
      rfl

/-- Nothing of the query and the fragment looks like a path. -/
theorem optionalParts_cases (u : Url) {tail : List Char}
    (h : tail = (optionalPart "?" u.query).toList ++ (optionalPart "#" u.fragment).toList) :
    tail = [] ∨ ∃ c cs, tail = c :: cs ∧ (c = '?' ∨ c = '#') := by
  have hquery : "?".toList = ['?'] := rfl
  have hfragment : "#".toList = ['#'] := rfl
  rcases optionalPart_cases hquery u.query with hq | ⟨cs, hq⟩
  · rcases optionalPart_cases hfragment u.fragment with hf | ⟨cs, hf⟩
    · exact Or.inl (by rw [h, hq, hf]; rfl)
    · exact Or.inr ⟨'#', cs, by rw [h, hq, hf]; rfl, Or.inr rfl⟩
  · exact Or.inr ⟨'?', _, by rw [h, hq]; rfl, Or.inl rfl⟩

/-- The path of a location without a hierarchy, by what its text has behind the scheme. -/
def rootlessPart (rest : List Char) : String :=
  if rest.head? = some '/' then "/"
  else String.ofList (rest.takeWhile fun c => c != '?' && c != '#')

theorem ofMediaType_slash (cs : List Char) :
    Format.ofMediaType (String.ofList ('/' :: cs)) = .undefined := by
  have hmime : ∃ rest, trimBlank ((String.ofList ('/' :: cs)).toList.takeWhile
      fun c => c != ',' && c != ';') = '/' :: rest := by
    rw [String.toList_ofList]
    exact ⟨_, trimBoth_cons (by decide) (cs.takeWhile fun c => c != ',' && c != ';')⟩
  obtain ⟨rest, hmime⟩ := hmime
  have hother {name : String} (hname : name.toList.head? ≠ some '/') :
      String.ofList (('/' :: rest).map Char.toLower) ≠ name := by
    rintro rfl
    rw [String.toList_ofList] at hname
    exact hname rfl
  unfold Format.ofMediaType
  dsimp only
  rw [hmime]
  split
  · next h => exact absurd h (hother (by decide))
  · next h => exact absurd h (hother (by decide))
  · rfl

theorem segments_text (segs : List String) :
    (Path.segments segs).text.toList = [] ∨
      ∃ cs, (Path.segments segs).text.toList = '/' :: cs := by
  cases segs with
  | nil => exact Or.inl rfl
  | cons seg segs =>
      refine Or.inr ⟨(seg ++ String.join (segs.map ("/" ++ ·))).toList, ?_⟩
      simp [Path.text, String.join_cons]

/-- Only a path without a hierarchy can be that of data with a type. -/
theorem ofMediaType_segments (segs : List String) :
    Format.ofMediaType (Path.segments segs).text = .undefined := by
  rw [← String.ofList_toList (s := (Path.segments segs).text)]
  rcases segments_text segs with h | ⟨cs, h⟩
  · rw [h]
    decide
  · rw [h]
    exact ofMediaType_slash cs

/-- A path with a hierarchy is written with a slash first, if anything is written. -/
theorem place_of_segments {u : Url} {segs : List String} (h : u.path = .segments segs) :
    u.authorityText.toList ++ u.pathText.toList = [] ∨
      ∃ cs, u.authorityText.toList ++ u.pathText.toList = '/' :: cs := by
  unfold authorityText
  cases u.authority with
  | some a =>
      refine Or.inr ⟨'/' :: (a.text ++ u.pathText).toList, ?_⟩
      simp [String.toList_append]
  | none =>
      dsimp only
      split
      · exact Or.inr ⟨'.' :: u.pathText.toList, rfl⟩
      · rw [pathText, h]
        exact segments_text segs

theorem rootlessPart_slash (cs : List Char) : rootlessPart ('/' :: cs) = "/" := rfl

theorem rootlessPart_text {text tail : List Char} (hslash : text.head? ≠ some '/')
    (hmarks : ∀ c ∈ text, c ≠ '?' ∧ c ≠ '#')
    (htail : tail = [] ∨ ∃ c cs, tail = c :: cs ∧ (c = '?' ∨ c = '#')) :
    rootlessPart (text ++ tail) = String.ofList text := by
  have hhead : (text ++ tail).head? ≠ some '/' := by
    cases text with
    | nil =>
        rcases htail with rfl | ⟨c, cs, rfl, rfl | rfl⟩
        · simp
        · simp
        · simp
    | cons c cs => exact hslash
  have htake : (text ++ tail).takeWhile (fun c => c != '?' && c != '#') = text := by
    rw [List.takeWhile_append_of_pos]
    · rcases htail with rfl | ⟨c, cs, rfl, rfl | rfl⟩
      · simp
      · simp
      · simp
    · intro c hc
      simp [hmarks c hc]
  rw [rootlessPart, if_neg hhead, htake]

theorem Regular.ofMediaType_eq {u : Url} (h : u.Regular) :
    Format.ofMediaType u.pathText =
      Format.ofMediaType (rootlessPart (u.authorityText ++ u.pathText ++
        optionalPart "?" u.query ++ optionalPart "#" u.fragment).toList) := by
  have htail := optionalParts_cases u rfl
  have htext : (u.authorityText ++ u.pathText ++ optionalPart "?" u.query ++
      optionalPart "#" u.fragment).toList = u.authorityText.toList ++ (u.pathText.toList ++
        ((optionalPart "?" u.query).toList ++ (optionalPart "#" u.fragment).toList)) := by
    simp [String.toList_append]
  rw [htext]
  generalize (optionalPart "?" u.query).toList ++ (optionalPart "#" u.fragment).toList = tail
    at htail
  cases hpath : u.path with
  | rootless text =>
      obtain ⟨hauthority, hslash, hmarks⟩ := h.rootless text hpath
      have hpathText : u.pathText = text := by rw [pathText, hpath]; rfl
      have hfront : u.authorityText = "" := by
        unfold authorityText
        rw [hauthority, hpathText]
        refine if_neg fun hstarts => hslash ?_
        obtain ⟨rest, hrest⟩ := Option.isSome_iff_exists.1 hstarts
        rw [stripFront?_eq_some.1 hrest]
        rfl
      rw [hfront, hpathText, String.toList_empty, List.nil_append,
        rootlessPart_text hslash hmarks htail, String.ofList_toList]
  | segments segs =>
      have hpathText : u.pathText = (Path.segments segs).text := by rw [pathText, hpath]
      rw [hpathText, ofMediaType_segments, ← hpathText, ← List.append_assoc]
      rcases place_of_segments hpath with hplace | ⟨cs, hplace⟩
      · rw [hplace, rootlessPart_text (by simp) (by simp) htail]
        decide
      · rw [hplace, List.cons_append, rootlessPart_slash]
        decide

/-- Regular locations that are written alike have the same format. -/
theorem Regular.ofScheme_eq {u v : Url} (hu : u.Regular) (hv : v.Regular) (h : u.href = v.href) :
    Format.ofScheme u = Format.ofScheme v := by
  have htext : u.href.toList = v.href.toList := congrArg String.toList h
  rw [href_toList, href_toList] at htext
  have hfront (u : Url) (hu : u.Regular) (rest : List Char) :
      (u.scheme.toList ++ ':' :: rest).takeWhile (· != ':') = u.scheme.toList := by
    rw [List.takeWhile_append_of_pos]
    · simp
    · intro c hc
      exact bne_iff_ne.2 (hu.scheme c hc).1
  have hscheme : u.scheme = v.scheme := by
    rw [← String.toList_inj, ← hfront u hu, htext, hfront v hv]
  have hrest := List.append_cancel_left (hscheme ▸ htext)
  unfold Format.ofScheme
  rw [hscheme]
  split
  · rfl
  · rw [hu.ofMediaType_eq, hv.ofMediaType_eq, (List.cons.inj hrest).2]
  · rfl

end Url

end ModuleGraph
