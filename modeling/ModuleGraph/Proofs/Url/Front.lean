import ModuleGraph.Proofs.Url.PathForm

/-!
# What files have in front of their query

However a program comes by the location of a file, its host and its segments hold nothing that would
end a path, or be trimmed, if the text of the location were read (`Formed.hasPlainFront`). So the
text is cut where the query and the fragment of the location begin.
-/

set_option autoImplicit false

namespace ModuleGraph

open Text FilePath

namespace Url

/-! ## Hosts -/

theorem staysInBody_of_mem_toDigits {base : Nat} (hbase : 1 < base) (hhex : base ≤ 16) {n : Nat}
    {c : Char} (h : c ∈ Nat.toDigits base n) : StaysInBody c := by
  have hdigit : ∀ digit < 16, StaysInBody (Nat.digitChar digit) := by decide
  induction n using Nat.strongRecOn with
  | ind n ih =>
      by_cases hn : n < base
      · rw [Nat.toDigits_of_lt_base hn] at h
        rw [List.mem_singleton.1 h]
        exact hdigit n (by omega)
      · rw [Nat.toDigits_of_base_le hbase (Nat.not_lt.1 hn)] at h
        rcases List.mem_append.1 h with h | h
        · exact ih _ (Nat.div_lt_self (by omega) hbase) h
        · rw [List.mem_singleton.1 h]
          exact hdigit _ (Nat.lt_of_lt_of_le (Nat.mod_lt n (by omega)) hhex)

theorem forall_intercalate {P : Char → Prop} {mark : String} (hmark : ∀ c ∈ mark.toList, P c)
    {parts : List String} (h : ∀ part ∈ parts, ∀ c ∈ part.toList, P c) :
    ∀ c ∈ (mark.intercalate parts).toList, P c := by
  rw [String.toList_intercalate]
  induction parts with
  | nil =>
      intro c hc
      cases hc
  | cons part parts ih =>
      obtain ⟨hpart, hparts⟩ := List.forall_mem_cons.1 h
      cases parts with
      | nil =>
          intro c hc
          simp only [List.map_cons, List.map_nil, List.intercalate_singleton] at hc
          exact hpart c hc
      | cons next parts =>
          rw [List.map_cons, List.map_cons, List.intercalate_cons_cons, ← List.map_cons]
          exact List.forall_mem_append.2 ⟨List.forall_mem_append.2 ⟨hpart, hmark⟩, ih hparts⟩

theorem staysInBody_ipv4Text (n : Nat) : ∀ c ∈ (Host.ipv4Text n).toList, StaysInBody c := by
  refine forall_intercalate (List.all_iff_forall_prop.1 (by decide)) fun part hpart c hc => ?_
  obtain ⟨octet, -, rfl⟩ := List.mem_map.1 hpart
  rw [Nat.toString_eq_ofList_toDigits, String.toList_ofList] at hc
  exact staysInBody_of_mem_toDigits (by decide) (by decide) hc

theorem staysInBody_groupsText (groups : List Nat) :
    ∀ c ∈ (Host.groupsText groups).toList, StaysInBody c := by
  refine forall_intercalate (List.all_iff_forall_prop.1 (by decide)) fun part hpart c hc => ?_
  obtain ⟨group, -, rfl⟩ := List.mem_map.1 hpart
  rw [String.toList_ofList] at hc
  exact staysInBody_of_mem_toDigits (by decide) (by decide) hc

theorem staysInBody_ipv6Text (groups : List Nat) :
    ∀ c ∈ (Host.ipv6Text groups).toList, StaysInBody c := by
  have hleft : ∀ c ∈ "[".toList, StaysInBody c := List.all_iff_forall_prop.1 (by decide)
  have hright : ∀ c ∈ "]".toList, StaysInBody c := List.all_iff_forall_prop.1 (by decide)
  have hgap : ∀ c ∈ "::".toList, StaysInBody c := List.all_iff_forall_prop.1 (by decide)
  unfold Host.ipv6Text
  dsimp only
  split
  · simp only [String.toList_append, List.forall_mem_append]
    exact ⟨⟨hleft, staysInBody_groupsText _⟩, hright⟩
  · simp only [String.toList_append, List.forall_mem_append]
    exact ⟨⟨⟨⟨hleft, staysInBody_groupsText _⟩, hgap⟩, staysInBody_groupsText _⟩, hright⟩

theorem staysInBody_of_not_forbidden {c : Char} (h : Host.isForbiddenInDomain c = false) :
    StaysInBody c := by
  simp only [Host.isForbiddenInDomain, Bool.or_eq_false_iff, decide_eq_false_iff_not] at h
  obtain ⟨⟨hlow, -⟩, hmem⟩ := h
  refine ⟨Nat.not_le.1 hlow, ?_, ?_⟩
  · rintro rfl
    cases hmem
  · rintro rfl
    cases hmem

/-- A domain, or an address in its one form, stays in the body. -/
theorem staysInBody_of_ofDomain? {cs : List Char} {host : String}
    (h : Host.ofDomain? cs = some host) : ∀ c ∈ host.toList, StaysInBody c := by
  unfold Host.ofDomain? at h
  split at h
  · split at h
    · obtain ⟨groups, -, rfl⟩ := Option.map_eq_some_iff.1 h
      exact staysInBody_ipv6Text groups
    · cases h
  · obtain ⟨decoded, -, h⟩ := Option.bind_eq_some_iff.1 h
    obtain ⟨domain, -, h⟩ := Option.bind_eq_some_iff.1 h
    split at h
    · cases h
    · next hplain =>
        split at h
        · obtain ⟨n, -, rfl⟩ := Option.map_eq_some_iff.1 h
          exact staysInBody_ipv4Text n
        · obtain rfl := Option.some.inj h
          rw [String.toList_ofList]
          intro c hc
          refine staysInBody_of_not_forbidden (Bool.eq_false_iff.2 fun hforbidden => ?_)
          exact hplain (Or.inr (List.any_eq_true.2 ⟨c, hc, hforbidden⟩))

/-! ## Trails -/

/-- A text in the escaped form of a segment. -/
def IsEscaped (text : String) : Prop := ∀ c ∈ text.toList, EscapeSet.path.Keeps c

theorem isEscaped_empty : IsEscaped "" := by
  intro c hc
  cases hc

theorem isEscaped_segmentText (seg : List Char) : IsEscaped (Trail.segmentText seg) :=
  keeps_of_mem_percentEncode (List.all_iff_forall_prop.1 (by decide))

theorem isEscaped_drive {letter : Char} (h : letter.isAlpha = true) :
    IsEscaped (String.ofList [letter, ':']) := by
  rw [IsEscaped, String.toList_ofList, List.forall_mem_cons, List.forall_mem_singleton]
  exact ⟨keeps_of_isAlpha h, by decide⟩

namespace Trail

/-- A trail whose segments, and what it carries over, are in escaped form. -/
structure IsEscaped (t : Trail) : Prop where
  done : ∀ seg ∈ t.done, Url.IsEscaped seg
  carry : Url.IsEscaped t.carry

variable {t : Trail}

theorem IsEscaped.flush (h : t.IsEscaped) : t.flush.IsEscaped := by
  unfold Trail.flush
  split
  · exact h
  · refine ⟨List.forall_mem_append.2 ⟨h.done, ?_⟩, isEscaped_empty⟩
    exact List.forall_mem_singleton.2 h.carry

theorem IsEscaped.up (h : t.IsEscaped) : t.up.IsEscaped := by
  rw [up_eq]
  exact ⟨fun seg hseg => h.done seg (mem_climb hseg), h.carry⟩

theorem IsEscaped.append (h : t.IsEscaped) {seg : String} (hseg : Url.IsEscaped seg) :
    Trail.IsEscaped { t with done := t.done ++ [seg] } :=
  ⟨List.forall_mem_append.2 ⟨h.done, List.forall_mem_singleton.2 hseg⟩, h.carry⟩

theorem IsEscaped.push (h : t.IsEscaped) (seg : List Char) : (t.push true seg).IsEscaped := by
  unfold Trail.push
  dsimp only
  split
  · next drive rest hcut =>
      split at hcut
      · obtain ⟨letter, -, halpha, rfl, -⟩ := cutDrive?_eq_some hcut
        refine ⟨List.forall_mem_cons.2 ⟨isEscaped_drive halpha, ?_⟩, h.carry⟩
        exact List.forall_mem_singleton.2 (isEscaped_segmentText rest)
      · cases hcut
  · split
    · next hfront =>
        obtain ⟨letter, mark, hplain, halpha, -⟩ :=
          exists_of_isDrive (Bool.and_eq_true_iff.1 hfront).2
        rw [hplain]
        exact ⟨List.forall_mem_singleton.2 (isEscaped_drive halpha), h.carry⟩
    · have hnext : Url.IsEscaped (t.carry ++ segmentText seg) := by
        rw [Url.IsEscaped, String.toList_append]
        exact List.forall_mem_append.2 ⟨h.carry, isEscaped_segmentText seg⟩
      exact ⟨(h.append hnext).done, isEscaped_empty⟩

theorem IsEscaped.step (h : t.IsEscaped) (seg : List Char) : (t.step true seg).IsEscaped := by
  unfold Trail.step
  split
  · split
    · exact h.up
    · exact h.flush
  · split
    · exact h.flush
    · exact h.push seg

theorem IsEscaped.finish (h : t.IsEscaped) (seg : List Char) :
    (t.finish true seg).IsEscaped := by
  unfold Trail.finish
  split
  · split
    · exact h.up.append isEscaped_empty
    · exact h.flush
  · split
    · exact h.flush.append isEscaped_empty
    · exact h.push seg

/-- Segments are escaped as they are laid on a trail. -/
theorem IsEscaped.walk (h : t.IsEscaped) (segs : List (List Char)) :
    (t.walk true segs).IsEscaped := by
  induction segs generalizing t with
  | nil => exact h
  | cons seg rest ih =>
      cases rest with
      | nil => exact h.finish seg
      | cons next rest => exact ih (h.step seg)

theorem isEscaped_empty : Trail.IsEscaped {} := by
  refine ⟨fun seg hseg => ?_, Url.isEscaped_empty⟩
  cases hseg

theorem isEscaped_ofBase {base : Url} {segs : List String} (hpath : base.path = .segments segs)
    (h : ∀ seg ∈ segs, Url.IsEscaped seg) : (ofBase base).IsEscaped := by
  unfold ofBase
  rw [hpath]
  dsimp only
  split
  · next last hlast =>
      have hdone : ∀ seg ∈ segs.dropLast, Url.IsEscaped seg :=
        fun seg hseg => h seg (List.dropLast_subset _ hseg)
      split
      · split
        · exact ⟨h, Url.isEscaped_empty⟩
        · exact ⟨hdone, h last (List.mem_of_getLast? hlast)⟩
      · exact ⟨hdone, Url.isEscaped_empty⟩
  · exact isEscaped_empty

end Trail

/-! ## Files -/

/-- A location in front of whose query there are a host and segments, all in a form that stays as
it is when the location is read from its text. -/
structure HasPlainFront (u : Url) : Prop where
  authority : ∃ a, u.authority = some a ∧ ∀ c ∈ a.text.toList, StaysInBody c
  path : ∃ segs, u.path = .segments segs ∧ ∀ seg ∈ segs, IsEscaped seg

theorem staysInBody_localFile : ∀ c ∈ localFile.text.toList, StaysInBody c :=
  List.all_iff_forall_prop.1 (by decide)

namespace HasPlainFront

variable {u : Url}

theorem exists_front (h : u.HasPlainFront) : ∃ cs, u.front = '/' :: '/' :: cs := by
  obtain ⟨a, ha, -⟩ := h.authority
  refine ⟨a.text.toList ++ u.pathText.toList, ?_⟩
  rw [front, authorityText, ha]
  simp only [String.toList_append]
  rfl

theorem isRootless_eq_false (h : u.HasPlainFront) : u.isRootless = false := by
  obtain ⟨segs, hpath, -⟩ := h.path
  rw [isRootless, hpath]

theorem staysInBody (h : u.HasPlainFront) : ∀ c ∈ u.front, StaysInBody c := by
  obtain ⟨a, ha, hauthority⟩ := h.authority
  obtain ⟨segs, hpath, hsegs⟩ := h.path
  have hslashes : ∀ c ∈ "//".toList, StaysInBody c := List.all_iff_forall_prop.1 (by decide)
  rw [front, authorityText, ha, pathText, hpath]
  simp only [String.toList_append, List.forall_mem_append]
  refine ⟨⟨hslashes, hauthority⟩, ?_⟩
  exact Path.forall_text (by decide) fun seg hseg c hc =>
    staysInBody_of_keeps (hsegs seg hseg c hc)

end HasPlainFront

namespace Reference

variable (r : Reference) {u : Url}

theorem hasPlainFront_file {a : Authority} (ha : ∀ c ∈ a.text.toList, StaysInBody c) {t : Trail}
    (ht : t.IsEscaped) (cs : List Char) : (r.file (some a) (t.walkFile cs)).HasPlainFront :=
  ⟨⟨a, rfl, ha⟩, _, rfl, (forall_dropEmptyFront isEscaped_empty _).2 (ht.walk _).done⟩

theorem hasPlainFront_fileWithHost? {cs : List Char} (h : r.fileWithHost? cs = some u) :
    u.HasPlainFront := by
  have hlocal (cs : List Char) : (r.file (some localFile) (Trail.walkFile {} cs)).HasPlainFront :=
    r.hasPlainFront_file staysInBody_localFile Trail.isEscaped_empty cs
  unfold fileWithHost? at h
  dsimp only at h
  split at h
  · exact Option.some.inj h ▸ hlocal _
  · split at h
    · exact Option.some.inj h ▸ hlocal _
    · obtain ⟨host, hhost, rfl⟩ := Option.map_eq_some_iff.1 h
      split
      · exact hlocal _
      · split
        · exact hlocal _
        · refine r.hasPlainFront_file ?_ Trail.isEscaped_empty _
          have htext : Authority.text { host } = host := by simp [Authority.text]
          rw [htext]
          exact staysInBody_of_ofDomain? hhost

theorem hasPlainFront_fileFromRoot {base : Option Url} (hbase : ∀ b ∈ base, b.HasPlainFront)
    (cs : List Char) : (r.fileFromRoot base cs).HasPlainFront := by
  have hlocal {t : Trail} (ht : t.IsEscaped) := r.hasPlainFront_file staysInBody_localFile ht cs
  unfold fileFromRoot
  split
  · exact hlocal Trail.isEscaped_empty
  · cases base with
    | none => exact hlocal Trail.isEscaped_empty
    | some b =>
        obtain ⟨⟨a, ha, hauthority⟩, segs, hpath, hsegs⟩ := hbase b rfl
        dsimp only
        rw [ha, hpath]
        cases segs with
        | nil => exact r.hasPlainFront_file hauthority Trail.isEscaped_empty cs
        | cons first segs =>
            dsimp only
            split
            · refine hlocal ⟨?_, isEscaped_empty⟩
              exact List.forall_mem_singleton.2 (hsegs first List.mem_cons_self)
            · exact r.hasPlainFront_file hauthority Trail.isEscaped_empty cs

theorem hasPlainFront_onBase {base : Url} (h : base.HasPlainFront) :
    (r.onBase base).HasPlainFront := ⟨h.authority, h.path⟩

theorem hasPlainFront_file? {base : Option Url} (hbase : ∀ b ∈ base, b.HasPlainFront)
    (h : r.file? base = some u) : u.HasPlainFront := by
  have hlocal (cs : List Char) : (r.file (some localFile) (Trail.walkFile {} cs)).HasPlainFront :=
    r.hasPlainFront_file staysInBody_localFile Trail.isEscaped_empty cs
  unfold file? at h
  split at h
  · obtain rfl := Option.some.inj h
    cases base with
    | none => exact hlocal []
    | some b => exact r.hasPlainFront_onBase (hbase b rfl)
  · split at h
    · split at h
      · exact r.hasPlainFront_fileWithHost? h
      · exact Option.some.inj h ▸ r.hasPlainFront_fileFromRoot hbase _
    · cases base with
      | none => exact Option.some.inj h ▸ hlocal _
      | some b =>
          dsimp only at h
          split at h
          · exact Option.some.inj h ▸ hlocal _
          · obtain ⟨⟨a, ha, hauthority⟩, segs, hpath, hsegs⟩ := hbase b rfl
            rw [ha] at h
            exact Option.some.inj h ▸
              r.hasPlainFront_file hauthority (Trail.isEscaped_ofBase hpath hsegs) _

theorem hasPlainFront_of_resolve? {base : Option Url}
    (hbase : ∀ b ∈ base, b.isFile = true → b.HasPlainFront) (h : r.resolve? base = some u)
    (hfile : u.isFile = true) : u.HasPlainFront := by
  rcases r.exists_file?_of_resolve? h hfile with ⟨base', hbase', hu⟩ | ⟨b, hb, hbfile, rfl⟩
  · exact r.hasPlainFront_file? (fun b hb => hbase b (hbase' b hb).1 (hbase' b hb).2) hu
  · exact r.hasPlainFront_onBase (hbase b hb hbfile)

end Reference

theorem isEscaped_segmentOfComponent {component : Component} {seg : String}
    (h : segmentOfComponent component = some seg) : IsEscaped seg := by
  cases component with
  | root => cases h
  | current =>
      obtain rfl := Option.some.inj h
      exact List.all_iff_forall_prop.1 (by decide)
  | parent =>
      obtain rfl := Option.some.inj h
      exact List.all_iff_forall_prop.1 (by decide)
  | normal name =>
      obtain rfl := Option.some.inj h
      rw [IsEscaped, String.toList_ofList]
      exact fun c => keeps_of_mem_nameText

theorem hasPlainFront_of_ofFilePath? {p : FilePath} {u : Url} (h : ofFilePath? p = some u) :
    u.HasPlainFront := by
  unfold ofFilePath? at h
  split at h
  · obtain rfl := Option.some.inj h
    refine ⟨⟨_, rfl, staysInBody_localFile⟩, _, rfl, fun seg hseg => ?_⟩
    split at hseg
    · rw [List.mem_singleton.1 hseg]
      exact isEscaped_empty
    · obtain ⟨component, -, hcomponent⟩ := List.mem_filterMap.1 hseg
      exact isEscaped_segmentOfComponent hcomponent
  · cases h

theorem hasPlainFront_of_ofDirPath? {p : FilePath} {u : Url} (h : ofDirPath? p = some u) :
    u.HasPlainFront := by
  obtain ⟨v, hv, rfl⟩ := Option.map_eq_some_iff.1 h
  have hfront := hasPlainFront_of_ofFilePath? hv
  split
  · next segs hpath =>
      split
      · exact hfront
      · obtain ⟨segs', hpath', hsegs⟩ := hfront.path
        obtain rfl := Path.segments.inj (hpath.symm.trans hpath')
        refine ⟨hfront.authority, _, rfl, List.forall_mem_append.2 ⟨hsegs, ?_⟩⟩
        exact List.forall_mem_singleton.2 isEscaped_empty
  · exact hfront

/-- However a program comes by a file, what it has in front of its query is plain. -/
theorem Formed.hasPlainFront {u : Url} (h : u.Formed) (hfile : u.isFile = true) :
    u.HasPlainFront := by
  induction h with
  | read h =>
      refine Reference.hasPlainFront_of_resolve? _ (fun b hb => ?_) h hfile
      cases hb
  | followed _ h ih =>
      refine Reference.hasPlainFront_of_resolve? _ (fun b hb hbfile => ?_) h hfile
      obtain rfl := Option.some.inj hb
      exact ih hbfile
  | ofFilePath h => exact hasPlainFront_of_ofFilePath? h
  | ofDirPath h => exact hasPlainFront_of_ofDirPath? h
  | withParts _ _ _ ih _ => exact ⟨(ih hfile).authority, (ih hfile).path⟩

end Url

end ModuleGraph
