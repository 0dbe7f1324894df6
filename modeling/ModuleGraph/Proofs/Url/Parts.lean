import ModuleGraph.Proofs.Url.Front
import Mathlib.Data.List.TakeWhile

/-!
# Queries and fragments of references

Where a reference to a file leads is told by its path alone; the query and the fragment are brought
there (`Reference.file?_eq_bring`). So the texts of two locations that differ in these only lead to
locations that differ in these only (`differInParts_join?_href`), and so does a path with a query
or a fragment behind it (`StartsLikePath.differInParts_join?`).
-/

set_option autoImplicit false

namespace ModuleGraph

open Text

namespace Url

/-! ## Other queries and fragments -/

/-- The query and the fragment of a location. -/
def parts (u : Url) : Option String × Option String := (u.query, u.fragment)

/-- Two locations that are the same but for their queries and fragments, which are the given
ones. -/
structure DiffersInParts (p p' : Option String × Option String) (u u' : Url) : Prop where
  bare : u'.bare = u.bare
  parts : u.parts = p
  parts' : u'.parts = p'

theorem DiffersInParts.eq {p p' : Option String × Option String} {u u' : Url}
    (h : DiffersInParts p p' u u') : u' = { u with query := p'.1, fragment := p'.2 } := by
  obtain ⟨hbare, -, rfl⟩ := h
  cases u with
  | mk scheme authority path query fragment =>
      cases u' with
      | mk scheme' authority' path' query' fragment' =>
          obtain ⟨rfl, rfl, rfl, -, -⟩ := Url.mk.inj hbare
          rfl

namespace Reference

variable (r : Reference)

/-- A reference without its query and fragment. -/
def bare : Reference := { r with query := none, fragment := none }

/-- The query and the fragment that a reference brings to a file. -/
def parts : Option String × Option String := (r.queryText true, r.fragmentText)

/-- A file with the query and the fragment of a reference in the place of its own. -/
def bring (u : Url) : Url := { u with query := r.parts.1, fragment := r.parts.2 }

@[simp] theorem bare_body : r.bare.body = r.body := rfl

@[simp] theorem bare_text : r.bare.text = r.text := rfl

theorem fileWithHost?_eq_bring (cs : List Char) :
    r.fileWithHost? cs = (r.bare.fileWithHost? cs).map r.bring := by
  unfold fileWithHost?
  dsimp only
  split
  · rfl
  · split
    · rfl
    · rw [Option.map_map]
      refine Option.map_congr fun host _ => ?_
      rw [Function.comp_apply]
      split
      · rfl
      · rfl

theorem fileFromRoot_eq_bring (base : Option Url) (cs : List Char) :
    r.fileFromRoot base cs = r.bring (r.bare.fileFromRoot base cs) := by
  unfold fileFromRoot
  split
  · rfl
  · cases base with
    | none => rfl
    | some b =>
        dsimp only
        split
        · split
          · rfl
          · rfl
        · rfl

/-- Where a `file` reference with a path leads does not depend on its query and fragment, which it
brings there. -/
theorem file?_eq_bring (htext : r.text ≠ []) (base : Option Url) :
    r.file? base = (r.bare.file? base).map r.bring := by
  have hsome : ¬ r.text.isEmpty = true := by simpa using htext
  unfold file?
  rw [bare_text, bare_body, if_neg hsome, if_neg hsome]
  cases behindSlash? r.body with
  | some cs =>
      dsimp only
      cases behindSlash? cs with
      | some cs => exact r.fileWithHost?_eq_bring cs
      | none => exact congrArg some (r.fileFromRoot_eq_bring base cs)
  | none =>
      dsimp only
      cases base with
      | none => rfl
      | some b =>
          dsimp only
          split
          · rfl
          · rfl

/-- A reference that is read as one to a file from a given base: it says so, or it has no scheme of
its own and the base is a file. -/
def IsToFile (base : Url) : Prop :=
  r.scheme = some "file" ∨ r.scheme = none ∧ base.isFile = true ∧ base.isRootless = false

theorem resolve?_eq_file? {base : Url} (hfile : r.IsToFile base) (htext : r.text ≠ []) :
    r.resolve? (some base) = r.file? ((some base).filter isFile) := by
  unfold resolve?
  rcases hfile with hscheme | ⟨hscheme, hbase, hpath⟩
  · rw [hscheme]
    exact if_pos rfl
  · have hsome : ¬ r.text.isEmpty = true := by simpa using htext
    rw [hscheme, Option.filter_some, if_pos hbase]
    dsimp only
    rw [if_neg fun h => hsome h.1, hpath, if_neg Bool.false_ne_true, if_pos hbase]

variable {r}

/-- References that differ in query and fragment only lead to one file or to none. -/
theorem differInParts_resolve? {r' : Reference} (hbare : r'.bare = r.bare) {base : Url}
    (hfile : r.IsToFile base) (htext : r.text ≠ []) :
    Option.Rel (fun u u' => u.isFile = true ∧ DiffersInParts r.parts r'.parts u u')
      (r.resolve? (some base)) (r'.resolve? (some base)) := by
  have hscheme : r'.scheme = r.scheme := (Reference.mk.inj hbare).1
  have hbody : r'.body = r.body := (Reference.mk.inj hbare).2.1
  have hfile' : r'.IsToFile base := by rwa [IsToFile, hscheme]
  have htext' : r'.text ≠ [] := by rwa [text, hbody]
  rw [r.resolve?_eq_file? hfile htext, r'.resolve?_eq_file? hfile' htext', r.file?_eq_bring htext,
    r'.file?_eq_bring htext', hbare]
  cases hfound : r.bare.file? ((some base).filter isFile) with
  | none => exact .none
  | some u =>
      have hu := isFile_of_file? _ (fun b hb => (Option.mem_filter_iff.1 hb).2) hfound
      exact .some ⟨hu, rfl, rfl, rfl⟩

end Reference

theorem HasPlainFront.of_bare {u v : Url} (h : u.HasPlainFront) (hbare : v.bare = u.bare) :
    v.HasPlainFront := by
  obtain ⟨-, hauthority, hpath, -, -⟩ := Url.mk.inj hbare
  exact ⟨hauthority ▸ h.authority, hpath ▸ h.path⟩

theorem parts_ofString_href {u : Url} (hscheme : u.scheme = "file") (hfront : u.HasPlainFront)
    (hparts : u.HasEscapedParts) : (Reference.ofString u.href).parts = u.parts := by
  rw [reference_href hscheme hfront.staysInBody hparts]
  exact congrArg₂ Prod.mk (map_percentEncode_eq_self hparts.query)
    (map_percentEncode_eq_self hparts.fragment)

/-- The texts of files that differ in query and fragment only lead to one file or to none. -/
theorem differInParts_join?_href {u v : Url} (hscheme : u.scheme = "file")
    (hfront : u.HasPlainFront) (hu : u.HasEscapedParts) (hv : v.HasEscapedParts)
    (hbare : v.bare = u.bare) (base : Url) :
    Option.Rel (fun w w' => w.isFile = true ∧ DiffersInParts u.parts v.parts w w')
      (base.join? u.href) (base.join? v.href) := by
  have hscheme' : v.scheme = "file" := (Url.mk.inj hbare).1.trans hscheme
  have hfront' := hfront.of_bare hbare
  have hbody : v.front = u.front := by
    show v.bare.front = u.bare.front
    rw [hbare]
  have hread := reference_href hscheme hfront.staysInBody hu
  have hread' := reference_href hscheme' hfront'.staysInBody hv
  have hbare' : (Reference.ofString v.href).bare = (Reference.ofString u.href).bare := by
    rw [hread, hread', hbody]
    rfl
  have htext : (Reference.ofString u.href).text ≠ [] := by
    obtain ⟨cs, hcs⟩ := hfront.exists_front
    rw [hread, Reference.text, hcs]
    exact List.cons_ne_nil _ _
  have hfile : (Reference.ofString u.href).IsToFile base := by
    rw [hread]
    exact Or.inl rfl
  have hrel := Reference.differInParts_resolve? hbare' hfile htext
  rwa [parts_ofString_href hscheme hfront hu, parts_ofString_href hscheme' hfront' hv] at hrel

/-! ## Paths with a suffix -/

/-- What ends the path of a reference. -/
def isSuffixMark (c : Char) : Bool := c = '?' || c = '#'

theorem isSuffixMark_iff {c : Char} : isSuffixMark c = true ↔ c = '?' ∨ c = '#' := by
  simp [isSuffixMark]

theorem fst_cutAt (mark : Char) (cs : List Char) :
    (cutAt mark cs).1 = cs.takeWhile (· != mark) := by
  induction cs with
  | nil => rfl
  | cons c cs ih =>
      by_cases hc : c = mark
      · subst hc
        simp [cutAt, splitFirst?]
      · rw [cutAt_cons_of_ne hc, ih, List.takeWhile_cons_of_pos (by simpa using hc)]

theorem fst_cutAt_cutAt (cs : List Char) :
    (cutAt '?' (cutAt '#' cs).1).1 = cs.takeWhile fun c => !isSuffixMark c := by
  rw [fst_cutAt, fst_cutAt, List.takeWhile_takeWhile]
  refine congrArg (List.takeWhile · cs) (funext fun c => ?_)
  simp [isSuffixMark]

/-- A text that starts like a path, and does not end in what is trimmed. -/
structure StartsLikePath (s : String) : Prop where
  head : s.toList.head? = some '.' ∨ s.toList.head? = some '/'
  last : ∀ c ∈ s.toList.getLast?, isControlOrSpace c = false

namespace StartsLikePath

variable {s suffix : String}

theorem exists_cons (hhead : s.toList.head? = some '.' ∨ s.toList.head? = some '/') :
    ∃ c cs, s.toList = c :: cs ∧ isControlOrSpace c = false ∧ isSuffixMark c = false ∧
      c.isAlpha = false := by
  rcases hhead with hhead | hhead
  · obtain ⟨cs, hs⟩ := List.head?_eq_some_iff.1 hhead
    exact ⟨'.', cs, hs, by decide, by decide, by decide⟩
  · obtain ⟨cs, hs⟩ := List.head?_eq_some_iff.1 hhead
    exact ⟨'/', cs, hs, by decide, by decide, by decide⟩

theorem reference_ofString (hhead : s.toList.head? = some '.' ∨ s.toList.head? = some '/') :
    (Reference.ofString s).scheme = none ∧ (Reference.ofString s).body =
      (s.toList.reverse.dropWhile isControlOrSpace).reverse.takeWhile fun c => !isSuffixMark c := by
  obtain ⟨c, cs, hs, hcontrol, -, halpha⟩ := exists_cons hhead
  rw [Reference.ofString_cons hs hcontrol halpha]
  exact ⟨rfl, fst_cutAt_cutAt _⟩

/-- A suffix is no part of the path. -/
theorem bare_append (h : StartsLikePath s) {mark : Char} {cs : List Char}
    (hmark : isSuffixMark mark = true) (hsuffix : suffix.toList = mark :: cs) :
    (Reference.ofString (s ++ suffix)).bare = (Reference.ofString s).bare := by
  have happend : (s ++ suffix).toList = s.toList ++ mark :: cs := by
    rw [String.toList_append, hsuffix]
  have hhead : (s ++ suffix).toList.head? = s.toList.head? := by
    obtain ⟨c, rest, hs, -⟩ := exists_cons h.head
    rw [happend, hs]
    rfl
  have hcontrol : isControlOrSpace mark = false := by
    rcases isSuffixMark_iff.1 hmark with rfl | rfl
    · decide
    · decide
  obtain ⟨hscheme, hbody⟩ := reference_ofString h.head
  obtain ⟨hscheme', hbody'⟩ := reference_ofString (s := s ++ suffix) (hhead ▸ h.head)
  have hsame : (Reference.ofString (s ++ suffix)).body = (Reference.ofString s).body := by
    rw [hbody', hbody, happend, reverse_dropWhile_append hcontrol,
      reverse_dropWhile_of_getLast? h.last, takeWhile_append_cons (by rw [hmark]; rfl)]
  rw [Reference.bare, Reference.bare, hscheme, hscheme', hsame]

theorem text_ne_nil (h : StartsLikePath s) : (Reference.ofString s).text ≠ [] := by
  obtain ⟨c, cs, hs, hcontrol, hmark, -⟩ := exists_cons h.head
  have htab := isTabOrNewline_of_not_control hcontrol
  obtain ⟨-, hbody⟩ := reference_ofString h.head
  rw [reverse_dropWhile_of_getLast? h.last, hs,
    List.takeWhile_cons_of_pos (by rw [hmark]; rfl)] at hbody
  rw [Reference.text, hbody, dropTabs, List.filter_cons_of_pos (by rw [htab]; rfl)]
  exact List.cons_ne_nil _ _

/-- Followed from a file, a path leads to one file or to none, with a suffix and without. -/
theorem differInParts_join? (h : StartsLikePath s) {mark : Char} {cs : List Char}
    (hmark : isSuffixMark mark = true) (hsuffix : suffix.toList = mark :: cs) {base : Url}
    (hbase : base.isFile = true) (hpath : base.isRootless = false) :
    Option.Rel (fun u u' => u.isFile = true ∧ DiffersInParts (Reference.ofString s).parts
        (Reference.ofString (s ++ suffix)).parts u u')
      (base.join? s) (base.join? (s ++ suffix)) :=
  Reference.differInParts_resolve? (h.bare_append hmark hsuffix)
    (Or.inr ⟨(reference_ofString h.head).1, hbase, hpath⟩) h.text_ne_nil

end StartsLikePath

end Url

end ModuleGraph
