import ModuleGraph.Proofs.Graph.Identity
import ModuleGraph.Proofs.Resolve.Fixpoint
import ModuleGraph.Proofs.Url.Parts

/-!
# Queries and fragments

A file keeps the query and the fragment it is asked for with, and nothing else depends on them:
not where the text of its location leads, not whether something is there, not the format, and not
the module. So two locations that differ in them only are resolved alike
(`agree_finalize_of_parts`), and a path leads to one module whatever is put behind it.
-/

set_option autoImplicit false

namespace ModuleGraph

open Text
open Target (fileUrl)

/-! ## What differs -/

/-- Two resolutions that stand for one module in one format, at locations that are the same but
for their queries and fragments. -/
structure Resolved.DiffersInParts (p p' : Option String × Option String)
    (found found' : Resolved) : Prop where
  location : Url.DiffersInParts p p' found.location found'.location
  format : found.format = found'.format
  ref : ModuleRef.ofResolved found = ModuleRef.ofResolved found'

/-- Two failures of one kind. -/
def ResolveError.SameKind (e e' : ResolveError) : Prop := e.kind = e'.kind

theorem Resolution.Agree.of_eq {α : Type} {E : ResolveError → ResolveError → Prop}
    (hE : ∀ e, E e e) {x y : Resolution α} (h : x = y) : Resolution.Agree Eq E Eq x y := by
  subst h
  rintro s _ rfl
  exact ⟨.of_eq hE rfl, rfl⟩

namespace Resolver

open ResolveError (SameKind)

variable {p p' : Option String × Option String} {location location' : Url}

/-! ## Checking a location -/

/-- What is checked is the path of a location. The text of a failure may hold the location. -/
theorem outcomeRel_canonicalFile (fs : FileSystem)
    (h : Url.DiffersInParts p p' location location') :
    OutcomeRel SameKind (fun u u' => u.isFile = true ∧ (∃ path, u.toFilePath? = some path) ∧
        Url.DiffersInParts p p' u u')
      (canonicalFile fs location) (canonicalFile fs location') := by
  have hencoded : location'.hasEncodedSeparator = location.hasEncodedSeparator := by
    rw [h.eq]
    rfl
  have hpath : location'.toFilePath? = location.toFilePath? := by
    rw [h.eq]
    rfl
  unfold canonicalFile
  rw [hencoded, hpath]
  split
  · exact .error rfl
  · split
    · exact .error rfl
    · split
      · exact .error rfl
      · split
        · exact .error rfl
        · split
          · exact .error rfl
          · split
            · exact .error rfl
            · next u hu =>
                -- the location of a path is given the parts of either location
                obtain ⟨path, hpath, -⟩ :=
                  Url.exists_toFilePath? (Url.isAbsolute_of_ofFilePath? hu) hu
                have hfile : u.isFile = true := Url.isFile_ofFilePath? hu
                exact .ok ⟨hfile, ⟨path, hpath⟩, rfl, h.parts, h.parts'⟩

/-- Locations of files that differ in their queries and fragments only are resolved alike. -/
theorem agree_finalize_of_parts (r : Resolver) (hfile : location.isFile = true)
    (h : Url.DiffersInParts p p' location location') :
    Resolution.Agree Eq SameKind (Resolved.DiffersInParts p p') (r.finalize location)
      (r.finalize location') := by
  have hfile' : location'.isFile = true := by
    rw [h.eq]
    exact hfile
  unfold finalize
  rw [if_pos hfile, if_pos hfile']
  refine Resolution.Agree.bind (.ofExcept (outcomeRel_canonicalFile r.fs h)) fun u u' hu => ?_
  obtain ⟨hufile, ⟨path, hpath⟩, hparts⟩ := hu
  have hclassify : Format.classify r.fs u = Format.classify r.fs u' := by
    rw [hparts.eq]
    exact (Format.classify_file _ hufile _ _).symm
  have hkind (e : ResolveError) : SameKind e e := rfl
  refine Resolution.Agree.bind (.of_eq hkind hclassify) fun format _ hformat => ?_
  subst hformat
  have href := ModuleRef.ofResolved_file hufile hpath
  refine .pure ⟨hparts, rfl, ?_⟩
  calc ModuleRef.ofResolved ⟨u, format⟩
      = { id := path.display, format, isExternal := false } := href u.query u.fragment format
    _ = ModuleRef.ofResolved ⟨u', format⟩ := by
        rw [hparts.eq]
        exact (href p'.1 p'.2 format).symm

/-- Specifiers that are followed to such locations are resolved alike. -/
theorem agree_resolveWith_of_join? (r : Resolver) {s s' : String} {parent : Url}
    (hs : SpecifierKind.of s = .url ∨ SpecifierKind.of s = .path)
    (hs' : SpecifierKind.of s' = .url ∨ SpecifierKind.of s' = .path)
    (hjoin : Option.Rel (fun u u' => u.isFile = true ∧ Url.DiffersInParts p p' u u')
      (parent.join? s) (parent.join? s')) (conditions : ConditionSet) :
    Resolution.Agree Eq SameKind (Resolved.DiffersInParts p p')
      (r.resolveWith s parent conditions) (r.resolveWith s' parent conditions) := by
  have hfound {s : String} (hs : SpecifierKind.of s = .url ∨ SpecifierKind.of s = .path) {u : Url}
      (hu : parent.join? s = some u) : r.locate s parent conditions = pure u := by
    unfold locate
    rcases hs with hs | hs
    · simp only [hs, hu]
    · simp only [hs, hu]
  have hlost {s : String} (hs : SpecifierKind.of s = .url ∨ SpecifierKind.of s = .path)
      (hnone : parent.join? s = none) :
      r.locate s parent conditions = throw ⟨.invalidSpecifier, s⟩ := by
    unfold locate
    rcases hs with hs | hs
    · simp only [hs, hnone]
    · simp only [hs, hnone]
  unfold resolveWith
  generalize hu : parent.join? s = u at hjoin
  generalize hu' : parent.join? s' = u' at hjoin
  cases hjoin with
  | none =>
      rw [hlost hs hu, hlost hs' hu']
      exact Resolution.Agree.throw rfl
  | some h =>
      rw [hfound hs hu, hfound hs' hu']
      exact r.agree_finalize_of_parts h.1 h.2

/-! ## Paths with a suffix -/

theorem startsLikePath_of_kind {s : String} (hkind : SpecifierKind.of s = .path)
    (hlast : ∀ c ∈ s.toList.getLast?, Url.isControlOrSpace c = false) : Url.StartsLikePath s := by
  refine ⟨?_, hlast⟩
  obtain ⟨opening, hopening, cs, hs⟩ := SpecifierKind.of_eq_path_iff.1 hkind
  rw [hs]
  simp only [SpecifierKind.pathOpenings, List.mem_cons, List.not_mem_nil, or_false] at hopening
  rcases hopening with rfl | rfl | rfl
  · exact Or.inr rfl
  · exact Or.inl rfl
  · exact Or.inl rfl

theorem specifierKind_append {s : String} (hkind : SpecifierKind.of s = .path) (suffix : String) :
    SpecifierKind.of (s ++ suffix) = .path := by
  obtain ⟨opening, hopening, cs, hs⟩ := SpecifierKind.of_eq_path_iff.1 hkind
  refine SpecifierKind.of_eq_path_iff.2 ⟨opening, hopening, cs ++ suffix.toList, ?_⟩
  rw [String.toList_append, hs, List.append_assoc]

theorem isFile_of_parentUrl? (r : Resolver) {importer : Option FilePath} {parent : Url}
    (h : r.parentUrl? importer = some parent) : parent.isFile = true ∧ parent.HasPlainFront := by
  cases importer with
  | none => exact ⟨Url.isFile_ofDirPath? h, Url.hasPlainFront_of_ofDirPath? h⟩
  | some importer => exact ⟨Url.isFile_ofFilePath? h, Url.hasPlainFront_of_ofFilePath? h⟩

section Suffix

variable (r : Resolver) {s suffix : String} (hkind : SpecifierKind.of s = .path)
  (hlast : ∀ c ∈ s.toList.getLast?, Url.isControlOrSpace c = false) {mark : Char} {cs : List Char}
  (hmark : Url.isSuffixMark mark = true) (hsuffix : suffix.toList = mark :: cs)
include hkind hlast hmark hsuffix

/-- A path that is followed from a path is resolved alike with a suffix and without. -/
theorem agree_resolvePath_append (importer : Option FilePath) :
    Resolution.Agree Eq SameKind
      (Resolved.DiffersInParts (Url.Reference.ofString s).parts
        (Url.Reference.ofString (s ++ suffix)).parts)
      (r.resolvePath s importer) (r.resolvePath (s ++ suffix) importer) := by
  unfold resolvePath
  cases hparent : r.parentUrl? importer with
  | none => exact Resolution.Agree.throw rfl
  | some parent =>
      obtain ⟨hfile, hfront⟩ := r.isFile_of_parentUrl? hparent
      have hjoin := (startsLikePath_of_kind hkind hlast).differInParts_join? hmark hsuffix hfile
        hfront.isRootless_eq_false
      exact r.agree_resolveWith_of_join? (Or.inr hkind)
        (Or.inr (specifierKind_append hkind suffix)) hjoin r.conditions

theorem agree_resolveImport_append (importer : ModuleId) :
    Resolution.Agree Eq SameKind Eq (r.resolveImport s importer)
      (r.resolveImport (s ++ suffix) importer) := by
  unfold resolveImport
  refine Resolution.Agree.bind (r.agree_resolvePath_append hkind hlast hmark hsuffix _)
    fun found found' h => ?_
  exact .pure h.ref

theorem agree_resolveEntry_append :
    Resolution.Agree Eq SameKind Eq (r.resolveEntry s) (r.resolveEntry (s ++ suffix)) := by
  have hpath := r.agree_resolvePath_append hkind hlast hmark hsuffix none
  unfold resolveEntry
  refine Resolution.Agree.bind hpath.outcome fun outcome outcome' hrel => ?_
  cases hrel with
  | ok h => exact .pure h.ref
  | error he =>
      rw [hkind, specifierKind_append hkind]
      exact .throw he

end Suffix

/-! ## Other queries and fragments -/

/-- The query and the fragment of a file pass through a resolution. The texts of two locations that
differ in nothing else, each with its own query and fragment in escaped form, are resolved to one
file in one format that stands for one module, each with its own query and fragment, or fail in one
way. So are a path and what it is with a query or a fragment behind it, if it does not end in what
is trimmed, when the loader follows them from a module or takes them for entries. -/
theorem query_and_fragment_pass_through (r : Resolver) :
    (∀ {u v : Url}, u.Formed → u.isFile = true → v.bare = u.bare → v.HasEscapedParts →
      ∀ (parent : Url) (conditions : ConditionSet),
        Resolution.Agree Eq SameKind (Resolved.DiffersInParts u.parts v.parts)
          (r.resolveWith u.href parent conditions) (r.resolveWith v.href parent conditions)) ∧
    ∀ {path mark : String}, SpecifierKind.of path = .path →
      (∀ c ∈ path.toList.getLast?, Url.isControlOrSpace c = false) → mark = "?" ∨ mark = "#" →
      ∀ text : String,
        (∀ importer : ModuleId, Resolution.Agree Eq SameKind Eq (r.resolveImport path importer)
          (r.resolveImport (path ++ (mark ++ text)) importer)) ∧
        Resolution.Agree Eq SameKind Eq (r.resolveEntry path)
          (r.resolveEntry (path ++ (mark ++ text))) := by
  constructor
  · intro u v hu hfile hbare hv parent conditions
    have hscheme : u.scheme = "file" := of_decide_eq_true hfile
    have hscheme' : v.scheme = "file" := (Url.mk.inj hbare).1.trans hscheme
    have hjoin := Url.differInParts_join?_href hscheme (hu.hasPlainFront hfile)
      (hu.hasEscapedParts hfile) hv hbare parent
    exact r.agree_resolveWith_of_join? (Or.inl (specifierKind_href hscheme))
      (Or.inl (specifierKind_href hscheme')) hjoin conditions
  · intro path mark hkind hlast hmark text
    have hsuffix : ∃ c, Url.isSuffixMark c = true ∧ (mark ++ text).toList = c :: text.toList := by
      rcases hmark with rfl | rfl
      · exact ⟨'?', rfl, by rw [String.toList_append]; rfl⟩
      · exact ⟨'#', rfl, by rw [String.toList_append]; rfl⟩
    obtain ⟨c, hc, hsuffix⟩ := hsuffix
    exact ⟨r.agree_resolveImport_append hkind hlast hc hsuffix,
      r.agree_resolveEntry_append hkind hlast hc hsuffix⟩

/-- A link to a file, with escaped separators, slashes and dots in the query of one location and
in the fragment of the other. -/
theorem query_and_fragment_pass_through_of_separators :
    let u : Url := { fileUrl ["p", "a.js"] with query := some "%2F/../x.mjs" }
    let v : Url := { fileUrl ["p", "a.js"] with fragment := some "?%5C/b#c.json" }
    let parent := fileUrl ["q", "n.js"]
    let resolve (specifier : String) :=
      linkedResolver.resolveWith specifier parent (.ofList ["import"])
    u.Formed ∧ v.HasEscapedParts ∧
      Resolution.Agree Eq SameKind (Resolved.DiffersInParts u.parts v.parts) (resolve u.href)
        (resolve v.href) ∧
      ((resolve u.href).run.run {}).1 =
        .ok ⟨{ fileUrl ["p", "real.js"] with query := some "%2F/../x.mjs" }, .commonJs⟩ ∧
      Resolution.Agree Eq SameKind Eq (linkedResolver.resolveImport "./a.js" "/p/m.js")
        (linkedResolver.resolveImport "./a.js?x#y" "/p/m.js") := by
  intro u v parent resolve
  have hu : u.Formed := .read (s := u.href) (by decide +kernel)
  have hv : v.Formed := .read (s := v.href) (by decide +kernel)
  obtain ⟨hlocations, hpaths⟩ := linkedResolver.query_and_fragment_pass_through
  have hbare : v.bare = u.bare := rfl
  have hparts : v.HasEscapedParts := hv.hasEscapedParts rfl
  have hpath : SpecifierKind.of "./a.js" = .path := by decide
  have hlast : ∀ c ∈ "./a.js".toList.getLast?, Url.isControlOrSpace c = false := by
    intro c hc
    have hend : "./a.js".toList.getLast? = some 's' := by decide
    obtain rfl := Option.some.inj (hend.symm.trans hc)
    decide
  exact ⟨hu, hparts, hlocations hu rfl hbare hparts parent _, by decide +kernel,
    (hpaths hpath hlast (Or.inl rfl) "x#y").1 "/p/m.js"⟩

end Resolver

end ModuleGraph
