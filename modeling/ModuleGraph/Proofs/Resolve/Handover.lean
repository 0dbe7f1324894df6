import ModuleGraph.Proofs.FilePath.Ancestors
import ModuleGraph.Proofs.Graph.Identity
import ModuleGraph.Proofs.Resolve.Fixpoint

/-!
# What a loader may rely on

On its way to the next importer a resolved file takes many forms: a location, the path it denotes,
the canonical path, the location of that, and the text of its path by which the module is known. A
loader may go back and forth between the last three, and ask again for the format. This holds for
every file system whose canonical paths are texts and stand for what they are the canonical path of
(`FileSystem.Identifies`), whatever has been read, and for every kind of specifier, since all of
them leave by the same door.
-/

set_option autoImplicit false

namespace ModuleGraph

open Text FilePath
open Target (fileUrl)

/-! ## Parents -/

namespace FilePath

variable {p q : FilePath}

theorem components_eq_of_names_eq (hp : p.isAbsolute = true) (hq : q.isAbsolute = true)
    (h : p.names = q.names) : p.components = q.components := by
  rw [components_of_names hp, components_of_names hq, h]

/-- The names of an absolute path are spelled by its components below the root. -/
theorem names_eq_components (hp : p.isAbsolute = true) :
    p.names = p.components.tail.map Component.piece := by
  rw [components, if_pos hp, List.tail_cons, names, filter_isKept]

/-- The parent of an absolute path has the names of the path but the last, and only the root has no
parent. -/
theorem parent?_cases (hp : p.isAbsolute = true) :
    (p.parent? = none ∧ p.names = []) ∨
      ∃ up name, p.parent? = some up ∧ up.isAbsolute = true ∧ p.names = up.names ++ [name] := by
  rcases parent?_spec p with ⟨hnone, -, -, hcomp⟩ | ⟨up, piece, hup, -, hcomp, -, -, habs⟩
  · refine Or.inl ⟨hnone, ?_⟩
    rw [names_eq_components hp]
    rcases hcomp with hcomp | hcomp <;> rw [hcomp] <;> rfl
  · rw [hp] at habs
    have hne : up.components ≠ [] := by
      rw [components_of_names habs]
      exact List.cons_ne_nil _ _
    refine Or.inr ⟨up, (meaning piece).piece, hup, habs, ?_⟩
    rw [names_eq_components hp, names_eq_components habs, hcomp,
      List.tail_append_of_ne_nil hne, List.map_append]
    rfl

end FilePath

/-! ## The directory of a file -/

namespace Url

/-- What is written for a name is neither empty nor has a slash. -/
theorem exists_segment {name : Bytes} (hkept : isKept name = true) (hwhole : separator ∉ name) :
    ∃ seg, segmentsOfNames [name] = [seg] ∧ seg.toList ≠ [] ∧ '/' ∉ seg.toList := by
  by_cases hup : name = dotDot
  · subst hup
    exact ⟨"..", rfl, by decide, by decide⟩
  · have hname : IsName name := ⟨hkept, hup, hwhole⟩
    refine ⟨String.ofList (nameText name), segmentsOfNames_eq (List.forall_mem_singleton.2 hname),
      ?_, ?_⟩
    · rw [String.toList_ofList]
      exact nameText_ne_nil hname
    · rw [String.toList_ofList]
      intro hmem
      have hslash := isSlash_of_mem_nameText hmem
      cases hslash

/-- The location of a path that is not the root does not end in a slash. -/
theorem getLast?_pathText {p : FilePath} {u : Url} (hu : ofFilePath? p = some u)
    (hne : p.names ≠ []) : u.pathText.toList.getLast? ≠ some '/' := by
  rw [ofFilePath?_eq (isAbsolute_of_ofFilePath? hu)] at hu
  obtain rfl := Option.some.inj hu
  rcases List.eq_nil_or_concat p.names with hnil | ⟨front, name, hnames⟩
  · exact absurd hnil hne
  · rw [List.concat_eq_append] at hnames
    have hmem : name ∈ p.names := by simp [hnames]
    obtain ⟨seg, hseg, hchars, hslash⟩ :=
      exists_segment (isKept_of_mem_names name hmem) (separator_not_mem_names hmem)
    have hsegments : segmentsOfNames p.names = segmentsOfNames front ++ [seg] := by
      rw [hnames, segmentsOfNames_append, hseg]
    rw [pathText, hsegments, if_neg (by simp), Path.text_concat,
      List.getLast?_append_of_ne_nil _ (List.cons_ne_nil _ _)]
    intro hlast
    cases hcs : seg.toList with
    | nil => exact hchars hcs
    | cons c cs =>
        rw [hcs, List.getLast?_cons_cons] at hlast
        rw [hcs] at hslash
        exact hslash (List.mem_of_getLast? hlast)

/-- The directory of the location of a path is the parent of the path. -/
theorem exists_dirPath? {p up : FilePath} {u : Url} (hu : ofFilePath? p = some u)
    (hup : p.parent? = some up) :
    ∃ dir, u.dirPath? = some dir ∧ dir.components = up.components := by
  have hp := isAbsolute_of_ofFilePath? hu
  obtain ⟨q, hq, -⟩ := exists_toFilePath? hp hu
  obtain ⟨habs, hnames⟩ := names_of_toFilePath? hu hq
  obtain ⟨up', name, hup', hupabs, hpnames⟩ := (parent?_cases hp).resolve_left fun h => by
    rw [hup] at h
    cases h.1
  obtain rfl : up' = up := Option.some.inj (hup'.symm.trans hup)
  have hne : p.names ≠ [] := by simp [hpnames]
  obtain ⟨dir, name', hdir, hdirabs, hqnames⟩ := (parent?_cases habs).resolve_left fun h =>
    hne (hnames.symm.trans h.2)
  have hsame : dir.names = up'.names := by
    rw [hnames, hpnames] at hqnames
    exact (List.append_inj_left' hqnames rfl).symm
  refine ⟨dir, ?_, components_eq_of_names_eq hdirabs hupabs hsame⟩
  rw [dirPath?, hq, Option.bind_some, if_neg (getLast?_pathText hu hne), hdir]

end Url

/-! ## Guarantees -/

/-- Canonical paths are texts, and stand for what they are the canonical path of. -/
structure FileSystem.Identifies (fs : FileSystem) : Prop where
  isText : fs.NamesAreText
  isPresent : ∀ {p q : FilePath}, fs.canonicalize p = .ok q → fs.isPresent q = fs.isPresent p
  isDir : ∀ {p q : FilePath}, fs.canonicalize p = .ok q → fs.isDir q = fs.isDir p

/-- What a loader may rely on if a file has been resolved whose canonical path is `real`. -/
structure Resolver.Delivers (r : Resolver) (found : Resolved) (real : FilePath) : Prop where
  isPresent : r.fs.isPresent real = true
  notDir : r.fs.isDir real = false
  location : Url.ofFilePath? real = some found.location.bare
  /-- The location denotes the path, name by name. -/
  path : ∃ path, found.location.toFilePath? = some path ∧ path.components = real.components
  /-- The module is known by a text that leads back to the location. -/
  ref : ∃ id, ModuleRef.ofResolved found = { id, format := found.format, isExternal := false } ∧
    Url.ofFilePath? (.ofString id) = some found.location.bare ∧
    ∀ specifier, r.resolvePath specifier (some (.ofString id)) =
      r.resolve specifier found.location.bare
  /-- Its imports start from the directory of the path. -/
  directory : ∀ up, real.parent? = some up →
    ∃ dir, found.location.bare.dirPath? = some dir ∧ dir.components = up.components

namespace Resolver

variable {r : Resolver} {specifier : String} {parent location : Url} {conditions : ConditionSet}
  {store store' : Store} {found : Resolved}

theorem exists_locate_of_run_resolveWith
    (h : (r.resolveWith specifier parent conditions).run.run store = (.ok found, store')) :
    ∃ location between, (r.locate specifier parent conditions).run.run store =
        (.ok location, between) ∧
      (r.finalize location).run.run between = (.ok found, store') := by
  rw [resolveWith, Resolution.run_bind] at h
  cases hlocate : (r.locate specifier parent conditions).run.run store with
  | mk outcome between =>
      rw [hlocate] at h
      cases outcome with
      | error e => cases (Prod.mk.inj h).1
      | ok location => exact ⟨location, between, rfl, h⟩

/-- What has been resolved has the format that is told of its location. -/
theorem run_classify_of_run_finalize
    (h : (r.finalize location).run.run store = (.ok found, store')) :
    (Format.classify r.fs found.location).run.run store = (.ok found.format, store') := by
  by_cases hfile : location.isFile = true
  · exact ((run_finalize_eq_ok_iff hfile).1 h).2
  · rw [finalize, if_neg hfile, pure_bind, Resolution.run_bind] at h
    cases hrun : (Format.classify r.fs location).run.run store with
    | mk outcome t =>
        rw [hrun] at h
        cases outcome with
        | error e => cases (Prod.mk.inj h).1
        | ok format =>
            obtain ⟨hok, rfl⟩ := Prod.mk.inj h
            obtain rfl := Except.ok.inj hok
            exact hrun

/-- The format is the same when it is asked for again. -/
theorem classify_again
    (h : (r.resolveWith specifier parent conditions).run.run store = (.ok found, store'))
    {later : Store}
    (hlater : later = store' ∨ (r.fs.IgnoresSpelling ∧ r.Reached store ∧ r.Reached later)) :
    ((Format.classify r.fs found.location).run.run later).1 = .ok found.format := by
  obtain ⟨location, between, hlocate, hfinalize⟩ := exists_locate_of_run_resolveWith h
  have hclassify := run_classify_of_run_finalize hfinalize
  rcases hlater with rfl | ⟨hspelling, hstore, hlater⟩
  · rw [Format.repeats_classify r.fs found.location hclassify]
  · have hcouples := Store.couples_reflects hspelling
    have hstart := hstore.reflects hspelling
    obtain ⟨-, hbetween, -⟩ :=
      coupled_locate hcouples specifier parent conditions ⟨hstart, hstart⟩
    rw [hlocate] at hbetween
    obtain ⟨hsame, -⟩ := Format.coupled_classify hcouples found.location
      ⟨hbetween, hlater.reflects hspelling⟩
    rw [← hsame.eq, hclassify]

/-- A file that passes the checks is delivered. -/
theorem delivers_of_canonicalFile (hfs : r.fs.Identifies)
    (h : canonicalFile r.fs location = .ok found.location) :
    ∃ asked real, r.fs.canonicalize asked = .ok real ∧ r.Delivers found real := by
  obtain ⟨asked, real, v, -, hdir, hpresent, hreal, hv, hfound⟩ := exists_of_canonicalFile h
  obtain ⟨s, rfl⟩ := hfs.isText asked real hreal
  have habs := Url.isAbsolute_of_ofFilePath? hv
  -- only the query and the fragment are not those of the canonical path
  have hbare : found.location.bare = v := by
    obtain ⟨hquery, hfragment⟩ := Url.parts_of_ofFilePath? hv
    rw [hfound, Url.bare]
    obtain ⟨scheme, authority, path, query, fragment⟩ := v
    obtain rfl : query = none := hquery
    obtain rfl : fragment = none := hfragment
    rfl
  obtain ⟨path, hpath, -⟩ := Url.exists_toFilePath? habs hv
  obtain ⟨hshown, hpathabs, hnames⟩ := Url.spelled_of_toFilePath? hv hpath
  have hfoundpath : found.location.toFilePath? = some path := by
    rw [hfound]
    exact hpath
  -- nothing is lost in the text of the path, since its names are text
  have hid : Url.ofFilePath? (.ofString path.display) = some found.location.bare := by
    rw [hshown, Url.ofFilePath?_eq hpathabs, hnames, ← Url.ofFilePath?_eq habs, hv, hbare]
  refine ⟨asked, .ofString s, hreal, ?_, ?_, ?_, ⟨path, hfoundpath, ?_⟩,
    ⟨path.display, ?_, hid, fun specifier => ?_⟩, fun up hup => ?_⟩
  · rw [hfs.isPresent hreal, hpresent]
  · rw [hfs.isDir hreal, hdir]
  · rw [hbare, hv]
  · exact components_eq_of_names_eq hpathabs habs hnames
  · obtain ⟨u, format⟩ := found
    obtain rfl : u = { v with query := location.query, fragment := location.fragment } := hfound
    exact ModuleRef.ofResolved_file (Url.isFile_ofFilePath? hv) hpath _ _ _
  · rw [resolvePath, parentUrl?, hid]
  · rw [hbare]
    exact Url.exists_dirPath? hv hup

/-- Whatever is asked for, from wherever, under whatever conditions and with whatever has been read:
a file that is resolved is delivered, and what is no file stands for its URL with the format of its
scheme. Its format is what is told of its location from then on, and, if the file system ignores how
paths are spelled, by whatever the resolver has read before or after. -/
theorem delivers_of_resolveWith (hfs : r.fs.Identifies) (specifier : String) (parent : Url)
    (conditions : ConditionSet) (store store' : Store) (found : Resolved)
    (h : (r.resolveWith specifier parent conditions).run.run store = (.ok found, store')) :
    (found.location.isFile = true →
      ∃ asked real, r.fs.canonicalize asked = .ok real ∧ r.Delivers found real) ∧
    (found.location.isFile = false →
      found.format = .ofScheme found.location ∧
        ModuleRef.ofResolved found =
          { id := found.location.href, format := found.format, isExternal := true }) ∧
    ∀ later, later = store' ∨ (r.fs.IgnoresSpelling ∧ r.Reached store ∧ r.Reached later) →
      ((Format.classify r.fs found.location).run.run later).1 = .ok found.format := by
  obtain ⟨location, between, -, hfinalize⟩ := exists_locate_of_run_resolveWith h
  refine ⟨fun hfile => ?_, fun hother => ⟨?_, ModuleRef.ofResolved_external hother _⟩,
    fun later hlater => classify_again h hlater⟩
  · have hlocation := isFile_of_run_finalize hfinalize hfile
    exact delivers_of_canonicalFile hfs ((run_finalize_eq_ok_iff hlocation).1 hfinalize).1
  · have hclassify := run_classify_of_run_finalize hfinalize
    rw [Format.classify, hother, if_neg Bool.false_ne_true] at hclassify
    exact (Except.ok.inj (Prod.mk.inj hclassify).1).symm

theorem linkedProject_namesAreText : linkedProject.NamesAreText where
  names := by simp [linkedProject, isText_utf8]
  answers place hplace content q hfile := by
    have hnone := linkedProject_noAnswers place hplace _ hfile
    cases hnone

theorem linkedProject_identifies : linkedResolver.fs.Identifies where
  isText := Tree.fileSystem_namesAreText linkedProject_namesAreText
  isPresent := linkedProject_canonicalizes.isPresent
  isDir := linkedProject_canonicalizes.isDir

/-- A file that is reached through a link, with a query and a fragment, and a module of the
platform. -/
theorem delivers_of_resolveWith_link :
    let parent := fileUrl ["p", "m.js"]
    let file : Resolved :=
      ⟨{ fileUrl ["p", "real.js"] with query := some "v", fragment := some "w" }, .commonJs⟩
    let builtin : Resolved := ⟨{ scheme := "node", path := .rootless "fs" }, .builtin⟩
    let resolve (specifier : String) :=
      (linkedResolver.resolveWith specifier parent (.ofList [])).run.run {}
    (resolve "./a.js?v#w").1 = .ok file ∧ (resolve "fs").1 = .ok builtin ∧
      (∃ asked real, linkedResolver.fs.canonicalize asked = .ok real ∧
        linkedResolver.Delivers file real) ∧
      ((Format.classify linkedResolver.fs file.location).run.run {}).1 = .ok .commonJs ∧
      ModuleRef.ofResolved builtin =
        { id := "node:fs", format := .builtin, isExternal := true } := by
  intro parent file builtin resolve
  have hfile : (resolve "./a.js?v#w").1 = .ok file := by decide +kernel
  have hbuiltin : (resolve "fs").1 = .ok builtin := by decide +kernel
  obtain ⟨hdelivers, -, hagain⟩ := delivers_of_resolveWith linkedProject_identifies _ _ _ _ _ file
    (Prod.ext hfile rfl)
  obtain ⟨-, hexternal, -⟩ := delivers_of_resolveWith linkedProject_identifies _ _ _ _ _ builtin
    (Prod.ext hbuiltin rfl)
  have hspelling : linkedResolver.fs.IgnoresSpelling := Tree.fileSystem_ignoresSpelling _
  have hformat := hagain {} (Or.inr ⟨hspelling, ⟨[], rfl⟩, ⟨[], rfl⟩⟩)
  have hhref : builtin.location.href = "node:fs" := by decide +kernel
  obtain ⟨-, href⟩ := hexternal rfl
  rw [hhref] at href
  exact ⟨hfile, hbuiltin, hdelivers rfl, hformat, href⟩

end Resolver

end ModuleGraph
