import ModuleGraph.Proofs.Resolve.Containment
import ModuleGraph.Proofs.Resolve.History
import ModuleGraph.Proofs.Resolve.Results
import ModuleGraph.Proofs.Url.Rereading

/-!
# Resolving a resolved location

A resolved file is at the location of a canonical path. Resolving the text of that location again
follows it to itself, so the only question is whether the location passes the checks that a
location goes through before it is made canonical. It does not if a name of the path holds a
backslash, which is written as the escape of a separator, or if the path ends like a drive, which
is read with a separator behind it. Such a path is reached through a link only.
-/

set_option autoImplicit false

namespace ModuleGraph

open Text FilePath
open Target (fileUrl)

/-! ## Asking twice -/

/-- A computation that has had a result has it again, from what has been read by then, and reads
nothing more. -/
def Resolution.Repeats {α : Type} (x : Resolution α) : Prop :=
  ∀ ⦃s t : Store⦄ ⦃a : α⦄, x.run.run s = (.ok a, t) → x.run.run t = (.ok a, t)

theorem Resolution.Repeats.pure {α : Type} (a : α) :
    Resolution.Repeats (Pure.pure a : Resolution α) := by
  intro s t b h
  obtain ⟨hok, rfl⟩ := Prod.mk.inj h
  exact h

theorem Resolution.Repeats.map {α β : Type} {x : Resolution α} (hx : x.Repeats) (f : α → β) :
    Resolution.Repeats (do return f (← x)) := by
  intro s t b h
  rw [Resolution.run_bind] at h ⊢
  cases hrun : x.run.run s with
  | mk outcome t' =>
      rw [hrun] at h
      cases outcome with
      | error e => cases (Prod.mk.inj h).1
      | ok a =>
          obtain ⟨hok, rfl⟩ := Prod.mk.inj h
          rw [hx hrun]
          exact congrArg (·, t') hok

namespace Store

variable {fs : FileSystem} {s : Store}

/-- Once the manifest of a scope has been remembered, the search that found the scope still finds
it. -/
theorem firstScope?_remember {scope : FilePath} {m : Manifest} (hnone : s.find? scope = none)
    {dirs : List FilePath} (h : firstScope? fs s dirs = some scope) :
    ∃ dir, firstScope? fs (s.remember scope (some m)) dirs = some dir ∧
      (s.remember scope (some m)).find? dir = some (some m) := by
  induction dirs with
  | nil => cases h
  | cons dir rest ih =>
      have hfound := find?_remember (some m) hnone dir
      rw [firstScope?] at h ⊢
      split at h
      · cases h
      · next hpackages =>
          rw [if_neg hpackages]
          -- a directory with the components of the scope has its entry now
          by_cases hcomp : dir.components = scope.components
          · rw [if_pos hcomp] at hfound
            refine ⟨dir, ?_, hfound⟩
            rw [hasManifest, hfound]
            rfl
          · rw [if_neg hcomp] at hfound
            have hsame : hasManifest fs (s.remember scope (some m)) dir = hasManifest fs s dir := by
              rw [hasManifest, hasManifest, hfound]
            split at h
            · exact absurd (congrArg components (Option.some.inj h)) hcomp
            · next hwithout =>
                rw [hsame, if_neg hwithout]
                exact ih h

theorem hasManifest_of_firstScope? {scope : FilePath} {dirs : List FilePath}
    (h : firstScope? fs s dirs = some scope) : hasManifest fs s scope = true := by
  induction dirs with
  | nil => cases h
  | cons dir rest ih =>
      rw [firstScope?] at h
      split at h
      · cases h
      · split at h
        · next hwith => exact Option.some.inj h ▸ hwith
        · exact ih h

/-- A search that has found a manifest, or none, finds it again. -/
theorem repeats_find (fs : FileSystem) (dir : FilePath) : (find fs dir).Repeats := by
  intro s t found h
  rw [run_find] at h
  cases hscope : s.scope? fs dir with
  | none =>
      rw [hscope] at h
      obtain ⟨hok, rfl⟩ := Prod.mk.inj h
      rw [run_find, hscope, hok]
  | some scope =>
      rw [hscope] at h
      dsimp only at h
      rw [run_read] at h
      cases hentry : s.find? scope with
      | some entry =>
          rw [hentry] at h
          obtain ⟨hok, rfl⟩ := Prod.mk.inj h
          rw [run_find, hscope]
          dsimp only
          rw [run_read, hentry]
          exact h
      | none =>
          have hpresent := hasManifest_of_firstScope? hscope
          rw [hasManifest, hentry] at hpresent
          rw [hentry] at h
          dsimp only at h
          cases hload : load fs scope with
          | error e =>
              rw [hload] at h
              cases (Prod.mk.inj h).1
          | ok loaded =>
              rw [hload] at h
              obtain ⟨hok, rfl⟩ := Prod.mk.inj h
              obtain rfl := Except.ok.inj hok
              -- the scope has been found by its manifest
              obtain ⟨m, rfl⟩ : ∃ m, loaded = some m := by
                simp only [load, hpresent, if_true] at hload
                cases hm : loadManifest fs (scope.join manifestName) with
                | error e =>
                    rw [hm] at hload
                    cases hload
                | ok m =>
                    rw [hm] at hload
                    exact ⟨m, (Except.ok.inj hload).symm⟩
              obtain ⟨dir', hagain, hknown⟩ := firstScope?_remember (m := m) hentry hscope
              rw [run_find, scope?, hagain]
              dsimp only
              rw [run_read, hknown]

end Store

theorem Format.repeats_classify (fs : FileSystem) (location : Url) :
    (classify fs location).Repeats := by
  have htype : (packageType fs location).Repeats := by
    unfold packageType
    cases location.dirPath? with
    | none => exact .pure none
    | some dir => exact (Store.repeats_find fs dir).map fun found => found.bind Manifest.type
  unfold classify
  split
  · split
    all_goals first | exact .pure _ | exact htype.map ofPackage
  · exact .pure _

/-! ## Canonical files -/

namespace Resolver

variable {r : Resolver} {fs : FileSystem} {location u : Url} {names : List Bytes}

/-- A file is given the location of a plain path, which stands for a file in its place. -/
theorem exists_isPlainFile_of_canonicalFile (hfs : fs.Canonicalizes)
    (hparts : location.HasEscapedParts) (h : canonicalFile fs location = .ok u) :
    ∃ names, u.IsPlainFile names ∧
      fs.canonicalize (ofPieces true names) = .ok (ofPieces true names) ∧
      fs.isDir (ofPieces true names) = false ∧ fs.isPresent (ofPieces true names) = true := by
  obtain ⟨path, real, v, -, hdir, hpresent, hreal, hv, rfl⟩ := exists_of_canonicalFile h
  obtain ⟨names, hnames, rfl⟩ := hfs.isPlain hreal
  rw [Url.ofFilePath?_ofPieces hnames] at hv
  obtain rfl := Option.some.inj hv
  refine ⟨names, ⟨hnames, rfl, rfl, rfl, hparts.query, hparts.fragment⟩, hfs.idempotent hreal, ?_,
    ?_⟩
  · rw [hfs.isDir hreal, hdir]
  · rw [hfs.isPresent hreal, hpresent]

/-- The location of a file at a canonical path passes the checks, and is what they lead to, if no
name of the path holds a backslash and no separator stands behind the last one. -/
theorem canonicalFile_eq_self_iff (hfs : fs.Canonicalizes) (hu : u.IsPlainFile names)
    (hreal : fs.canonicalize (ofPieces true names) = .ok (ofPieces true names))
    (hdir : fs.isDir (ofPieces true names) = false)
    (hpresent : fs.isPresent (ofPieces true names) = true) {path : FilePath}
    (hpath : u.toFilePath? = some path) :
    canonicalFile fs u = .ok u ↔
      (∀ name ∈ path.names, (0x5C : UInt8) ∉ name) ∧ path.bytes.getLast? ≠ some separator := by
  obtain ⟨path', hpath', -, hnames, hplace⟩ := hu.exists_toFilePath?
  obtain rfl := Option.some.inj (hpath'.symm.trans hpath)
  have hencoded : u.hasEncodedSeparator = false ↔
      ∀ name ∈ path'.names, (0x5C : UInt8) ∉ name := by
    rw [← Bool.not_eq_true, hu.hasEncodedSeparator_iff, hnames]
    simp
  have hslash {p : FilePath} (hlast : p.bytes.getLast? = some separator) :
      fs.isDir p = true ∨ fs.isPresent p = false := by
    cases h : fs.isPresent p with
    | true => exact Or.inl (hfs.slash hlast h)
    | false => exact Or.inr rfl
  unfold canonicalFile
  rw [← hencoded]
  cases hseparator : u.hasEncodedSeparator with
  | true =>
      rw [if_pos rfl]
      refine ⟨fun h => ?_, fun h => ?_⟩
      · cases h
      · cases h.1
  | false =>
      rw [if_neg Bool.false_ne_true, hpath]
      dsimp only
      by_cases hlast : path'.bytes.getLast? = some separator
      · -- a separator at the end asks for a directory, so nothing is found
        refine ⟨fun h => ?_, fun h => absurd hlast h.2⟩
        rcases hslash hlast with hdirectory | habsent
        · rw [if_pos hdirectory] at h
          cases h
        · rw [habsent] at h
          split at h
          · cases h
          · cases h
      · obtain rfl : path' = ofPieces true names := hplace.resolve_right hlast
        refine ⟨fun _ => ⟨rfl, hlast⟩, fun _ => ?_⟩
        rw [if_neg (by simp [hdir]), if_neg (by simp [hpresent]), hreal]
        dsimp only
        rw [Url.ofFilePath?_ofPieces hu.isName]
        obtain ⟨scheme, authority, path, query, fragment⟩ := u
        obtain rfl : scheme = "file" := hu.scheme
        obtain rfl : authority = some Url.localFile := hu.authority
        obtain rfl : path = .segments (Url.plainSegments names) := hu.path
        rfl

/-! ## Resolving again -/

/-- A file is resolved to where it is canonical, with the format that is told there. -/
theorem run_finalize_eq_ok_iff (hfile : location.isFile = true) {s t : Store} {found : Resolved} :
    (r.finalize location).run.run s = (.ok found, t) ↔
      canonicalFile r.fs location = .ok found.location ∧
        (Format.classify r.fs found.location).run.run s = (.ok found.format, t) := by
  unfold finalize
  rw [if_pos hfile, Resolution.run_bind, Resolution.run_ofExcept]
  cases canonicalFile r.fs location with
  | error e =>
      constructor
      · intro h
        cases (Prod.mk.inj h).1
      · rintro ⟨h, -⟩
        cases h
  | ok u =>
      dsimp only
      rw [Resolution.run_bind]
      obtain ⟨place, format⟩ := found
      cases hrun : (Format.classify r.fs u).run.run s with
      | mk outcome t' =>
          constructor
          · intro h
            cases outcome with
            | error e => cases (Prod.mk.inj h).1
            | ok format' =>
                obtain ⟨hok, rfl⟩ := Prod.mk.inj h
                obtain ⟨rfl, rfl⟩ := Resolved.mk.inj (Except.ok.inj hok)
                exact ⟨rfl, hrun⟩
          · rintro ⟨hu, hformat⟩
            obtain rfl := Except.ok.inj hu
            obtain ⟨rfl, rfl⟩ := Prod.mk.inj (hrun.symm.trans hformat)
            rfl

theorem isFile_of_run_finalize {s t : Store} {found : Resolved}
    (h : (r.finalize location).run.run s = (.ok found, t)) (hfile : found.location.isFile = true) :
    location.isFile = true := by
  by_contra hother
  unfold finalize at h
  rw [if_neg hother, pure_bind, Resolution.run_bind] at h
  cases hrun : (Format.classify r.fs location).run.run s with
  | mk outcome t' =>
      rw [hrun] at h
      cases outcome with
      | error e => cases (Prod.mk.inj h).1
      | ok format =>
          obtain ⟨hok, -⟩ := Prod.mk.inj h
          obtain rfl := Except.ok.inj hok
          exact hother hfile

theorem specifierKind_href (hscheme : u.scheme = "file") : SpecifierKind.of u.href = .url := by
  unfold SpecifierKind.of
  rw [Url.href_toList, hscheme]
  rfl

/-- From wherever its text is followed, the location of a plain path is what is checked. -/
theorem resolveWith_href (hu : u.IsPlainFile names) (parent : Url) (conditions : ConditionSet) :
    r.resolveWith u.href parent conditions = r.finalize u := by
  have hjoin : parent.join? u.href = some u := hu.resolve?_href (some parent)
  unfold resolveWith locate
  rw [specifierKind_href hu.scheme]
  dsimp only
  rw [hjoin]
  rfl

/-- A store that a resolver has come to. -/
def Reached (r : Resolver) (store : Store) : Prop :=
  ∃ ops, ((Operation.runAll r ops).run {}).2 = store

theorem Reached.reflects (hfs : r.fs.IgnoresSpelling) {store : Store} (h : r.Reached store) :
    store.Reflects r.fs := by
  obtain ⟨ops, rfl⟩ := h
  exact (Operation.runAll_reflects hfs ops {} Store.reflects_empty).2

theorem formed_ofReading : Url.OfReading Url.Formed where
  parse := .read
  join hdir hjoin := .followed (.ofDirPath hdir) hjoin

/-- Resolving the text of the location of a resolved file, from wherever and under whatever
conditions, answers the same again exactly if no name of its path holds a backslash and no
separator stands behind the last one. This is so with what has been read by then, and with whatever
the resolver has read if the file system ignores how paths are spelled. -/
theorem resolves_again_iff (hfs : r.fs.Canonicalizes) {parent : Url} (hparent : parent.Formed)
    {specifier : String} {conditions : ConditionSet} {store store' : Store} {found : Resolved}
    (hrun : (r.resolveWith specifier parent conditions).run.run store = (.ok found, store'))
    (hfile : found.location.isFile = true) :
    ∃ path, found.location.toFilePath? = some path ∧
      ∀ (parent' : Url) (conditions' : ConditionSet) (later : Store),
        later = store' ∨ (r.fs.IgnoresSpelling ∧ r.Reached store ∧ r.Reached later) →
        (((r.resolveWith found.location.href parent' conditions').run.run later).1 = .ok found ↔
          (∀ name ∈ path.names, (0x5C : UInt8) ∉ name) ∧
            path.bytes.getLast? ≠ some separator) := by
  unfold resolveWith at hrun
  rw [Resolution.run_bind] at hrun
  cases hlocate : (r.locate specifier parent conditions).run.run store with
  | mk outcome between =>
      rw [hlocate] at hrun
      cases outcome with
      | error e => cases (Prod.mk.inj hrun).1
      | ok location =>
          dsimp only at hrun
          have hformed : location.Formed :=
            yields_locate formed_ofReading (.followed hparent) specifier conditions store location
              (congrArg Prod.fst hlocate)
          have hlocation := isFile_of_run_finalize hrun hfile
          obtain ⟨hcanonical, hclassify⟩ := (run_finalize_eq_ok_iff hlocation).1 hrun
          obtain ⟨names, hplain, hreal, hdir, hpresent⟩ :=
            exists_isPlainFile_of_canonicalFile hfs (hformed.hasEscapedParts hlocation) hcanonical
          obtain ⟨path, hpath, -⟩ := hplain.exists_toFilePath?
          refine ⟨path, hpath, fun parent' conditions' later hlater => ?_⟩
          have hformat : ((Format.classify r.fs found.location).run.run later).1 =
              .ok found.format := by
            rcases hlater with rfl | ⟨hspelling, hstore, hlater⟩
            · rw [Format.repeats_classify r.fs found.location hclassify]
            · have hcouples := Store.couples_reflects hspelling
              have hstart := hstore.reflects hspelling
              obtain ⟨-, hbetween, -⟩ :=
                coupled_locate hcouples specifier parent conditions ⟨hstart, hstart⟩
              rw [hlocate] at hbetween
              obtain ⟨hsame, -⟩ := Format.coupled_classify hcouples found.location
                ⟨hbetween, hlater.reflects hspelling⟩
              rw [← hsame.eq, hclassify]
          rw [resolveWith_href hplain,
            ← canonicalFile_eq_self_iff hfs hplain hreal hdir hpresent hpath]
          constructor
          · intro h
            exact ((run_finalize_eq_ok_iff hfile).1 (Prod.ext h rfl)).1
          · intro h
            exact congrArg Prod.fst
              ((run_finalize_eq_ok_iff hfile).2 ⟨h, Prod.ext hformat rfl⟩)

/-- A project with files that are reached through links: one with an ordinary name, one whose name
holds a backslash, and one whose name ends like a drive. -/
def linkedProject : Tree :=
  let file : Tree.Node := .file { content := .ok [] }
  ⟨[([utf8 "p"], .directory),
    ([utf8 "p", utf8 "real.js"], file),
    ([utf8 "p", utf8 "a.js"], .link (.ofString "real.js")),
    ([utf8 "p", utf8 "x\\y.js"], file),
    ([utf8 "p", utf8 "b.js"], .link (.ofString "x\\y.js")),
    ([utf8 "p", utf8 "z:"], file),
    ([utf8 "p", utf8 "c.js"], .link (.ofString "z:"))]⟩

/-- A resolver for the project. -/
def linkedResolver : Resolver :=
  { fs := linkedProject.fileSystem, platform := .node, conditions := .ofList [],
    cwd := .ofString "/p" }

theorem linkedProject_noAnswers : linkedProject.NoAnswers := by
  intro place hplace file hfile
  simp only [linkedProject, List.mem_cons, List.not_mem_nil, or_false] at hplace
  rcases hplace with rfl | rfl | rfl | rfl | rfl | rfl | rfl <;> cases hfile <;> rfl

theorem linkedProject_canonicalizes : linkedResolver.fs.Canonicalizes :=
  Tree.fileSystem_canonicalizes linkedProject_noAnswers

/-- A file that is reached through a link is resolved again from its location, with its query and
fragment, by a resolver that has read what there was to read and by one that has read nothing. -/
theorem resolves_again_iff_of_link :
    let parent := fileUrl ["p", "m.js"]
    let found : Resolved :=
      ⟨{ fileUrl ["p", "real.js"] with query := some "v", fragment := some "w" }, .commonJs⟩
    let first := (linkedResolver.resolveWith "./a.js?v#w" parent (.ofList [])).run.run {}
    let again (later : Store) := (linkedResolver.resolveWith found.location.href
      (fileUrl ["q", "n.js"]) (.ofList ["import"])).run.run later
    parent.Formed ∧ first.1 = .ok found ∧ (again first.2).1 = .ok found ∧
      (again {}).1 = .ok found := by
  intro parent found first again
  have hparent : Url.ofFilePath? (.ofString "/p/m.js") = some parent := by decide +kernel
  have hfirst : first.1 = .ok found := by decide +kernel
  have hpath : found.location.toFilePath? = some (.ofString "/p/real.js") := by decide +kernel
  obtain ⟨path, hpath', hagain⟩ := resolves_again_iff linkedProject_canonicalizes
    (.ofFilePath hparent) (Prod.ext hfirst rfl) rfl
  obtain rfl := Option.some.inj (hpath.symm.trans hpath')
  have hplain : (∀ name ∈ (FilePath.ofString "/p/real.js").names, (0x5C : UInt8) ∉ name) ∧
      (FilePath.ofString "/p/real.js").bytes.getLast? ≠ some separator := by decide +kernel
  have hspelling : linkedResolver.fs.IgnoresSpelling := Tree.fileSystem_ignoresSpelling _
  exact ⟨.ofFilePath hparent, hfirst, (hagain _ _ _ (Or.inl rfl)).2 hplain,
    (hagain _ _ _ (Or.inr ⟨hspelling, ⟨[], rfl⟩, ⟨[], rfl⟩⟩)).2 hplain⟩

/-- A backslash in the name of a file keeps its location from being resolved again, and so does a
name that ends like a drive. -/
theorem not_resolves_again_of_backslash :
    let parent := fileUrl ["p", "m.js"]
    let resolve (specifier : String) :=
      ((linkedResolver.resolveWith specifier parent (.ofList [])).run.run {}).1
    linkedResolver.fs.Canonicalizes ∧
      resolve "./b.js" = .ok ⟨fileUrl ["p", "x%5Cy.js"], .commonJs⟩ ∧
      (fileUrl ["p", "x%5Cy.js"]).href = "file:///p/x%5Cy.js" ∧
      resolve "file:///p/x%5Cy.js" = .error ⟨.invalidSpecifier,
        "file:///p/x%5Cy.js must not include encoded \"/\" or \"\\\" characters"⟩ ∧
      resolve "./c.js" = .ok ⟨fileUrl ["p", "z:"], .commonJs⟩ ∧
      (fileUrl ["p", "z:"]).href = "file:///p/z:" ∧
      resolve "file:///p/z:" ≠ .ok ⟨fileUrl ["p", "z:"], .commonJs⟩ := by
  intro parent resolve
  exact ⟨linkedProject_canonicalizes, by decide +kernel, by decide +kernel, by decide +kernel,
    by decide +kernel, by decide +kernel, by decide +kernel⟩

end Resolver

end ModuleGraph
