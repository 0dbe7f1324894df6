import ModuleGraph.Proofs.Package.Splitting
import ModuleGraph.Proofs.Resolve.Containment
import ModuleGraph.Proofs.Resolve.Nearest

/-!
# Where imports lead

A literal of `imports` that does not start with `./` names another package. The guard looks at the
literal as it is written, for a slash at its front and for `..` between its slashes; what the star
stands for is put in afterwards, and the place in a package without `exports` is read from what
comes out, escapes and all. So what is answered lies in the package exactly if the segments that
are *read* lead below its directory, and that is decided here. It is sure to where none of them
reads as `..`.
-/

set_option autoImplicit false

namespace ModuleGraph

open Text Url

/-- The location is a file below a directory, under whatever names. -/
structure Url.LiesIn (u dir : Url) : Prop where
  isFile : u.isFile = true
  below : ∃ rest, u.pathText.toList = dir.pathText.toList ++ rest

theorem Url.liesIn_iff {u dir : Url} {dirs : List String} (hdir : dir.IsDirectory dirs)
    (hfile : u.isFile = true) {s : String}
    (hpath : u.path = .segments (destination dirs (segmentsRead s))) :
    u.LiesIn dir ↔ ∃ rest, rest ≠ [] ∧ destination dirs (segmentsRead s) = dirs ++ rest := by
  have hslash : ∀ name ∈ destination dirs (segmentsRead s), '/' ∉ name.toList :=
    slash_not_mem_destination hdir.slash fun _ => slash_not_mem_segmentsRead
  have hbelow := Path.below_iff hdir.slash hslash fun _ => True
  simp only [implies_true, and_true] at hbelow
  rw [← hpath, ← hdir.path] at hbelow
  exact ⟨fun h => hbelow.1 h.below, fun h => ⟨hfile, hbelow.2 h⟩⟩

/-- Segments of which none reads as `..` lead below the directory. -/
theorem Url.exists_destination_eq_append {dirs : List String} (hhead : dirs.head? ≠ some "")
    {segs : List (List Char)} (hne : segs ≠ [])
    (hdouble : ∀ seg ∈ segs, plainSegment (dropTabs seg) ≠ "..") :
    ∃ rest, rest ≠ [] ∧ destination dirs segs = dirs ++ rest := by
  cases dirs with
  | nil => exact ⟨_, dropEmptyFront_ne_nil _, rfl⟩
  | cons dir dirs =>
      have hdouble' : ∀ seg ∈ segs, isDoubleDot (dropTabs seg) = false := by
        intro seg hseg
        cases h : isDoubleDot (dropTabs seg) with
        | false => rfl
        | true => exact absurd ((isDoubleDot_iff _).1 h) (hdouble seg hseg)
      have htabs : dir :: dirs = [] → ∀ seg ∈ segs, dropTabs seg = seg := fun h => by cases h
      obtain ⟨rest, hrest, hfollow, -⟩ := exists_followFrom_eq_append hne hdouble' htabs
      refine ⟨rest, hrest, ?_⟩
      rw [destination, hfollow]
      exact dropEmptyFront_of_head (List.cons_ne_nil _ _) hhead

/-! ## The package that answers -/

namespace Package

variable {fs : FileSystem} {platform : Platform} {specifier : String} {parent u : Url}
  {parts : PackageSpecifier} {conditions : ConditionSet} {store : Store}

/-- The package that answers a bare specifier from a module, with the manifest that is read for
it: the enclosing one, or the nearest installed one if that one has nothing to say. -/
inductive AnsweredBy (fs : FileSystem) (store : Store) (parts : PackageSpecifier) (parent : Url)
    (conditions : ConditionSet) : FilePath → Option Manifest → Prop
  | own {dir scope : FilePath} {manifest : Manifest} :
      parent.dirPath? = some dir → Store.scope? fs store dir = some scope →
      ((Store.read fs scope).run.run store).1 = .ok (some manifest) →
      manifest.exports.isSome = true → manifest.name = some parts.name →
      AnsweredBy fs store parts parent conditions scope (some manifest)
  | installed {dir found : FilePath} {manifest : Option Manifest} :
      parent.dirPath? = some dir → installed? fs parts.name dir = some found →
      ((resolveSelf fs parts parent conditions).run.run store).1 = .ok none →
      ((Store.read fs found).run.run
        ((resolveSelf fs parts parent conditions).run.run store).2).1 = .ok manifest →
      AnsweredBy fs store parts parent conditions found manifest

/-- The location is what a package in a directory answers for a subpath. -/
def IsAnswer (place : FilePath) (manifest : Option Manifest) (subpath : String)
    (conditions : ConditionSet) (u : Url) : Prop :=
  ∃ packageUrl store, dirUrl place = .ok packageUrl ∧
    ((enter packageUrl subpath manifest conditions).run.run store).1 = .ok u

/-- The enclosing package answers only if it has `exports` and bears the name. -/
theorem exists_answer_of_selfAnswer {scope : FilePath} {manifest : Option Manifest}
    (h : ((selfAnswer scope parts conditions manifest).run.run store).1 = .ok (some u)) :
    ∃ m, manifest = some m ∧ m.exports.isSome = true ∧ m.name = some parts.name ∧
      IsAnswer scope (some m) parts.subpath conditions u := by
  cases manifest with
  | none => cases h
  | some m =>
      cases hexports : m.exports with
      | none =>
          rw [selfAnswer, hexports] at h
          cases h
      | some exports =>
          rw [selfAnswer, hexports] at h
          dsimp only at h
          split at h
          · next hname =>
              obtain ⟨packageUrl, hurl, h⟩ := Resolution.exists_of_bind h
              obtain ⟨location, hlocation, h⟩ := Resolution.exists_of_bind h
              obtain rfl : location = u := Option.some.inj (Except.ok.inj h)
              have hsome : m.exports.isSome = true := by rw [hexports]; rfl
              rw [← enter_of_exports hexports] at hlocation
              exact ⟨m, rfl, hsome, hname, packageUrl, _, hurl, hlocation⟩
          · cases h

theorem exists_answeredBy_of_resolveSelf
    (h : ((resolveSelf fs parts parent conditions).run.run store).1 = .ok (some u)) :
    ∃ place manifest, AnsweredBy fs store parts parent conditions place manifest ∧
      IsAnswer place manifest parts.subpath conditions u := by
  cases hdir : parent.dirPath? with
  | none =>
      rw [resolveSelf, hdir] at h
      cases h
  | some dir =>
      rw [resolveSelf_eq hdir] at h
      obtain ⟨scope, hscope, h⟩ := Resolution.exists_of_bind h
      obtain rfl : Store.scope? fs store dir = scope := Except.ok.inj hscope
      cases hscope : Store.scope? fs store dir with
      | none =>
          rw [hscope] at h
          cases h
      | some scope =>
          rw [hscope] at h
          obtain ⟨manifest, hread, h⟩ := Resolution.exists_of_bind h
          obtain ⟨m, rfl, hexports, hname, hanswer⟩ := exists_answer_of_selfAnswer h
          exact ⟨scope, some m, .own hdir hscope hread hexports hname, hanswer⟩

theorem exists_answer_of_resolveInstalled {dir : FilePath} (hdir : parent.dirPath? = some dir)
    (h : ((resolveInstalled fs specifier parts parent conditions).run.run store).1 = .ok u) :
    ∃ found manifest, installed? fs parts.name dir = some found ∧
      ((Store.read fs found).run.run store).1 = .ok manifest ∧
      IsAnswer found manifest parts.subpath conditions u := by
  unfold resolveInstalled at h
  rw [hdir, Option.bind_some] at h
  cases hfound : installed? fs parts.name dir with
  | none =>
      rw [hfound] at h
      cases h
  | some found =>
      rw [hfound] at h
      obtain ⟨packageUrl, hurl, h⟩ := Resolution.exists_of_bind h
      obtain ⟨manifest, hread, h⟩ := Resolution.exists_of_bind h
      exact ⟨found, manifest, rfl, hread, packageUrl, _, hurl, h⟩

/-- The modules of the platform are no files. -/
theorem isFile_builtin (hbuiltin : isBuiltin platform specifier = true)
    (hparse : Url.parse? ("node:" ++ specifier) = some u) : u.isFile = false := by
  have hall : ∀ name ∈ builtinModules,
      (Url.parse? ("node:" ++ name)).all (fun u => !u.isFile) = true := by decide +kernel
  have hmem : specifier ∈ builtinModules := by
    simp only [isBuiltin, isBuiltinModule, Bool.and_eq_true, List.contains_iff_mem] at hbuiltin
    exact hbuiltin.2
  have hname := hall specifier hmem
  rw [hparse] at hname
  simpa using hname

/-- A file that a bare specifier stands for is the answer of one package. -/
theorem exists_answeredBy_of_resolveBare
    (h : ((resolveBare fs platform specifier parent conditions).run.run store).1 = .ok u)
    (hfile : u.isFile = true) :
    specifier ≠ "" ∧ ∃ parts, PackageSpecifier.parse specifier = .ok parts ∧
      ∃ place manifest, AnsweredBy fs store parts parent conditions place manifest ∧
        IsAnswer place manifest parts.subpath conditions u := by
  unfold resolveBare at h
  split at h
  · cases h
  · next hne =>
      refine ⟨hne, ?_⟩
      split at h
      · next hbuiltin =>
          cases hparse : Url.parse? ("node:" ++ specifier) with
          | none =>
              rw [hparse] at h
              cases h
          | some location =>
              rw [hparse] at h
              obtain rfl : location = u := Except.ok.inj h
              rw [isFile_builtin hbuiltin hparse] at hfile
              cases hfile
      · obtain ⟨parts, hparts, h⟩ := Resolution.exists_of_bind h
        refine ⟨parts, hparts, ?_⟩
        obtain ⟨found, hself, h⟩ := Resolution.exists_of_bind h
        cases found with
        | some location =>
            obtain rfl : location = u := Except.ok.inj h
            exact exists_answeredBy_of_resolveSelf hself
        | none =>
            cases hdir : parent.dirPath? with
            | none =>
                rw [resolveInstalled, hdir] at h
                cases h
            | some dir =>
                obtain ⟨found, manifest, hfound, hread, hanswer⟩ :=
                  exists_answer_of_resolveInstalled hdir h
                exact ⟨found, manifest, .installed hdir hfound hself hread, hanswer⟩

/-! ## The place in the package -/

theorem exists_isDirectory_of_dirUrl {dir : FilePath} {url : Url} (h : dirUrl dir = .ok url) :
    ∃ dirs, url.IsDirectory dirs := by
  unfold dirUrl at h
  split at h
  · next hdir =>
      obtain rfl := Except.ok.inj h
      exact ⟨_, (isDirectory_of_ofDirPath? hdir).1⟩
  · cases h

/-- What is followed from the directory of a package for one of its subpaths: the subpath itself if
the package has no `exports`, and otherwise one of their literals that the guard lets through, with
what its stars stand for. -/
inductive Follows (manifest : Option Manifest) (subpath : String) : String → Prop
  | subpath : manifest.bind Manifest.exports = none → Follows manifest subpath subpath
  | literal {exports : Target} {text : String} {captured : Option String} {inner : List Char} :
      manifest.bind Manifest.exports = some exports → text ∈ exports.literals →
      text.toList = '.' :: '/' :: inner → hasInvalidSegment inner = false →
      (∀ c ∈ captured, hasInvalidSegment c.toList = false) →
      Follows manifest subpath (substitute? captured text)

theorem yields_place_of_subpath {packageUrl : Url} {dirs : List String}
    (hpackage : packageUrl.IsDirectory dirs) {path : String} {cs : List Char}
    (hpath : path.toList = '.' :: '/' :: cs) :
    (Resolution.ofExcept (place packageUrl path)).Yields fun u =>
      u.isFile = true ∧ u.path = .segments (destination dirs (segmentsRead path)) := by
  refine .ofExcept fun u hu => ?_
  obtain ⟨v, hv, hfile, hsegments⟩ := join?_dotSlash hpackage hpath
  rw [place, hv] at hu
  obtain rfl := Except.ok.inj hu
  exact ⟨hfile, hsegments⟩

/-- A package answers for a subpath what is read from a text that is followed for it. -/
theorem yields_enter_follows {packageUrl : Url} {dirs : List String}
    (hpackage : packageUrl.IsDirectory dirs) {manifest : Option Manifest} {subpath : String}
    (hroot : subpath ≠ PackageSpecifier.rootSubpath) {cs : List Char}
    (hsubpath : subpath.toList = '.' :: '/' :: cs) :
    (enter packageUrl subpath manifest conditions).Yields fun u =>
      u.isFile = true ∧ ∃ followed, Follows manifest subpath followed ∧
        u.path = .segments (destination dirs (segmentsRead followed)) := by
  refine yields_enter ?_ ?_
  · intro exports hexports captured text htext
    refine (TargetContext.yields_admits hpackage rfl text).mono fun u hu => ?_
    obtain ⟨inner, hinner, hguard⟩ := hu.literal
    exact ⟨hu.isFile, _, .literal hexports htext hinner hguard hu.captured, hu.path⟩
  · intro hexports path hpath
    obtain rfl : path = subpath := hpath.resolve_right hroot
    refine (yields_place_of_subpath hpackage hsubpath).mono fun u hu => ?_
    exact ⟨hu.1, path, .subpath hexports, hu.2⟩

end Package

/-! ## Literals that lead on -/

namespace Target

variable {fs : FileSystem} {platform : Platform} {packageUrl u : Url} {captured : Option String}
  {conditions : ConditionSet} {text : String} {store : Store}

/-- How `imports` of a package are resolved: a literal may lead on to another package. -/
def importContext (fs : FileSystem) (platform : Platform) (packageUrl : Url)
    (captured : Option String) (conditions : ConditionSet) : TargetContext :=
  { packageUrl, captured, conditions
    enter := some fun bare => Package.resolveBare fs platform bare packageUrl conditions }

/-- A literal that does not start with `./` is a bare specifier with something for its stars. -/
theorem resolveBare_of_resolve_literal (hbare : stripFront? ['.', '/'] text.toList = none)
    (h : (((literal text).resolve
      (importContext fs platform packageUrl captured conditions)).run.run store).1 =
        .ok (some u)) :
    ((Package.resolveBare fs platform (substitute? captured text) packageUrl
      conditions).run.run store).1 = .ok u := by
  rw [resolve] at h
  obtain ⟨location, hlocation, h⟩ := Resolution.exists_of_bind h
  obtain rfl : location = u := Option.some.inj (Except.ok.inj h)
  unfold TargetContext.literal at hlocation
  rw [hbare] at hlocation
  dsimp only [importContext] at hlocation
  split at hlocation
  · cases hlocation
  · exact hlocation

/-- Whatever a literal of `imports` leads on to, whatever its stars stand for and whichever
conditions hold: a file that it resolves to is the answer of one package to a name and a subpath.
The name is empty exactly if a slash opens the specifier. Behind the package itself the file is
read from a text that is followed from the directory of that package, and lies in it exactly if the
segments that are read lead below it. If none of them reads as `..`, it does. -/
theorem liesIn_iff_of_resolve_import (hbare : stripFront? ['.', '/'] text.toList = none)
    (h : (((literal text).resolve
      (importContext fs platform packageUrl captured conditions)).run.run store).1 =
        .ok (some u)) (hfile : u.isFile = true) :
    let specifier := substitute? captured text
    ∃ parts, PackageSpecifier.parse specifier = .ok parts ∧
      (parts.name = "" ↔ specifier.toList.head? = some '/') ∧
      ∃ place manifest url dirs,
        Package.AnsweredBy fs store parts packageUrl conditions place manifest ∧
        Package.dirUrl place = .ok url ∧ url.IsDirectory dirs ∧
        (parts.subpath ≠ PackageSpecifier.rootSubpath →
          ∃ followed, Package.Follows manifest parts.subpath followed ∧
            u.path = .segments (destination dirs (segmentsRead followed)) ∧
            (u.LiesIn url ↔
              ∃ rest, rest ≠ [] ∧ destination dirs (segmentsRead followed) = dirs ++ rest) ∧
            ((∀ seg ∈ segmentsRead followed, plainSegment (dropTabs seg) ≠ "..") →
              u.LiesIn url)) := by
  intro specifier
  have hresolve := resolveBare_of_resolve_literal hbare h
  obtain ⟨hne, parts, hparts, place, manifest, hpackage, url, later, hurl, henter⟩ :=
    Package.exists_answeredBy_of_resolveBare hresolve hfile
  obtain ⟨hname, hsubpath⟩ := PackageSpecifier.parse_eq_ok hne hparts
  obtain ⟨dirs, hdirs⟩ := Package.exists_isDirectory_of_dirUrl hurl
  refine ⟨parts, hparts, hname, place, manifest, url, dirs, hpackage, hurl, hdirs, fun hroot => ?_⟩
  obtain ⟨cs, hcs⟩ := hsubpath.resolve_left hroot
  obtain ⟨-, followed, hfollows, hpath⟩ :=
    Package.yields_enter_follows hdirs hroot hcs later u henter
  have hiff := liesIn_iff hdirs hfile hpath
  refine ⟨followed, hfollows, hpath, hiff, fun hdouble => hiff.2 ?_⟩
  exact exists_destination_eq_append hdirs.head (segmentsRead_ne_nil followed) hdouble

/-! ### A project with one package

The project `/proj` has an installed package `pkg`, and neither has a manifest. -/

/-- A file system with one directory, the one `pkg` is installed in. -/
def exampleProject : FileSystem where
  isPresent _ := false
  isDir path := path = .ofString "/proj/node_modules/pkg"
  readText _ := .error "no such file"
  canonicalize := .ok

/-- What the project's `imports` may lead on to. -/
def exampleImport (captured : Option String) : TargetContext :=
  importContext exampleProject .node (fileUrl ["proj", ""]) captured (.ofList [])

theorem dirPath?_exampleProject :
    (fileUrl ["proj", ""]).dirPath? = some (.ofString "/proj/") := by decide +kernel

theorem scope?_exampleProject :
    Store.scope? exampleProject {} (.ofString "/proj/") = none := by decide +kernel

theorem installed?_exampleProject :
    Package.installed? exampleProject "pkg" (.ofString "/proj/") =
      some (.ofString "/proj/node_modules/pkg") := by decide +kernel

theorem dirUrl_exampleProject :
    Package.dirUrl (.ofString "/proj/node_modules/pkg") =
      .ok (fileUrl ["proj", "node_modules", "pkg", ""]) := by decide +kernel

/-- Nothing but `pkg` answers for the project, and it has no manifest. -/
theorem answeredBy_exampleProject {subpath : String} {place : FilePath}
    {manifest : Option Manifest} :
    Package.AnsweredBy exampleProject {} ⟨"pkg", subpath⟩ (fileUrl ["proj", ""]) (.ofList [])
        place manifest ↔
      place = .ofString "/proj/node_modules/pkg" ∧ manifest = none := by
  have hself (parts : PackageSpecifier) :
      (Package.resolveSelf exampleProject parts (fileUrl ["proj", ""]) (.ofList [])).run.run {} =
        (.ok none, {}) :=
    Package.run_resolveSelf_of_none dirPath?_exampleProject scope?_exampleProject
  have hload (dir : FilePath) : Store.load exampleProject dir = .ok none := rfl
  constructor
  · intro h
    cases h with
    | own hdir hscope =>
        obtain rfl := Option.some.inj (dirPath?_exampleProject.symm.trans hdir)
        rw [scope?_exampleProject] at hscope
        cases hscope
    | installed hdir hfound _ hread =>
        obtain rfl := Option.some.inj (dirPath?_exampleProject.symm.trans hdir)
        rw [hself, Package.run_read_empty, hload] at hread
        rw [installed?_exampleProject] at hfound
        exact ⟨(Option.some.inj hfound).symm, (Except.ok.inj hread).symm⟩
  · rintro ⟨rfl, rfl⟩
    refine .installed dirPath?_exampleProject installed?_exampleProject ?_ ?_
    · rw [hself]
    · rw [hself, Package.run_read_empty, hload]

/-- A pattern that leads on to a file of the package. -/
theorem liesIn_iff_of_resolve_import_pattern :
    let u := fileUrl ["proj", "node_modules", "pkg", "lib", "a.js"]
    (((literal "pkg/lib/*.js").resolve (exampleImport (some "a"))).run.run {}).1 = .ok (some u) ∧
      u.LiesIn (fileUrl ["proj", "node_modules", "pkg", ""]) := by
  intro u
  have hresolve : (((literal "pkg/lib/*.js").resolve (exampleImport (some "a"))).run.run {}).1 =
      .ok (some u) := by decide +kernel
  have hparse : PackageSpecifier.parse (substitute? (some "a") "pkg/lib/*.js") =
      .ok ⟨"pkg", "./lib/a.js"⟩ := by decide +kernel
  obtain ⟨parts, hparts, -, place, manifest, url, dirs, hpackage, hurl, -, hsubpath⟩ :=
    liesIn_iff_of_resolve_import (by decide) hresolve rfl
  obtain rfl := Except.ok.inj (hparse.symm.trans hparts)
  obtain ⟨rfl, rfl⟩ := answeredBy_exampleProject.1 hpackage
  obtain rfl := Except.ok.inj (dirUrl_exampleProject.symm.trans hurl)
  obtain ⟨followed, hfollows, -, -, hlies⟩ := hsubpath (by decide)
  cases hfollows with
  | subpath => exact ⟨hresolve, hlies (by decide +kernel)⟩
  | literal hexports => cases hexports

/-- Escaped dots hide from the guard and not from the reader: the answer of the package is a file
of the project. -/
theorem not_liesIn_of_escaped_dots :
    let text := "pkg/%2e%2e/%2e%2e/secret.js"
    let u := fileUrl ["proj", "secret.js"]
    (((literal text).resolve (exampleImport none)).run.run {}).1 = .ok (some u) ∧
      PackageSpecifier.parse text = .ok ⟨"pkg", "./%2e%2e/%2e%2e/secret.js"⟩ ∧
      ∃ place manifest url,
        Package.AnsweredBy exampleProject {} ⟨"pkg", "./%2e%2e/%2e%2e/secret.js"⟩
          (fileUrl ["proj", ""]) (.ofList []) place manifest ∧
        Package.dirUrl place = .ok url ∧ ¬ u.LiesIn url := by
  intro text u
  refine ⟨by decide +kernel, by decide +kernel, _, none, _,
    answeredBy_exampleProject.2 ⟨rfl, rfl⟩, dirUrl_exampleProject, ?_⟩
  rintro ⟨-, rest, hrest⟩
  have hprefix : (fileUrl ["proj", "node_modules", "pkg", ""]).pathText.toList <+:
      u.pathText.toList := ⟨rest, hrest.symm⟩
  exact absurd hprefix (by decide +kernel)

end Target

end ModuleGraph
