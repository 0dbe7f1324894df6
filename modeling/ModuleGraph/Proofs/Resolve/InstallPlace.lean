import ModuleGraph.FileSystem.Tree
import ModuleGraph.Proofs.FileSystem.Walk
import ModuleGraph.Proofs.Resolve.Import
import ModuleGraph.Proofs.Resolve.Scope
import ModuleGraph.Resolve.Resolver

/-!
# Where a package is installed

The directory of a package is that of all packages with the name joined to it, so where it lies is
a matter of what the pieces of the name mean. A name has no more than two: what is behind its scope,
and the scope. The checks of a name look at it as a whole, so only the first piece is kept from
being a dot or two; the last piece may lead nowhere, and it may lead up. What directory a name
stands for is told here for every name that is accepted: it lies below that of all packages, or is
that directory itself.
-/

set_option autoImplicit false

namespace ModuleGraph

open Text FilePath

/-! ## Places below a directory -/

namespace FilePath

/-- A path that goes down from a directory, by one name at least and by names alone. -/
def StrictlyBelow (p dir : FilePath) : Prop :=
  ∃ names, names ≠ [] ∧ p.components = dir.components ++ names.map Component.normal

/-- How the names on the way from the root go on with one more component. -/
def followComponent (names : List Bytes) : Component → List Bytes
  | .normal name => names ++ [name]
  | .parent => names.dropLast
  | .root | .current => names

theorem normalNames_eq_foldl (p : FilePath) :
    p.normalNames = p.components.foldl followComponent [] := rfl

theorem normalNames_of_components {p dir : FilePath} {added : List Component}
    (h : p.components = dir.components ++ added) :
    p.normalNames = added.foldl followComponent dir.normalNames := by
  rw [normalNames_eq_foldl, normalNames_eq_foldl, h, List.foldl_append]

/-- Some components more are names that lead down exactly if all of them are names. -/
theorem strictlyBelow_iff {p dir : FilePath} {added : List Component}
    (h : p.components = dir.components ++ added) :
    p.StrictlyBelow dir ↔ added ≠ [] ∧ ∀ c ∈ added, ∃ name, c = .normal name := by
  unfold StrictlyBelow
  rw [h]
  constructor
  · rintro ⟨names, hne, hnames⟩
    have hadded : added = names.map Component.normal := List.append_cancel_left hnames
    rw [hadded]
    refine ⟨fun hnil => hne (List.map_eq_nil_iff.1 hnil), fun c hc => ?_⟩
    obtain ⟨name, -, rfl⟩ := List.mem_map.1 hc
    exact ⟨name, rfl⟩
  · rintro ⟨hne, hall⟩
    refine ⟨added.map Component.piece, fun hnil => hne (List.map_eq_nil_iff.1 hnil), ?_⟩
    rw [List.map_map, List.append_cancel_left_eq]
    conv_lhs => rw [← List.map_id added]
    refine List.map_congr_left fun c hc => ?_
    obtain ⟨name, rfl⟩ := hall c hc
    rfl

end FilePath

/-! ## The parts of a name -/

namespace PackageSpecifier

/-- A name is one part that does not open with a dot, or a scope and one part behind it. -/
inductive HasParts : String → List String → String → Prop
  | alone {name : String} : '/' ∉ name.toList → name.toList.head? ≠ some '.' →
      HasParts name [] name
  | inScope {scope last : String} : '/' ∉ scope.toList → '/' ∉ last.toList →
      HasParts ("@" ++ scope ++ "/" ++ last) ["@" ++ scope] last

variable {name last : String} {front : List String}

theorem Splits.exists_hasParts {specifier rest : String} {parts : PackageSpecifier}
    (h : Splits specifier parts rest) : ∃ front last, HasParts parts.name front last := by
  have hslashes := h.slashes
  by_cases hat : specifier.toList.head? = some '@'
  · rw [if_pos hat] at hslashes
    obtain ⟨front, back, hname, hfront, hback⟩ := exists_append_of_count_eq_one hslashes
    have hat' : front.head? = some '@' := by
      rw [h.whole, String.toList_append, hname, List.append_assoc, List.cons_append] at hat
      exact head?_of_head?_append_slash hat
    obtain ⟨scope, rfl⟩ := List.head?_eq_some_iff.1 hat'
    have hwhole : parts.name = "@" ++ String.ofList scope ++ "/" ++ String.ofList back := by
      rw [← String.toList_inj, hname]
      simp
    rw [hwhole]
    refine ⟨_, _, .inScope ?_ ?_⟩
    · rw [String.toList_ofList]
      exact fun hmem => hfront (List.mem_cons_of_mem _ hmem)
    · rwa [String.toList_ofList]
  · rw [if_neg hat, List.count_eq_zero] at hslashes
    exact ⟨_, _, .alone hslashes h.undotted⟩

theorem splitAll_slash {s : String} (h : '/' ∉ s.toList) :
    splitAll (· == '/') s.toList = [s.toList] := by
  refine splitAll_eq_singleton fun c hc => ?_
  rw [beq_eq_false_iff_ne]
  rintro rfl
  exact h hc

namespace HasParts

theorem slash_not_mem (h : HasParts name front last) :
    ∀ part ∈ front ++ [last], '/' ∉ part.toList := by
  cases h with
  | alone hslash => exact List.forall_mem_singleton.2 hslash
  | inScope hscope hlast =>
      refine List.forall_mem_cons.2 ⟨?_, List.forall_mem_singleton.2 hlast⟩
      rw [String.toList_append, List.mem_append]
      exact not_or.2 ⟨by decide, hscope⟩

/-- As a path a name is relative, and its pieces are its parts. -/
theorem pieces (h : HasParts name front last) :
    (ofString name).isAbsolute = false ∧ (ofString name).pieces = (front ++ [last]).map utf8 := by
  have hslash := h.slash_not_mem
  cases h with
  | alone hname =>
      obtain ⟨habs, hpieces⟩ := pieces_ofString_of_head fun h => hname (List.mem_of_head? h)
      rw [splitAll_slash hname] at hpieces
      exact ⟨habs, hpieces⟩
  | @inScope scope _ hscope hlast =>
      have hlist : ("@" ++ scope ++ "/" ++ last).toList =
          ("@" ++ scope).toList ++ '/' :: last.toList := by simp
      have hhead : ("@" ++ scope ++ "/" ++ last).toList.head? ≠ some '/' := by simp
      obtain ⟨habs, hpieces⟩ := pieces_ofString_of_head hhead
      have hcut := splitAll_append_cons (p := (· == '/')) (beq_self_eq_true '/')
        ("@" ++ scope).toList last.toList
      have hfront := splitAll_slash (hslash _ List.mem_cons_self)
      rw [hlist, hcut, hfront, splitAll_slash hlast] at hpieces
      exact ⟨habs, hpieces⟩

theorem name_eq_empty_iff (h : HasParts name front last) :
    name = "" ↔ front = [] ∧ last = "" := by
  cases h with
  | alone => exact (and_iff_right rfl).symm
  | inScope =>
      refine ⟨fun hempty => ?_, fun h => by cases h.1⟩
      have hlist := congrArg String.toList hempty
      simp at hlist

/-- The checks of a name keep its first part from being a dot or two. -/
theorem ne_of_head? (h : HasParts name front last) {part : String}
    (hhead : (front ++ [last]).head? = some part) : part ≠ "." ∧ part ≠ ".." := by
  have hdot : part.toList.head? ≠ some '.' := by
    cases h with
    | alone _ hdot =>
        obtain rfl := Option.some.inj hhead
        exact hdot
    | inScope =>
        obtain rfl := Option.some.inj hhead
        simp
  constructor
  · rintro rfl
    exact hdot rfl
  · rintro rfl
    exact hdot rfl

/-- What stands in front of the last part is a name of its own. -/
theorem ne_of_mem_front (h : HasParts name front last) {part : String} (hpart : part ∈ front) :
    part ≠ "" ∧ part ≠ "." ∧ part ≠ ".." := by
  have hhead : (front ++ [last]).head? = some part := by
    cases h with
    | alone => exact absurd hpart List.not_mem_nil
    | inScope =>
        obtain rfl := List.mem_singleton.1 hpart
        rfl
  refine ⟨?_, h.ne_of_head? hhead⟩
  rintro rfl
  cases h with
  | alone => exact absurd hpart List.not_mem_nil
  | inScope =>
      have hlist := congrArg String.toList (List.mem_singleton.1 hpart)
      simp at hlist

end HasParts

/-! ## The place of a name -/

/-- What a part means as a piece of a path. -/
theorem ofPiece?_utf8 (part : String) :
    Component.ofPiece? (utf8 part) =
      if part = "" ∨ part = "." then none
      else if part = ".." then some .parent
      else some (.normal (utf8 part)) := by
  have hempty : utf8 part = [] ↔ part = "" := utf8_inj (t := "")
  have hdot : utf8 part = dot ↔ part = "." := utf8_inj (t := ".")
  have hdots : utf8 part = dotDot ↔ part = ".." := utf8_inj (t := "..")
  unfold Component.ofPiece?
  simp only [hempty, hdot, hdots]

theorem ofPiece?_of_ne {part : String} (h : part ≠ "" ∧ part ≠ "." ∧ part ≠ "..") :
    Component.ofPiece? (utf8 part) = some (.normal (utf8 part)) := by
  obtain ⟨hempty, hdot, hdots⟩ := h
  rw [ofPiece?_utf8, if_neg (not_or.2 ⟨hempty, hdot⟩), if_neg hdots]

/-- A part is a name of its own unless it leads nowhere or up. -/
theorem isName_utf8_iff {part : String} (hslash : '/' ∉ part.toList) :
    FilePath.IsName (utf8 part) ↔ part ≠ "" ∧ part ≠ "." ∧ part ≠ ".." := by
  constructor
  · rintro ⟨hkept, hup, -⟩
    have hdots : part ≠ ".." := by
      rintro rfl
      exact hup rfl
    have hskipped : ¬ (part = "" ∨ part = ".") := by
      intro hskip
      rw [isKept, ofPiece?_utf8, if_pos hskip] at hkept
      cases hkept
    obtain ⟨hempty, hdot⟩ := not_or.1 hskipped
    exact ⟨hempty, hdot, hdots⟩
  · intro h
    refine ⟨?_, fun hup => h.2.2 (utf8_inj.1 hup), fun hmem => ?_⟩
    · rw [isKept, ofPiece?_of_ne h]
      rfl
    · exact hslash (mem_encodeChars_of_lt (by decide) hmem)

namespace HasParts

/-- All parts of a name are names of their own exactly if the last one is. -/
theorem forall_isName_iff (h : HasParts name front last) :
    (∀ piece ∈ (ofString name).pieces, FilePath.IsName piece) ↔
      last ≠ "" ∧ last ≠ "." ∧ last ≠ ".." := by
  have hslash := h.slash_not_mem
  rw [h.pieces.2, List.forall_mem_map, List.forall_mem_append, List.forall_mem_singleton,
    isName_utf8_iff (hslash _ (List.mem_append_right _ (List.mem_singleton_self _)))]
  refine and_iff_right fun part hpart => ?_
  exact (isName_utf8_iff (hslash part (List.mem_append_left _ hpart))).2 (h.ne_of_mem_front hpart)

/-- What a name adds to the directory of all packages: the names in front of its last part, and
what the last part means. -/
theorem components_installDir (h : HasParts name front last) (dir : FilePath) :
    (Package.installDir name dir).components = (dir.join packagesName).components ++
      ((front.map fun part => .normal (utf8 part)) ++ (Component.ofPiece? (utf8 last)).toList) := by
  obtain ⟨habs, hpieces⟩ := h.pieces
  have hdot : (ofString name).pieces.head? ≠ some dot := by
    rw [hpieces, List.head?_map]
    intro hhead
    obtain ⟨part, hpart, hpart'⟩ := Option.map_eq_some_iff.1 hhead
    exact (h.ne_of_head? hpart).1 (utf8_inj.1 hpart')
  have hname : (ofString name).components =
      (ofString name).pieces.filterMap Component.ofPiece? := by
    simp [components, habs, hdot]
  have hfront : (front.map utf8).filterMap Component.ofPiece? =
      front.map fun part => .normal (utf8 part) := by
    rw [List.filterMap_map, ← List.filterMap_eq_map]
    exact List.filterMap_congr fun part hpart => ofPiece?_of_ne (h.ne_of_mem_front hpart)
  have hlast : ([last].map utf8).filterMap Component.ofPiece? =
      (Component.ofPiece? (utf8 last)).toList := by
    cases hpiece : Component.ofPiece? (utf8 last) with
    | none => exact List.filterMap_cons_none hpiece
    | some c => exact List.filterMap_cons_some hpiece
  rw [Package.installDir, joinText, components_join _ habs hdot, hname, hpieces, List.map_append,
    List.filterMap_append, hfront, hlast]

/-- The directory of a package lies below that of all packages exactly if its name adds something
to it and does not lead up again. -/
theorem strictlyBelow_installDir_iff (h : HasParts name front last) (dir : FilePath) :
    (Package.installDir name dir).StrictlyBelow (dir.join packagesName) ↔
      name ≠ "" ∧ last ≠ ".." := by
  rw [strictlyBelow_iff (h.components_installDir dir)]
  constructor
  · rintro ⟨hne, hall⟩
    constructor
    · intro hempty
      obtain ⟨rfl, rfl⟩ := h.name_eq_empty_iff.1 hempty
      exact hne rfl
    · rintro rfl
      obtain ⟨name, hname⟩ := hall .parent (List.mem_append_right _ (List.mem_singleton_self _))
      cases hname
  · rintro ⟨hname, hup⟩
    have hpiece := ofPiece?_utf8 last
    rw [if_neg hup] at hpiece
    constructor
    · intro hnil
      obtain ⟨hfront, hlast⟩ := List.append_eq_nil_iff.1 hnil
      obtain rfl := List.map_eq_nil_iff.1 hfront
      have hdot : last ≠ "." := (h.ne_of_head? rfl).1
      have hempty : last ≠ "" := fun hempty => hname (h.name_eq_empty_iff.2 ⟨rfl, hempty⟩)
      rw [if_neg (not_or.2 ⟨hempty, hdot⟩)] at hpiece
      rw [hpiece] at hlast
      cases hlast
    · intro c hc
      rcases List.mem_append.1 hc with hc | hc
      · obtain ⟨part, -, rfl⟩ := List.mem_map.1 hc
        exact ⟨_, rfl⟩
      · rw [Option.mem_toList, hpiece] at hc
        split at hc
        · cases hc
        · exact ⟨_, (Option.some.inj hc).symm⟩

/-- Otherwise it is that directory, once `..` has taken back the scope. -/
theorem normalNames_installDir (h : HasParts name front last) (dir : FilePath)
    (hnot : ¬ (name ≠ "" ∧ last ≠ "..")) :
    (Package.installDir name dir).normalNames = (dir.join packagesName).normalNames := by
  rw [normalNames_of_components (h.components_installDir dir)]
  by_cases hempty : name = ""
  · obtain ⟨rfl, rfl⟩ := h.name_eq_empty_iff.1 hempty
    rfl
  · obtain rfl : last = ".." := Classical.not_not.1 fun hup => hnot ⟨hempty, hup⟩
    cases h with
    | alone _ hdot => exact absurd rfl hdot
    | inScope => exact List.dropLast_concat

end HasParts

end PackageSpecifier

/-! ## The package of a bare specifier -/

namespace Package

variable {fs : FileSystem} {parts : PackageSpecifier} {parent : Url} {conditions : ConditionSet}
  {store : Store} {place : FilePath} {manifest : Option Manifest}

theorem exists_installDir_of_installed? {name : String} {dir found : FilePath}
    (h : installed? fs name dir = some found) :
    fs.isDir found = true ∧ ∃ ancestor ∈ dir.ancestors, found = installDir name ancestor := by
  have hdir := List.find?_some h
  obtain ⟨ancestor, hancestor, hfound⟩ := List.mem_map.1 (List.mem_of_find?_eq_some h)
  exact ⟨hdir, ancestor, hancestor, hfound.symm⟩

/-- The package that answers is the scope of the module, which is no directory of all packages, or
stands where one of the name is installed. -/
theorem AnsweredBy.place_cases (h : AnsweredBy fs store parts parent conditions place manifest) :
    ∃ dir, parent.dirPath? = some dir ∧
      ((Store.scope? fs store dir = some place ∧ place.fileName? ≠ some packagesName.bytes) ∨
        fs.isDir place = true ∧
          ∃ ancestor ∈ dir.ancestors, place = installDir parts.name ancestor) := by
  cases h with
  | own hdir hscope =>
      have hisScope := Store.scope?_eq_some_iff.1 hscope
      exact ⟨_, hdir, Or.inl ⟨hscope, hisScope.inside _ hisScope.ascends .refl⟩⟩
  | installed hdir hfound => exact ⟨_, hdir, Or.inr (exists_installDir_of_installed? hfound)⟩

/-- Every name that is accepted has one part, or a scope and one part behind it. All parts are
names of their own exactly if the last one is neither empty nor a dot nor two, and the name is empty
exactly if nothing or a slash opens the specifier. For every directory the place of the package
lies strictly below the directory of all packages exactly if the name is not empty and its last part
is not `..`, and otherwise it is that directory itself once `..` has taken back the scope. A file
that a specifier stands for is the answer of one package: of the scope of the module, which is no
directory of all packages, or of one that stands in such a place on the way up from the module. -/
theorem place_strictlyBelow_iff {specifier : String}
    (h : PackageSpecifier.parse specifier = .ok parts) :
    ∃ front last, PackageSpecifier.HasParts parts.name front last ∧
      ((∀ piece ∈ (ofString parts.name).pieces, FilePath.IsName piece) ↔
        last ≠ "" ∧ last ≠ "." ∧ last ≠ "..") ∧
      (parts.name = "" ↔ specifier = "" ∨ specifier.toList.head? = some '/') ∧
      (∀ dir : FilePath,
        ((installDir parts.name dir).StrictlyBelow (dir.join packagesName) ↔
          parts.name ≠ "" ∧ last ≠ "..") ∧
        (¬ (parts.name ≠ "" ∧ last ≠ "..") →
          (installDir parts.name dir).normalNames = (dir.join packagesName).normalNames)) ∧
      ∀ fs platform parent conditions store u,
        ((resolveBare fs platform specifier parent conditions).run.run store).1 = .ok u →
        u.isFile = true →
        ∃ place manifest, AnsweredBy fs store parts parent conditions place manifest ∧
          IsAnswer place manifest parts.subpath conditions u ∧
          ∃ dir, parent.dirPath? = some dir ∧
            ((Store.scope? fs store dir = some place ∧
                place.fileName? ≠ some packagesName.bytes) ∨
              fs.isDir place = true ∧
                ∃ ancestor ∈ dir.ancestors, place = installDir parts.name ancestor) := by
  obtain ⟨rest, hsplits⟩ := PackageSpecifier.parse_eq_ok_iff_splits.1 h
  obtain ⟨front, last, hparts⟩ := hsplits.exists_hasParts
  refine ⟨front, last, hparts, hparts.forall_isName_iff, hsplits.name_eq_empty_iff,
    fun dir => ⟨hparts.strictlyBelow_installDir_iff dir, hparts.normalNames_installDir dir⟩, ?_⟩
  intro fs platform parent conditions store u hresolve hfile
  obtain ⟨-, parts', hparse, place, manifest, hpackage, hanswer⟩ :=
    exists_answeredBy_of_resolveBare hresolve hfile
  obtain rfl := Except.ok.inj (hparse.symm.trans h)
  exact ⟨place, manifest, hpackage, hanswer, hpackage.place_cases⟩

/-- A project with a package in a scope, and with a manifest in the directory of all packages. -/
def scopedProject : Tree :=
  let file (text : String) : Tree.Node := .file { content := .ok (utf8 text) }
  ⟨[([utf8 "p"], .directory),
    ([utf8 "p", utf8 "node_modules"], .directory),
    ([utf8 "p", utf8 "node_modules", utf8 "package.json"],
      file "\x7b\"main\":\"./inner.js\"\x7d"),
    ([utf8 "p", utf8 "node_modules", utf8 "inner.js"], file ""),
    ([utf8 "p", utf8 "node_modules", utf8 "@s"], .directory),
    ([utf8 "p", utf8 "node_modules", utf8 "@s", utf8 "x"], .directory)]⟩

/-- What a bare specifier stands for in a module of the project. -/
def resolveScoped (specifier : String) : Except ResolveError Url :=
  ((resolveBare scopedProject.fileSystem .node specifier (Target.fileUrl ["p", "m.js"])
    (.ofList [])).run.run {}).1

/-- A package in a scope is found strictly below the directory of all packages. -/
theorem place_strictlyBelow_iff_of_scope :
    let u := Target.fileUrl ["p", "node_modules", "@s", "x", "a.js"]
    PackageSpecifier.parse "@s/x/a.js" = .ok ⟨"@s/x", "./a.js"⟩ ∧
      resolveScoped "@s/x/a.js" = .ok u ∧
      ∃ ancestor : FilePath,
        (installDir "@s/x" ancestor).StrictlyBelow (ancestor.join packagesName) ∧
        scopedProject.fileSystem.isDir (installDir "@s/x" ancestor) = true := by
  intro u
  have hparse : PackageSpecifier.parse "@s/x/a.js" = .ok ⟨"@s/x", "./a.js"⟩ := by decide +kernel
  have hresolve : resolveScoped "@s/x/a.js" = .ok u := by decide +kernel
  have hdir : (Target.fileUrl ["p", "m.js"]).dirPath? = some (.ofString "/p") := by decide +kernel
  have hscope : Store.scope? scopedProject.fileSystem {} (.ofString "/p") = none := by
    decide +kernel
  have hpieces : (ofString "@s/x").pieces = [utf8 "@s", utf8 "x"] := by decide +kernel
  have hnames : ∀ piece ∈ (ofString "@s/x").pieces, FilePath.IsName piece := by
    rw [hpieces, List.forall_mem_cons, List.forall_mem_singleton]
    exact ⟨⟨by decide, by decide, by decide⟩, ⟨by decide, by decide, by decide⟩⟩
  obtain ⟨front, last, -, hlast, -, hbelow, hanswer⟩ := place_strictlyBelow_iff hparse
  obtain ⟨place, manifest, -, -, dir, hdir', hplace⟩ := hanswer _ _ _ _ _ u hresolve rfl
  obtain rfl := Option.some.inj (hdir.symm.trans hdir')
  rcases hplace with ⟨hscope', -⟩ | ⟨hisDir, ancestor, -, rfl⟩
  · rw [hscope] at hscope'
    cases hscope'
  · have hup : last ≠ ".." := (hlast.1 hnames).2.2
    exact ⟨hparse, hresolve, ancestor, (hbelow ancestor).1.2 ⟨by decide, hup⟩, hisDir⟩

/-- A name whose last part leads up is accepted, and the directory of all packages is entered as
the package of that name. -/
theorem not_strictlyBelow_of_up :
    let resolver : Resolver :=
      { fs := scopedProject.fileSystem, platform := .node, conditions := .ofList [],
        cwd := .ofString "/p" }
    let found := installDir "@s/.." (.ofString "/p")
    PackageSpecifier.parse "@s/.." = .ok ⟨"@s/..", "."⟩ ∧
      installed? resolver.fs "@s/.." (.ofString "/p") = some found ∧
      resolver.fs.canonicalize found = .ok (.ofString "/p/node_modules") ∧
      ((resolver.resolveWith "@s/.." (Target.fileUrl ["p", "m.js"]) (.ofList [])).run.run {}).1 =
        .ok ⟨Target.fileUrl ["p", "node_modules", "inner.js"], .commonJs⟩ ∧
      ¬ found.StrictlyBelow ((FilePath.ofString "/p").join packagesName) := by
  intro resolver found
  have hscope : '/' ∉ ("s" : String).toList := by decide
  have hlast : '/' ∉ (".." : String).toList := by decide
  have hparts : PackageSpecifier.HasParts "@s/.." ["@s"] ".." := .inScope hscope hlast
  refine ⟨by decide +kernel, by decide +kernel, by decide +kernel, by decide +kernel, ?_⟩
  intro hbelow
  exact ((hparts.strictlyBelow_installDir_iff _).1 hbelow).2 rfl

end Package

end ModuleGraph
