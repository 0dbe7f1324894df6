import ModuleGraph.Proofs.FileSystem.Names
import ModuleGraph.Proofs.Graph.Confluence
import ModuleGraph.Proofs.Resolve.Results

/-!
# Identities are coherent

A module is known by its path if it is a file and by its URL if not, and a node of the graph holds
its format as well. Both the path of a file and the URL of what is none tell the format: the
path because the file has been given its canonical location, the URL because it is legible. So
however two imports lead to one identity, they lead to one node.
-/

set_option autoImplicit false

namespace ModuleGraph

open Text

/-! ## Files and their formats -/

/-- The query and the fragment have no part in the format of a file. -/
theorem Format.classify_file (fs : FileSystem) {u : Url} (hu : u.isFile = true)
    (query fragment : Option String) :
    Format.classify fs { u with query, fragment } = Format.classify fs u := by
  unfold Format.classify
  have hu' : Url.isFile { u with query, fragment } = true := hu
  rw [if_pos hu, if_pos hu']
  rfl

/-! ## Nodes -/

/-- The nodes that imports lead to: files at the location of a canonical path with the format that
the file system gives them, and legible locations that are no files with the format of their
scheme. -/
inductive ModuleRef.Known (fs : FileSystem) : ModuleRef → Prop
  | file {s : String} {u : Url} {path : FilePath} {format : Format} :
      Url.ofFilePath? (.ofString s) = some u → u.toFilePath? = some path →
      ((Format.classify fs u).run.run {}).1 = .ok format →
      Known fs { id := path.display, format, isExternal := false }
  | external {u : Url} : u.Regular →
      Known fs { id := u.href, format := .ofScheme u, isExternal := true }

/-- The path of a file is shown with a slash first. -/
theorem Url.display_of_ofFilePath? {p q : FilePath} {u : Url} (hu : ofFilePath? p = some u)
    (hq : u.toFilePath? = some q) : ∃ cs, q.display.toList = '/' :: cs := by
  obtain ⟨q', hq', hbytes⟩ := exists_toFilePath? (isAbsolute_of_ofFilePath? hu) hu
  obtain rfl : q' = q := Option.some.inj (hq'.symm.trans hq)
  have hslash (bs : Bytes) : ∃ cs, (lossy (FilePath.separator :: bs)).toList = '/' :: cs := by
    have hhead : decodeHead FilePath.separator bs = (some '/', bs) := rfl
    rw [lossy, decodeUnits, hhead, String.toList_ofList]
    exact ⟨_, rfl⟩
  unfold FilePath.display
  rcases hbytes with hbytes | hbytes
  · rw [hbytes]
    exact hslash _
  · rw [hbytes]
    exact hslash _

/-- A file stands for its path, whatever is asked of it. -/
theorem ModuleRef.ofResolved_file {u : Url} {path : FilePath} (hu : u.isFile = true)
    (hpath : u.toFilePath? = some path) (query fragment : Option String) (format : Format) :
    ofResolved ⟨{ u with query, fragment }, format⟩ =
      { id := path.display, format, isExternal := false } := by
  have hpath' : Url.toFilePath? { u with query, fragment } = some path := hpath
  unfold ofResolved
  rw [hpath']
  exact if_pos hu

/-- What is no file stands for its URL. -/
theorem ModuleRef.ofResolved_external {u : Url} (hu : u.isFile = false) (format : Format) :
    ofResolved ⟨u, format⟩ = { id := u.href, format, isExternal := true } := by
  unfold ofResolved
  dsimp only
  rw [hu]
  cases u.toFilePath? with
  | none => rfl
  | some path => rfl

/-- The text of a regular location does not start with a slash. -/
theorem Url.Regular.href_ne {u : Url} (h : u.Regular) (cs : List Char) :
    u.href.toList ≠ '/' :: cs := by
  rw [href_toList]
  intro heq
  cases hscheme : u.scheme.toList with
  | nil =>
      rw [hscheme, List.nil_append] at heq
      cases (List.cons.inj heq).1
  | cons c rest =>
      rw [hscheme, List.cons_append] at heq
      exact (h.scheme c (hscheme ▸ List.mem_cons_self)).2 (List.cons.inj heq).1

namespace ModuleRef.Known

variable {fs : FileSystem} {a b : ModuleRef}

/-- Of the nodes that imports lead to there is one for each identity. -/
theorem eq_of_id_eq (ha : a.Known fs) (hb : b.Known fs) (hid : a.id = b.id) : a = b := by
  cases ha with
  | @file s u p format hu hp hformat =>
      cases hb with
      | @file t v q format' hv hq hformat' =>
          have hdisplay : p.display = q.display := hid
          -- paths that are text are told apart by how they are shown
          obtain rfl := Url.ofFilePath?_eq_of_display_eq hu hv hp hq hdisplay
          obtain rfl : format = format' := Except.ok.inj (hformat.symm.trans hformat')
          rw [hdisplay]
      | @external v hv =>
          obtain ⟨cs, hcs⟩ := Url.display_of_ofFilePath? hu hp
          have hhref : v.href = p.display := hid.symm
          exact absurd (hhref ▸ hcs) (hv.href_ne cs)
  | @external u hu =>
      cases hb with
      | @file t v q format' hv hq hformat' =>
          obtain ⟨cs, hcs⟩ := Url.display_of_ofFilePath? hv hq
          have hhref : u.href = q.display := hid
          exact absurd (hhref ▸ hcs) (hu.href_ne cs)
      | @external v hv =>
          have hhref : u.href = v.href := hid
          rw [hu.ofScheme_eq hv hhref, hhref]

/-- A location that has been checked stands for a known node. -/
theorem of_finalize {r : Resolver} (hnames : r.fs.NamesAreText) {location : Url}
    (hlegible : location.Legible) {resolved : Resolved}
    (h : ((r.finalize location).run.run {}).1 = .ok resolved) :
    (ModuleRef.ofResolved resolved).Known r.fs := by
  simp only [Resolver.finalize] at h
  cases hfile : location.isFile with
  | true =>
      rw [hfile, if_pos rfl] at h
      obtain ⟨u, hu, h⟩ := Resolution.exists_of_bind h
      obtain ⟨format, hformat, h⟩ := Resolution.exists_of_bind h
      obtain rfl : (⟨u, format⟩ : Resolved) = resolved := Except.ok.inj h
      obtain ⟨_, real, v, -, -, -, hreal, hv, rfl⟩ := Resolver.exists_of_canonicalFile hu
      obtain ⟨s, rfl⟩ := hnames _ _ hreal
      obtain ⟨path, hpath, -⟩ := Url.exists_toFilePath? (Url.isAbsolute_of_ofFilePath? hv) hv
      have hvfile := Url.isFile_ofFilePath? hv
      rw [Format.classify_file _ hvfile] at hformat
      rw [ofResolved_file hvfile hpath]
      exact .file hv hpath hformat
  | false =>
      have hregular : location.Regular :=
        hlegible.resolve_left (by rw [hfile]; exact Bool.false_ne_true)
      rw [hfile, if_neg Bool.false_ne_true, pure_bind] at h
      obtain ⟨format, hformat, h⟩ := Resolution.exists_of_bind h
      obtain rfl : (⟨location, format⟩ : Resolved) = resolved := Except.ok.inj h
      have hscheme : format = .ofScheme location := by
        unfold Format.classify at hformat
        rw [hfile, if_neg Bool.false_ne_true] at hformat
        exact (Except.ok.inj hformat).symm
      rw [ofResolved_external hfile, hscheme]
      exact .external hregular

/-- Whoever asks, a specifier leads to a known node. -/
theorem of_resolvePath {r : Resolver} (hfs : r.fs.IgnoresSpelling) (hnames : r.fs.NamesAreText)
    {store : Store} (hstore : store.Reflects r.fs) {specifier : String}
    {importer : Option FilePath} {resolved : Resolved}
    (h : ((r.resolvePath specifier importer).run.run store).1 = .ok resolved) :
    (ModuleRef.ofResolved resolved).Known r.fs := by
  unfold Resolver.resolvePath at h
  split at h
  · next parent hparent =>
      obtain ⟨location, hlocation, hfinal⟩ := Resolution.exists_of_bind h
      have hfile : parent.isFile = true := by
        cases importer with
        | some path => exact Url.isFile_ofFilePath? hparent
        | none => exact Url.isFile_ofDirPath? hparent
      -- what the search for the location has read is of no account to its format
      have hcouples := Store.couples_reflects hfs
      have hempty : Store.Reflects r.fs {} := Store.reflects_empty
      obtain ⟨-, hread, -⟩ := Resolver.coupled_locate hcouples specifier parent r.conditions
        ⟨hstore, hempty⟩
      obtain ⟨hsame, -⟩ := Resolver.coupled_finalize hcouples location ⟨hread, hempty⟩
      rw [hsame.eq] at hfinal
      have hlegible := Resolver.yields_locate Url.ofReading_legible
        (Url.legible_of_join? hfile) specifier r.conditions _ _ hlocation
      exact of_finalize hnames hlegible hfinal
  · cases h

theorem of_follow {ctx : LoadContext} (hfs : ctx.resolver.fs.IgnoresSpelling)
    (hnames : ctx.resolver.fs.NamesAreText) {specifier : String} {importer : ModuleId}
    {ref : ModuleRef} (h : ctx.follow specifier importer = .ok ref) :
    ref.Known ctx.resolver.fs := by
  obtain ⟨resolved, hresolved, h⟩ := Resolution.exists_of_bind h
  obtain rfl : ModuleRef.ofResolved resolved = ref := Except.ok.inj h
  exact of_resolvePath hfs hnames Store.reflects_empty hresolved

/-- So does an entry, in either reading of its name. -/
theorem of_resolveEntry {r : Resolver} (hfs : r.fs.IgnoresSpelling) (hnames : r.fs.NamesAreText)
    {specifier : String} {ref : ModuleRef}
    (h : ((r.resolveEntry specifier).run.run {}).1 = .ok ref) : ref.Known r.fs := by
  have hempty : Store.Reflects r.fs {} := Store.reflects_empty
  obtain ⟨outcome, hfirst, h⟩ := Resolution.exists_of_bind h
  have houtcome : ((r.resolvePath specifier none).run.run {}).1 = outcome := Except.ok.inj hfirst
  cases outcome with
  | ok resolved =>
      obtain rfl : ModuleRef.ofResolved resolved = ref := Except.ok.inj h
      exact of_resolvePath hfs hnames hempty houtcome
  | error e =>
      obtain ⟨-, hread, -⟩ := Resolver.coupled_resolvePath (Store.couples_reflects hfs) specifier
        none ⟨hempty, hempty⟩
      dsimp only at h
      split at h
      · obtain ⟨second, hsecond, h⟩ := Resolution.exists_of_bind h
        have hsecond' := Except.ok.inj hsecond
        cases second with
        | ok resolved =>
            obtain rfl : ModuleRef.ofResolved resolved = ref := Except.ok.inj h
            exact of_resolvePath hfs hnames hread hsecond'
        | error e' => cases h
      · cases h

end ModuleRef.Known

/-- Where paths are known by their components and file names are text, identities are coherent. -/
theorem LoadContext.coherent {ctx : LoadContext} (hfs : ctx.resolver.fs.IgnoresSpelling)
    (hnames : ctx.resolver.fs.NamesAreText) : ctx.Coherent := by
  intro specifier specifier' importer importer' a b ha hb hid
  exact (ModuleRef.Known.of_follow hfs hnames ha).eq_of_id_eq
    (ModuleRef.Known.of_follow hfs hnames hb) hid

/-! ## Two runs -/

/-- However the tasks of two scans of the same entries report and their messages are filed: when
both have come to their ends, both fail, or both answer graphs that are the same but for the
numbering of modules and the order of importers and warnings. -/
theorem Progress.Run.outcomes_agree {ctx : LoadContext}
    (hfs : ctx.resolver.fs.IgnoresSpelling) (hnames : ctx.resolver.fs.NamesAreText)
    {entries : List (Option String × ModuleRef)} {store store' : Store}
    (hstore : store.Reflects ctx.resolver.fs) (hstore' : store'.Reflects ctx.resolver.fs)
    {p p' : Progress} (hrun : Run ctx entries store p) (hrun' : Run ctx entries store' p')
    (hcomplete : p.Complete) (hcomplete' : p'.Complete) :
    ∃ o o', p.outcome? entries = some o ∧ p'.outcome? entries = some o' ∧
      Scan.OutcomesAgree o o' :=
  hrun.agree_of_coherent (LoadContext.coherent hfs hnames) hfs hstore hstore' hrun' hcomplete
    hcomplete'

/-- A module that imports two others, each of which imports a module of the platform. -/
def LoadContext.ofFork : LoadContext :=
  let tree : Tree :=
    ⟨[([utf8 "a.mjs"], .file { content := .ok (utf8 "import './b.mjs'; import './c.mjs'") }),
      ([utf8 "b.mjs"], .file { content := .ok (utf8 "import 'node:fs'") }),
      ([utf8 "c.mjs"], .file { content := .ok (utf8 "import 'node:path'") })]⟩
  { resolver :=
      { fs := tree.fileSystem, platform := .node, conditions := .ofList [], cwd := .ofString "/" }
    summarize := Script.Summary.ofSource? }

/-- The identities in the order of the table, if a scan has come to its end. -/
def Progress.ids? (p : Progress) (entries : List (Option String × ModuleRef)) :
    Option (List ModuleId) :=
  match p.outcome? entries with
  | some (.ok g) => some (g.modules.map Module.id)
  | _ => none

/-- The two branches may be loaded in either order. The tables then differ in the places of what
they import. -/
theorem Progress.Run.outcomes_agree_ofFork :
    let entries := [(none, ⟨"/a.mjs", .module, false⟩)]
    let p := [0, 0, 0].foldl (Progress.pick .ofFork) (Progress.start entries {})
    let p' := [0, 1, 0].foldl (Progress.pick .ofFork) (Progress.start entries {})
    p.ids? entries = some ["/a.mjs", "/b.mjs", "/c.mjs", "node:fs", "node:path"] ∧
      p'.ids? entries = some ["/a.mjs", "/b.mjs", "/c.mjs", "node:path", "node:fs"] ∧
      ∃ o o', p.outcome? entries = some o ∧ p'.outcome? entries = some o' ∧
        Scan.OutcomesAgree o o' := by
  have hnames : LoadContext.ofFork.resolver.fs.NamesAreText := by
    refine Tree.fileSystem_namesAreText ⟨fun place hplace name hname => ?_,
      fun place hplace content q hnode => ?_⟩
    · simp only [List.mem_cons, List.not_mem_nil, or_false] at hplace
      rcases hplace with rfl | rfl | rfl
      all_goals exact List.mem_singleton.1 hname ▸ isText_utf8 _
    · simp only [List.mem_cons, List.not_mem_nil, or_false] at hplace
      rcases hplace with rfl | rfl | rfl
      all_goals cases hnode
  refine ⟨by decide +kernel, by decide +kernel, ?_⟩
  exact outcomes_agree (Tree.fileSystem_ignoresSpelling _) hnames Store.reflects_empty
    Store.reflects_empty (.ofPicks _ _ _ _) (.ofPicks _ _ _ _) (by decide +kernel)
    (by decide +kernel)

end ModuleGraph
