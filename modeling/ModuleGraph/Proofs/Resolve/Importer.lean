import ModuleGraph.Proofs.Graph.Identity
import ModuleGraph.Proofs.Resolve.Fixpoint
import ModuleGraph.Proofs.Url.PathForm

/-!
# Importers as they are spelled

A user may ask what a specifier leads to from an entry, and a scan asks the same from the module
that the entry is known as. The first importer is spelled as the working directory and the entry
are, the second one is the path of a file. What a specifier leads to depends on the names of its
importer alone, so the two agree where no `..` is spelled. Where one is, a specifier that climbs to
the root tells them apart: of the spelling it takes back the last name whatever that is, so that it
does not come as far up.
-/

set_option autoImplicit false

namespace ModuleGraph

open Text FilePath
open Target (fileUrl)

theorem FilePath.isName_of_mem_names {p : FilePath} (hup : dotDot ∉ p.names) {name : Bytes}
    (h : name ∈ p.names) : IsName name :=
  ⟨isKept_of_mem_names _ h, fun heq => hup (heq ▸ h), Url.separator_not_mem_names h⟩

theorem FilePath.normalNames_eq_names {p : FilePath} (hp : p.isAbsolute = true)
    (hup : dotDot ∉ p.names) : p.normalNames = p.names :=
  normalNames_of_not_up hp fun hmem => hup (List.mem_filter.2 ⟨hmem, by decide⟩)

/-- A file at a plain path of text is known by a path with the same names. -/
theorem ModuleRef.names_ofResolved {found : Resolved} {names : List Bytes}
    (h : found.location.IsPlainFile names) (htext : ∀ name ∈ names, IsText name) :
    (FilePath.ofString (ofResolved found).id).isAbsolute = true ∧
      (FilePath.ofString (ofResolved found).id).names = names := by
  obtain ⟨text, hofString⟩ := exists_ofString htext
  have hlocation := Url.ofFilePath?_ofPieces h.isName
  have hbare : Url.IsPlainFile { scheme := "file", authority := some Url.localFile
                                 path := .segments (Url.plainSegments names) } names :=
    ⟨h.isName, rfl, rfl, rfl, .of_none ⟨rfl, rfl⟩⟩
  rw [hofString] at hlocation
  obtain ⟨hshown, habs, hnames⟩ := Url.spelled_of_toFilePath? hlocation hbare.toFilePath?_eq
  have hself : ofResolved found = _ := ofResolved_file (decide_eq_true h.scheme) h.toFilePath?_eq
    found.location.query found.location.fragment found.format
  rw [hself, hshown]
  exact ⟨habs, by rw [hnames, ← hofString, Url.names_ofPieces h.isName]⟩

namespace Resolver

variable {r : Resolver}

/-! ## Importers -/

/-- Importers that are spelled with the same names are the same module. -/
theorem resolvePath_eq_of_names {p q : FilePath} (hp : p.isAbsolute = true)
    (hq : q.isAbsolute = true) (h : p.names = q.names) (specifier : String) :
    r.resolvePath specifier (some p) = r.resolvePath specifier (some q) := by
  unfold resolvePath parentUrl?
  dsimp only
  rw [Url.ofFilePath?_eq hp, Url.ofFilePath?_eq hq, h]

/-- A path is followed from the importer, and what it leads to is checked. -/
theorem resolvePath_of_join? {specifier : String} {importer : Option FilePath}
    {parent location : Url} (hparent : r.parentUrl? importer = some parent)
    (hkind : SpecifierKind.of specifier = .path) (hjoin : parent.join? specifier = some location) :
    r.resolvePath specifier importer = r.finalize location := by
  unfold resolvePath resolve resolveWith locate
  rw [hparent, hkind]
  dsimp only
  rw [hjoin]
  rfl

/-! ## Entries -/

/-- Where an entry in the form of a path leads to: a file, at the location of a canonical path and
known by that path. -/
structure Enters (r : Resolver) (store : Store) (target : ModuleRef) (names : List Bytes)
    (found : Resolved) : Prop where
  plain : found.location.IsPlainFile names
  query : found.location.query = none
  fragment : found.location.fragment = none
  canonical : r.fs.canonicalize (ofPieces true names) = .ok (ofPieces true names)
  isDir : r.fs.isDir (ofPieces true names) = false
  isPresent : r.fs.isPresent (ofPieces true names) = true
  format : ((Format.classify r.fs found.location).run.run store).1 = .ok found.format
  isAbsolute : (FilePath.ofString target.id).isAbsolute = true
  names_id : (FilePath.ofString target.id).names = names

theorem exists_of_resolveEntry {entry : String} (hentry : Url.IsPathForm entry) {store : Store}
    {target : ModuleRef} (hrun : ((r.resolveEntry entry).run.run store).1 = .ok target) :
    ∃ found, ((r.resolvePath entry none).run.run store).1 = .ok found ∧
      target = ModuleRef.ofResolved found := by
  obtain ⟨outcome, hfirst, hrun⟩ := Resolution.exists_of_bind hrun
  have houtcome : ((r.resolvePath entry none).run.run store).1 = outcome := Except.ok.inj hfirst
  cases outcome with
  | ok found => exact ⟨found, houtcome, (Except.ok.inj hrun).symm⟩
  | error e =>
      dsimp only at hrun
      rw [hentry.specifierKind, if_neg (by decide)] at hrun
      cases hrun

section Entry

variable {dir : String} (hdir : r.cwd = .ofString dir) (habs : r.cwd.isAbsolute = true)
  (hup : dotDot ∉ r.cwd.names)
include hdir habs hup

theorem isTextPiece_of_cwd : ∀ seg ∈ Url.segmentsOfNames r.cwd.names,
    Url.IsTextPiece (Url.octets seg) := by
  have htext : ∀ name ∈ r.cwd.names, IsText name := by
    rw [hdir] at habs ⊢
    exact Url.isText_names habs
  intro seg hseg
  have hmem := Url.octets_mem_of_segmentsOfNames isKept_of_mem_names hseg
  have hname := isName_of_mem_names hup hmem
  exact ⟨hname.whole, htext _ hmem, hname.notUp⟩

/-- An entry is followed from the working directory as a reference, to the location of a path of
text without `..`. -/
theorem exists_path_of_entry {entry : String} (hentry : Url.IsPathForm entry) :
    ∃ location path, r.resolvePath entry none = r.finalize location ∧
      (location.isFile = true ∧ location.query = none ∧ location.fragment = none) ∧
      location.toFilePath? = some path ∧ path.isAbsolute = true ∧
      path.names = Url.namesOfSegments
        ((Url.segmentsOf entry).foldl Url.stepFrom (Url.segmentsOfNames r.cwd.names)) ∧
      ∀ name ∈ path.names, Url.IsTextPiece name := by
  obtain ⟨parent, hparent⟩ : ∃ parent, r.parentUrl? none = some parent := by
    show ∃ parent, Url.ofDirPath? r.cwd = some parent
    rw [Url.ofDirPath?, Url.ofFilePath?_eq habs]
    exact ⟨_, rfl⟩
  obtain ⟨location, hjoin, hlocal, hfile, hsegments, hparts⟩ :=
    hentry.exists_join? (Url.isDirectory_of_ofDirPath? hparent)
  have hpieces := Url.isTextPiece_of_destination (isTextPiece_of_cwd hdir habs hup)
    hentry.plain_segmentsOf Url.slash_not_mem_segmentsOf
  obtain ⟨path, hpath, hpathAbs, hnames⟩ := Url.exists_path_of_segments hsegments
    (Url.dropEmptyFront_ne_nil _) hlocal fun seg hseg => (hpieces seg hseg).whole
  refine ⟨location, path, resolvePath_of_join? hparent hentry.specifierKind hjoin,
    ⟨hfile, hparts⟩, hpath, hpathAbs, ?_, fun name hname => ?_⟩
  · rw [hnames, Url.destination, Url.namesOfSegments_dropEmptyFront, Url.namesOfSegments_followFrom]
  · rw [hnames] at hname
    obtain ⟨seg, hseg, rfl⟩ := List.mem_map.1 (List.mem_filter.1 hname).1
    exact hpieces seg hseg

/-- Without links, the names that an entry leads to are those of the file that it is known as. -/
theorem exists_enters (hfs : r.fs.LinkFree) {entry : String} (hentry : Url.IsPathForm entry)
    {store : Store} {target : ModuleRef}
    (hrun : ((r.resolveEntry entry).run.run store).1 = .ok target) :
    ∃ found, r.Enters store target (Url.namesOfSegments ((Url.segmentsOf entry).foldl Url.stepFrom
      (Url.segmentsOfNames r.cwd.names))) found := by
  obtain ⟨found, hfound, rfl⟩ := exists_of_resolveEntry hentry hrun
  obtain ⟨location, path, hresolve, ⟨hfile, hquery, hfragment⟩, hpath, hpathAbs, hnames, hpieces⟩ :=
    exists_path_of_entry hdir habs hup hentry
  rw [← hnames]
  rw [hresolve] at hfound
  obtain ⟨hcanonical, hformat⟩ := (run_finalize_eq_ok_iff hfile).1 (Prod.ext hfound rfl)
  obtain ⟨path', real, v, hpath', hisDir, hpresent, hreal, hv, hlocation⟩ :=
    exists_of_canonicalFile hcanonical
  obtain rfl := Option.some.inj (hpath.symm.trans hpath')
  have hpathUp : dotDot ∉ path.names := fun hmem => (hpieces _ hmem).notUp rfl
  have hisName : ∀ name ∈ path.names, IsName name := fun name h => isName_of_mem_names hpathUp h
  obtain rfl := hfs.normal hreal
  rw [normalNames_eq_names hpathAbs hpathUp] at hreal hv
  obtain rfl := Option.some.inj (hv.symm.trans (Url.ofFilePath?_ofPieces hisName))
  rw [hquery, hfragment] at hlocation
  have hplain : found.location.IsPlainFile path.names := by
    rw [hlocation]
    exact ⟨hisName, rfl, rfl, rfl, .of_none ⟨rfl, rfl⟩⟩
  obtain ⟨hidAbs, hidNames⟩ := ModuleRef.names_ofResolved hplain fun name h => (hpieces name h).text
  exact ⟨found, {
    plain := hplain
    query := hlocation ▸ rfl
    fragment := hlocation ▸ rfl
    canonical := hfs.idempotent hreal
    isDir := (hfs.isDir hreal).trans hisDir
    isPresent := (hfs.isPresent hreal).trans hpresent
    format := congrArg Prod.fst hformat
    isAbsolute := hidAbs
    names_id := hidNames }⟩

end Entry

/-! ## Climbing from a file -/

/-- From a file a reference climbs through the directories that its path is spelled with. -/
theorem resolvePath_climbTo {p : FilePath} (hp : p.isAbsolute = true)
    (hplain : ∀ name ∈ p.names, Url.IsOrdinaryName name) (up : Nat) {names : List Bytes}
    (hne : names ≠ []) (hnames : ∀ name ∈ names, IsName name)
    (hordinary : ∀ name ∈ names, Url.IsOrdinaryName name) :
    r.resolvePath (Url.climbTo up names) (some p) = r.finalize
      { scheme := "file", authority := some Url.localFile
        path := .segments ((Url.segmentsOfNames p.names).dropLast.take (p.names.length - 1 - up) ++
          Url.segmentsOfNames names) } := by
  have hdrive := Url.isDrive_of_mem_segmentsOfNames isKept_of_mem_names hplain
  have hlength : (Url.segmentsOfNames p.names).length = p.names.length := by
    rw [← List.length_map (f := Url.octets), Url.map_octets_segmentsOfNames isKept_of_mem_names]
  obtain ⟨parent, hparent, hauthority, hstarts⟩ := Url.exists_startsAt hp hdrive
  have hjoin := Url.join?_climbTo hstarts
    (fun hmem => (Url.segment_of_mem (List.dropLast_subset _ hmem)).1 rfl)
    (fun seg hseg => hdrive seg (List.dropLast_subset _ hseg)) up hne hnames
    (fun name hname => Url.isDrive_nameText (hordinary name hname).noDrive)
  rw [List.length_dropLast, hlength, ← Url.segmentsOfNames_eq hnames, hauthority] at hjoin
  exact resolvePath_of_join? hparent (Url.specifierKind_climbTo up names) hjoin

/-- A plain path is checked in its place. -/
theorem isPlainFile_of_run_finalize (hfs : r.fs.LinkFree) {location : Url} {names : List Bytes}
    (hlocation : location.IsPlainFile names) {store : Store} {found : Resolved}
    (h : ((r.finalize location).run.run store).1 = .ok found) :
    found.location.IsPlainFile names := by
  have hfile : location.isFile = true := decide_eq_true hlocation.scheme
  obtain ⟨hcanonical, -⟩ := (run_finalize_eq_ok_iff hfile).1 (Prod.ext h rfl)
  obtain ⟨path, real, v, hpath, -, -, hreal, hv, hfound⟩ := exists_of_canonicalFile hcanonical
  obtain ⟨path', hpath', habs, hpathNames, -⟩ := hlocation.exists_toFilePath?
  obtain rfl := Option.some.inj (hpath.symm.trans hpath')
  have hup : dotDot ∉ path.names := fun hmem =>
    (hlocation.isName _ (hpathNames ▸ hmem)).notUp rfl
  obtain rfl := hfs.normal hreal
  rw [normalNames_eq_names habs hup, hpathNames, Url.ofFilePath?_ofPieces hlocation.isName] at hv
  obtain rfl := Option.some.inj hv
  rw [hfound]
  exact ⟨hlocation.isName, rfl, rfl, rfl, hlocation.parts.query, hlocation.parts.fragment⟩

/-- The file that an entry has led to is found in its place, whatever has been read since. -/
theorem run_finalize_of_enters (hfs : r.fs.LinkFree) (hspelling : r.fs.IgnoresSpelling)
    {store later : Store} (hstore : store.Reflects r.fs) (hlater : later.Reflects r.fs)
    {target : ModuleRef} {names : List Bytes} {found : Resolved}
    (h : r.Enters store target names found)
    (hordinary : ∀ name ∈ names, Url.IsOrdinaryName name) :
    ((r.finalize found.location).run.run later).1 = .ok found := by
  have hfile : found.location.isFile = true := decide_eq_true h.plain.scheme
  have hpath := h.plain.toFilePath?_eq
  rw [Url.endsLikeDrive_ofPieces hordinary, if_neg Bool.false_ne_true] at hpath
  have hcanonical : canonicalFile r.fs found.location = .ok found.location := by
    refine (canonicalFile_eq_self_iff hfs.toCanonicalizes h.plain h.canonical h.isDir h.isPresent
      hpath).2 ⟨fun name hname => ?_, fun hlast => ?_⟩
    · replace hname : name ∈ (ofPieces true names).names := hname
      rw [Url.names_ofPieces h.plain.isName] at hname
      exact (hordinary name hname).noBackslash
    · have hdirectory := hfs.slash hlast h.isPresent
      rw [h.isDir] at hdirectory
      cases hdirectory
  obtain ⟨hsame, -⟩ :=
    Format.coupled_classify (Store.couples_reflects hspelling) found.location ⟨hstore, hlater⟩
  have hformat : ((Format.classify r.fs found.location).run.run later).1 = .ok found.format := by
    rw [← hsame.eq, h.format]
  exact congrArg Prod.fst ((run_finalize_eq_ok_iff hfile).2 ⟨hcanonical, Prod.ext hformat rfl⟩)

/-! ## Entries and what they are known as -/

theorem Enters.location_eq {store : Store} {target : ModuleRef} {names : List Bytes}
    {found : Resolved} (h : r.Enters store target names found) :
    found.location = { scheme := "file", authority := some Url.localFile
                       path := .segments (Url.plainSegments names) } := by
  obtain ⟨⟨scheme, authority, path, query, fragment⟩, format⟩ := found
  obtain rfl : scheme = "file" := h.plain.scheme
  obtain rfl : authority = some Url.localFile := h.plain.authority
  obtain rfl : path = .segments (Url.plainSegments names) := h.plain.path
  obtain rfl : query = none := h.query
  obtain rfl : fragment = none := h.fragment
  rfl

/-- What a specifier leads to from an importer, with what has been read so far. -/
def outcomeFrom (r : Resolver) (importer : FilePath) (specifier : String) (store : Store) :
    Except ResolveError Resolved :=
  ((r.resolvePath specifier (some importer)).run.run store).1

theorem Enters.names_ne_nil (hfs : r.fs.LinkFree) {store : Store} {target : ModuleRef}
    {names : List Bytes} {found : Resolved} (h : r.Enters store target names found) :
    names ≠ [] := by
  rintro rfl
  have hroot := hfs.slash (p := ofPieces true []) rfl h.isPresent
  rw [h.isDir] at hroot
  cases hroot

/-- From the file, a reference that climbs to the root and goes down the names of the file leads
back to it. -/
theorem Enters.outcomeFrom_id (hfs : r.fs.LinkFree) (hspelling : r.fs.IgnoresSpelling)
    {store later : Store} (hstore : store.Reflects r.fs) (hlater : later.Reflects r.fs)
    {target : ModuleRef} {names : List Bytes} {found : Resolved}
    (h : r.Enters store target names found)
    (hordinary : ∀ name ∈ names, Url.IsOrdinaryName name) {up : Nat} (hup : names.length ≤ up + 1) :
    r.outcomeFrom (.ofString target.id) (Url.climbTo up names) later = .ok found := by
  have hne := h.names_ne_nil hfs
  have hnames := h.plain.isName
  have hnothing : names.length - 1 - up = 0 := by omega
  have hlocation : found.location =
      { scheme := "file", authority := some Url.localFile
        path := .segments ((Url.segmentsOfNames names).dropLast.take (names.length - 1 - up) ++
          Url.segmentsOfNames names) } := by
    rw [hnothing, List.take_zero, List.nil_append, ← Url.plainSegments_eq hnames hne,
      h.location_eq]
  have hclimb := resolvePath_climbTo (r := r) h.isAbsolute (h.names_id ▸ hordinary) up hne hnames
    hordinary
  rw [h.names_id, ← hlocation] at hclimb
  rw [outcomeFrom, hclimb]
  exact run_finalize_of_enters hfs hspelling hstore hlater h hordinary

/-- From a path with more names, a reference that climbs up to the first of them and goes down some
names leads below that first one. -/
theorem isPlainFile_of_climbTo (hfs : r.fs.LinkFree) {p : FilePath} (hp : p.isAbsolute = true)
    (hplain : ∀ name ∈ p.names, Url.IsOrdinaryName name) {first : Bytes} {rest : List Bytes}
    (hpNames : p.names = first :: rest) (hfirst : IsName first) (hrest : rest ≠ [])
    {names : List Bytes} (hne : names ≠ []) (hnames : ∀ name ∈ names, IsName name)
    (hordinary : ∀ name ∈ names, Url.IsOrdinaryName name) {store : Store} {found : Resolved}
    (h : r.outcomeFrom p (Url.climbTo (rest.length - 1) names) store = .ok found) :
    found.location.IsPlainFile (first :: names) := by
  have hpositive : 0 < rest.length := List.length_pos_of_ne_nil hrest
  have hone : p.names.length - 1 - (rest.length - 1) = 1 := by
    rw [hpNames, List.length_cons]
    omega
  have hkept : ∀ name ∈ rest, isKept name = true := fun name hname =>
    isKept_of_mem_names (p := p) name (hpNames ▸ List.mem_cons_of_mem first hname)
  have hall : ∀ name ∈ first :: names, IsName name := List.forall_mem_cons.2 ⟨hfirst, hnames⟩
  have hlocation : Url.IsPlainFile
      { scheme := "file", authority := some Url.localFile
        path := .segments ((Url.segmentsOfNames p.names).dropLast.take
          (p.names.length - 1 - (rest.length - 1)) ++ Url.segmentsOfNames names) }
      (first :: names) := by
    refine ⟨hall, rfl, rfl, ?_, .of_none ⟨rfl, rfl⟩⟩
    rw [Url.plainSegments_eq hall (List.cons_ne_nil _ _), hone, hpNames,
      Url.take_one_segmentsOfNames hfirst hrest hkept, ← Url.segmentsOfNames_append]
    rfl
  rw [outcomeFrom, resolvePath_climbTo hp hplain (rest.length - 1) hne hnames hordinary] at h
  exact isPlainFile_of_run_finalize hfs hlocation h

/-- A specifier tells the file from a spelling with more names: from the one it leads to the file
and from the other below a directory that is not climbed out of. -/
theorem Enters.exists_apart (hfs : r.fs.LinkFree) (hspelling : r.fs.IgnoresSpelling)
    {store : Store} (hstore : store.Reflects r.fs) {target : ModuleRef} {names : List Bytes}
    {found : Resolved} (h : r.Enters store target names found)
    (hordinary : ∀ name ∈ names, Url.IsOrdinaryName name) {p : FilePath}
    (hp : p.isAbsolute = true) (hplain : ∀ name ∈ p.names, Url.IsOrdinaryName name)
    {first : Bytes} {rest : List Bytes} (hpNames : p.names = first :: rest) (hfirst : IsName first)
    (hlength : names.length < p.names.length) :
    ∃ specifier, ∀ s t : Store, s.Reflects r.fs → t.Reflects r.fs →
      r.outcomeFrom (.ofString target.id) specifier t = .ok found ∧
        r.outcomeFrom p specifier s ≠ .ok found := by
  have hne := h.names_ne_nil hfs
  have hpositive : 0 < names.length := List.length_pos_of_ne_nil hne
  rw [hpNames, List.length_cons] at hlength
  have hrest : rest ≠ [] := List.ne_nil_of_length_pos (by omega)
  refine ⟨Url.climbTo (rest.length - 1) names, fun s t _ ht =>
    ⟨h.outcomeFrom_id hfs hspelling hstore ht hordinary (by omega), fun hsame => ?_⟩⟩
  have hbelow := isPlainFile_of_climbTo hfs hp hplain hpNames hfirst hrest hne h.plain.isName
    hordinary hsame
  have hcount := congrArg List.length (Url.Path.segments.inj (h.plain.path.symm.trans hbelow.path))
  simp [Url.plainSegments, hne] at hcount

/-- Without links, resolving from an entry as it is spelled answers what resolving from the module
that it has led to does, if no piece of the entry is `..`. If one is, some specifier leads from the
module to the module itself and from the spelling elsewhere: of a spelling, a reference takes back
the last name whatever it is. -/
theorem importers_agree_unless_up (hfs : r.fs.LinkFree) (hspelling : r.fs.IgnoresSpelling)
    {dir : String} (hdir : r.cwd = .ofString dir) (habs : r.cwd.isAbsolute = true)
    (hup : dotDot ∉ r.cwd.names) {entry : String} (hentry : Url.IsPathForm entry) {store : Store}
    (hstore : store.Reflects r.fs) {target : ModuleRef}
    (hrun : ((r.resolveEntry entry).run.run store).1 = .ok target) :
    (dotDot ∉ (FilePath.ofString entry).pieces →
      (r.cwd.names = [] → '|' ∉ entry.toList) →
      ∀ (specifier : String) (s t : Store), s.Reflects r.fs → t.Reflects r.fs →
        r.outcomeFrom (r.cwd.joinText entry) specifier s =
          r.outcomeFrom (.ofString target.id) specifier t) ∧
    (dotDot ∈ (FilePath.ofString entry).pieces → r.cwd.names ≠ [] →
      (∀ name ∈ (r.cwd.joinText entry).names, Url.IsOrdinaryName name) →
      ∃ (specifier : String) (found : Resolved), ∀ s t : Store, s.Reflects r.fs →
        t.Reflects r.fs →
        r.outcomeFrom (.ofString target.id) specifier t = .ok found ∧
          r.outcomeFrom (r.cwd.joinText entry) specifier s ≠ .ok found) := by
  obtain ⟨found, henters⟩ := exists_enters hdir habs hup hfs hentry hrun
  obtain ⟨hjoinAbs, hjoinNames⟩ := hentry.names_joinText r.cwd
  have hcwdNames := Url.namesOfSegments_segmentsOfNames (isKept_of_mem_names (p := r.cwd))
  rw [hentry.pieces_ofString.2]
  constructor
  · intro hentryUp hbar specifier s t hs ht
    -- a bar would make a drive of the first segment at the root, and nowhere else
    have hbar' : Url.segmentsOfNames r.cwd.names ≠ [] ∨ ∀ seg ∈ Url.segmentsOf entry,
        ∀ letter : Char, letter.isAlpha = true → seg ≠ [letter, '|'] := by
      by_cases hroot : r.cwd.names = []
      · refine Or.inr fun seg hseg letter _ heq => hbar hroot (mem_of_mem_splitAll hseg ?_)
        rw [heq]
        simp
      · refine Or.inl fun hnil => hroot ?_
        rw [← hcwdNames, hnil]
        rfl
    have hnames : (r.cwd.joinText entry).names = (FilePath.ofString target.id).names := by
      rw [henters.names_id, hjoinNames,
        Url.names_foldl_stepFrom hentry.plain_segmentsOf hentryUp hbar', hcwdNames]
    rw [outcomeFrom, resolvePath_eq_of_names (hjoinAbs.trans habs) henters.isAbsolute hnames]
    exact (coupled_resolvePath (Store.couples_reflects hspelling) specifier _ ⟨hs, ht⟩).1.eq
  · intro hentryUp hroot hplain
    rw [hjoinNames] at hplain
    obtain ⟨hcwdPlain, hentryPlain⟩ := List.forall_mem_append.1 hplain
    have hsegs : ∀ seg ∈ Url.segmentsOf entry, Url.IsOrdinaryName (encodeChars seg) := by
      intro seg hseg
      cases hpiece : isKept (encodeChars seg) with
      | false => exact .of_not_kept hpiece
      | true =>
          exact hentryPlain _ (List.mem_filter.2 ⟨List.mem_map_of_mem hseg, hpiece⟩)
    have hhere : ∀ seg ∈ Url.segmentsOfNames r.cwd.names, Url.IsOrdinaryName (Url.octets seg) :=
      fun seg hseg => hcwdPlain _ (Url.octets_mem_of_segmentsOfNames isKept_of_mem_names hseg)
    have hordinary := Url.isOrdinaryName_foldl_stepFrom hhere hentry.plain_segmentsOf hsegs
    -- the reference has led to fewer names than the path is spelled with
    have hlength := Url.length_names_lt (Url.segmentsOfNames r.cwd.names) hentry.plain_segmentsOf
      (fun seg hseg => Url.not_barDrive (hsegs seg hseg).noDrive) hentryUp
    rw [hcwdNames, ← List.length_append, ← hjoinNames] at hlength
    rw [← hjoinNames] at hplain
    obtain ⟨first, rest, hcwd⟩ := List.exists_cons_of_ne_nil hroot
    have hfirst : IsName first := isName_of_mem_names hup (hcwd ▸ List.mem_cons_self)
    obtain ⟨specifier, happart⟩ := henters.exists_apart hfs hspelling hstore hordinary
      (hjoinAbs.trans habs) hplain (hjoinNames.trans (congrArg (· ++ _) hcwd)) hfirst hlength
    exact ⟨specifier, found, happart⟩

/-- A project whose working directory has a file beside it, one in it and one two directories up. -/
def nestedProject : Tree :=
  let file : Tree.Node := .file { content := .ok [] }
  ⟨[([utf8 "top.js"], file),
    ([utf8 "p"], .directory),
    ([utf8 "p", utf8 "main.js"], file),
    ([utf8 "p", utf8 "src"], .directory),
    ([utf8 "p", utf8 "src", utf8 "app.js"], file)]⟩

/-- A resolver for the project. -/
def nestedResolver : Resolver :=
  { fs := nestedProject.fileSystem, platform := .node, conditions := .ofList [],
    cwd := .ofString "/p/src" }

theorem nestedProject_linkFree : nestedResolver.fs.LinkFree := by
  refine Tree.fileSystem_linkFree ?_ ?_
  · intro place hplace file hfile
    simp only [nestedProject, List.mem_cons, List.not_mem_nil, or_false] at hplace
    rcases hplace with rfl | rfl | rfl | rfl | rfl <;> cases hfile <;> rfl
  · intro place hplace target hlink
    simp only [nestedProject, List.mem_cons, List.not_mem_nil, or_false] at hplace
    rcases hplace with rfl | rfl | rfl | rfl | rfl <;> cases hlink

/-- What is imported from `./app.js` does not depend on how that is spelled. From `../main.js` it
does. -/
theorem importers_agree_unless_up_of_nested :
    (∀ (specifier : String) (s t : Store), s.Reflects nestedResolver.fs →
      t.Reflects nestedResolver.fs →
      nestedResolver.outcomeFrom (nestedResolver.cwd.joinText "./app.js") specifier s =
        nestedResolver.outcomeFrom (.ofString "/p/src/app.js") specifier t) ∧
    ∃ (specifier : String) (found : Resolved), ∀ s t : Store, s.Reflects nestedResolver.fs →
      t.Reflects nestedResolver.fs →
      nestedResolver.outcomeFrom (.ofString "/p/main.js") specifier t = .ok found ∧
        nestedResolver.outcomeFrom (nestedResolver.cwd.joinText "../main.js") specifier s ≠
          .ok found := by
  have hspelling : nestedResolver.fs.IgnoresSpelling := Tree.fileSystem_ignoresSpelling _
  have hcwd : nestedResolver.cwd.isAbsolute = true ∧ dotDot ∉ nestedResolver.cwd.names ∧
      nestedResolver.cwd.names ≠ [] := by decide +kernel
  have happ : Url.IsPathForm "./app.js" :=
    ⟨⟨"app.js".toList, Or.inl (by decide)⟩, List.all_eq_true.1 (by decide), by decide⟩
  have hmain : Url.IsPathForm "../main.js" :=
    ⟨⟨"main.js".toList, Or.inr (by decide)⟩, List.all_eq_true.1 (by decide), by decide⟩
  have hrunApp : ((nestedResolver.resolveEntry "./app.js").run.run {}).1 =
      .ok ⟨"/p/src/app.js", .commonJs, false⟩ := by decide +kernel
  have hrunMain : ((nestedResolver.resolveEntry "../main.js").run.run {}).1 =
      .ok ⟨"/p/main.js", .commonJs, false⟩ := by decide +kernel
  have hordinary : ∀ name ∈ (nestedResolver.cwd.joinText "../main.js").names,
      Url.IsOrdinaryName name := by
    have hnames : (nestedResolver.cwd.joinText "../main.js").names =
        [utf8 "p", utf8 "src", dotDot, utf8 "main.js"] := by decide +kernel
    rw [hnames]
    simp only [List.mem_cons, List.not_mem_nil, or_false]
    rintro name (rfl | rfl | rfl | rfl) <;> exact ⟨by decide, by decide⟩
  exact ⟨(importers_agree_unless_up nestedProject_linkFree hspelling rfl hcwd.1 hcwd.2.1 happ
      Store.reflects_empty hrunApp).1 (by decide +kernel) fun hroot => absurd hroot hcwd.2.2,
    (importers_agree_unless_up nestedProject_linkFree hspelling rfl hcwd.1 hcwd.2.1 hmain
      Store.reflects_empty hrunMain).2 (by decide +kernel) hcwd.2.2 hordinary⟩

/-- From the module of `../main.js` the specifier `../top.js` leads to a file, and from the spelling
of the entry to nothing. -/
theorem not_importers_agree_of_up :
    nestedResolver.fs.LinkFree ∧
      ((nestedResolver.resolveEntry "../main.js").run.run {}).1 =
        .ok ⟨"/p/main.js", .commonJs, false⟩ ∧
      nestedResolver.outcomeFrom (.ofString "/p/main.js") "../top.js" {} =
        .ok ⟨fileUrl ["top.js"], .commonJs⟩ ∧
      nestedResolver.outcomeFrom (nestedResolver.cwd.joinText "../main.js") "../top.js" {} =
        .error ⟨.moduleNotFound, "/p/src/top.js"⟩ :=
  ⟨nestedProject_linkFree, by decide +kernel, by decide +kernel, by decide +kernel⟩

end Resolver

end ModuleGraph
