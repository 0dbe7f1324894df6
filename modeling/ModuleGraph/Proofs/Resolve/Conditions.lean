import ModuleGraph.Proofs.Package.Reordering
import ModuleGraph.Proofs.Resolve.Results
import ModuleGraph.Proofs.Store.Transparency

/-!
# Conditions that count

A resolution looks at its conditions only where a conditional target does, and there it asks for
one of the target's keys. Two sets of conditions under which the same keys of the manifests hold
are therefore the same to every resolution, down to what it reads and to the text of its failure.
In which order conditions are listed, whether one is listed twice, whether `default` is among
them, and what is listed that no manifest knows, is of no account.
-/

set_option autoImplicit false

namespace ModuleGraph

/-! ## Keys -/

/-- A key occurs in a target, at any depth. -/
inductive Target.HasKey (key : String) : Target → Prop
  | here {branches : TargetMap} {target : Target} :
      (key, target) ∈ branches → HasKey key (.conditional branches)
  | branch {branches : TargetMap} {branch : String × Target} :
      branch ∈ branches → HasKey key branch.2 → HasKey key (.conditional branches)
  | item {items : List Target} {target : Target} :
      target ∈ items → HasKey key target → HasKey key (.list items)

/-- A key occurs in the `exports` or in the `imports` of a manifest, at any depth. -/
inductive Manifest.HasKey (key : String) (m : Manifest) : Prop
  | exports {target : Target} : m.exports = some target → target.HasKey key → HasKey key m
  | imports {map : TargetMap} : m.imports = some map → (Target.conditional map).HasKey key →
      HasKey key m

/-- A key occurs in some manifest of the file system. -/
def FileSystem.Mentions (fs : FileSystem) (key : String) : Prop :=
  ∃ dir m, Store.load fs dir = .ok (some m) ∧ m.HasKey key

variable {conditions conditions' : ConditionSet}

/-! ## Targets -/

namespace Target

variable (ctx : TargetContext)

mutual

/-- A target asks of its conditions only whether its keys hold. -/
theorem resolve_congr (target : Target)
    (h : ∀ key, target.HasKey key → ctx.conditions.holds key = conditions'.holds key) :
    target.resolve ctx = target.resolve { ctx with conditions := conditions' } := by
  cases target with
  | literal text =>
      simp only [resolve]
      rfl
  | conditional branches =>
      simp only [resolve]
      rw [resolveBranches_congr branches (fun key target hmem => h key (.here hmem))
        fun branch hbranch key hkey => h key (.branch hbranch hkey)]
      rfl
  | list items =>
      simp only [resolve]
      exact resolveItems_congr items fun target htarget key hkey => h key (.item htarget hkey)
  | null => simp only [resolve]
  | invalid text => simp only [resolve]

theorem resolveBranches_congr (branches : TargetMap)
    (hhere : ∀ key target, (key, target) ∈ branches →
      ctx.conditions.holds key = conditions'.holds key)
    (hbelow : ∀ branch ∈ branches, ∀ key, HasKey key branch.2 →
      ctx.conditions.holds key = conditions'.holds key) :
    resolveBranches ctx branches =
      resolveBranches { ctx with conditions := conditions' } branches := by
  cases branches with
  | nil => simp only [resolveBranches]
  | cons branch rest =>
      obtain ⟨condition, target⟩ := branch
      have hrest := resolveBranches_congr rest
        (fun key target hmem => hhere key target (List.mem_cons_of_mem _ hmem))
        fun branch hbranch => hbelow branch (List.mem_cons_of_mem _ hbranch)
      simp only [resolveBranches]
      rw [hhere condition target List.mem_cons_self,
        resolve_congr target (hbelow _ List.mem_cons_self), hrest]

theorem resolveItems_congr (items : List Target)
    (h : ∀ target ∈ items, ∀ key, HasKey key target →
      ctx.conditions.holds key = conditions'.holds key) :
    resolveItems ctx items = resolveItems { ctx with conditions := conditions' } items := by
  cases items with
  | nil => simp only [resolveItems]
  | cons target rest =>
      simp only [resolveItems]
      rw [resolve_congr target (h target List.mem_cons_self),
        resolveItems_congr rest fun other hother => h other (List.mem_cons_of_mem _ hother)]

end

theorem HasKey.of_lookup {map : TargetMap} {name key : String} {target : Target}
    (hlookup : map.lookup name = some target) (h : target.HasKey key) :
    (conditional map).HasKey key := by
  obtain ⟨front, back, rfl, -⟩ := List.lookup_eq_some_iff.1 hlookup
  have hbranch : (name, target) ∈ front ++ (name, target) :: back :=
    List.mem_append_right _ List.mem_cons_self
  exact .branch hbranch h

end Target

/-! ## Packages -/

namespace Package

theorem resolveKey_congr (ctx : TargetContext) (name : String) (map : TargetMap)
    (h : ∀ key, (Target.conditional map).HasKey key →
      ctx.conditions.holds key = conditions'.holds key) :
    resolveKey ctx name map = resolveKey { ctx with conditions := conditions' } name map := by
  have htarget (captured : Option String) {target : Target} {name : String}
      (hlookup : map.lookup name = some target) :
      target.resolve { ctx with captured } =
        target.resolve { ctx with captured, conditions := conditions' } :=
    target.resolve_congr { ctx with captured } fun key hkey => h key (.of_lookup hlookup hkey)
  simp only [resolveKey]
  split
  · next target hexact =>
      split at hexact
      · cases hexact
      · exact htarget none hexact
  · cases hmatch : Pattern.match? name map with
    | error e => rfl
    | ok found =>
        cases found with
        | none => rfl
        | some found =>
            obtain ⟨pattern, -, hlookup⟩ := Pattern.exists_of_match? hmatch
            exact htarget (some found.captured) hlookup

theorem resolveExports_congr (packageUrl : Url) (subpath : String) (exports : Target)
    (h : ∀ key, exports.HasKey key → conditions.holds key = conditions'.holds key) :
    resolveExports packageUrl subpath exports conditions =
      resolveExports packageUrl subpath exports conditions' := by
  have hctx (target : Target)
      (htarget : ∀ key, target.HasKey key → conditions.holds key = conditions'.holds key) :=
    target.resolve_congr { packageUrl, captured := none, conditions, enter := none } htarget
  have hexported : exported packageUrl subpath exports conditions =
      exported packageUrl subpath exports conditions' := by
    unfold exported
    cases hform : ExportsForm.of exports with
    | mixed => rfl
    | root target =>
        obtain rfl := ExportsForm.of_eq_root hform
        dsimp only
        rw [hctx target h]
    | subpaths map =>
        obtain rfl := ExportsForm.of_eq_subpaths hform
        dsimp only
        split
        · split
          · next target hlookup => rw [hctx target fun key hkey => h key (.of_lookup hlookup hkey)]
          · rfl
        · exact resolveKey_congr _ subpath map h
  unfold resolveExports
  rw [hexported]

end Package

/-! ## Resolutions -/

/-- A manifest answers alike under conditions that agree on its keys. -/
theorem Manifest.answersAlike_of_holds {S : Store → Store → Prop} (m : Manifest)
    (h : ∀ key, m.HasKey key → conditions.holds key = conditions'.holds key) :
    m.AnswersAlike S Eq conditions conditions' m := by
  have hself : m.AnswersAlike S Eq conditions conditions m :=
    ((Alike.refl m).interchangeable ResolveError.keepsKinds_eq).answersAlike
      ResolveError.keepsKinds_eq conditions
  refine ⟨rfl, rfl, rfl, ?_, ?_⟩
  · have hexports := hself.exports
    cases hm : m.exports with
    | none => exact .none
    | some exports =>
        rw [hm] at hexports
        cases hexports with
        | some hsame =>
            refine .some fun packageUrl subpath => ?_
            rw [← Package.resolveExports_congr packageUrl subpath exports
              fun key hkey => h key (.exports hm hkey)]
            exact hsame packageUrl subpath
  · have himports := hself.imports
    cases hm : m.imports with
    | none => exact .none
    | some imports =>
        rw [hm] at himports
        cases himports with
        | some hsame =>
            refine .some fun packageUrl enter enter' key henter => ?_
            rw [← Package.resolveKey_congr ⟨packageUrl, none, conditions, enter'⟩ key imports
              fun key hkey => h key (.imports hm hkey)]
            exact hsame packageUrl enter enter' key henter

/-- Both stores are the same one, which reflects the file system. -/
def Store.SameReflecting (fs : FileSystem) (s t : Store) : Prop := s = t ∧ s.Reflects fs

/-- A file system agrees with itself under conditions that agree on the keys it mentions. -/
theorem FileSystem.agreeUnder_of_mentions {fs : FileSystem}
    (h : ∀ key, fs.Mentions key → conditions.holds key = conditions'.holds key) :
    fs.AgreeUnder (Store.SameReflecting fs) Eq conditions conditions' fs where
  isPresent _ := rfl
  isDir _ := rfl
  canonicalize _ := rfl
  scope dir := by
    rintro s _ ⟨rfl, hs⟩
    exact ⟨.ok rfl, rfl, hs⟩
  read dir := by
    rintro s _ ⟨rfl, hs⟩
    -- what is read has been loaded now or before, so its keys are mentioned
    have halike {found : Option Manifest} {dir : FilePath}
        (hload : Store.load fs dir = .ok found) :
        Option.Rel (Manifest.AnswersAlike (Store.SameReflecting fs) Eq conditions conditions')
          found found := by
      cases found with
      | none => exact .none
      | some m => exact .some (m.answersAlike_of_holds fun key hkey => h key ⟨dir, m, hload, hkey⟩)
    show OutcomeRel Eq _ ((Store.read fs dir).run.run s).1 ((Store.read fs dir).run.run s).1 ∧
      Store.SameReflecting fs ((Store.read fs dir).run.run s).2 ((Store.read fs dir).run.run s).2
    rw [Store.run_read]
    cases hfound : s.find? dir with
    | some found =>
        obtain ⟨dir', -, hload⟩ := hs dir found hfound
        exact ⟨.ok (halike hload), rfl, hs⟩
    | none =>
        cases hload : Store.load fs dir with
        | error e => exact ⟨.error rfl, rfl, hs⟩
        | ok found => exact ⟨.ok (halike hload), rfl, Store.reflects_remember hs hload⟩

namespace Resolver

/-- A resolver that has not been used answers the same, or fails with the same text, and has read
the same, under any two sets of conditions that agree on the keys its file system mentions. Of
conditions that are listed only the mentioned ones count, `default` apart. -/
theorem outcome_of_mentioned_conditions (r : Resolver) (specifier : String) (parent : Url) :
    (∀ conditions conditions' : ConditionSet,
      (∀ key, r.fs.Mentions key → conditions.holds key = conditions'.holds key) →
      (r.resolveWith specifier parent conditions).run.run {} =
        (r.resolveWith specifier parent conditions').run.run {}) ∧
    ∀ names names' : List String,
      (∀ key, r.fs.Mentions key → key ≠ "default" → (key ∈ names ↔ key ∈ names')) →
      (r.resolveWith specifier parent (.ofList names)).run.run {} =
        (r.resolveWith specifier parent (.ofList names')).run.run {} := by
  have hsame (conditions conditions' : ConditionSet)
      (h : ∀ key, r.fs.Mentions key → conditions.holds key = conditions'.holds key) :
      (r.resolveWith specifier parent conditions).run.run {} =
        (r.resolveWith specifier parent conditions').run.run {} := by
    have hagree := agree_resolveWith_under ResolveError.keepsKinds_eq
      (FileSystem.agreeUnder_of_mentions h) rfl specifier parent
    obtain ⟨houtcome, hstore, -⟩ := hagree ⟨rfl, Store.reflects_empty⟩
    exact Prod.ext (outcomeRel_eq_iff.1 houtcome).eq hstore
  refine ⟨hsame, fun names names' h => hsame _ _ fun key hkey => ?_⟩
  by_cases hdefault : key = "default"
  · simp [ConditionSet.holds, hdefault]
  · simp [ConditionSet.holds, ConditionSet.mem_ofList, h key hkey hdefault]

end Resolver

/-! ## A project with one conditional import -/

/-- The manifest of a project with one import, which depends on the platform. -/
theorem Manifest.parse_conditionalImport (path : FilePath) :
    Manifest.parse path
        "\x7b\"imports\":\x7b\"#x\":\x7b\"node\":\"./x/1.js\",\"default\":null\x7d\x7d\x7d" =
      .ok { path, name := none, type := none, main := none, exports := none,
            imports := some
              [("#x", .conditional [("node", .literal "./x/1.js"), ("default", .null)])] } := by
  have hvalue : Json.parse? depthLimit
        "\x7b\"imports\":\x7b\"#x\":\x7b\"node\":\"./x/1.js\",\"default\":null\x7d\x7d\x7d" =
      some (.object [("imports", .object [("#x", .object [("node", .string "./x/1.js"),
        ("default", .null)])])]) := by cbv
  unfold Manifest.parse
  rw [hvalue]
  rfl

/-- Only one text is ever read as a manifest. -/
theorem FileSystem.parse_of_load_ofManifest {source : String} {dir : FilePath} {m : Manifest}
    (h : Store.load (ofManifest source) dir = .ok (some m)) :
    Manifest.parse (dir.join manifestName) source = .ok m := by
  unfold Store.load Store.loadManifest at h
  by_cases hpath : dir.join manifestName = .ofString "/p/package.json"
  · simp only [ofManifest, hpath, if_true] at h ⊢
    cases hparse : Manifest.parse (.ofString "/p/package.json") source with
    | error e => simp [hparse, Except.map] at h
    | ok n => simpa [hparse, Except.map] using h
  · simp only [ofManifest, hpath, decide_false, Bool.false_or, if_false, Except.map] at h
    split at h
    · cases h
    · cases h

theorem FileSystem.mentions_conditionalImport {key : String}
    (h : Mentions (ofManifest
      "\x7b\"imports\":\x7b\"#x\":\x7b\"node\":\"./x/1.js\",\"default\":null\x7d\x7d\x7d") key) :
    key = "#x" ∨ key = "node" ∨ key = "default" := by
  obtain ⟨dir, m, hload, hkey⟩ := h
  have hparse := parse_of_load_ofManifest hload
  rw [Manifest.parse_conditionalImport] at hparse
  obtain rfl := Except.ok.inj hparse
  cases hkey with
  | exports hexports => cases hexports
  | imports himports hkey =>
      obtain rfl := Option.some.inj himports
      cases hkey with
      | here hmem => exact Or.inl (Prod.mk.inj (List.mem_singleton.1 hmem)).1
      | branch hmem hkey =>
          obtain rfl := List.mem_singleton.1 hmem
          cases hkey with
          | here hmem =>
              simp only [List.mem_cons, Prod.mk.injEq, List.not_mem_nil, or_false] at hmem
              rcases hmem with ⟨rfl, -⟩ | ⟨rfl, -⟩
              · exact Or.inr (Or.inl rfl)
              · exact Or.inr (Or.inr rfl)
          | branch hmem hkey =>
              -- neither of the targets in it has keys
              simp only [List.mem_cons, List.not_mem_nil, or_false] at hmem
              rcases hmem with rfl | rfl
              · cases hkey
              · cases hkey

/-- The import is the same for a program that asks for `node` alone and for one that asks for more
than any manifest knows, in another order and twice. -/
theorem Resolver.outcome_of_mentioned_conditions_ofList :
    let fs : FileSystem := .ofManifest
      "\x7b\"imports\":\x7b\"#x\":\x7b\"node\":\"./x/1.js\",\"default\":null\x7d\x7d\x7d"
    let r : Resolver := { fs, platform := .node, conditions := .ofList [], cwd := .ofString "/p" }
    let parent : Url :=
      { scheme := "file", authority := some { host := "" }, path := .segments ["p", "m.js"] }
    let names := ["node"]
    let names' := ["browser", "default", "node", "import", "node"]
    (∀ key, fs.Mentions key →
      (ConditionSet.ofList names).holds key = (ConditionSet.ofList names').holds key) ∧
    (∀ key, fs.Mentions key → key ≠ "default" → (key ∈ names ↔ key ∈ names')) ∧
    (r.resolveWith "#x" parent (.ofList names)).run.run {} =
      (r.resolveWith "#x" parent (.ofList names')).run.run {} ∧
    ((r.resolveWith "#x" parent (.ofList names)).run.run {}).1 =
      ((r.resolveWith "#x" parent (.ofList names')).run.run {}).1 := by
  intro fs r parent names names'
  have hnames (key : String) (hkey : fs.Mentions key) :
      key ≠ "default" → (key ∈ names ↔ key ∈ names') := by
    rcases FileSystem.mentions_conditionalImport hkey with rfl | rfl | rfl
    · decide
    · decide
    · decide
  have hholds (key : String) (hkey : fs.Mentions key) :
      (ConditionSet.ofList names).holds key = (ConditionSet.ofList names').holds key := by
    rcases FileSystem.mentions_conditionalImport hkey with rfl | rfl | rfl
    · decide
    · decide
    · decide
  obtain ⟨hsets, hlists⟩ := outcome_of_mentioned_conditions r "#x" parent
  exact ⟨hholds, hnames, hlists names names' hnames, congrArg Prod.fst (hsets _ _ hholds)⟩

end ModuleGraph
