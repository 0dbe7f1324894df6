import ModuleGraph.Proofs.Json.Members
import ModuleGraph.Proofs.Package.Pattern
import ModuleGraph.Proofs.Resolve.Results
import ModuleGraph.Proofs.Store.Transparency

/-!
# The order of keys is of no account

The entries of `imports`, and of `exports` whose keys are all subpaths, may be declared in any
order: a key is looked up exactly or matches the most specific pattern, and neither depends on the
order (`Pattern.firstMatch?_perm`). Only a fault of the map itself may be told of another key.
Hence two file systems whose manifests differ in this order only agree on every resolution, since
what is read from the one is interchangeable with what is read from the other.
-/

set_option autoImplicit false

namespace ModuleGraph

/-- Two failures of one kind that are the same, unless a manifest is at fault: of several faults
the first one found is told. -/
def ResolveError.Similar (e e' : ResolveError) : Prop :=
  e.kind = e'.kind ∧ (e.kind ≠ .invalidConfiguration → e = e')

theorem ResolveError.keepsKinds_similar : KeepsKinds Similar :=
  ⟨fun _ => ⟨rfl, fun _ => rfl⟩, fun h => h.1⟩

/-- Two values of `exports` that are the same up to the order of their subpaths. -/
inductive Target.Reordered : Target → Target → Prop
  | refl (target : Target) : Reordered target target
  | subpaths {map map' : TargetMap} : map.Perm map' →
      (∀ branch ∈ map, Package.isSubpathKey branch.1 = true) →
      Reordered (.conditional map) (.conditional map')

/-- Two manifests that differ in the order of keys only: of those of `imports`, and of those of
`exports` if they are subpaths. -/
structure Manifest.Reordered (m n : Manifest) : Prop where
  path : m.path = n.path
  name : m.name = n.name
  type : m.type = n.type
  main : m.main = n.main
  exports : Option.Rel Target.Reordered m.exports n.exports
  imports : Option.Rel List.Perm m.imports n.imports

/-- Two file systems that differ in the texts of manifests only, and in those only in the order of
keys. -/
structure FileSystem.Reordered (fs fs' : FileSystem) : Prop where
  isPresent : ∀ path, fs.isPresent path = fs'.isPresent path
  isDir : ∀ path, fs.isDir path = fs'.isDir path
  canonicalize : ∀ path, fs.canonicalize path = fs'.canonicalize path
  readText : ∀ path, fs.readText path = fs'.readText path ∨
    ∃ source source' m n, fs.readText path = .ok source ∧ fs'.readText path = .ok source' ∧
      Manifest.parse path source = .ok m ∧ Manifest.parse path source' = .ok n ∧ m.Reordered n

/-! ## Maps -/

namespace Pattern

/-- A map in another order matches the same entry, or is refused as well. -/
theorem match?_perm {map map' : TargetMap} (hkeys : (map.map Prod.fst).Nodup)
    (h : map.Perm map') (key : String) :
    OutcomeRel ResolveError.Similar Eq (match? key map) (match? key map') := by
  have hrefused : ((map.map Prod.fst).find? fun k => 1 < starCount k).isSome =
      ((map'.map Prod.fst).find? fun k => 1 < starCount k).isSome := by
    rw [Bool.eq_iff_iff, List.find?_isSome, List.find?_isSome]
    exact exists_congr fun k => and_congr_left' (h.map Prod.fst).mem_iff
  have hmatch := firstMatch?_perm hkeys h key fun k => starCount k = 1
  unfold match?
  dsimp only
  cases hfirst : (map.map Prod.fst).find? fun k => 1 < starCount k with
  | none =>
      cases hfirst' : (map'.map Prod.fst).find? fun k => 1 < starCount k with
      | none => exact .ok hmatch
      | some k' => simp [hfirst, hfirst'] at hrefused
  | some k =>
      cases hfirst' : (map'.map Prod.fst).find? fun k => 1 < starCount k with
      | none => simp [hfirst, hfirst'] at hrefused
      | some k' => exact .error ⟨rfl, fun hkind => absurd rfl hkind⟩

end Pattern

theorem TargetMap.interchangeable_of_perm {map map' : TargetMap}
    (hkeys : (map.map Prod.fst).Nodup) (h : map.Perm map') :
    TargetMap.Interchangeable ResolveError.Similar map map' :=
  ⟨Pattern.lookup_perm hkeys h, Pattern.match?_perm hkeys h⟩

/-! ## Manifests -/

namespace Manifest

/-- The maps of a manifest hold no key twice. -/
structure DistinctKeys (m : Manifest) : Prop where
  exports : ∀ map, m.exports = some (.conditional map) → (map.map Prod.fst).Nodup
  imports : ∀ map, m.imports = some map → (map.map Prod.fst).Nodup

theorem keys_ofMembers (members : List (String × Json)) :
    (Target.ofMembers members).map Prod.fst = members.map Prod.fst := by
  rw [Target.ofMembers_eq_map, List.map_map]
  rfl

theorem nodup_keys_ofMembers {members : List (String × Json)}
    (h : Json.Distinct (.object members)) : ((Target.ofMembers members).map Prod.fst).Nodup := by
  rw [keys_ofMembers]
  exact h.nodup_keys

theorem distinct_of_lookup {members : List (String × Json)} (h : Json.Distinct (.object members))
    {key : String} {value : Json} (hlookup : members.lookup key = some value) :
    value.Distinct := by
  obtain ⟨front, back, rfl, -⟩ := List.lookup_eq_some_iff.1 hlookup
  cases h with
  | object _ hall => exact hall (key, value) (List.mem_append_right _ List.mem_cons_self)

/-- What is read from a text holds no key twice. -/
theorem distinctKeys_of_parse {path : FilePath} {source : String} {m : Manifest}
    (h : parse path source = .ok m) : m.DistinctKeys := by
  unfold parse at h
  split at h
  · cases h
  · next members hread =>
      have hdistinct := Json.distinct_of_parse? hread
      obtain rfl := Except.ok.inj h
      constructor
      · intro map hmap
        obtain ⟨value, hvalue, hmap⟩ := Option.bind_eq_some_iff.1 hmap
        have hd := distinct_of_lookup hdistinct hvalue
        cases value with
        | object entries =>
            simp only [exportsOf?, Target.ofJson, Option.some.injEq,
              Target.conditional.injEq] at hmap
            exact hmap ▸ nodup_keys_ofMembers hd
        | _ => simp [exportsOf?, Target.ofJson] at hmap
      · intro map hmap
        obtain ⟨value, hvalue, hmap⟩ := Option.bind_eq_some_iff.1 hmap
        have hd := distinct_of_lookup hdistinct hvalue
        cases value with
        | object entries =>
            simp only [importsOf?, Option.some.injEq] at hmap
            exact hmap ▸ nodup_keys_ofMembers hd
        | _ => simp [importsOf?] at hmap
  · cases h

theorem Reordered.interchangeable {m n : Manifest} (h : m.Reordered n) (hm : m.DistinctKeys) :
    m.Interchangeable ResolveError.Similar n where
  name := h.name
  type := h.type
  main := h.main
  exports := by
    have hkeys := hm.exports
    have hexports := h.exports
    generalize m.exports = exports at hkeys hexports ⊢
    generalize n.exports = exports' at hexports ⊢
    cases hexports with
    | none => exact .none
    | some hreordered =>
        refine .some ?_
        cases hreordered with
        | refl => exact .refl _
        | @subpaths map map' hperm hall =>
            by_cases hne : map = []
            · subst hne
              rw [List.nil_perm.1 hperm]
              exact .refl _
            · have hne' : map' ≠ [] := fun hnil => hne (List.perm_nil.1 (hnil ▸ hperm))
              rw [Package.ExportsForm.of_subpaths hall hne, Package.ExportsForm.of_subpaths
                (fun branch hbranch => hall branch (hperm.mem_iff.2 hbranch)) hne']
              exact .subpaths (TargetMap.interchangeable_of_perm (hkeys map rfl) hperm)
  imports := by
    have hkeys := hm.imports
    have himports := h.imports
    generalize m.imports = imports at hkeys himports ⊢
    generalize n.imports = imports' at himports ⊢
    cases himports with
    | none => exact .none
    | some hperm => exact .some (TargetMap.interchangeable_of_perm (hkeys _ rfl) hperm)

theorem Interchangeable.refl (m : Manifest) : m.Interchangeable ResolveError.Similar m :=
  (Alike.refl m).interchangeable ResolveError.keepsKinds_similar

end Manifest

/-! ## File systems -/

namespace Store

open ResolveError (Similar)

variable {fs fs' : FileSystem}

theorem loadManifest_reordered (hfs : fs.Reordered fs') (path : FilePath) :
    OutcomeRel Similar (Manifest.Interchangeable Similar) (loadManifest fs path)
      (loadManifest fs' path) := by
  unfold loadManifest
  rcases hfs.readText path with hsame | ⟨source, source', m, n, hm, hn, hparse, hparse', hmn⟩
  · rw [← hsame]
    cases fs.readText path with
    | error cause => exact .error (ResolveError.keepsKinds_similar.refl _)
    | ok source =>
        dsimp only
        cases Manifest.parse path source with
        | error e => exact .error (ResolveError.keepsKinds_similar.refl _)
        | ok m => exact .ok (Manifest.Interchangeable.refl m)
  · simp only [hm, hn, hparse, hparse']
    exact .ok (hmn.interchangeable (Manifest.distinctKeys_of_parse hparse))

theorem load_reordered (hfs : fs.Reordered fs') (dir : FilePath) :
    OutcomeRel Similar (Option.Rel (Manifest.Interchangeable Similar)) (load fs dir)
      (load fs' dir) := by
  have hmanifest := loadManifest_reordered hfs (dir.join manifestName)
  simp only [load, ← hfs.isPresent]
  split
  · generalize loadManifest fs (dir.join manifestName) = outcome at hmanifest ⊢
    generalize loadManifest fs' (dir.join manifestName) = outcome' at hmanifest ⊢
    cases hmanifest with
    | ok hmn => exact .ok (.some hmn)
    | error he => exact .error he
  · exact .ok .none

/-- Two stores with interchangeable manifests for the same directories. -/
def Interchangeable (s t : Store) : Prop :=
  List.Forall₂ (fun a b => a.1 = b.1 ∧ Option.Rel (Manifest.Interchangeable Similar) a.2 b.2)
    s.entries t.entries

theorem Interchangeable.find? {s t : Store} (h : Interchangeable s t) (dir : FilePath) :
    Option.Rel (Option.Rel (Manifest.Interchangeable Similar)) (s.find? dir) (t.find? dir) := by
  unfold Interchangeable at h
  unfold Store.find?
  generalize s.entries = entries at h
  generalize t.entries = entries' at h
  induction h with
  | nil => exact .none
  | @cons a b rest rest' hab _ ih =>
      obtain ⟨dir', m⟩ := a
      obtain ⟨_, n⟩ := b
      obtain ⟨rfl, hmn⟩ := hab
      rw [List.lookup_cons, List.lookup_cons]
      cases dir.components == dir' with
      | true => exact .some hmn
      | false => exact ih

theorem Interchangeable.remember {s t : Store} (h : Interchangeable s t) (dir : FilePath)
    {m n : Option Manifest} (hmn : Option.Rel (Manifest.Interchangeable Similar) m n) :
    Interchangeable (s.remember dir m) (t.remember dir n) := by
  have hfound := h.find? dir
  unfold Store.remember
  generalize s.find? dir = found at hfound
  generalize t.find? dir = found' at hfound
  cases hfound with
  | some _ => exact h
  | none => exact .cons ⟨rfl, hmn⟩ h

theorem Interchangeable.hasManifest {s t : Store} (h : Interchangeable s t)
    (hfs : fs.Reordered fs') (dir : FilePath) :
    hasManifest fs s dir = hasManifest fs' t dir := by
  have hfound := h.find? dir
  unfold Store.hasManifest
  generalize s.find? dir = found at hfound
  generalize t.find? dir = found' at hfound
  cases hfound with
  | none => exact hfs.isPresent _
  | some hmn =>
      cases hmn with
      | none => rfl
      | some _ => rfl

theorem Interchangeable.scope? {s t : Store} (h : Interchangeable s t) (hfs : fs.Reordered fs')
    (dir : FilePath) : scope? fs s dir = scope? fs' t dir := by
  unfold Store.scope?
  induction dir.ancestors with
  | nil => rfl
  | cons dir rest ih => rw [firstScope?, firstScope?, h.hasManifest hfs, ih]

/-- What is read from reordered file systems keeps their stores interchangeable. -/
theorem agree_reordered (hfs : fs.Reordered fs') : fs.Agree Interchangeable Similar fs' where
  isPresent := hfs.isPresent
  isDir := hfs.isDir
  canonicalize := hfs.canonicalize
  scope dir := by
    intro s t hst
    refine ⟨.of_eq ResolveError.keepsKinds_similar.refl ?_, hst⟩
    show Except.ok (Store.scope? fs s dir) = Except.ok (Store.scope? fs' t dir)
    rw [hst.scope? hfs]
  read dir := by
    intro s t hst
    show OutcomeRel Similar _ ((read fs dir).run.run s).1 ((read fs' dir).run.run t).1 ∧
      Interchangeable ((read fs dir).run.run s).2 ((read fs' dir).run.run t).2
    have hfound := hst.find? dir
    have hload := load_reordered hfs dir
    rw [run_read, run_read]
    generalize s.find? dir = found at hfound ⊢
    generalize t.find? dir = found' at hfound ⊢
    cases hfound with
    | some hmn => exact ⟨.ok hmn, hst⟩
    | none =>
        generalize load fs dir = outcome at hload ⊢
        generalize load fs' dir = outcome' at hload ⊢
        cases hload with
        | error he => exact ⟨.error he, hst⟩
        | ok hmn => exact ⟨.ok hmn, hst.remember dir hmn⟩

end Store

/-- A resolver that has not been used answers the same location and format, or fails in the same
way, in whatever order manifests declare their subpaths and imports. -/
theorem Resolver.outcome_independent_of_key_order (r : Resolver) {fs' : FileSystem}
    (hfs : r.fs.Reordered fs') (specifier : String) (parent : Url) (conditions : ConditionSet) :
    OutcomeRel ResolveError.Similar Eq ((r.resolveWith specifier parent conditions).run.run {}).1
      (({ r with fs := fs' }.resolveWith specifier parent conditions).run.run {}).1 := by
  have hempty : Store.Interchangeable {} {} := .nil
  have hagree : Resolution.Agree Store.Interchangeable ResolveError.Similar Eq
      (r.resolveWith specifier parent conditions)
      ({ r with fs := fs' }.resolveWith specifier parent conditions) := by
    refine agree_resolveWith ResolveError.keepsKinds_similar ?_ ?_ specifier parent conditions
    · exact Store.agree_reordered hfs
    · rfl
  exact (hagree hempty).1

/-- The manifest of a project with two imports that are equally specific. -/
theorem Manifest.parse_twoImports (path : FilePath) :
    Manifest.parse path "\x7b\"imports\":\x7b\"#*a\":\"./x/*.js\",\"#*b\":\"./y/*.js\"\x7d\x7d" =
        .ok { path, name := none, type := none, main := none, exports := none,
              imports := some [("#*a", .literal "./x/*.js"), ("#*b", .literal "./y/*.js")] } ∧
      Manifest.parse path "\x7b\"imports\":\x7b\"#*b\":\"./y/*.js\",\"#*a\":\"./x/*.js\"\x7d\x7d" =
        .ok { path, name := none, type := none, main := none, exports := none,
              imports := some [("#*b", .literal "./y/*.js"), ("#*a", .literal "./x/*.js")] } := by
  have hfront : Json.parse? depthLimit
        "\x7b\"imports\":\x7b\"#*a\":\"./x/*.js\",\"#*b\":\"./y/*.js\"\x7d\x7d" =
      some (.object [("imports", .object [("#*a", .string "./x/*.js"),
        ("#*b", .string "./y/*.js")])]) := by cbv
  have hback : Json.parse? depthLimit
        "\x7b\"imports\":\x7b\"#*b\":\"./y/*.js\",\"#*a\":\"./x/*.js\"\x7d\x7d" =
      some (.object [("imports", .object [("#*b", .string "./y/*.js"),
        ("#*a", .string "./x/*.js")])]) := by cbv
  unfold Manifest.parse
  rw [hfront, hback]
  exact ⟨rfl, rfl⟩

/-- A project `/p` with a manifest of the given text and one file. -/
def FileSystem.ofManifest (source : String) : FileSystem where
  isPresent path := path = .ofString "/p/package.json" || path = .ofString "/p/x/1.js"
  isDir _ := false
  readText path :=
    if path = .ofString "/p/package.json" then .ok source else .error "no such file"
  canonicalize := .ok

theorem FileSystem.readText_ofManifest (source : String) :
    (ofManifest source).readText (.ofString "/p/package.json") = .ok source := by
  simp only [ofManifest, if_true]

/-- Of two imports that are equally specific the one that matches is found, whichever of them is
declared first. -/
theorem Resolver.outcome_independent_of_key_order_of_tie :
    let fs : FileSystem := .ofManifest
      "\x7b\"imports\":\x7b\"#*a\":\"./x/*.js\",\"#*b\":\"./y/*.js\"\x7d\x7d"
    let fs' : FileSystem := .ofManifest
      "\x7b\"imports\":\x7b\"#*b\":\"./y/*.js\",\"#*a\":\"./x/*.js\"\x7d\x7d"
    let r : Resolver := { fs, platform := .node, conditions := .ofList [], cwd := .ofString "/p" }
    let parent : Url :=
      { scheme := "file", authority := some { host := "" }, path := .segments ["p", "m.js"] }
    fs.Reordered fs' ∧
      OutcomeRel ResolveError.Similar Eq
        ((r.resolveWith "#1a" parent r.conditions).run.run {}).1
        (({ r with fs := fs' }.resolveWith "#1a" parent r.conditions).run.run {}).1 := by
  intro fs fs' r parent
  have hfs : fs.Reordered fs' := by
    refine ⟨fun _ => rfl, fun _ => rfl, fun _ => rfl, fun path => ?_⟩
    by_cases hpath : path = .ofString "/p/package.json"
    · subst hpath
      obtain ⟨hparse, hparse'⟩ := Manifest.parse_twoImports (.ofString "/p/package.json")
      refine Or.inr ⟨_, _, _, _, FileSystem.readText_ofManifest _,
        FileSystem.readText_ofManifest _, hparse, hparse', ?_⟩
      exact ⟨rfl, rfl, rfl, rfl, .none, .some (.swap _ _ _)⟩
    · refine Or.inl ?_
      simp only [fs, fs', FileSystem.ofManifest, if_neg hpath]
  exact ⟨hfs, outcome_independent_of_key_order r hfs "#1a" parent r.conditions⟩

end ModuleGraph
