import ModuleGraph.Proofs.FileSystem.Spelling
import ModuleGraph.Proofs.Resolve.Coupling

/-!
# The store is transparent

A store *reflects* a file system if each of its entries is what the file system has in some
spelling of the entry's directory. Reading keeps a store so, and two stores that reflect the same
file system are alike for every resolution: what one remembers the other reads afresh.
-/

set_option autoImplicit false

namespace ModuleGraph

open FilePath

/-- Every entry has been read from the file system, under some spelling of its directory. -/
def Store.Reflects (fs : FileSystem) (store : Store) : Prop :=
  ∀ (dir : FilePath) (manifest : Option Manifest), store.find? dir = some manifest →
    ∃ dir' : FilePath, dir'.components = dir.components ∧ Store.load fs dir' = .ok manifest

namespace Store

variable {fs : FileSystem}

theorem reflects_empty : Reflects fs {} := by
  intro dir manifest h
  cases h

theorem find?_remember {store : Store} {dir : FilePath} (found : Option Manifest)
    (h : store.find? dir = none) (other : FilePath) :
    (store.remember dir found).find? other =
      if other.components = dir.components then some found else store.find? other := by
  unfold Store.remember
  rw [h]
  show List.lookup _ (_ :: _) = _
  rw [List.lookup_cons]
  by_cases heq : other.components = dir.components
  · simp [heq]
  · rw [if_neg heq, beq_eq_false_iff_ne.2 heq]
    rfl

theorem reflects_remember {store : Store} {dir : FilePath} {manifest : Option Manifest}
    (hstore : Reflects fs store) (hload : load fs dir = .ok manifest) :
    Reflects fs (store.remember dir manifest) := by
  unfold remember
  split
  · exact hstore
  · intro other found hfound
    rw [find?, List.lookup_cons] at hfound
    by_cases heq : other.components = dir.components
    · simp only [heq, beq_self_eq_true, Option.some.injEq] at hfound
      exact ⟨dir, heq.symm, hfound ▸ hload⟩
    · rw [beq_eq_false_iff_ne.2 heq] at hfound
      exact hstore other found hfound

/-! ## Manifests of spellings -/

theorem manifestName_relative : manifestName.isAbsolute = false := by decide

theorem endsInName_manifest (dir : FilePath) : (dir.join manifestName).EndsInName :=
  endsInName_join dir manifestName_relative ⟨[], _, rfl, by decide⟩

theorem components_manifest {dir dir' : FilePath} (h : dir.components = dir'.components) :
    (dir.join manifestName).components = (dir'.join manifestName).components := by
  have hdot : manifestName.pieces.head? ≠ some dot := by decide
  rw [components_join dir manifestName_relative hdot,
    components_join dir' manifestName_relative hdot, h]

/-- A manifest takes nothing but its path from where its text was found. -/
theorem parse_alike (p q : FilePath) (h : p.components = q.components) (source : String) :
    (∃ e, Manifest.parse p source = .error e ∧ Manifest.parse q source = .error e) ∨
      ∃ m n, Manifest.parse p source = .ok m ∧ Manifest.parse q source = .ok n ∧ m.Alike n := by
  unfold Manifest.parse
  cases Json.parse? Manifest.depthLimit source with
  | none => exact Or.inl ⟨_, rfl, rfl⟩
  | some value =>
      cases value with
      | object members =>
          exact Or.inr ⟨_, _, rfl, rfl, h, rfl, rfl, rfl, rfl, rfl⟩
      | _ => exact Or.inl ⟨_, rfl, rfl⟩

variable (hfs : fs.IgnoresSpelling)
include hfs

/-- What could be read under one spelling of a directory is read alike under any other. -/
theorem exists_load {dir dir' : FilePath} {m : Option Manifest}
    (hcomp : dir'.components = dir.components) (hload : load fs dir' = .ok m) :
    ∃ n, load fs dir = .ok n ∧ Option.Rel Manifest.Alike m n ∧
      m.isSome = fs.isPresent (dir.join manifestName) := by
  have hpath := components_manifest hcomp
  have hends := endsInName_manifest dir
  have hends' := endsInName_manifest dir'
  have hpresent := hfs.isPresent _ _ hends' hends hpath
  have htext := hfs.readText _ _ hends' hends hpath
  -- only the path a manifest is parsed with differs, and it is no part of what is read
  simp only [load, hpresent] at hload ⊢
  cases hp : fs.isPresent (dir.join manifestName) with
  | false =>
      rw [hp] at hload
      obtain rfl := Except.ok.inj hload
      exact ⟨none, rfl, .none, rfl⟩
  | true =>
      simp only [hp, if_true, loadManifest, htext] at hload ⊢
      cases hsource : fs.readText (dir.join manifestName) with
      | error cause =>
          rw [hsource] at hload
          cases hload
      | ok source =>
          rw [hsource] at hload
          rcases parse_alike _ _ hpath source with ⟨e, he, -⟩ | ⟨a, b, ha, hb, hab⟩
          · simp only [he] at hload
            cases hload
          · simp only [ha] at hload
            obtain rfl := Except.ok.inj hload
            simp only [hb]
            exact ⟨some b, rfl, .some hab, rfl⟩

/-- A store that reflects the file system knows of a manifest exactly where there is one. -/
theorem hasManifest_eq {store : Store} (hstore : Reflects fs store) (dir : FilePath) :
    hasManifest fs store dir = fs.isPresent (dir.join manifestName) := by
  unfold hasManifest
  cases hfound : store.find? dir with
  | none => rfl
  | some manifest =>
      obtain ⟨dir', hcomp, hload⟩ := hstore dir manifest hfound
      obtain ⟨-, -, -, hsome⟩ := exists_load hfs hcomp hload
      exact hsome

theorem scope?_eq {s t : Store} (hs : Reflects fs s) (ht : Reflects fs t) (dir : FilePath) :
    scope? fs s dir = scope? fs t dir := by
  unfold scope?
  induction dir.ancestors with
  | nil => rfl
  | cons dir rest ih =>
      unfold firstScope?
      rw [hasManifest_eq hfs hs, hasManifest_eq hfs ht, ih]

omit hfs in
theorem run_read (store : Store) (dir : FilePath) :
    (read fs dir).run.run store =
      match store.find? dir with
      | some manifest => (.ok manifest, store)
      | none =>
          match load fs dir with
          | .error e => (.error e, store)
          | .ok manifest => (.ok manifest, store.remember dir manifest) := by
  have hget : (read fs dir).run.run store =
      (match store.find? dir with
      | some manifest => pure manifest
      | none => do
          let manifest ← Resolution.ofExcept (load fs dir)
          modify fun store => store.remember dir manifest
          return manifest : Resolution (Option Manifest)).run.run store := rfl
  rw [hget]
  cases store.find? dir with
  | some manifest => rfl
  | none =>
      cases load fs dir with
      | error e => rfl
      | ok manifest => rfl

omit hfs in
theorem run_currentScope? (fs : FileSystem) (dir : FilePath) (store : Store) :
    (currentScope? fs dir).run.run store = (.ok (store.scope? fs dir), store) := rfl

omit hfs in
theorem run_find (fs : FileSystem) (dir : FilePath) (store : Store) :
    (find fs dir).run.run store =
      match store.scope? fs dir with
      | some scope => (read fs scope).run.run store
      | none => (.ok none, store) := by
  unfold find
  rw [Resolution.run_bind, run_currentScope?]
  dsimp only
  cases store.scope? fs dir with
  | some scope => rfl
  | none => rfl

/-- Through a store that reflects the file system a directory is read as without a store. -/
theorem read_reflects {store : Store} (hstore : Reflects fs store) (dir : FilePath) :
    SameOutcome (Option.Rel Manifest.Alike) (load fs dir) ((read fs dir).run.run store).1 ∧
      Reflects fs ((read fs dir).run.run store).2 := by
  rw [run_read]
  cases hfound : store.find? dir with
  | some manifest =>
      obtain ⟨dir', hcomp, hload⟩ := hstore dir manifest hfound
      obtain ⟨n, hn, halike, -⟩ := exists_load hfs hcomp hload
      rw [hn]
      exact ⟨.ok (Manifest.Alike.rel_symm halike), hstore⟩
  | none =>
      cases hload : load fs dir with
      | error e =>
          exact ⟨.error e, hstore⟩
      | ok manifest =>
          exact ⟨.ok (Manifest.Alike.rel_refl manifest), reflects_remember hstore hload⟩

/-- Stores that reflect one file system show the same scopes and hold alike manifests. -/
theorem couples_reflects : Couples fs fun s t => Reflects fs s ∧ Reflects fs t where
  scope dir := by
    intro s t hst
    refine ⟨SameOutcome.of_eq ?_, hst⟩
    show Except.ok (scope? fs s dir) = Except.ok (scope? fs t dir)
    rw [scope?_eq hfs hst.1 hst.2]
  read dir := by
    intro s t hst
    obtain ⟨hs, hs'⟩ := read_reflects hfs hst.1 dir
    obtain ⟨ht, ht'⟩ := read_reflects hfs hst.2 dir
    refine ⟨?_, hs', ht'⟩
    exact (hs.symm Manifest.Alike.rel_symm).trans Manifest.Alike.rel_trans ht

end Store

end ModuleGraph
