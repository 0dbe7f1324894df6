import ModuleGraph.Proofs.Package.Selection
import ModuleGraph.Proofs.Resolve.Evaluation
import ModuleGraph.Proofs.Resolve.Nearest
import ModuleGraph.Proofs.Resolve.Results

/-!
# Entering a package through its exports

What a package with `exports` answers can be traced back. One entry of the exports is selected for
a subpath (`Package.Selects`), from its target the way goes down along branches that hold and items
behind such as are passed over (`Target.LeadsTo`), and the literal at its end names a file of the
package (`TargetContext.NamesFile`). Any such way is one that is taken, so the three relations say
when a package is entered, and where.
-/

set_option autoImplicit false

namespace ModuleGraph

open Text

/-! ## Literals -/

/-- A literal that starts with `./` names a file of the package: neither what follows nor what its
stars stand for has a segment that leaves the package, and the location is read from the literal
with its stars replaced. -/
structure TargetContext.NamesFile (ctx : TargetContext) (text : String) (u : Url) : Prop where
  inner : ∃ inner, text.toList = '.' :: '/' :: inner ∧ hasInvalidSegment inner = false
  captured : ∀ captured ∈ ctx.captured, hasInvalidSegment captured.toList = false
  join : ctx.packageUrl.join? (substitute? ctx.captured text) = some u

namespace TargetContext

variable {ctx : TargetContext} {text : String} {u : Url}

theorem innerLocation_eq_ok_iff {inner : List Char} :
    ctx.innerLocation text inner = .ok u ↔ hasInvalidSegment inner = false ∧
      (∀ captured ∈ ctx.captured, hasInvalidSegment captured.toList = false) ∧
      ctx.packageUrl.join? (substitute? ctx.captured text) = some u := by
  have hfilter : (ctx.captured.filter fun captured => hasInvalidSegment captured.toList) = none ↔
      ∀ captured ∈ ctx.captured, hasInvalidSegment captured.toList = false := by
    simp only [Option.filter_eq_none_iff, Option.mem_def, Bool.not_eq_true]
  rw [innerLocation, ← hfilter]
  by_cases hinner : hasInvalidSegment inner = true
  · simp [hinner]
  · rw [if_neg hinner]
    cases ctx.captured.filter fun captured => hasInvalidSegment captured.toList with
    | some captured => simp
    | none =>
        dsimp only
        cases ctx.packageUrl.join? (substitute? ctx.captured text) with
        | none => simp
        | some location => simp [hinner]

/-- Where no package may be entered, a literal leads to the file it names or nowhere. -/
theorem run_literal_eq_ok_iff (henter : ctx.enter = none) (store : Store) :
    ((ctx.literal text).run.run store).1 = .ok u ↔ ctx.NamesFile text u := by
  rw [literal]
  cases hfront : stripFront? ['.', '/'] text.toList with
  | none =>
      rw [henter]
      constructor
      · intro h
        cases h
      · intro h
        obtain ⟨inner, hinner, -⟩ := h.inner
        rw [stripFront?_eq_some.2 hinner] at hfront
        cases hfront
  | some inner =>
      have htext : text.toList = '.' :: '/' :: inner := stripFront?_eq_some.1 hfront
      dsimp only
      rw [Resolution.run_ofExcept, innerLocation_eq_ok_iff]
      constructor
      · intro h
        exact ⟨⟨inner, htext, h.1⟩, h.2.1, h.2.2⟩
      · intro h
        obtain ⟨inner', htext', hguard⟩ := h.inner
        have hsame : inner = inner' := by simpa [htext] using htext'
        exact ⟨hsame ▸ hguard, h.captured, h.join⟩

end TargetContext

/-! ## Ways down a target -/

namespace Target

/-- From a target the way leads down to a literal: in a conditional along a branch that holds, while
those in front of it do not hold or offer nothing, and in a list along an item behind such as are
passed over. -/
inductive LeadsTo (ctx : TargetContext) (store : Store) : Target → String → Prop
  | literal (text : String) : LeadsTo ctx store (.literal text) text
  | branch {front back : TargetMap} {key : String} {target : Target} {text : String}
      (hindex : ∀ branch ∈ front ++ (key, target) :: back, isArrayIndex branch.1 = false)
      (hfront : ∀ branch ∈ front, ctx.conditions.holds branch.1 = true →
        ((branch.2.resolve ctx).run.run store).1 = .ok none)
      (hkey : ctx.conditions.holds key = true) (h : LeadsTo ctx store target text) :
      LeadsTo ctx store (.conditional (front ++ (key, target) :: back)) text
  | item {front back : List Target} {target : Target} {text : String}
      (hfront : ∀ item ∈ front, PassedOver ((item.resolve ctx).run.run store).1)
      (h : LeadsTo ctx store target text) :
      LeadsTo ctx store (.list (front ++ target :: back)) text

variable {ctx : TargetContext} {store : Store}

/-- The way ends at a leaf of the tree. -/
theorem LeadsTo.mem_literals {target : Target} {text : String}
    (h : LeadsTo ctx store target text) : text ∈ target.literals := by
  induction h with
  | literal text =>
      rw [literals]
      exact List.mem_singleton_self text
  | branch _ _ _ _ ih =>
      rw [literals]
      exact literals_subset_of_mem (List.mem_append_right _ List.mem_cons_self) ih
  | item _ _ ih =>
      rw [literals]
      exact literals_subset_of_mem_items (List.mem_append_right _ List.mem_cons_self) ih

/-- Branches that do not hold or offer nothing are as good as not there. -/
theorem run_resolveBranches_append (henter : ctx.enter = none) {front back : TargetMap}
    (hfront : ∀ branch ∈ front, ctx.conditions.holds branch.1 = true →
      ((branch.2.resolve ctx).run.run store).1 = .ok none) :
    (resolveBranches ctx (front ++ back)).run.run store =
      (resolveBranches ctx back).run.run store := by
  induction front with
  | nil => rfl
  | cons branch front ih =>
      obtain ⟨key, target⟩ := branch
      obtain ⟨hhead, hrest⟩ := List.forall_mem_cons.1 hfront
      rw [List.cons_append]
      by_cases hkey : ctx.conditions.holds key = true
      · rw [run_resolveBranches_of_none hkey (hhead hkey),
          (ignoresStore_resolve henter target).run_snd, ih hrest]
      · rw [run_resolveBranches_idle (Bool.eq_false_iff.2 hkey), ih hrest]

/-- Items that are passed over are as good as not there. -/
theorem run_resolveItems_append_of_passedOver (henter : ctx.enter = none)
    {front back : List Target}
    (hfront : ∀ item ∈ front, PassedOver ((item.resolve ctx).run.run store).1) :
    (resolveItems ctx (front ++ back)).run.run store =
      (resolveItems ctx back).run.run store := by
  induction front with
  | nil => rfl
  | cons item front ih =>
      obtain ⟨hhead, hrest⟩ := List.forall_mem_cons.1 hfront
      rw [List.cons_append, run_resolveItems_of_passedOver hhead,
        (ignoresStore_resolve henter item).run_snd, ih hrest]

/-- What the literal at the end of a way names is what the target resolves to. -/
theorem LeadsTo.run_resolve (henter : ctx.enter = none) {target : Target} {text : String} {u : Url}
    (h : LeadsTo ctx store target text) (hnames : ctx.NamesFile text u) :
    ((target.resolve ctx).run.run store).1 = .ok (some u) := by
  induction h with
  | literal text =>
      have hliteral := (TargetContext.run_literal_eq_ok_iff henter store).2 hnames
      rw [resolve, Resolution.run_bind]
      cases hrun : (ctx.literal text).run.run store with
      | mk outcome later =>
          rw [hrun] at hliteral
          obtain rfl : outcome = .ok u := hliteral
          rfl
  | @branch front back key target text hindex hfront hkey _ ih =>
      have hsome := ih hnames
      rw [run_resolve_conditional, find?_isArrayIndex_eq_none.2 hindex]
      dsimp only
      rw [run_resolveBranches_append henter hfront, run_resolveBranches_of_ne_none hkey, hsome]
      rw [hsome]
      simp
  | @item front back target text hfront _ ih =>
      have hsome := ih hnames
      rw [run_resolve_list, run_resolveItems_append_of_passedOver henter hfront,
        run_resolveItems_of_not_passedOver, hsome]
      rw [hsome]
      exact not_passedOver_some u

mutual

/-- Whatever a target resolves to is named by the literal at the end of a way. -/
theorem exists_leadsTo_of_resolve (henter : ctx.enter = none) (target : Target) {u : Url}
    (h : ((target.resolve ctx).run.run store).1 = .ok (some u)) :
    ∃ text, LeadsTo ctx store target text ∧ ctx.NamesFile text u := by
  cases target with
  | literal text =>
      refine ⟨text, .literal text, (TargetContext.run_literal_eq_ok_iff henter store).1 ?_⟩
      rw [resolve, Resolution.run_bind] at h
      cases hrun : (ctx.literal text).run.run store with
      | mk outcome later =>
          rw [hrun] at h
          cases outcome with
          | error e => cases h
          | ok v => exact congrArg Except.ok (Option.some.inj (Except.ok.inj h))
  | conditional branches =>
      rw [run_resolve_conditional] at h
      cases hindex : (branches.map Prod.fst).find? isArrayIndex with
      | some key =>
          rw [hindex] at h
          cases h
      | none =>
          rw [hindex] at h
          obtain ⟨front, key, next, back, text, rfl, hfront, hkey, hway, hnames⟩ :=
            exists_leadsTo_of_resolveBranches henter branches h
          exact ⟨text, .branch (find?_isArrayIndex_eq_none.1 hindex) hfront hkey hway, hnames⟩
  | list items =>
      rw [run_resolve_list] at h
      obtain ⟨front, next, back, text, rfl, hfront, hway, hnames⟩ :=
        exists_leadsTo_of_resolveItems henter items h
      exact ⟨text, .item hfront hway, hnames⟩
  | null =>
      rw [resolve] at h
      cases h
  | invalid text =>
      rw [resolve] at h
      cases h

theorem exists_leadsTo_of_resolveBranches (henter : ctx.enter = none) (branches : TargetMap)
    {u : Url} (h : ((resolveBranches ctx branches).run.run store).1 = .ok (some u)) :
    ∃ front key target back text, branches = front ++ (key, target) :: back ∧
      (∀ branch ∈ front, ctx.conditions.holds branch.1 = true →
        ((branch.2.resolve ctx).run.run store).1 = .ok none) ∧
      ctx.conditions.holds key = true ∧ LeadsTo ctx store target text ∧ ctx.NamesFile text u := by
  cases branches with
  | nil =>
      rw [run_resolveBranches_nil] at h
      cases h
  | cons branch rest =>
      obtain ⟨key, target⟩ := branch
      by_cases hdecides : ctx.conditions.holds key = true ∧
          ((target.resolve ctx).run.run store).1 ≠ .ok none
      · obtain ⟨hkey, hne⟩ := hdecides
        rw [run_resolveBranches_of_ne_none hkey hne] at h
        obtain ⟨text, hway, hnames⟩ := exists_leadsTo_of_resolve henter target h
        exact ⟨[], key, target, rest, text, rfl, by simp, hkey, hway, hnames⟩
      · -- the branch does not hold or offers nothing, so the way goes along one behind it
        have hnone : ctx.conditions.holds key = true →
            ((target.resolve ctx).run.run store).1 = .ok none := by simpa using hdecides
        have hfirst : ∀ branch ∈ [(key, target)], ctx.conditions.holds branch.1 = true →
            ((branch.2.resolve ctx).run.run store).1 = .ok none :=
          List.forall_mem_singleton.2 hnone
        rw [← List.singleton_append, run_resolveBranches_append henter hfirst] at h
        obtain ⟨front, key', target', back, text, rfl, hfront, hway⟩ :=
          exists_leadsTo_of_resolveBranches henter rest h
        exact ⟨(key, target) :: front, key', target', back, text, rfl,
          List.forall_mem_cons.2 ⟨hnone, hfront⟩, hway⟩

theorem exists_leadsTo_of_resolveItems (henter : ctx.enter = none) (items : List Target) {u : Url}
    (h : ((resolveItems ctx items).run.run store).1 = .ok (some u)) :
    ∃ front target back text, items = front ++ target :: back ∧
      (∀ item ∈ front, PassedOver ((item.resolve ctx).run.run store).1) ∧
      LeadsTo ctx store target text ∧ ctx.NamesFile text u := by
  cases items with
  | nil =>
      rw [run_resolveItems_nil] at h
      cases h
  | cons target rest =>
      by_cases hover : PassedOver ((target.resolve ctx).run.run store).1
      · have hfirst : ∀ item ∈ [target], PassedOver ((item.resolve ctx).run.run store).1 :=
          List.forall_mem_singleton.2 hover
        rw [← List.singleton_append, run_resolveItems_append_of_passedOver henter hfirst] at h
        obtain ⟨front, target', back, text, rfl, hfront, hway⟩ :=
          exists_leadsTo_of_resolveItems henter rest h
        exact ⟨target :: front, target', back, text, rfl,
          List.forall_mem_cons.2 ⟨hover, hfront⟩, hway⟩
      · rw [run_resolveItems_of_not_passedOver hover] at h
        obtain ⟨text, hway, hnames⟩ := exists_leadsTo_of_resolve henter target h
        exact ⟨[], target, rest, text, rfl, by simp, hway, hnames⟩

end

/-- Where no package may be entered, a target resolves to what the literal at the end of a way
names, and to nothing else. -/
theorem run_resolve_eq_some_iff (henter : ctx.enter = none) {target : Target} {u : Url} :
    ((target.resolve ctx).run.run store).1 = .ok (some u) ↔
      ∃ text, LeadsTo ctx store target text ∧ ctx.NamesFile text u :=
  ⟨exists_leadsTo_of_resolve henter target,
    fun ⟨_, hway, hnames⟩ => hway.run_resolve henter hnames⟩

end Target

/-! ## Entries -/

namespace Package

/-- The entry of a map that is selected for a key: the one under the key itself, unless the key has
a star, and otherwise that of the pattern that wins, with what its star stands for. -/
inductive EntryFor (map : TargetMap) (key : String) : Target → Option String → Prop
  | exact {target : Target} (hstar : '*' ∉ key.toList) (hlookup : map.lookup key = some target) :
      EntryFor map key target none
  | pattern {target : Target} {pattern front captured back : String}
      (hother : '*' ∈ key.toList ∨ map.lookup key = none)
      (hstars : ∀ k ∈ map.map Prod.fst, Pattern.starCount k ≤ 1)
      (hwins : Pattern.Wins (map.map Prod.fst) key pattern front captured back)
      (hlookup : map.lookup pattern = some target) :
      EntryFor map key target (some captured)

/-- What `exports` has for a subpath: all of it for the package itself if no key is a subpath, and
otherwise the entry that is selected among keys that are all subpaths. -/
inductive Selects (exports : Target) : String → Target → Option String → Prop
  | whole (hkeys : ∀ map, exports = .conditional map → ∀ branch ∈ map,
      isSubpathKey branch.1 = false) :
      Selects exports PackageSpecifier.rootSubpath exports none
  | main {map : TargetMap} {target : Target} (hexports : exports = .conditional map)
      (hkeys : ∀ branch ∈ map, isSubpathKey branch.1 = true)
      (hlookup : map.lookup PackageSpecifier.rootSubpath = some target) :
      Selects exports PackageSpecifier.rootSubpath target none
  | entry {map : TargetMap} {subpath : String} {target : Target} {captured : Option String}
      (hexports : exports = .conditional map)
      (hkeys : ∀ branch ∈ map, isSubpathKey branch.1 = true)
      (hne : subpath ≠ PackageSpecifier.rootSubpath)
      (hentry : EntryFor map subpath target captured) :
      Selects exports subpath target captured

variable {map : TargetMap} {key subpath : String} {exports target target' : Target}
  {captured captured' : Option String} {store : Store} {u : Url}

theorem EntryFor.exists_lookup (h : EntryFor map key target captured) :
    ∃ k, map.lookup k = some target := by
  cases h with
  | exact _ hlookup => exact ⟨key, hlookup⟩
  | pattern _ _ _ hlookup => exact ⟨_, hlookup⟩

theorem EntryFor.unique (h : EntryFor map key target captured)
    (h' : EntryFor map key target' captured') : target = target' ∧ captured = captured' := by
  cases h with
  | exact hstar hlookup =>
      cases h' with
      | exact _ hlookup' => exact ⟨Option.some.inj (hlookup.symm.trans hlookup'), rfl⟩
      | pattern hother =>
          rcases hother with hstar' | hnone
          · exact absurd hstar' hstar
          · rw [hlookup] at hnone
            cases hnone
  | pattern hother _ hwins hlookup =>
      cases h' with
      | exact hstar hlookup' =>
          rcases hother with hstar' | hnone
          · exact absurd hstar' hstar
          · rw [hlookup'] at hnone
            cases hnone
      | pattern _ _ hwins' hlookup' =>
          obtain ⟨rfl, -, rfl, -⟩ := hwins.unique hwins'
          exact ⟨Option.some.inj (hlookup.symm.trans hlookup'), rfl⟩

/-- A conditional with an entry cannot have only subpaths for keys and none. -/
theorem not_subpaths_of_lookup (hlookup : map.lookup key = some target)
    (hkeys : ∀ branch ∈ map, isSubpathKey branch.1 = true)
    (hnone : ∀ branch ∈ map, isSubpathKey branch.1 = false) : False := by
  obtain ⟨front, back, rfl, -⟩ := List.lookup_eq_some_iff.1 hlookup
  have hmem : (key, target) ∈ front ++ (key, target) :: back :=
    List.mem_append_right _ List.mem_cons_self
  have hsame := (hkeys _ hmem).symm.trans (hnone _ hmem)
  cases hsame

/-- No more than one target is selected for a subpath. -/
theorem Selects.unique (h : Selects exports subpath target captured)
    (h' : Selects exports subpath target' captured') : target = target' ∧ captured = captured' := by
  cases h with
  | whole hnone =>
      cases h' with
      | whole => exact ⟨rfl, rfl⟩
      | main hexports hkeys hlookup =>
          exact (not_subpaths_of_lookup hlookup hkeys (hnone _ hexports)).elim
      | entry _ _ hne => exact absurd rfl hne
  | main hexports hkeys hlookup =>
      cases h' with
      | whole hnone => exact (not_subpaths_of_lookup hlookup hkeys (hnone _ hexports)).elim
      | main hexports' _ hlookup' =>
          obtain rfl := Target.conditional.inj (hexports.symm.trans hexports')
          exact ⟨Option.some.inj (hlookup.symm.trans hlookup'), rfl⟩
      | entry _ _ hne => exact absurd rfl hne
  | entry hexports _ hne hentry =>
      cases h' with
      | whole => exact absurd rfl hne
      | main => exact absurd rfl hne
      | entry hexports' _ _ hentry' =>
          obtain rfl := Target.conditional.inj (hexports.symm.trans hexports')
          exact hentry.unique hentry'

/-- What is selected is part of the exports. -/
theorem Selects.literals_subset (h : Selects exports subpath target captured) :
    target.literals ⊆ exports.literals := by
  cases h with
  | whole => exact List.Subset.refl _
  | main hexports _ hlookup =>
      rw [hexports, Target.literals]
      exact Target.literals_subset_of_lookup hlookup
  | entry hexports _ _ hentry =>
      obtain ⟨k, hlookup⟩ := hentry.exists_lookup
      rw [hexports, Target.literals]
      exact Target.literals_subset_of_lookup hlookup

theorem exactEntry_eq_some_iff :
    (if key.toList.contains '*' then none else map.lookup key) = some target ↔
      '*' ∉ key.toList ∧ map.lookup key = some target := by
  by_cases hstar : '*' ∈ key.toList
  · simp [hstar]
  · simp [hstar]

theorem exactEntry_eq_none_iff :
    (if key.toList.contains '*' then none else map.lookup key) = none ↔
      '*' ∈ key.toList ∨ map.lookup key = none := by
  by_cases hstar : '*' ∈ key.toList
  · simp [hstar]
  · simp [hstar]

/-- The entry that is selected for a key is resolved. -/
theorem EntryFor.run_resolveKey (h : EntryFor map key target captured) (ctx : TargetContext) :
    (resolveKey ctx key map).run.run store =
      (target.resolve { ctx with captured }).run.run store := by
  cases h with
  | exact hstar hlookup => rw [resolveKey, exactEntry_eq_some_iff.2 ⟨hstar, hlookup⟩]
  | @pattern pattern front captured back hother hstars hwins hlookup =>
      have hmatch : Pattern.match? key map = .ok (some ⟨target, captured⟩) :=
        (Pattern.match?_eq_some_iff hstars).2 ⟨pattern, front, back, hwins, hlookup⟩
      rw [resolveKey, exactEntry_eq_none_iff.2 hother, hmatch]
      rfl

/-- A key for which no entry is selected offers nothing, unless the map has a key of several
stars. -/
theorem run_resolveKey_of_no_entry (h : ∀ target captured, ¬ EntryFor map key target captured)
    (ctx : TargetContext) :
    ((resolveKey ctx key map).run.run store).1 = .ok none ∨
      ∃ detail, ((resolveKey ctx key map).run.run store).1 =
        .error ⟨.invalidConfiguration, detail⟩ := by
  cases hexact : (if key.toList.contains '*' then none else map.lookup key) with
  | some target =>
      obtain ⟨hstar, hlookup⟩ := exactEntry_eq_some_iff.1 hexact
      exact absurd (.exact hstar hlookup) (h target none)
  | none =>
      have hother := exactEntry_eq_none_iff.1 hexact
      rw [resolveKey, hexact]
      by_cases hstars : ∀ k ∈ map.map Prod.fst, Pattern.starCount k ≤ 1
      · cases hmatch : Pattern.firstMatch? key map (Pattern.candidates map) with
        | none =>
            rw [Pattern.match?_of_stars hstars, hmatch]
            exact Or.inl rfl
        | some found =>
            have hfound : Pattern.match? key map = .ok (some found) := by
              rw [Pattern.match?_of_stars hstars, hmatch]
            -- the pattern that wins would have been selected
            obtain ⟨pattern, front, back, hwins, hlookup⟩ :=
              Pattern.exists_wins_of_match? hstars hfound
            have hentry : EntryFor map key found.target (some found.captured) :=
              .pattern hother hstars hwins hlookup
            exact absurd hentry (h _ _)
      · have hmany : ∃ k ∈ map.map Prod.fst, 1 < Pattern.starCount k := by
          simpa only [not_forall, Nat.not_le, exists_prop] using hstars
        obtain ⟨k, -, -, hrefused⟩ := Pattern.match?_of_many_stars hmany key
        rw [hrefused]
        exact Or.inr ⟨_, rfl⟩

/-! ## Exports -/

theorem ExportsForm.of_root
    (h : ∀ map, exports = .conditional map → ∀ branch ∈ map, isSubpathKey branch.1 = false) :
    ExportsForm.of exports = .root exports := by
  cases exports with
  | conditional map =>
      have hany : map.any (fun branch => isSubpathKey branch.1) = false := by
        rw [List.any_eq_false]
        intro branch hbranch
        rw [h map rfl branch hbranch]
        exact Bool.false_ne_true
      simp [ExportsForm.of, hany]
  | literal text => rfl
  | list items => rfl
  | null => rfl
  | invalid text => rfl

/-- Exports that are one target have no subpath among their keys. -/
theorem ExportsForm.forall_of_eq_root (h : ExportsForm.of exports = .root target) :
    ∀ map, exports = .conditional map → ∀ branch ∈ map, isSubpathKey branch.1 = false := by
  rintro map rfl
  by_cases hany : map.any (fun branch => isSubpathKey branch.1) = true
  · rw [ExportsForm.of] at h
    simp only [if_pos hany] at h
    split at h
    · cases h
    · cases h
  · intro branch hbranch
    simpa using List.any_eq_false.1 (Bool.eq_false_iff.2 hany) branch hbranch

theorem ExportsForm.forall_of_eq_subpaths (h : ExportsForm.of exports = .subpaths map) :
    ∀ branch ∈ map, isSubpathKey branch.1 = true := by
  obtain rfl := ExportsForm.of_eq_subpaths h
  by_cases hall : map.all (fun branch => isSubpathKey branch.1) = true
  · exact List.all_eq_true.1 hall
  · rw [ExportsForm.of] at h
    simp only [if_neg hall] at h
    split at h
    · cases h
    · cases h

/-- The target that is selected for a subpath is resolved. -/
theorem Selects.run_exported (h : Selects exports subpath target captured) (packageUrl : Url)
    (conditions : ConditionSet) :
    (exported packageUrl subpath exports conditions).run.run store =
      (target.resolve { packageUrl, captured, conditions, enter := none }).run.run store := by
  cases h with
  | whole hnone =>
      rw [exported, ExportsForm.of_root hnone]
      rfl
  | @main map target hexports hkeys hlookup =>
      have hne : map ≠ [] := by
        rintro rfl
        cases hlookup
      rw [exported, hexports, ExportsForm.of_subpaths hkeys hne]
      simp only [if_true, hlookup]
  | @entry map _ _ _ hexports hkeys hroot hentry =>
      have hne : map ≠ [] := by
        rintro rfl
        obtain ⟨k, hlookup⟩ := hentry.exists_lookup
        cases hlookup
      rw [exported, hexports, ExportsForm.of_subpaths hkeys hne]
      simp only [if_neg hroot]
      exact hentry.run_resolveKey _

/-- A subpath for which nothing is selected offers nothing, unless the exports are refused. -/
theorem run_exported_of_not_selects
    (h : ∀ target captured, ¬ Selects exports subpath target captured) (packageUrl : Url)
    (conditions : ConditionSet) (store : Store) :
    ((exported packageUrl subpath exports conditions).run.run store).1 = .ok none ∨
      ∃ detail, ((exported packageUrl subpath exports conditions).run.run store).1 =
        .error ⟨.invalidConfiguration, detail⟩ := by
  cases hform : ExportsForm.of exports with
  | mixed =>
      rw [exported, hform]
      exact Or.inr ⟨_, rfl⟩
  | root target =>
      rw [exported, hform]
      obtain rfl := ExportsForm.of_eq_root hform
      by_cases hroot : subpath = PackageSpecifier.rootSubpath
      · subst hroot
        exact absurd (.whole (ExportsForm.forall_of_eq_root hform)) (h target none)
      · simp only [if_neg hroot]
        exact Or.inl rfl
  | subpaths map =>
      rw [exported, hform]
      have hkeys := ExportsForm.forall_of_eq_subpaths hform
      obtain rfl := ExportsForm.of_eq_subpaths hform
      by_cases hroot : subpath = PackageSpecifier.rootSubpath
      · subst hroot
        cases hlookup : map.lookup PackageSpecifier.rootSubpath with
        | some target => exact absurd (.main rfl hkeys hlookup) (h target none)
        | none =>
            simp only [if_true, hlookup]
            exact Or.inl rfl
      · simp only [if_neg hroot]
        exact run_resolveKey_of_no_entry
          (fun target captured hentry => h target captured (.entry rfl hkeys hroot hentry)) _

/-- Entering a package has the outcome of what its exports offer, and to offer nothing is a
failure. -/
theorem run_resolveExports (packageUrl : Url) (subpath : String) (exports : Target)
    (conditions : ConditionSet) (store : Store) :
    ((resolveExports packageUrl subpath exports conditions).run.run store).1 =
      match ((exported packageUrl subpath exports conditions).run.run store).1 with
      | .ok (some location) => .ok location
      | .ok none => .error ⟨.pathNotExported, subpath⟩
      | .error e => .error e := by
  rw [resolveExports, Resolution.run_bind]
  cases (exported packageUrl subpath exports conditions).run.run store with
  | mk outcome later =>
      cases outcome with
      | error e => rfl
      | ok found =>
          cases found with
          | none => rfl
          | some location => rfl

/-- A package is entered at a location exactly if the target that is selected leads there. -/
theorem Selects.run_resolveExports_eq_ok_iff (h : Selects exports subpath target captured)
    (packageUrl : Url) (conditions : ConditionSet) :
    ((resolveExports packageUrl subpath exports conditions).run.run store).1 = .ok u ↔
      ∃ text, target.LeadsTo { packageUrl, captured, conditions, enter := none } store text ∧
        TargetContext.NamesFile { packageUrl, captured, conditions, enter := none } text u := by
  have hresolve := @Target.run_resolve_eq_some_iff
    { packageUrl, captured, conditions, enter := none } store rfl target u
  rw [← hresolve, run_resolveExports, h.run_exported]
  cases ((target.resolve { packageUrl, captured, conditions, enter := none }).run.run store).1 with
  | error e => simp
  | ok found =>
      cases found with
      | none => simp
      | some location => simp

/-- A subpath for which nothing is selected is refused. -/
theorem run_resolveExports_of_not_selects
    (h : ∀ target captured, ¬ Selects exports subpath target captured) (packageUrl : Url)
    (conditions : ConditionSet) (store : Store) :
    ((resolveExports packageUrl subpath exports conditions).run.run store).1 =
        .error ⟨.pathNotExported, subpath⟩ ∨
      ∃ detail, ((resolveExports packageUrl subpath exports conditions).run.run store).1 =
        .error ⟨.invalidConfiguration, detail⟩ := by
  rw [run_resolveExports]
  rcases run_exported_of_not_selects h packageUrl conditions store with hnone | ⟨detail, herror⟩
  · rw [hnone]
    exact Or.inl rfl
  · rw [herror]
    exact Or.inr ⟨detail, rfl⟩

/-- A package with `exports` is entered in one way only. For a subpath no more than one target is
selected, and the package is entered exactly at what a literal of the exports names to which that
target leads, along branches that hold and behind such as offer nothing or, among alternatives, are
malformed. Where nothing is selected the package refuses, and its `main` is never asked. -/
theorem entered_through_exports_only (packageUrl : Url) (subpath : String) (exports : Target)
    (conditions : ConditionSet) (store : Store) :
    let outcome := ((resolveExports packageUrl subpath exports conditions).run.run store).1
    (∀ u, outcome = .ok u ↔ ∃ target captured text,
      let ctx : TargetContext := { packageUrl, captured, conditions, enter := none }
      Selects exports subpath target captured ∧ target.LeadsTo ctx store text ∧
        text ∈ exports.literals ∧ ctx.NamesFile text u) ∧
    (∀ target captured target' captured', Selects exports subpath target captured →
      Selects exports subpath target' captured' → target = target' ∧ captured = captured') ∧
    ((∀ target captured, ¬ Selects exports subpath target captured) →
      outcome = .error ⟨.pathNotExported, subpath⟩ ∨
        ∃ detail, outcome = .error ⟨.invalidConfiguration, detail⟩) ∧
    ∀ manifest : Manifest, manifest.exports = some exports →
      enter packageUrl subpath (some manifest) conditions =
        resolveExports packageUrl subpath exports conditions := by
  intro outcome
  have hrefused (h : ∀ target captured, ¬ Selects exports subpath target captured) :
      outcome = .error ⟨.pathNotExported, subpath⟩ ∨
        ∃ detail, outcome = .error ⟨.invalidConfiguration, detail⟩ :=
    run_resolveExports_of_not_selects h packageUrl conditions store
  refine ⟨fun u => ⟨?_, ?_⟩, fun _ _ _ _ h h' => h.unique h', hrefused,
    fun manifest hexports => enter_of_exports hexports packageUrl subpath conditions⟩
  · intro h
    by_cases hselected : ∃ target captured, Selects exports subpath target captured
    · obtain ⟨target, captured, hselects⟩ := hselected
      obtain ⟨text, hway, hnames⟩ :=
        (hselects.run_resolveExports_eq_ok_iff packageUrl conditions).1 h
      have hleaf := hselects.literals_subset hway.mem_literals
      exact ⟨target, captured, text, hselects, hway, hleaf, hnames⟩
    · have hnot : ∀ target captured, ¬ Selects exports subpath target captured :=
        fun target captured hselects => hselected ⟨target, captured, hselects⟩
      rcases hrefused hnot with hnone | ⟨detail, herror⟩
      · cases h.symm.trans hnone
      · cases h.symm.trans herror
  · rintro ⟨target, captured, text, hselects, hway, -, hnames⟩
    exact (hselects.run_resolveExports_eq_ok_iff packageUrl conditions).2 ⟨text, hway, hnames⟩

/-- A pattern whose first alternative is malformed, and whose second one offers nothing under the
first condition that holds. What `main` names is not exported. -/
theorem entered_through_exports_only_by_pattern :
    let packageUrl : Url := { scheme := "file", authority := some { host := "" },
                              path := .segments ["node_modules", "pkg", ""] }
    let target : Target :=
      .list [.invalid "7", .conditional [("node", .null), ("default", .literal "./out/*.js")]]
    let exports : Target := .conditional [("./lib/*", target), ("./lib/private/*", .null)]
    let manifest (main : Option String) : Manifest :=
      { path := .ofString "/node_modules/pkg/package.json", name := some "pkg", type := none
        main := main, exports := some exports, imports := none }
    let conditions := ConditionSet.ofList ["node", "import"]
    ((enter packageUrl "./lib/a" (some (manifest none)) conditions).run.run {}).1 =
        .ok { packageUrl with path := .segments ["node_modules", "pkg", "out", "a.js"] } ∧
      ∃ e, ((enter packageUrl "." (some (manifest (some "./main.js"))) conditions).run.run {}).1 =
        .error e := by
  intro packageUrl target exports manifest conditions
  have hkeys : ∀ branch ∈ [("./lib/*", target), ("./lib/private/*", .null)],
      isSubpathKey branch.1 = true := by simp [isSubpathKey]
  have hstars : ∀ k ∈ ["./lib/*", "./lib/private/*"], Pattern.starCount k ≤ 1 := by decide
  constructor
  · obtain ⟨hentered, -, -, hmanifest⟩ :=
      entered_through_exports_only packageUrl "./lib/a" exports conditions {}
    rw [hmanifest (manifest none) rfl]
    have hcuts : Pattern.Cuts "./lib/*" "./lib/a" "./lib/" "a" "" :=
      ⟨by decide +kernel, by decide +kernel, by decide⟩
    have hwins : Pattern.Wins ["./lib/*", "./lib/private/*"] "./lib/a" "./lib/*" "./lib/" "a" "" :=
      hcuts.wins hstars (by decide) (by decide +kernel)
    have hselects : Selects exports "./lib/a" target (some "a") :=
      .entry rfl hkeys (by decide) (.pattern (Or.inr rfl) hstars hwins rfl)
    let ctx : TargetContext := { packageUrl, captured := some "a", conditions, enter := none }
    have hbranch : Target.LeadsTo ctx {}
        (.conditional ([("node", .null)] ++ ("default", .literal "./out/*.js") :: []))
        "./out/*.js" := by
      refine .branch (by decide +kernel) ?_ rfl (.literal _)
      exact List.forall_mem_singleton.2 fun _ => rfl
    have hway : Target.LeadsTo ctx {} target "./out/*.js" := by
      refine @Target.LeadsTo.item ctx {} [.invalid "7"] [] _ _ ?_ hbranch
      exact List.forall_mem_singleton.2 (Or.inr ⟨"7", rfl⟩)
    have hnames : ctx.NamesFile "./out/*.js"
        { packageUrl with path := .segments ["node_modules", "pkg", "out", "a.js"] } :=
      ⟨⟨"out/*.js".toList, by decide +kernel, by decide +kernel⟩, by decide +kernel,
        by decide +kernel⟩
    exact (hentered _).2 ⟨target, some "a", _, hselects, hway, by decide +kernel, hnames⟩
  · obtain ⟨-, -, hrefused, hmanifest⟩ :=
      entered_through_exports_only packageUrl "." exports conditions {}
    rw [hmanifest (manifest (some "./main.js")) rfl]
    have hnone : ∀ target captured, ¬ Selects exports "." target captured := by
      intro selected captured h
      cases h with
      | whole hnone => exact absurd (hnone _ rfl _ List.mem_cons_self) (by decide)
      | main hexports _ hlookup =>
          obtain rfl := Target.conditional.inj hexports
          have habsent : [("./lib/*", target), ("./lib/private/*", .null)].lookup "." = none := rfl
          cases habsent.symm.trans hlookup
      | entry _ _ hne => exact hne rfl
    rcases hrefused hnone with h | ⟨detail, h⟩
    · exact ⟨_, h⟩
    · exact ⟨_, h⟩

end Package

end ModuleGraph
