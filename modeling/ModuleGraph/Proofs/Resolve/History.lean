import ModuleGraph.Proofs.Graph.Coupling
import ModuleGraph.Proofs.Store.Transparency
import Mathlib.Data.List.Forall2

/-!
# Answers do not depend on the history

Everything a resolver can be asked for is an `Operation`. A resolver that has been used answers
each of them as a fresh one does, in whatever order it has been asked before and whatever has
failed, and so do the tasks that share it.
-/

set_option autoImplicit false

namespace ModuleGraph

/-- What a resolver and its store can be asked for. -/
inductive Operation where
  | resolve (specifier : String) (parent : Url)
  | resolveWith (specifier : String) (parent : Url) (conditions : ConditionSet)
  | resolvePath (specifier : String) (importer : Option FilePath)
  | classify (location : Url)
  | clearCache
  | lookUpScope (dir : FilePath)
  | read (dir : FilePath)
  | find (dir : FilePath)
  | clear

/-- What an operation answers. -/
inductive Answer where
  | location (outcome : Except ResolveError Resolved)
  | format (outcome : Except ResolveError Format)
  | scope (dir : Option FilePath)
  | manifest (outcome : Except ResolveError (Option Manifest))
  | done

/-- Whether two answers are the same, down to the text of a failure. Manifests may have been
found under different spellings of one path. -/
inductive Answer.Same : Answer → Answer → Prop
  | refl (answer : Answer) : Same answer answer
  | manifest {x y : Except ResolveError (Option Manifest)} :
      SameOutcome (Option.Rel Manifest.Alike) x y → Same (.manifest x) (.manifest y)

namespace Operation

/-- Carries out an operation. -/
def run (r : Resolver) : Operation → StateM Store Answer
  | .resolve specifier parent => return .location (← (r.resolve specifier parent).run)
  | .resolveWith specifier parent conditions =>
      return .location (← (r.resolveWith specifier parent conditions).run)
  | .resolvePath specifier importer =>
      return .location (← (r.resolvePath specifier importer).run)
  | .classify location => return .format (← (Format.classify r.fs location).run)
  | .lookUpScope dir => return .scope ((← get).scope? r.fs dir)
  | .read dir => return .manifest (← (Store.read r.fs dir).run)
  | .find dir => return .manifest (← (Store.find r.fs dir).run)
  | .clearCache | .clear => do
      set Store.clear
      return .done

/-- The answer of a resolver that has not been used. -/
def fresh (r : Resolver) (op : Operation) : Answer := ((op.run r).run {}).1

/-- The answers of a sequence of operations and the store they leave. -/
def runAll (r : Resolver) : List Operation → StateM Store (List Answer)
  | [] => return []
  | op :: ops => return (← op.run r) :: (← runAll r ops)

variable {r : Resolver} {S : Store → Store → Prop}

theorem coupled_run (hS : Store.Couples r.fs S) (hempty : S {} {}) (op : Operation) :
    Coupled S Answer.Same (op.run r) (op.run r) := by
  have hlocation {x : Resolution Resolved} (hx : Resolution.Coupled S Eq x x) :
      Coupled S Answer.Same (do return .location (← x.run)) (do return .location (← x.run)) :=
    Coupled.bind hx fun _ _ heq => .pure (heq.eq ▸ .refl _)
  have hmanifest {x : Resolution (Option Manifest)}
      (hx : Resolution.Coupled S (Option.Rel Manifest.Alike) x x) :
      Coupled S Answer.Same (do return .manifest (← x.run)) (do return .manifest (← x.run)) :=
    Coupled.bind hx fun _ _ hab => .pure (.manifest hab)
  cases op with
  | resolve specifier parent => exact hlocation (Resolver.coupled_resolveWith hS ..)
  | resolveWith specifier parent conditions => exact hlocation (Resolver.coupled_resolveWith hS ..)
  | resolvePath specifier importer => exact hlocation (Resolver.coupled_resolvePath hS ..)
  | classify location =>
      exact Coupled.bind (Format.coupled_classify hS location) fun _ _ heq =>
        .pure (heq.eq ▸ .refl _)
  | lookUpScope dir =>
      intro s t hst
      obtain ⟨hscope, hst'⟩ := hS.scope dir hst
      refine ⟨?_, hst'⟩
      have heq : s.scope? r.fs dir = t.scope? r.fs dir := Except.ok.inj hscope.eq
      show Answer.Same (.scope (s.scope? r.fs dir)) (.scope (t.scope? r.fs dir))
      rw [heq]
      exact .refl _
  | read dir => exact hmanifest (hS.read dir)
  | find dir => exact hmanifest (Store.coupled_find hS dir)
  -- an emptied store is coupled with an empty one, whatever was in it
  | clearCache => exact fun _ _ _ => ⟨.refl _, hempty⟩
  | clear => exact fun _ _ _ => ⟨.refl _, hempty⟩

/-- What is reached from a store that reflects the file system reflects it too, and the answers
on the way are those of fresh resolvers. -/
theorem runAll_reflects (hfs : r.fs.IgnoresSpelling) (ops : List Operation) (store : Store)
    (hstore : store.Reflects r.fs) :
    List.Forall₂ Answer.Same ((runAll r ops).run store).1 (ops.map (fresh r)) ∧
      ((runAll r ops).run store).2.Reflects r.fs := by
  have hS := Store.couples_reflects hfs
  have hempty : Store.Reflects r.fs {} := Store.reflects_empty
  induction ops generalizing store with
  | nil => exact ⟨.nil, hstore⟩
  | cons op ops ih =>
      obtain ⟨hanswer, hstore', -⟩ := coupled_run hS ⟨hempty, hempty⟩ op ⟨hstore, hempty⟩
      obtain ⟨hanswers, hend⟩ := ih _ hstore'
      exact ⟨.cons hanswer hanswers, hend⟩

/-- After any history every operation answers as on a fresh resolver, and every task that shares
the resolver sends the message it would send on its own. -/
theorem answers_independent_of_history (hfs : r.fs.IgnoresSpelling) (ops : List Operation) :
    List.Forall₂ Answer.Same ((runAll r ops).run {}).1 (ops.map (fresh r)) ∧
      ∀ (ctx : LoadContext) (task : Task), ctx.resolver = r →
        ((task.run ctx).run ((runAll r ops).run {}).2).1 = ((task.run ctx).run {}).1 := by
  have hempty : Store.Reflects r.fs {} := Store.reflects_empty
  obtain ⟨hanswers, hend⟩ := runAll_reflects hfs ops {} hempty
  refine ⟨hanswers, ?_⟩
  rintro ctx task rfl
  exact (Task.coupled_run (Store.couples_reflects hfs) task ⟨hend, hempty⟩).1

/-- A history that fills the store: the manifest of `/p` is remembered, and that `/p/q` has none.
The manifest of `/p/b` is no object and fails every time it is read. They are asked for again under
other spellings, with the store filled and after it has been cleared. -/
theorem answers_independent_of_history_of_filled_store :
    let t : Tree :=
      ⟨[([Text.utf8 "p"], .directory), ([Text.utf8 "p", Text.utf8 "q"], .directory),
        ([Text.utf8 "p", Text.utf8 "b"], .directory),
        ([Text.utf8 "p", Text.utf8 "package.json"],
          .file { content := .ok (Text.utf8 "\x7b\x7d") }),
        ([Text.utf8 "p", Text.utf8 "b", Text.utf8 "package.json"],
          .file { content := .ok (Text.utf8 "[]") })]⟩
    let r : Resolver :=
      { fs := t.fileSystem, platform := .node, conditions := .ofList [], cwd := .ofString "/p" }
    let reads : List Operation :=
      [.read (.ofString "/p"), .read (.ofString "/p/q"), .read (.ofString "/p/b")]
    let ops : List Operation :=
      reads ++ [.find (.ofString "/p/./q"), .read (.ofString "/p/q/"), .read (.ofString "/p//b"),
        .lookUpScope (.ofString "/p/q"), .clearCache, .resolvePath "./a" none,
        .read (.ofString "/p/b/"), .find (.ofString "/p/q/.")]
    (((runAll r reads).run {}).2.entries.map fun entry => (entry.1, entry.2.isSome)) =
        [((FilePath.ofString "/p/q").components, false),
          ((FilePath.ofString "/p").components, true)] ∧
      List.Forall₂ Answer.Same ((runAll r ops).run {}).1 (ops.map (fresh r)) ∧
      ∀ (ctx : LoadContext) (task : Task), ctx.resolver = r →
        ((task.run ctx).run ((runAll r ops).run {}).2).1 = ((task.run ctx).run {}).1 := by
  intro t r reads ops
  have hfilled : (((runAll r reads).run {}).2.entries.map fun entry => (entry.1, entry.2.isSome)) =
      [((FilePath.ofString "/p/q").components, false),
        ((FilePath.ofString "/p").components, true)] := by decide +kernel
  exact ⟨hfilled, answers_independent_of_history (Tree.fileSystem_ignoresSpelling _) ops⟩

end Operation

end ModuleGraph
