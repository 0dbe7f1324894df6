import ModuleGraph.Graph.Scan
import ModuleGraph.Proofs.Resolve.Coupling

/-!
# Coupled scans

What a scan does with the store goes through the resolver, so its parts are coupled by whatever
couples resolutions: the resolution of entries and imports, and the tasks.
-/

set_option autoImplicit false

namespace ModuleGraph

variable {S : Store → Store → Prop}

namespace Resolver

variable {r : Resolver}

theorem coupled_resolveImport (hS : Store.Couples r.fs S) (specifier : String)
    (importer : ModuleId) :
    Resolution.Coupled S Eq (r.resolveImport specifier importer)
      (r.resolveImport specifier importer) :=
  (coupled_resolvePath hS specifier _).bind fun _ _ heq =>
    .pure (congrArg ModuleRef.ofResolved heq)

theorem coupled_resolveEntry (hS : Store.Couples r.fs S) (specifier : String) :
    Resolution.Coupled S Eq (r.resolveEntry specifier) (r.resolveEntry specifier) := by
  unfold resolveEntry
  refine (coupled_resolvePath hS specifier none).outcome.bind fun outcome _ heq => ?_
  obtain rfl := heq.eq
  cases outcome with
  | ok resolved => exact .pure rfl
  | error e =>
      dsimp only
      split
      · refine (coupled_resolvePath hS _ none).outcome.bind fun outcome _ heq => ?_
        obtain rfl := heq.eq
        cases outcome with
        | ok resolved => exact .pure rfl
        | error e => exact .throw _
      · exact .throw _

end Resolver

namespace Task

variable {ctx : LoadContext}

theorem coupled_resolveImports (hS : Store.Couples ctx.resolver.fs S) (task : Task)
    (imports : List Script.Import) :
    Coupled S Eq (task.resolveImports ctx imports) (task.resolveImports ctx imports) := by
  induction imports with
  | nil => exact .pure rfl
  | cons i rest ih =>
      unfold resolveImports
      refine Coupled.bind (Resolver.coupled_resolveImport hS i.specifier task.target.id)
        fun outcome _ heq => ?_
      obtain rfl := heq.eq
      refine ih.bind fun found _ heq => ?_
      subst heq
      cases outcome with
      | ok target => exact .pure rfl
      | error cause => exact .pure rfl

theorem coupled_run (hS : Store.Couples ctx.resolver.fs S) (task : Task) :
    Coupled S Eq (task.run ctx) (task.run ctx) := by
  unfold run
  cases task.load ctx with
  | error e => exact .pure rfl
  | ok summary =>
      refine (coupled_resolveImports hS task summary.imports).bind fun found _ heq => ?_
      subst heq
      dsimp only
      split
      · exact .pure rfl
      · exact .pure rfl

end Task

end ModuleGraph
