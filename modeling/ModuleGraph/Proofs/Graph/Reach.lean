import ModuleGraph.Proofs.Graph.Identity

/-!
# What a scan reaches

A scan goes on from a module only if the module loads: one that fails leads nowhere. What it
explores (`ModuleRef.Explored`) is therefore said of the nodes alone, those that fail among them.
Where identities are coherent it is what can be reached at all through modules that load
(`ModuleRef.Reached`), so it is the same for every schedule.
-/

set_option autoImplicit false

namespace ModuleGraph

variable {ctx : LoadContext} {targets refs : List ModuleRef} {links : List Link}

/-- The nodes that can be reached from the targets through modules that load. -/
inductive ModuleRef.Reached (ctx : LoadContext) (targets : List ModuleRef) : ModuleRef → Prop
  | target {r : ModuleRef} : r ∈ targets → Reached ctx targets r
  | link {a b : ModuleRef} : Reached ctx targets a → a.isExternal = false → a.LinksTo ctx b →
      Reached ctx targets b

/-- The nodes `refs` have been met from the targets by following `links`, and nothing is left to
follow: these are all links of the modules among the nodes, and lead to no other identity. No
identity is met twice. -/
structure ModuleRef.Explored (ctx : LoadContext) (targets refs : List ModuleRef)
    (links : List Link) : Prop where
  nodup : (refs.map ModuleRef.id).Nodup
  met : ∀ r ∈ refs, r.Met targets links
  targets_met : ∀ t ∈ targets, t.id ∈ refs.map ModuleRef.id
  links_iff : ∀ a b, (a, b) ∈ links ↔ a ∈ refs ∧ a.isExternal = false ∧ a.LinksTo ctx b
  links_met : ∀ l ∈ links, l.2.id ∈ refs.map ModuleRef.id

namespace ModuleRef

theorem Met.reached {r : ModuleRef} (h : r.Met targets links)
    (hlinks : ∀ a b, (a, b) ∈ links → a.isExternal = false ∧ a.LinksTo ctx b) :
    r.Reached ctx targets := by
  induction h with
  | target hfind => exact .target (List.mem_of_find?_eq_some hfind)
  | link _ hl _ ih => exact .link ih (hlinks _ _ hl).1 (hlinks _ _ hl).2

theorem LinksTo.known (hfs : ctx.resolver.fs.IgnoresSpelling)
    (hnames : ctx.resolver.fs.NamesAreText) {a b : ModuleRef} (h : a.LinksTo ctx b) :
    b.Known ctx.resolver.fs := by
  obtain ⟨_, _, _, hloads, hi, rfl⟩ := h
  obtain ⟨_, -, hresolves⟩ := exists_mem_of_forall₂_right hloads.follow hi
  exact .of_follow hfs hnames hresolves.target

theorem Reached.known (hfs : ctx.resolver.fs.IgnoresSpelling)
    (hnames : ctx.resolver.fs.NamesAreText) (htargets : ∀ t ∈ targets, t.Known ctx.resolver.fs)
    {r : ModuleRef} (h : r.Reached ctx targets) : r.Known ctx.resolver.fs := by
  cases h with
  | target hr => exact htargets _ hr
  | link _ _ hlink => exact hlink.known hfs hnames

namespace Explored

theorem reached (h : Explored ctx targets refs links) {r : ModuleRef} (hr : r ∈ refs) :
    r.Reached ctx targets :=
  (h.met r hr).reached fun a b hl => ((h.links_iff a b).1 hl).2

/-- Where an identity stands for one node, all that can be reached is explored. -/
theorem mem_iff_reached (h : Explored ctx targets refs links)
    (hfs : ctx.resolver.fs.IgnoresSpelling) (hnames : ctx.resolver.fs.NamesAreText)
    (htargets : ∀ t ∈ targets, t.Known ctx.resolver.fs) (r : ModuleRef) :
    r ∈ refs ↔ r.Reached ctx targets := by
  have hknown {x : ModuleRef} (hx : x.Reached ctx targets) : x.Known ctx.resolver.fs :=
    hx.known hfs hnames htargets
  have hmem {x : ModuleRef} (hx : x.Reached ctx targets) (hid : x.id ∈ refs.map ModuleRef.id) :
      x ∈ refs := by
    obtain ⟨y, hy, heq⟩ := List.mem_map.1 hid
    exact (hknown (h.reached hy)).eq_of_id_eq (hknown hx) heq ▸ hy
  refine ⟨h.reached, fun hr => ?_⟩
  induction hr with
  | target hr => exact hmem (.target hr) (h.targets_met _ hr)
  | link ha hloaded hlink ih =>
      have hl := (h.links_iff _ _).2 ⟨ih, hloaded, hlink⟩
      exact hmem (.link ha hloaded hlink) (h.links_met _ hl)

end Explored

end ModuleRef

namespace Progress.Tracked

variable {p : Progress} {tasks : Tasks}

/-- At any time all nodes met have been reached through modules that load. -/
theorem reached (h : p.Tracked ctx targets refs tasks) {r : ModuleRef} (hr : r ∈ refs) :
    r.Reached ctx targets :=
  (h.ledger.met r hr).reached fun _ _ hl => (h.of_mem_links hl).2

/-- When all messages have come in, nothing is left to follow. -/
theorem explored (h : p.Tracked ctx targets refs tasks) (hcomplete : p.Complete) :
    ModuleRef.Explored ctx targets refs (Task.links ctx tasks.done) where
  nodup := h.ledger.nodup
  met := h.ledger.met
  targets_met := h.ledger.targets_met
  links_iff := h.links_iff hcomplete
  links_met l hl := (h.ledger.links_met l hl).2

end Progress.Tracked

end ModuleGraph
