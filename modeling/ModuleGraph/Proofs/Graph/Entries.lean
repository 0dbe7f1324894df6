import ModuleGraph.Proofs.Graph.Reach

/-!
# The entries of a scan

Entries are resolved one after the other through the same store, but what becomes of one does not
depend on the others: each request has an answer of its own (`EntryRequest.lead`). Those that lead
to a file are the entries of the scan (`EntryRequest.Leads`), all others are refused
(`EntryRequest.refusal?`), and a refusal does not hide another one.
-/

set_option autoImplicit false

namespace ModuleGraph

namespace EntryRequest

variable (r : Resolver)

/-- The node that a request leads to. -/
def lead (request : EntryRequest) : Except ResolveError ModuleRef :=
  ((r.resolveEntry request.specifier).run.run {}).1

/-- Why a request is refused: it leads nowhere, or to what is no file. -/
def refusal? (request : EntryRequest) : Option BuildError :=
  match request.lead r with
  | .error cause => some (.unresolvedEntry request.specifier cause)
  | .ok target =>
      if target.isExternal then some (.externalEntry request.specifier target.id) else none

/-- The entry that a request leads to, a file under the name that was asked for. -/
structure Leads (request : EntryRequest) (entry : Option String × ModuleRef) : Prop where
  name : entry.1 = request.name
  target : request.lead r = .ok entry.2
  file : entry.2.isExternal = false

variable {r}

theorem checkEntry_lead (request : EntryRequest) :
    (∃ e, request.refusal? r = some e ∧ Scan.checkEntry request (request.lead r) = .error e) ∨
      (request.refusal? r = none ∧
        ∃ entry, request.Leads r entry ∧ Scan.checkEntry request (request.lead r) = .ok entry) := by
  unfold refusal? Scan.checkEntry
  cases hlead : request.lead r with
  | error cause => exact Or.inl ⟨_, rfl, rfl⟩
  | ok target =>
      dsimp only
      cases hexternal : target.isExternal with
      | true => exact Or.inl ⟨_, rfl, rfl⟩
      | false => exact Or.inr ⟨rfl, _, ⟨rfl, hlead, hexternal⟩, rfl⟩

theorem Leads.known (hfs : r.fs.IgnoresSpelling) (hnames : r.fs.NamesAreText)
    {request : EntryRequest} {entry : Option String × ModuleRef} (h : request.Leads r entry) :
    entry.2.Known r.fs :=
  .of_resolveEntry hfs hnames h.target

end EntryRequest

namespace Scan

variable {r : Resolver}

theorem run_resolveEntries_cons (request : EntryRequest) (rest : List EntryRequest)
    (store : Store) :
    (resolveEntries r (request :: rest)).run store =
      let first := (r.resolveEntry request.specifier).run.run store
      let others := (resolveEntries r rest).run first.2
      match checkEntry request first.1 with
      | .ok entry => ((entry :: others.1.1, others.1.2), others.2)
      | .error e => ((others.1.1, e :: others.1.2), others.2) := by
  rw [resolveEntries, Store.run_bind]
  dsimp only
  rw [Store.run_bind]
  cases checkEntry request ((r.resolveEntry request.specifier).run.run store).1 with
  | ok entry => rfl
  | error e => rfl

theorem resolveEntry_eq_lead (hfs : r.fs.IgnoresSpelling) {store : Store}
    (hstore : store.Reflects r.fs) (request : EntryRequest) :
    ((r.resolveEntry request.specifier).run.run store).1 = request.lead r ∧
      ((r.resolveEntry request.specifier).run.run store).2.Reflects r.fs := by
  obtain ⟨houtcome, hstore', -⟩ :=
    Resolver.coupled_resolveEntry (Store.couples_reflects hfs) request.specifier
      ⟨hstore, Store.reflects_empty⟩
  exact ⟨houtcome.eq, hstore'⟩

/-- Of the requests, those that are refused are told in order. If there is none, each of them has
its entry. -/
theorem resolveEntries_spec (hfs : r.fs.IgnoresSpelling) (requests : List EntryRequest)
    {store : Store} (hstore : store.Reflects r.fs) :
    let answer := (resolveEntries r requests).run store
    answer.1.2 = requests.filterMap (EntryRequest.refusal? r) ∧
      (answer.1.2 = [] → List.Forall₂ (EntryRequest.Leads r) requests answer.1.1) ∧
      answer.2.Reflects r.fs := by
  induction requests generalizing store with
  | nil => exact ⟨rfl, fun _ => .nil, hstore⟩
  | cons request rest ih =>
      obtain ⟨hlead, hstore'⟩ := resolveEntry_eq_lead hfs hstore request
      obtain ⟨herrors, hentries, hstore''⟩ := ih hstore'
      rw [run_resolveEntries_cons]
      dsimp only at herrors hentries ⊢
      rw [hlead]
      rcases request.checkEntry_lead with ⟨e, hrefusal, hcheck⟩ | ⟨hrefusal, entry, hleads, hcheck⟩
      · rw [hcheck, List.filterMap_cons, hrefusal, ← herrors]
        exact ⟨rfl, fun hnil => absurd hnil (List.cons_ne_nil _ _), hstore''⟩
      · rw [hcheck, List.filterMap_cons, hrefusal]
        exact ⟨herrors, fun hnil => .cons hleads (hentries hnil), hstore''⟩

/-- A scan first resolves what it is asked for. Its entries are loaded if none is refused. -/
theorem run_eq (ctx : LoadContext) (limit : Nat) {requests : List EntryRequest}
    (hrequests : requests ≠ []) (store : Store) :
    (run ctx limit requests).run store =
      let resolved := (resolveEntries ctx.resolver requests).run store
      if resolved.1.2 = [] then (loadGraph ctx limit resolved.1.1).run resolved.2
      else (some (.error resolved.1.2), resolved.2) := by
  unfold run
  rw [if_neg (fun h => hrequests (List.isEmpty_iff.1 h)), Store.run_bind]
  simp only [List.isEmpty_iff]
  split
  · rfl
  · rfl

section Run

variable {ctx : LoadContext} (hfs : ctx.resolver.fs.IgnoresSpelling)
  {requests : List EntryRequest} (hrequests : requests ≠ []) {store : Store}
  (hstore : store.Reflects ctx.resolver.fs)
include hfs hrequests hstore

/-- With a request that is refused, a scan has looked at nothing but its entries. -/
theorem run_of_refused (hsome : requests.filterMap (EntryRequest.refusal? ctx.resolver) ≠ [])
    (limit : Nat) :
    (run ctx limit requests).run store =
      (some (.error (requests.filterMap (EntryRequest.refusal? ctx.resolver))),
        ((resolveEntries ctx.resolver requests).run store).2) := by
  obtain ⟨herrors, -⟩ := resolveEntries_spec hfs requests hstore
  rw [run_eq ctx limit hrequests]
  dsimp only
  rw [herrors, if_neg hsome]

/-- Without one, it loads what its requests lead to. -/
theorem exists_entries_of_run
    (hnil : requests.filterMap (EntryRequest.refusal? ctx.resolver) = []) :
    ∃ entries, List.Forall₂ (EntryRequest.Leads ctx.resolver) requests entries ∧
      ∀ limit, (run ctx limit requests).run store =
        (loadGraph ctx limit entries).run
          ((resolveEntries ctx.resolver requests).run store).2 := by
  obtain ⟨herrors, hleads, -⟩ := resolveEntries_spec hfs requests hstore
  refine ⟨_, hleads (herrors.trans hnil), fun limit => ?_⟩
  rw [run_eq ctx limit hrequests]
  dsimp only
  rw [if_pos (herrors.trans hnil)]

end Run

end Scan

end ModuleGraph
