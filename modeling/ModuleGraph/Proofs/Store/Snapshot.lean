import ModuleGraph.Proofs.Store.Transparency

/-!
# What a store remembers while files change

A store may be asked while the files it has read are changed, removed or written anew. What it
answers for a directory is what the first successful reading since it was cleared found there,
whatever has become of the file. A reading that fails leaves nothing behind, so the next one looks
at the file again.
-/

set_option autoImplicit false

namespace ModuleGraph

/-- What can happen to a store and to the files it reads. -/
inductive StoreEvent where
  | read (dir : FilePath)
  | find (dir : FilePath)
  | lookUpScope (dir : FilePath)
  | clear
  /-- The files become others. -/
  | change (fs : FileSystem)

/-- An event with the files and the store that it meets. -/
structure StoreMoment where
  fs : FileSystem
  store : Store
  event : StoreEvent

namespace StoreMoment

/-- The files behind the event. -/
def fsAfter (m : StoreMoment) : FileSystem :=
  match m.event with
  | .change fs => fs
  | _ => m.fs

/-- The store behind the event. -/
def storeAfter (m : StoreMoment) : Store :=
  match m.event with
  | .read dir => ((Store.read m.fs dir).run.run m.store).2
  | .find dir => ((Store.find m.fs dir).run.run m.store).2
  | .lookUpScope dir => ((Store.currentScope? m.fs dir).run.run m.store).2
  | .clear => Store.clear
  | .change _ => m.store

/-- The directory whose manifest the event reads, and the outcome. A search reads the scope that it
finds. -/
def reading? (m : StoreMoment) : Option (FilePath × Except ResolveError (Option Manifest)) :=
  match m.event with
  | .read dir => some (dir, ((Store.read m.fs dir).run.run m.store).1)
  | .find dir =>
      (m.store.scope? m.fs dir).map fun scope =>
        (scope, ((Store.find m.fs dir).run.run m.store).1)
  | _ => none

/-- Whether the event clears the store. -/
def clears (m : StoreMoment) : Bool :=
  match m.event with
  | .clear => true
  | _ => false

/-- Whether the event reads a directory with success, in any spelling. -/
def hasRead (dir : FilePath) (m : StoreMoment) : Bool :=
  match m.reading? with
  | some (other, .ok _) => other.components = dir.components
  | _ => false

/-- The moments of a sequence of events: each meets the files and the store that the one before
has left. -/
def history (fs : FileSystem) (store : Store) : List StoreEvent → List StoreMoment
  | [] => []
  | event :: events =>
      let m : StoreMoment := { fs, store, event }
      m :: history m.fsAfter m.storeAfter events

/-- The moments behind the last clearing. -/
def sinceClear (past : List StoreMoment) : List StoreMoment :=
  (past.reverse.takeWhile fun m => !m.clears).reverse

/-- The first successful reading of a directory since the store was cleared. -/
def firstReading? (past : List StoreMoment) (dir : FilePath) : Option StoreMoment :=
  (sinceClear past).find? (hasRead dir)

/-! ## One event -/

theorem clears_eq_false {m : StoreMoment} (h : m.event ≠ .clear) : m.clears = false := by
  unfold clears
  split
  · next hclear => exact absurd hclear h
  · rfl

theorem hasRead_iff {m : StoreMoment} {dir : FilePath} :
    m.hasRead dir = true ↔
      ∃ other found, m.reading? = some (other, .ok found) ∧
        other.components = dir.components := by
  unfold hasRead
  cases m.reading? with
  | none => simp
  | some reading =>
      obtain ⟨other, outcome⟩ := reading
      cases outcome with
      | error e => simp
      | ok found => simp

/-- A reading answers from the store if the store knows the directory. Otherwise it answers what
is there now, and that is remembered unless it is a failure. -/
theorem reading_cases {m : StoreMoment} {dir : FilePath}
    {outcome : Except ResolveError (Option Manifest)} (h : m.reading? = some (dir, outcome)) :
    (∃ found, m.store.find? dir = some found ∧ outcome = .ok found ∧ m.storeAfter = m.store) ∨
      (m.store.find? dir = none ∧ outcome = Store.load m.fs dir ∧
        ((∃ e, outcome = .error e ∧ m.storeAfter = m.store) ∨
          ∃ found, outcome = .ok found ∧ m.storeAfter = m.store.remember dir found)) := by
  -- the event is one reading of `dir`, whether it was asked for or found as a scope
  have hread : (outcome, m.storeAfter) = (Store.read m.fs dir).run.run m.store := by
    obtain ⟨fs, store, event⟩ := m
    cases event with
    | read other =>
        obtain ⟨rfl, rfl⟩ := Prod.mk.inj (Option.some.inj h)
        rfl
    | find start =>
        obtain ⟨scope, hscope, hreading⟩ := Option.map_eq_some_iff.1 h
        obtain ⟨rfl, rfl⟩ := Prod.mk.inj hreading
        have hrun := Store.run_find fs start store
        rw [hscope] at hrun
        exact hrun
    | lookUpScope other => cases h
    | clear => cases h
    | change fs' => cases h
  rw [Store.run_read] at hread
  cases hfound : m.store.find? dir with
  | some found =>
      rw [hfound] at hread
      obtain ⟨rfl, hstore⟩ := Prod.mk.inj hread
      exact Or.inl ⟨found, rfl, rfl, hstore⟩
  | none =>
      rw [hfound] at hread
      cases hload : Store.load m.fs dir with
      | error e =>
          rw [hload] at hread
          obtain ⟨rfl, hstore⟩ := Prod.mk.inj hread
          exact Or.inr ⟨rfl, rfl, Or.inl ⟨e, rfl, hstore⟩⟩
      | ok found =>
          rw [hload] at hread
          obtain ⟨rfl, hstore⟩ := Prod.mk.inj hread
          exact Or.inr ⟨rfl, rfl, Or.inr ⟨found, rfl, hstore⟩⟩

/-- An event that neither reads nor clears leaves the store as it is. -/
theorem storeAfter_of_no_reading {m : StoreMoment} (h : m.reading? = none)
    (hclears : m.clears = false) : m.storeAfter = m.store := by
  obtain ⟨fs, store, event⟩ := m
  cases event with
  | read dir => cases h
  | find dir =>
      have hscope : store.scope? fs dir = none := Option.map_eq_none_iff.1 h
      have hrun := Store.run_find fs dir store
      rw [hscope] at hrun
      exact congrArg Prod.snd hrun
  | lookUpScope dir => rfl
  | clear => cases hclears
  | change fs' => rfl

/-- An entry stays as it is until the store is cleared. -/
theorem find?_storeAfter {m : StoreMoment} {dir : FilePath} {found : Option Manifest}
    (hclears : m.clears = false) (h : m.store.find? dir = some found) :
    m.storeAfter.find? dir = some found := by
  cases hreading : m.reading? with
  | none => rw [storeAfter_of_no_reading hreading hclears, h]
  | some reading =>
      obtain ⟨other, outcome⟩ := reading
      rcases reading_cases hreading with
        ⟨-, -, -, hstore⟩ | ⟨hother, -, ⟨e, -, hstore⟩ | ⟨m', -, hstore⟩⟩
      · rw [hstore, h]
      · rw [hstore, h]
      · -- what is remembered was not known, so it is not `dir`
        have hne : dir.components ≠ other.components := by
          intro heq
          rw [Store.find?, heq] at h
          rw [Store.find?, h] at hother
          cases hother
        rw [hstore, Store.find?_remember _ hother, if_neg hne, h]

/-! ## What a store remembers -/

theorem sinceClear_concat (past : List StoreMoment) (m : StoreMoment) :
    sinceClear (past ++ [m]) = if m.clears then [] else sinceClear past ++ [m] := by
  unfold sinceClear
  rw [List.reverse_append, List.reverse_singleton, List.singleton_append, List.takeWhile_cons]
  cases m.clears with
  | true => simp
  | false => simp

/-- A store remembers of a past, for each directory, what the first successful reading since the
last clearing found, and nothing of a directory that has not been read. -/
def Remembers (store : Store) (past : List StoreMoment) : Prop :=
  ∀ dir, match firstReading? past dir with
    | none => store.find? dir = none
    | some first => ∃ other found, first.reading? = some (other, .ok found) ∧
        Store.load first.fs other = .ok found ∧ store.find? dir = some found

theorem remembers_empty : Remembers {} [] := fun _ => rfl

/-- What is remembered of a directory that is read for the first time. -/
theorem find?_of_hasRead {m : StoreMoment} {dir : FilePath} (h : m.hasRead dir = true)
    (hnone : m.store.find? dir = none) :
    ∃ other found, m.reading? = some (other, .ok found) ∧ Store.load m.fs other = .ok found ∧
      m.storeAfter.find? dir = some found := by
  obtain ⟨other, found, hreading, hcomp⟩ := hasRead_iff.1 h
  have hother : m.store.find? other = none := by rw [Store.find?, hcomp]; exact hnone
  rcases reading_cases hreading with ⟨m', hm', -, -⟩ | ⟨-, hload, ⟨e, he, -⟩ | ⟨m', hm', hstore⟩⟩
  · rw [hother] at hm'
    cases hm'
  · cases he
  · obtain rfl := Except.ok.inj hm'
    refine ⟨other, found, hreading, hload.symm, ?_⟩
    rw [hstore, Store.find?_remember _ hother, if_pos hcomp.symm]

/-- A directory that no event reads with success stays unknown. -/
theorem find?_of_not_hasRead {m : StoreMoment} {dir : FilePath} (h : m.hasRead dir = false)
    (hnone : m.store.find? dir = none) : m.storeAfter.find? dir = none := by
  cases hclears : m.clears with
  | true =>
      obtain ⟨fs, store, event⟩ := m
      cases event with
      | clear => rfl
      | _ => cases hclears
  | false =>
      cases hreading : m.reading? with
      | none => rw [storeAfter_of_no_reading hreading hclears, hnone]
      | some reading =>
          obtain ⟨other, outcome⟩ := reading
          rcases reading_cases hreading with
            ⟨-, -, -, hstore⟩ | ⟨hother, -, ⟨e, -, hstore⟩ | ⟨found, rfl, hstore⟩⟩
          · rw [hstore, hnone]
          · rw [hstore, hnone]
          · have hne : dir.components ≠ other.components := by
              intro heq
              rw [hasRead_iff.2 ⟨other, found, hreading, heq.symm⟩] at h
              cases h
            rw [hstore, Store.find?_remember _ hother, if_neg hne, hnone]

/-- Every event keeps what is remembered right. -/
theorem Remembers.concat {past : List StoreMoment} {m : StoreMoment}
    (h : Remembers m.store past) : Remembers m.storeAfter (past ++ [m]) := by
  intro dir
  have hdir := h dir
  unfold firstReading? at hdir ⊢
  rw [sinceClear_concat]
  cases hclears : m.clears with
  | true =>
      obtain ⟨fs, store, event⟩ := m
      cases event with
      | clear => rfl
      | _ => cases hclears
  | false =>
      rw [if_neg Bool.false_ne_true, List.find?_append]
      cases hfirst : (sinceClear past).find? (hasRead dir) with
      | some first =>
          rw [hfirst] at hdir
          obtain ⟨other, found, hreading, hload, hstore⟩ := hdir
          exact ⟨other, found, hreading, hload, find?_storeAfter hclears hstore⟩
      | none =>
          rw [hfirst] at hdir
          rw [Option.none_or, List.find?_singleton]
          cases hread : m.hasRead dir with
          | true => exact find?_of_hasRead hread hdir
          | false => exact find?_of_not_hasRead hread hdir

/-! ## A sequence of events -/

variable {fs : FileSystem} {store : Store} {events : List StoreEvent}
  {before after : List StoreMoment} {m : StoreMoment}

/-- From any moment on the history is one of its own. -/
theorem exists_history_of_append (h : history fs store events = before ++ m :: after) :
    ∃ rest, after = history m.fsAfter m.storeAfter rest := by
  induction events generalizing fs store before with
  | nil =>
      cases before with
      | nil => cases h
      | cons _ _ => cases h
  | cons event events ih =>
      cases before with
      | nil =>
          obtain ⟨rfl, rfl⟩ := List.cons.inj h
          exact ⟨events, rfl⟩
      | cons _ before => exact ih (List.cons.inj h).2

/-- At every moment of a history the store remembers its past. -/
theorem remembers_of_history {past : List StoreMoment} (hstore : Remembers store past)
    (h : history fs store events = before ++ m :: after) :
    Remembers m.store (past ++ before) := by
  induction events generalizing fs store before past with
  | nil =>
      cases before with
      | nil => cases h
      | cons _ _ => cases h
  | cons event events ih =>
      cases before with
      | nil =>
          obtain ⟨rfl, -⟩ := List.cons.inj h
          rw [List.append_nil]
          exact hstore
      | cons first before =>
          obtain ⟨rfl, hrest⟩ := List.cons.inj h
          have hnext := ih hstore.concat hrest
          rwa [List.append_assoc, List.singleton_append] at hnext

/-- A directory that is not known stays so until it has been read with success. -/
theorem find?_of_history {dir : FilePath} (hstore : store.find? dir = none)
    (h : history fs store events = before ++ m :: after)
    (hbefore : ∀ earlier ∈ before, earlier.hasRead dir = false) : m.store.find? dir = none := by
  induction events generalizing fs store before with
  | nil =>
      cases before with
      | nil => cases h
      | cons _ _ => cases h
  | cons event events ih =>
      cases before with
      | nil =>
          obtain ⟨rfl, -⟩ := List.cons.inj h
          exact hstore
      | cons first before =>
          obtain ⟨rfl, hrest⟩ := List.cons.inj h
          refine ih ?_ hrest fun earlier hearlier =>
            hbefore earlier (List.mem_cons_of_mem _ hearlier)
          exact find?_of_not_hasRead (hbefore _ List.mem_cons_self) hstore

/-- What a successful reading answers is known behind it. -/
theorem find?_of_reading {dir : FilePath} {found : Option Manifest}
    (h : m.reading? = some (dir, .ok found)) : m.storeAfter.find? dir = some found := by
  rcases reading_cases h with
    ⟨found', hfound, hok, hstore⟩ | ⟨hnone, -, ⟨e, he, -⟩ | ⟨found', hok, hstore⟩⟩
  · obtain rfl := Except.ok.inj hok
    rw [hstore, hfound]
  · cases he
  · obtain rfl := Except.ok.inj hok
    rw [hstore, Store.find?_remember _ hnone, if_pos rfl]

/-- A successful reading answers what the first one since the last clearing found. -/
theorem exists_firstReading (h : history fs {} events = before ++ m :: after) {dir : FilePath}
    {found : Option Manifest} (hreading : m.reading? = some (dir, .ok found)) :
    ∃ first other, firstReading? (before ++ [m]) dir = some first ∧
      first.reading? = some (other, .ok found) ∧ other.components = dir.components ∧
      Store.load first.fs other = .ok found := by
  have hpast : Remembers m.store before := remembers_of_history remembers_empty h
  have hbehind := hpast.concat dir
  have hfound := find?_of_reading hreading
  cases hfirst : firstReading? (before ++ [m]) dir with
  | none =>
      rw [hfirst] at hbehind
      rw [hbehind] at hfound
      cases hfound
  | some first =>
      rw [hfirst] at hbehind
      obtain ⟨other, found', hfirstRead, hload, hstore⟩ := hbehind
      obtain rfl : found' = found := Option.some.inj (hstore.symm.trans hfound)
      obtain ⟨other', found', hread, hcomp⟩ := hasRead_iff.1 (List.find?_some hfirst)
      obtain ⟨rfl, -⟩ := Prod.mk.inj (Option.some.inj (hfirstRead.symm.trans hread))
      exact ⟨first, other, rfl, hfirstRead, hcomp, hload⟩

/-- A reading that fails has looked at the files, and leaves the store as it was. -/
theorem of_failed_reading {dir : FilePath} {e : ResolveError}
    (h : m.reading? = some (dir, .error e)) :
    m.store.find? dir = none ∧ Store.load m.fs dir = .error e ∧ m.storeAfter = m.store := by
  rcases reading_cases h with
    ⟨found, -, hok, -⟩ | ⟨hnone, hload, ⟨-, -, hstore⟩ | ⟨found, hok, -⟩⟩
  · cases hok
  · exact ⟨hnone, hload.symm, hstore⟩
  · cases hok

/-- What is not known is read from the files. -/
theorem outcome_of_not_known {dir other : FilePath} (hnone : m.store.find? dir = none)
    (hcomp : other.components = dir.components)
    {outcome : Except ResolveError (Option Manifest)} (h : m.reading? = some (other, outcome)) :
    outcome = Store.load m.fs other := by
  rcases reading_cases h with ⟨found, hfound, -, -⟩ | ⟨-, houtcome, -⟩
  · rw [Store.find?, hcomp] at hfound
    rw [Store.find?, hfound] at hnone
    cases hnone
  · exact houtcome

/-- In every history of an empty store, whatever becomes of the files meanwhile: a directory that is
read with success is answered as the first successful reading since the last clearing found it; a
reading that fails leaves the store as it was, so that the next one answers what is there by then;
looking up a scope changes nothing, and nothing but clearing removes or changes an entry. -/
theorem reading_is_first_since_clear (fs : FileSystem) (events : List StoreEvent) :
    (∀ before m after dir found, history fs {} events = before ++ m :: after →
      m.reading? = some (dir, .ok found) →
      ∃ first other, firstReading? (before ++ [m]) dir = some first ∧
        first.reading? = some (other, .ok found) ∧ other.components = dir.components ∧
        Store.load first.fs other = .ok found) ∧
    (∀ before failing after dir e, history fs {} events = before ++ failing :: after →
      failing.reading? = some (dir, .error e) →
      failing.storeAfter = failing.store ∧ Store.load failing.fs dir = .error e ∧
        ∀ between later rest other outcome, after = between ++ later :: rest →
          (∀ m ∈ between, m.hasRead dir = false) → other.components = dir.components →
          later.reading? = some (other, outcome) → outcome = Store.load later.fs other) ∧
    (∀ m ∈ history fs {} events,
      (∀ dir, m.event = .lookUpScope dir → m.storeAfter = m.store) ∧
      (m.event ≠ .clear → ∀ dir found, m.store.find? dir = some found →
        m.storeAfter.find? dir = some found)) := by
  refine ⟨?_, ?_, ?_⟩
  · intro before m after dir found hhistory hreading
    exact exists_firstReading hhistory hreading
  · intro before failing after dir e hhistory hreading
    obtain ⟨hnone, hload, hstore⟩ := of_failed_reading hreading
    refine ⟨hstore, hload, ?_⟩
    intro between later rest other outcome hafter hbetween hcomp hlater
    obtain ⟨events', hevents⟩ := exists_history_of_append hhistory
    have hunknown : later.store.find? dir = none :=
      find?_of_history (hstore ▸ hnone) (hevents.symm.trans hafter) hbetween
    exact outcome_of_not_known hunknown hcomp hlater
  · intro m _
    constructor
    · intro dir hevent
      rw [storeAfter, hevent]
      rfl
    · intro hevent dir found hfound
      exact find?_storeAfter (clears_eq_false hevent) hfound

/-- A directory without a manifest stays so for the store when manifests turn up everywhere, under
every spelling of it. The scope that is then found above it cannot be read, which leaves nothing
behind: it is read again when the manifests have gone. -/
theorem reading_is_first_since_clear_of_absent :
    let empty : FileSystem :=
      { isPresent := fun _ => false, isDir := fun _ => false
        readText := fun _ => .error "unreadable", canonicalize := .ok }
    let full : FileSystem := { empty with isPresent := fun _ => true }
    let p := FilePath.ofString "/p"
    let p' := FilePath.ofString "/p/."
    let root := FilePath.ofString "/"
    let known : Store := ⟨[(p.components, none)]⟩
    let first : StoreMoment := ⟨empty, {}, .read p⟩
    let appear : StoreMoment := ⟨empty, known, .change full⟩
    let again : StoreMoment := ⟨full, known, .read p'⟩
    let failing : StoreMoment := ⟨full, known, .find p'⟩
    let vanish : StoreMoment := ⟨full, known, .change empty⟩
    let later : StoreMoment := ⟨empty, known, .read root⟩
    history empty {}
        [.read p, .change full, .read p', .find p', .change empty, .read root] =
      [first, appear, again, failing, vanish, later] ∧
    again.reading? = some (p', .ok none) ∧ Store.load empty p = .ok none ∧
    failing.storeAfter = known ∧ later.reading? = some (root, Store.load empty root) := by
  intro empty full p p' root known first appear again failing vanish later
  have hhistory : history empty {}
      [.read p, .change full, .read p', .find p', .change empty, .read root] =
        [first, appear, again, failing, vanish, later] := rfl
  have hagain : again.reading? = some (p', .ok none) := rfl
  have hfailing : failing.reading? = some (root, .error ⟨.invalidConfiguration,
      (root.join manifestName).display ++ ": " ++ "unreadable"⟩) := rfl
  obtain ⟨hfirst, hfail, -⟩ := reading_is_first_since_clear empty
    [.read p, .change full, .read p', .find p', .change empty, .read root]
  refine ⟨hhistory, hagain, ?_, ?_, ?_⟩
  · obtain ⟨m, other, hm, hreading, -, hload⟩ :=
      hfirst [first, appear] again [failing, vanish, later] p' none hhistory hagain
    have hm' : firstReading? [first, appear, again] p' = some first := rfl
    obtain rfl := Option.some.inj (hm'.symm.trans hm)
    obtain ⟨rfl, -⟩ := Prod.mk.inj (Option.some.inj hreading)
    exact hload
  · exact (hfail [first, appear, again] failing [vanish, later] root _ hhistory hfailing).1
  · have hlater : later.reading? = some (root, .ok none) := rfl
    have hnow := (hfail [first, appear, again] failing [vanish, later] root _ hhistory
      hfailing).2.2 [vanish] later [] root _ rfl (by decide) rfl hlater
    rw [hlater, hnow]

end StoreMoment

end ModuleGraph
