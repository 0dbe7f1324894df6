/-!
# Platforms and conditions

A package may offer different files under different *conditions*. Which conditions hold is a
`ConditionSet`: the platform contributes one, users add their own, and `default` holds always.
-/

set_option autoImplicit false

namespace ModuleGraph

/-- Where the modules are going to run. -/
inductive Platform where
  | node
  | browser
  | neutral
  deriving DecidableEq, Repr, Inhabited

/-- The name of a platform. -/
def Platform.name : Platform → String
  | .node => "node"
  | .browser => "browser"
  | .neutral => "neutral"

/-- The platform of a name. -/
def Platform.ofName? : String → Option Platform
  | "node" => some .node
  | "browser" => some .browser
  | "neutral" => some .neutral
  | _ => none

/-- The condition a platform adds to every resolution. -/
def Platform.condition? : Platform → Option String
  | .node => some "node"
  | .browser => some "browser"
  | .neutral => none

/-- The conditions of one resolution in the order they were named, each once. -/
structure ConditionSet where
  names : List String
  nodup : names.Nodup

namespace ConditionSet

/-- Adds a name at the end unless it is there. -/
def insert (set : ConditionSet) (name : String) : ConditionSet :=
  if h : name ∈ set.names then set
  else ⟨set.names ++ [name], by
    rw [List.nodup_append]
    refine ⟨set.nodup, by simp, ?_⟩
    intro a ha b hb
    rw [List.mem_singleton.1 hb]
    exact fun heq => h (heq ▸ ha)⟩

/-- The set of the names of a list, in order of first occurrence. -/
def ofList (names : List String) : ConditionSet :=
  names.foldl insert ⟨[], List.nodup_nil⟩

/-- Whether a condition holds. -/
def holds (set : ConditionSet) (name : String) : Bool :=
  name = "default" || set.names.contains name

theorem mem_insert {set : ConditionSet} {name other : String} :
    other ∈ (set.insert name).names ↔ other ∈ set.names ∨ other = name := by
  unfold insert
  split
  · next h =>
      constructor
      · exact Or.inl
      · rintro (h' | rfl)
        · exact h'
        · exact h
  · simp

theorem mem_ofList {names : List String} {name : String} :
    name ∈ (ofList names).names ↔ name ∈ names := by
  suffices h : ∀ set : ConditionSet,
      name ∈ (names.foldl insert set).names ↔ name ∈ set.names ∨ name ∈ names by
    simpa [ofList] using h ⟨[], List.nodup_nil⟩
  induction names with
  | nil => simp
  | cons n ns ih =>
      intro set
      rw [List.foldl_cons, ih, mem_insert, List.mem_cons, or_assoc]

/-- The conditions of a static import: `import`, the condition of the platform, then those of the
user. `default` is never listed. -/
def forImport (platform : Platform) (user : List String) : ConditionSet :=
  ofList (("import" :: platform.condition?.toList ++ user).filter (· ≠ "default"))

end ConditionSet

end ModuleGraph
