import ModuleGraph.Json.Basic

/-!
# Targets

A target is what a package offers under one of its entry points: a tree whose leaves name files
or other packages and whose inner nodes choose between branches.
-/

set_option autoImplicit false

namespace ModuleGraph

/-- A node of the tree under `exports` or `imports`. -/
inductive Target where
  /-- A file of the package, or a specifier where other packages are allowed. -/
  | literal (text : String)
  /-- Branches by condition, tried in the order of declaration. -/
  | conditional (branches : List (String × Target))
  /-- Alternatives, tried in order. -/
  | list (items : List Target)
  /-- Nothing is offered. -/
  | null
  /-- A value no target may have. It is kept so that only a resolution that reaches it fails. -/
  | invalid (text : String)
  deriving Inhabited

/-- Branches or entry points by key, in the order of declaration. -/
abbrev TargetMap := List (String × Target)

namespace Target

mutual

/-- The target a JSON value declares. -/
def ofJson : Json → Target
  | .string text => .literal text
  | .object members => .conditional (ofMembers members)
  | .array items => .list (ofItems items)
  | .null => .null
  | .bool value => .invalid (if value then "true" else "false")
  | .number value => .invalid value.text

/-- The targets of an array. -/
def ofItems : List Json → List Target
  | [] => []
  | item :: items => ofJson item :: ofItems items

/-- The targets of an object under their keys. -/
def ofMembers : List (String × Json) → TargetMap
  | [] => []
  | (key, value) :: members => (key, ofJson value) :: ofMembers members

end

theorem ofItems_eq_map (items : List Json) : ofItems items = items.map ofJson := by
  induction items with
  | nil => rfl
  | cons item items ih => simp [ofItems, ih]

theorem ofMembers_eq_map (members : List (String × Json)) :
    ofMembers members = members.map fun m => (m.1, ofJson m.2) := by
  induction members with
  | nil => rfl
  | cons m members ih => simp [ofMembers, ih]

end Target

end ModuleGraph
