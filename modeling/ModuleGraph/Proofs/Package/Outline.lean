import ModuleGraph.Package.Target
import Mathlib.Data.List.Basic

/-!
# Places in values and targets

A place in a tree is the way to it: which child of which child. What is seen of a node without
looking below it is its outline: its text, its keys in their order, or how many items it has. A
target mirrors a JSON value if both have the same places with the same outline at each of them, at
every depth. One target mirrors a value, and that is the one the value is read as
(`Target.mirrors_iff`).
-/

set_option autoImplicit false

namespace ModuleGraph

/-- What is seen of a node without looking below it. -/
inductive Outline where
  /-- A text. -/
  | literal (text : String)
  /-- Children under keys, in their order. -/
  | conditional (keys : List String)
  /-- Children without keys. -/
  | list (length : Nat)
  /-- Nothing. -/
  | null
  /-- Anything else, by its written form. -/
  | invalid (text : String)

/-! ## Values -/

namespace Json

/-- The outline of a value. -/
def outline : Json → Outline
  | .string text => .literal text
  | .object members => .conditional (members.map Prod.fst)
  | .array items => .list items.length
  | .null => .null
  | .bool value => .invalid (if value then "true" else "false")
  | .number value => .invalid value.text

/-- The values directly below a value, in their order. -/
def children : Json → List Json
  | .object members => members.map Prod.snd
  | .array items => items
  | _ => []

/-- The value at a place. -/
def at? : List Nat → Json → Option Json
  | [], value => some value
  | i :: place, value => value.children[i]?.bind (at? place)

/-- What holds of a value if it holds of those directly below it holds of all values. -/
theorem forall_of_children {P : Json → Prop}
    (h : ∀ value : Json, (∀ child ∈ value.children, P child) → P value) (value : Json) :
    P value := by
  refine @Json.rec P (fun items => ∀ item ∈ items, P item)
    (fun members => ∀ m ∈ members, P m.2) (fun m => P m.2)
    ?null ?bool ?number ?string ?array ?object ?noItems ?item ?noMembers ?member ?pair value
  case null => exact h .null nofun
  case bool => exact fun b => h (.bool b) nofun
  case number => exact fun n => h (.number n) nofun
  case string => exact fun s => h (.string s) nofun
  case array => exact fun items ih => h (.array items) ih
  case object =>
    intro members ih
    apply h (.object members)
    intro child hchild
    obtain ⟨m, hm, rfl⟩ := List.mem_map.1 hchild
    exact ih m hm
  case noItems => exact nofun
  case item => exact fun _ _ hhead htail => List.forall_mem_cons.2 ⟨hhead, htail⟩
  case noMembers => exact nofun
  case member => exact fun _ _ hhead htail => List.forall_mem_cons.2 ⟨hhead, htail⟩
  case pair => exact fun _ _ hvalue => hvalue

end Json

/-! ## Targets -/

namespace Target

/-- The outline of a target. -/
def outline : Target → Outline
  | .literal text => .literal text
  | .conditional branches => .conditional (branches.map Prod.fst)
  | .list items => .list items.length
  | .null => .null
  | .invalid text => .invalid text

/-- The targets directly below a target, in their order. -/
def children : Target → List Target
  | .conditional branches => branches.map Prod.snd
  | .list items => items
  | _ => []

/-- The target at a place. -/
def at? : List Nat → Target → Option Target
  | [], target => some target
  | i :: place, target => target.children[i]?.bind (at? place)

/-- A target has the places of a value, and at each of them the value's outline. -/
def Mirrors (target : Target) (value : Json) : Prop :=
  ∀ place, (target.at? place).map outline = (value.at? place).map Json.outline

/-- A target is told by its outline and what is directly below it. -/
theorem ext_children {t t' : Target} (houtline : t.outline = t'.outline)
    (hchildren : t.children = t'.children) : t = t' := by
  cases t with
  | conditional branches =>
      cases t' with
      | conditional branches' =>
          have hkeys : branches.map Prod.fst = branches'.map Prod.fst :=
            Outline.conditional.inj houtline
          have hvalues : branches.map Prod.snd = branches'.map Prod.snd := hchildren
          have hzip (bs : TargetMap) : (bs.map Prod.fst).zip (bs.map Prod.snd) = bs := by
            rw [← List.unzip_fst, ← List.unzip_snd, List.zip_unzip]
          rw [← hzip branches, hkeys, hvalues, hzip]
      | _ => cases houtline
  | list items =>
      cases t' with
      | list items' => exact congrArg list hchildren
      | _ => cases houtline
  | literal text =>
      cases t' with
      | literal text' => exact congrArg literal (Outline.literal.inj houtline)
      | _ => cases houtline
  | invalid text =>
      cases t' with
      | invalid text' => exact congrArg invalid (Outline.invalid.inj houtline)
      | _ => cases houtline
  | null =>
      cases t' with
      | null => rfl
      | _ => cases houtline

theorem outline_ofJson (value : Json) : (ofJson value).outline = value.outline := by
  cases value with
  | object members =>
      rw [ofJson, ofMembers_eq_map, outline, List.map_map]
      rfl
  | array items =>
      rw [ofJson, ofItems_eq_map, outline, List.length_map]
      rfl
  | _ => rfl

theorem children_ofJson (value : Json) :
    (ofJson value).children = value.children.map ofJson := by
  cases value with
  | object members =>
      rw [ofJson, ofMembers_eq_map, children, Json.children, List.map_map, List.map_map]
      rfl
  | array items => rw [ofJson, ofItems_eq_map, children, Json.children]
  | _ => rfl

theorem at?_ofJson (place : List Nat) (value : Json) :
    (ofJson value).at? place = (value.at? place).map ofJson := by
  induction place generalizing value with
  | nil => rfl
  | cons i place ih =>
      rw [at?, Json.at?, children_ofJson, List.getElem?_map]
      cases value.children[i]? with
      | none => rfl
      | some child => exact ih child

theorem mirrors_ofJson (value : Json) : (ofJson value).Mirrors value := by
  intro place
  rw [at?_ofJson, Option.map_map]
  exact Option.map_congr fun v _ => outline_ofJson v

/-- What is below a target mirrors what is below the value. -/
theorem Mirrors.children {target : Target} {value : Json} (h : target.Mirrors value) (i : Nat) :
    Option.Rel Mirrors target.children[i]? value.children[i]? := by
  have hplace (place : List Nat) : (target.children[i]?.bind (at? place)).map outline =
      (value.children[i]?.bind (Json.at? place)).map Json.outline := h (i :: place)
  cases hchild : target.children[i]? with
  | none =>
      cases hchild' : value.children[i]? with
      | none => exact .none
      | some child' =>
          rw [hchild, hchild'] at hplace
          cases hplace []
  | some child =>
      cases hchild' : value.children[i]? with
      | none =>
          rw [hchild, hchild'] at hplace
          cases hplace []
      | some child' =>
          rw [hchild, hchild'] at hplace
          exact .some hplace

/-- One target mirrors a value. -/
theorem mirrors_iff {target : Target} {value : Json} :
    target.Mirrors value ↔ target = ofJson value := by
  constructor
  · induction value using Json.forall_of_children generalizing target with
    | h value ih =>
        intro hmirrors
        apply ext_children
        · rw [outline_ofJson]
          exact Option.some.inj (hmirrors [])
        · rw [children_ofJson]
          apply List.ext_getElem?
          intro i
          have hchild := hmirrors.children i
          rw [List.getElem?_map]
          generalize target.children[i]? = found at hchild ⊢
          cases hvalue : value.children[i]? with
          | none =>
              rw [hvalue] at hchild
              cases hchild
              rfl
          | some child =>
              rw [hvalue] at hchild
              cases hchild with
              | some hbelow =>
                  rw [ih child (List.mem_of_getElem? hvalue) hbelow]
                  rfl
  · rintro rfl
    exact mirrors_ofJson value

end Target

end ModuleGraph
