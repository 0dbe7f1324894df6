import ModuleGraph.Decimal.Shortest

/-!
# JSON values

JSON values with the members of an object in the order in which they were declared. No object
holds a key twice: `putMember` gives a repeated key its last value at its first place.
-/

set_option autoImplicit false

namespace ModuleGraph

namespace Json

/-- A number: an integer as it is, or the bits of the double that stands for it. -/
inductive Number where
  | integer (value : Int)
  | double (bits : UInt64)
  deriving DecidableEq, Repr, Inhabited

/-- Doubles are written without an exponent from `0.00001` to below `10 ^ 16`. -/
def Number.layout : Decimal.Layout := { leastPoint := -4, greatestPoint := 16 }

/-- The written form of a number. -/
def Number.text : Number → String
  | .integer value => toString value
  | .double bits =>
      let sign := if Nat.pow 2 63 ≤ bits.toNat then "-" else ""
      if bits.toNat % Nat.pow 2 63 = 0 then sign ++ "0.0"
      else
        let (digits, p) := Decimal.shortest bits
        sign ++ layout.write digits p

end Json

/-- A JSON value. -/
inductive Json where
  | null
  | bool (value : Bool)
  | number (value : Json.Number)
  | string (value : String)
  | array (items : List Json)
  | object (members : List (String × Json))
  deriving Inhabited

namespace Json

/-- Sets a key of an ordered map: a known key keeps its place, a new one comes last. -/
def putMember {α : Type} (key : String) (value : α) : List (String × α) → List (String × α)
  | [] => [(key, value)]
  | (k, v) :: rest => if k = key then (k, value) :: rest else (k, v) :: putMember key value rest

/-- The value of a key of an object. -/
def member? (key : String) : Json → Option Json
  | .object members => members.lookup key
  | _ => none

/-- The text of a string. -/
def string? : Json → Option String
  | .string value => some value
  | _ => none

theorem lookup_putMember {α : Type} (key : String) (value : α) (members : List (String × α)) :
    (putMember key value members).lookup key = some value := by
  induction members with
  | nil => simp [putMember]
  | cons m rest ih =>
      obtain ⟨k, v⟩ := m
      simp only [putMember]
      split
      · next h => simp [h]
      · next h =>
          have hk : (key == k) = false := beq_eq_false_iff_ne.2 (Ne.symm h)
          simp [List.lookup_cons, hk, ih]

end Json

end ModuleGraph
