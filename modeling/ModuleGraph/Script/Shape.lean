import ModuleGraph.Script.Summary

/-!
# Shapes

What the grammar has to remember of a construct once it has been read. An expression is read
before it is known whether it is assigned to, so its shape keeps what `Shape.assignable?` needs to
decide that afterwards. A pattern keeps the names it binds, and a statement what it imports and
exports.
-/

set_option autoImplicit false

namespace ModuleGraph.Script

/-- What is remembered of a construct. -/
inductive Shape where
  /-- Nothing: an expression that cannot be assigned to, a type, an ordinary statement. -/
  | plain
  /-- A name that stands alone. -/
  | name (text : String)
  /-- A member of an object, or anything else that can be assigned to as it stands. -/
  | place
  | array (items : List Shape)
  | object (members : List Shape)
  /-- An item that is left out. -/
  | hole
  /-- An item or member that stands for several. -/
  | spread (argument : Shape)
  /-- A member of an object that is spelled by its name only, with the offset of the name. -/
  | shorthand (offset : Nat)
  /-- A member of an object with its value. -/
  | member (value : Shape)
  /-- An assignment, whose target has been checked. -/
  | assignment
  | parenthesized (inner : Shape)
  /-- A module that is loaded later. -/
  | importCall
  /-- A pattern or a declaration with the names it binds, and whether it is one name alone. -/
  | binding (names : List String) (isName : Bool)
  /-- A clause that imports or exports. -/
  | clause (source : Option Import) (isExport : Bool)
  deriving Inhabited

namespace Shape

/-- Whether an expression can be assigned to without being taken apart. -/
def isSimpleTarget : Shape → Bool
  | name _ => true
  | place => true
  | parenthesized (array _) => false
  | parenthesized (object _) => false
  | parenthesized inner => inner.isSimpleTarget
  | _ => false

mutual

/-- Whether an expression can be assigned to: if so, the offsets of the names in it that bring a
value of their own, which only such names may. -/
def assignable? : Shape → Option (List Nat)
  | array items => assignableItems? items
  | object members => assignableItems? members
  | shape => if shape.isSimpleTarget then some [] else none

/-- The same for an item of an array or a member of an object, which may bring a value. -/
def assignableItem? : Shape → Option (List Nat)
  | hole => some []
  | assignment => some []
  | shorthand offset => some [offset]
  | member value => assignableItem? value
  | shape => assignable? shape

/-- The same for all items. One that stands for several has to be the last. -/
def assignableItems? : List Shape → Option (List Nat)
  | [] => some []
  | [spread argument] => assignable? argument
  | item :: rest => do
      let offsets ← assignableItem? item
      return offsets ++ (← assignableItems? rest)

end

/-- Whether an expression is the loading of a module and nothing else. -/
def isImportCall : Shape → Bool
  | importCall => true
  | _ => false

/-- The names a pattern or a declaration binds. -/
def names : Shape → List String
  | binding names _ => names
  | _ => []

end Shape

end ModuleGraph.Script
