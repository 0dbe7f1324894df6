import ModuleGraph.Script.Grammar.Modifier

/-!
# Patterns

The targets of declarations and parameters, with the names they bind, and the names of
properties, which patterns share with objects and classes.
-/

set_option autoImplicit false

namespace ModuleGraph.Script.Grammar

open ModuleGraph.Script.Parser

/-- The name of a property. -/
inductive PropertyName where
  | word (text : String)
  | string (value : String)
  | privateName (text : String)
  | other
  deriving DecidableEq, Repr, Inhabited

/-- What the name of a property is on its own, if it is that of a public property. -/
def PropertyName.text? : PropertyName → Option String
  | word text => some text
  | string value => some value
  | _ => none

/-- Whether the name is that of a private property. -/
def PropertyName.isPrivate : PropertyName → Bool
  | privateName _ => true
  | _ => false

/-- A type behind a colon, if types may be written and there is one. -/
def typeAnnotation (g : Grammar) : Parser Bool := do
  if (← read).isTyped then
    if ← eatMark ":" then
      let _ ← g .type
      return true
    else return false
  else return false

/-- The name of a property: a word, a string, a number, or any value in brackets. -/
def propertyName (g : Grammar) : Parser PropertyName := do
  match (← current).kind with
  | .word text _ =>
      skip
      return .word text
  | .string value =>
      advance
      return .string value
  | .number =>
      advance
      return .other
  | _ =>
      expectMark "["
      let _ ← within Setting.withIn (g .assignment)
      expectMark "]"
      return .other

/-- A value that stands in for a missing one. -/
def defaultValue (g : Grammar) : Parser Bool := do
  if ← eatMark "=" then
    let _ ← within Setting.withIn (g .assignment)
    return true
  else return false

/-- A pattern with its type and the value that stands in for a missing one. -/
def patternWithDefault (g : Grammar) : Parser (List String) := do
  let shape ← g .pattern
  if (← read).isTyped then
    let _ ← eatMark "?"
  let _ ← typeAnnotation g
  let _ ← defaultValue g
  return shape.names

/-- A pattern for all that is left, and whether it is one name alone without a value. It cannot be
left out, and nothing follows it. -/
def restPattern (g : Grammar) (close : String) : Parser (List String × Bool) := do
  expectMark "..."
  match ← g .pattern with
  | .binding names isName =>
      if (← read).isTyped then mistakeIf (← eatMark "?")
      let _ ← typeAnnotation g
      let hasValue ← defaultValue g
      require (← atMark close)
      return (names, isName && !hasValue)
  | _ => failure

/-- The items of an array pattern. The last may stand for all that are left. -/
def arrayPattern (g : Grammar) : Parser (List String) := do
  expectMark "["
  let names ← collect do
    if ← atMark "]" then return none
    else if ← eatMark "," then return some []
    else if ← atMark "..." then return some (← restPattern g "]").1
    else
      let names ← patternWithDefault g
      if !(← atMark "]") then expectMark ","
      return some names
  expectMark "]"
  return names.flatten

/-- A member of an object pattern. The last may be a name for all that are left. -/
def memberPattern (g : Grammar) : Parser (List String) := do
  let t ← current
  if t.isMark "..." then
    let (names, isName) ← restPattern g "\x7d"
    require isName
    return names
  else
    let key ← propertyName g
    if t.isName && !(← atMark ":") then
      let _ ← defaultValue g
      return key.text?.toList
    else
      expectMark ":"
      patternWithDefault g

/-- The members of an object pattern. -/
def objectPattern (g : Grammar) : Parser (List String) := do
  expectMark "\x7b"
  return (← listOf "\x7d" (memberPattern g)).flatten

/-- A pattern. -/
def pattern (g : Grammar) : Parser Shape := do
  if ← atMark "[" then return .binding (← arrayPattern g) false
  else if ← atMark "\x7b" then return .binding (← objectPattern g) false
  else return .binding [← name] true

end ModuleGraph.Script.Grammar
