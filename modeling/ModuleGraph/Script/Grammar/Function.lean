import ModuleGraph.Script.Grammar.Binding

/-!
# Functions

Parameters, bodies and result types of functions and methods, and the decorators that may stand
in front of anything that is read like an element or a value.
-/

set_option autoImplicit false

namespace ModuleGraph.Script.Grammar

open ModuleGraph.Script.Parser

/-- Decorators. What they stand in front of is not their concern. -/
def decorators (g : Grammar) : Parser Unit := do
  let _ ← collect do
    if ← eatMark "@" then
      let _ ← within (fun s => { s with inDecorator := true }) (g .access)
      return some ()
    else return none

/-! ## Parameters -/

/-- A parameter. -/
def parameter (g : Grammar) : Parser Unit := do
  decorators g
  checkModifiers (← elementModifiers) (["override", "readonly"] ++ accessibilityWords)
  let _ ← patternWithDefault g

/-- The parameters of a function in parentheses, and whether the first is `this`, which only gives
a type to the object that the function is called on. The last may take all arguments that are
left. -/
def parameters (g : Grammar) : Parser Bool := do
  expectMark "("
  let hasThis ←
    if (← read).isTyped then
      if ← eatWord "this" then
        let _ ← typeAnnotation g
        if !(← atMark ")") then expectMark ","
        pure true
      else pure false
    else pure false
  let _ ← listOf ")" do
    if ← atMark "..." then
      let _ ← restPattern g ")"
    else parameter g
  return hasThis

/-- A parameter of a generic construct. -/
def typeParameter (g : Grammar) : Parser Unit := do
  checkModifiers (← elementModifiers) ["const", "in", "out"]
  let _ ← name
  if ← eatWord "extends" then
    let _ ← g .type
  if ← eatMark "=" then
    let _ ← g .type

/-- The parameters of a generic construct, if types may be written and there are any. -/
def typeParameters (g : Grammar) : Parser Unit := do
  if (← read).isTyped && (← atMark "<") then listInAngles true (typeParameter g)

/-! ## Results -/

/-- What a statement about a parameter opens with. -/
def predicateSubject : Parser Unit := do
  let _ ← anyWord
  let t ← current
  require (t.isWord "is" && !t.onNewLine)
  advance

/-- The type of a result, or a statement about a parameter. -/
def typeOrPredicate (g : Grammar) : Parser Unit :=
  within Setting.unconstrained do
    let _ ← attempt predicateSubject
    let _ ← g .type

/-- The type of a result, if types may be written and there is one. -/
def resultType (g : Grammar) : Parser Bool := do
  if (← read).isTyped then
    if ← eatMark ":" then
      typeOrPredicate g
      return true
    else return false
  else return false

/-! ## Bodies -/

/-- The body of a function. -/
def functionBody (g : Grammar) : Parser Unit := do
  expectMark "\x7b"
  let _ ← within (fun s => { s with inFunction := true }) (g .statements)
  expectMark "\x7d"

/-- What is said of a function between its name and its body. -/
structure Signature where
  /-- Whether the first parameter is `this`. -/
  hasThis : Bool
  /-- Whether the type of the result is given. -/
  hasResult : Bool
  hasBody : Bool
  deriving DecidableEq, Repr

/-- A function or method from its parameters on. With types it may be without a body, which is
given elsewhere then. -/
def functionTail (g : Grammar) (isAsync isGenerator : Bool) : Parser Signature :=
  within (fun s => { s.withIn with await := isAsync, yield := isGenerator }) do
    typeParameters g
    let hasThis ← parameters g
    let hasResult ← resultType g
    let hasBody ← atMark "\x7b"
    if hasBody then functionBody g
    else
      require (← read).isTyped
      semicolon
    return { hasThis, hasResult, hasBody }

/-- A method that is written like a property has no result. -/
def setterTail (g : Grammar) : Parser Unit := do
  mistakeIf (← functionTail g false false).hasResult

/-! ## Functions -/

/-- Whether a function starts here. -/
def atFunction : Parser Bool := do
  let t ← current
  if t.isWord "function" then return true
  else
    let next ← ahead 1
    return t.isWord "async" && next.isWord "function" && !next.onNewLine

/-- A function from its keyword on, the names it binds, and whether it is a generator. The name of
a declaration is one of the block around it and read as such; only a function that is exported as
the default may go without. -/
def functionDeclaration (g : Grammar) (isAsync isNameRequired : Bool) :
    Parser (List String × Bool) := do
  expectWord "function"
  let isGenerator ← eatMark "*"
  let names ← if (← current).isName then pure [← name] else pure []
  require (!isNameRequired || !names.isEmpty)
  let _ ← functionTail g isAsync isGenerator
  return (names, isGenerator)

/-- A function that is defined elsewhere. It is no generator, and where a body is given all the
same, the declaration still ends like one without. -/
def ambientFunction (g : Grammar) (isAsync : Bool) : Parser (List String) := do
  expectWord "function"
  let names ← if (← current).isName then pure [← name] else pure []
  if (← functionTail g isAsync false).hasBody then semicolon
  return names

/-- A function as a value. Its name is known to the function only and read as in it. -/
def functionExpression (g : Grammar) : Parser Unit := do
  let isAsync ← eatWord "async"
  expectWord "function"
  let isGenerator ← eatMark "*"
  if (← current).isName then
    let _ ← within (fun s => { s with await := isAsync, yield := isGenerator }) name
  let _ ← functionTail g isAsync isGenerator

end ModuleGraph.Script.Grammar
