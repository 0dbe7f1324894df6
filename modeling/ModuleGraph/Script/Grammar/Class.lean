import ModuleGraph.Script.Grammar.Type

/-!
# Classes

The heritage and the elements of classes.
-/

set_option autoImplicit false

namespace ModuleGraph.Script.Grammar

open ModuleGraph.Script.Parser

/-! ## Heritage -/

/-- A class that another is derived from, with the types it is used with. -/
def ancestor (g : Grammar) : Parser Unit := do
  let _ ← g .access
  optionalTypeArguments g

/-- Constructs with commas between them, at least one. -/
def oneOrMore (p : Parser Unit) : Parser Unit := do
  p
  let _ ← collect do
    if ← eatMark "," then return some (← p)
    else return none

/-- What a class or an interface is derived from and what it promises to implement. Which of them
may be given, and how often, is not decided here. -/
def heritage (g : Grammar) : Parser Unit := do
  let _ ← collect do
    if ← eatWord "extends" then return some (← oneOrMore (ancestor g))
    else if ← eatWord "implements" then return some (← oneOrMore (typeReference g))
    else return none

/-! ## Elements -/

/-- What an element of a class is, besides its name. -/
structure ElementKind where
  /-- The modifiers in front of the element. -/
  words : List String
  isStatic : Bool
  isAsync : Bool
  isGenerator : Bool
  isGetter : Bool
  isSetter : Bool
  deriving DecidableEq, Repr

/-- Whether an element is a method that is more than a plain one. -/
def ElementKind.isSpecial (kind : ElementKind) : Bool :=
  kind.isAsync || kind.isGenerator || kind.isGetter || kind.isSetter

/-- What an element is, read off the words and marks between its modifiers and its name. -/
def elementKind (words : List String) : Parser ElementKind := do
  let next ← ahead 1
  -- `static` counts as a modifier once; behind that it may still be written
  let isRepeated := (← atWord "static") && (next.opensElementName || next.isMark "*")
  if isRepeated then advance
  let next ← ahead 1
  let isAsync :=
    (← atWord "async") && !next.onNewLine && (next.opensElementName || next.isMark "*")
  if isAsync then advance
  let isAsync := isAsync || words.contains "async"
  let isGenerator ← eatMark "*"
  let t ← current
  let next ← ahead 1
  let isAccessor := !isAsync && !isGenerator && t.isWordOf ["get", "set"] && next.opensElementName
  if isAccessor then advance
  return {
    words
    isStatic := isRepeated || words.contains "static"
    isAsync
    isGenerator
    isGetter := isAccessor && t.isWord "get"
    isSetter := isAccessor && t.isWord "set" }

/-- The name of an element. One that is private has no other accessibility, and is not that of a
constructor. -/
def elementName (g : Grammar) (kind : ElementKind) : Parser PropertyName := do
  match (← current).kind with
  | .privateName text =>
      mistakeIf (text = "constructor" || accessibilityWords.any kind.words.contains)
      advance
      return .privateName text
  | _ => propertyName g

/-- Whether an element is the constructor by its name. -/
def ElementKind.isConstructor (kind : ElementKind) (name : PropertyName) : Bool :=
  !kind.isStatic && name.text? == some "constructor"

/-- Whether an element has a name that belongs to the class itself. -/
def ElementKind.isPrototype (kind : ElementKind) (name : PropertyName) : Bool :=
  kind.isStatic && name.text? == some "prototype"

/-- A method from its parameters on. A constructor is nothing special and gives no type to
`this`. -/
def method (g : Grammar) (kind : ElementKind) (name : PropertyName) : Parser Unit := do
  let isConstructor := kind.isConstructor name
  mistakeIf ((kind.isPrototype name && !(← read).isAmbient) || (isConstructor && kind.isSpecial))
  if kind.isSetter then setterTail g
  else mistakeIf ((← functionTail g kind.isAsync kind.isGenerator).hasThis && isConstructor)

/-- A field from its type on, which may have a value. -/
def field (g : Grammar) (kind : ElementKind) (name : PropertyName) : Parser Unit := do
  mistakeIf (name.text? == some "constructor" || (kind.isPrototype name && !(← read).isAmbient))
  let _ ← typeAnnotation g
  if ← eatMark "=" then
    let _ ← g .expression
  semicolon

/-- A field that is accessed through methods, from its type on. -/
def accessedField (g : Grammar) : Parser Unit := do
  let _ ← typeAnnotation g
  if ← eatMark "=" then
    let _ ← g .assignment
  semicolon

/-- An element with a name, whose modifiers have been read. -/
def namedElement (g : Grammar) (words : List String) : Parser Unit := do
  let kind ← elementKind words
  if ← atIndexSignature then indexSignature g words
  else
    let name ← elementName g kind
    let isOptional ← eatMark "?"
    let isDefinite ← eatMark "!"
    mistakeIf (isOptional && isDefinite)
    if words.contains "accessor" then
      mistakeIf isOptional
      accessedField g
    else if (← current).isMarkOf ["(", "<"] || kind.isAsync || kind.isGenerator then
      method g kind name
    else
      require (!kind.isSpecial)
      field g kind name

/-- A block that runs when the class is made. -/
def staticBlock (g : Grammar) : Parser Unit := do
  expectWord "static"
  let _ ← within (fun s => { s with await := true, yield := false, inFunction := false })
    (g .block)

/-- The elements of a class in braces. -/
def classBody (g : Grammar) : Parser Unit := do
  expectMark "\x7b"
  let _ ← collect do
    if ← atMark "\x7d" then return none
    else if ← eatMark ";" then return some ()
    else
      decorators g
      let words ← elementModifiers
      if (← atWord "static") && (← ahead 1).isMark "\x7b" then staticBlock g
      else namedElement g words
      return some ()
  expectMark "\x7d"

/-- A class from its keyword on and the names it binds. It may go without a name. -/
def classTail (g : Grammar) : Parser (List String) := do
  expectWord "class"
  let t ← current
  let names ← if t.isName && !t.isWord "implements" then pure [← name] else pure []
  typeParameters g
  heritage g
  classBody g
  return names

end ModuleGraph.Script.Grammar
