import ModuleGraph.Script.Parser

/-!
# Modifiers

The words that qualify declarations, the elements of classes and parameters. A word is a modifier
only in front of something it can qualify, and a name otherwise. All of them are read wherever any
is; those that do not suit what they qualify are mistakes.
-/

set_option autoImplicit false

namespace ModuleGraph.Script.Grammar

open ModuleGraph.Script.Parser

/-- The words that can be modifiers. -/
def modifierWords : List String :=
  ["abstract", "accessor", "async", "const", "declare", "default", "export", "in", "out", "override",
    "private", "protected", "public", "readonly", "static"]

/-- The modifiers that tell who may access an element. -/
def accessibilityWords : List String := ["private", "protected", "public"]

/-- Whether a modifier can qualify what opens with a token. -/
def canBeModified (t : Token) : Bool := t.opensElementName || t.isMarkOf ["\x7b", "*", "..."]

/-- Takes modifiers as long as a test on those taken so far allows another. None may be
repeated. -/
def modifiersWhile (more : List String → Parser Bool) : Parser (List String) :=
  iterate [] fun taken => do
    match (← current).kind with
    | .word text _ =>
        if ← more taken then
          advance
          mistakeIf (taken.contains text)
          return some (text :: taken)
        else return none
    | _ => return none

/-- Notes a mistake if a modifier is not among those that suit. -/
def checkModifiers (words suitable : List String) : Parser Unit :=
  mistakeIf (words.any fun word => !suitable.contains word)

/-- Whether the next word is a modifier of an element or a parameter. `static` may stand on a line
of its own, but not in front of a block, nor a second time. -/
def atElementModifier (taken : List String) : Parser Bool := do
  let t ← current
  let next ← ahead 1
  if t.isWord "static" then
    return !next.isMark "\x7b" && !taken.contains "static" && canBeModified next
  else return t.isWordOf modifierWords && !next.onNewLine && canBeModified next

/-- The modifiers of an element of a class or of a parameter. -/
def elementModifiers : Parser (List String) := modifiersWhile atElementModifier

/-- Whether the next word is a modifier of a declaration. `const` qualifies enumerations only. -/
def atDeclarationModifier : Parser Bool := do
  let t ← current
  let next ← ahead 1
  if t.isWordOf ["default", "export"] then return false
  else if t.isWord "const" then return next.isWord "enum" && !next.onNewLine
  else if t.isWordOf ["accessor", "static"] then return canBeModified next
  else return t.isWordOf modifierWords && !next.onNewLine && canBeModified next

/-- The modifiers of a declaration. -/
def declarationModifiers : Parser (List String) := modifiersWhile fun _ => atDeclarationModifier

end ModuleGraph.Script.Grammar
