import ModuleGraph.Script.Grammar.Expression

/-!
# Declarations

Variables, functions and classes, and what typed modules declare besides: types, interfaces,
enumerations, namespaces and names for what other modules export.
-/

set_option autoImplicit false

namespace ModuleGraph.Script.Grammar

open ModuleGraph.Script.Parser

/-! ## Variables -/

/-- One variable of a declaration, or several that a pattern binds. -/
structure Declarator where
  names : List String
  /-- Whether it is one name and no pattern. -/
  isName : Bool
  hasValue : Bool
  deriving DecidableEq, Repr

/-- One variable of a declaration. -/
def declarator (g : Grammar) : Parser Declarator := do
  match ← g .pattern with
  | .binding names isName =>
      if (← read).isTyped then
        let t ← current
        if isName && t.isMark "!" && !t.onNewLine then advance
        let _ ← eatMark "?"
        let _ ← typeAnnotation g
      let hasValue ← eatMark "="
      if hasValue then
        let _ ← g .assignment
      return { names, isName, hasValue }
  | _ => failure

/-- Variables with commas between them, at least one. -/
def declarators (g : Grammar) : Parser (List Declarator) := do
  let first ← declarator g
  let others ← collect do
    if ← eatMark "," then return some (← declarator g)
    else return none
  return first :: others

/-- Variables behind `var`, `let` or `const`, and whether they are constants. -/
def variableDeclaration (g : Grammar) : Parser (List Declarator × Bool) := do
  let isConstant ← atWord "const"
  require ((← current).isWordOf ["var", "let", "const"])
  advance
  return (← declarators g, isConstant)

/-- A statement that declares variables. A pattern takes a value apart and a constant keeps one, so
they need one; but a constant that is defined elsewhere has its value there. -/
def variableStatement (g : Grammar) : Parser Unit := do
  let (all, isConstant) ← variableDeclaration g
  let isAmbient := (← read).isAmbient
  mistakeIf <| all.any fun d => !d.hasValue && (!d.isName || (isConstant && !isAmbient))
  semicolon

/-- Resources, which are given up at the end of the block, behind `using`. Each is one name and
has a value, unless a loop gives it one. -/
def resources (g : Grammar) (inLoop : Bool) : Parser Unit := do
  let _ ← eatWord "await"
  expectWord "using"
  mistakeIf (← current).onNewLine
  mistakeIf (← eatWord "await")
  let all ← declarators g
  mistakeIf <| all.any fun d => !d.isName || (!d.hasValue && !inLoop)

/-- Whether a declaration of resources starts here. -/
def atResources : Parser Bool := do
  let next ← ahead 1
  if ← atWord "using" then return next.isPlainName
  else return (← atWord "await") && next.isWord "using" && (← ahead 2).isPlainName

/-! ## Types -/

/-- A name for a type. -/
def typeAlias (g : Grammar) : Parser Unit := do
  expectWord "type"
  let _ ← name
  typeParameters g
  expectMark "="
  -- the word is a type of its own only here
  if (← atWord "intrinsic") && !(← ahead 1).isMark "." then advance
  else
    let _ ← g .type
  semicolon

/-- An interface. -/
def interface (g : Grammar) : Parser Unit := do
  expectWord "interface"
  let _ ← name
  typeParameters g
  heritage g
  typeMembers g

/-- The name of a member of an enumeration: a word or a string. In brackets the string may be a
template without substitutions. -/
def enumMemberName : Parser Unit := do
  match (← current).kind with
  | .word _ _ => skip
  | .string _ => advance
  | _ =>
      expectMark "["
      match (← current).kind with
      | .string _ => advance
      | .template true isValid =>
          mistakeIf !isValid
          advance
      | _ => failure
      expectMark "]"

/-- An enumeration. -/
def enumeration (g : Grammar) : Parser Unit := do
  expectWord "enum"
  let _ ← name
  expectMark "\x7b"
  let _ ← listOf "\x7d" do
    enumMemberName
    if ← eatMark "=" then
      let _ ← g .assignment

/-- A namespace from its name on, which may be one of several levels or the specifier of a module.
Its contents may be left to others. -/
def namespaceTail (g : Grammar) : Parser Unit := do
  let level : Parser Unit := do
    if (← current).isString then advance
    else
      let _ ← name
  level
  let _ ← collect do
    if ← eatMark "." then return some (← level)
    else return none
  if ← atMark "\x7b" then
    let _ ← g .block
    semicolon

/-- A name for a module, or for a member of a namespace, behind `import`. -/
def importAlias : Parser Unit := do
  if (← atWord "type") && !(← ahead 1).isMark "=" then advance
  let _ ← name
  expectMark "="
  if ← eatWord "require" then
    expectMark "("
    let _ ← string
    expectMark ")"
  else qualifiedName
  semicolon

/-- Whether a name for a module, not an import of it, is what stands behind `import`. -/
def atImportAlias : Parser Bool := do
  let t ← current
  let next ← ahead 1
  return (t.isName && next.isMark "=") ||
    (t.isWord "type" && next.isName && (← ahead 2).isMark "=")

/-! ## Declarations -/

/-- A function that is declared with certain modifiers, and the names it binds. -/
def qualifiedFunction (g : Grammar) (words : List String) : Parser (List String) := do
  require (← atFunction)
  checkModifiers words ["async", "declare"]
  let isAsync := (← eatWord "async") || words.contains "async"
  if words.contains "declare" then ambientFunction g isAsync
  else return (← functionDeclaration g isAsync true).1

/-- A declaration whose modifiers have been read, with the names it binds. -/
def declarationTail (g : Grammar) (words : List String) : Parser (List String) := do
  let t ← current
  let unnamed (suitable : List String) (p : Parser Unit) : Parser (List String) := do
    checkModifiers words suitable
    p
    return []
  if t.isWordOf ["namespace", "module"] then
    unnamed ["declare"] do
      advance
      namespaceTail g
  else if t.isWord "global" then unnamed ["declare"] (namespaceTail g)
  else if t.isWord "type" then unnamed ["declare"] (typeAlias g)
  else if t.isWord "enum" then unnamed ["const", "declare"] (enumeration g)
  else if t.isWord "interface" && !(← ahead 1).onNewLine then unnamed ["declare"] (interface g)
  else if t.isWord "class" then
    checkModifiers words ["abstract", "declare"]
    classTail g
  else if t.isWord "import" then
    unnamed [] do
      advance
      importAlias
  else if t.isWordOf ["var", "let", "const"] then
    checkModifiers words ["declare"]
    let (all, _) ← variableDeclaration g
    semicolon
    return all.flatMap Declarator.names
  else qualifiedFunction g words

/-- A declaration with its modifiers, which only typed modules have, and the names it binds. -/
def declaration (g : Grammar) : Parser (List String) := do
  let words ← if (← read).isTyped then declarationModifiers else pure []
  within (fun s => { s with isAmbient := s.isAmbient || words.contains "declare" })
    (declarationTail g words)

/-- Whether a declaration of typed modules starts `n` tokens from here. Modifiers are passed over
as long as there is fuel. -/
def startsDeclaration : Nat → Nat → Parser Bool
  | 0, _ => return false
  | fuel + 1, n => do
      let t ← ahead n
      let next ← ahead (n + 1)
      if t.isWordOf ["var", "let", "const", "function", "class", "enum"] then return true
      else if t.isWordOf ["interface", "type"] then return next.isName && !next.onNewLine
      else if t.isWordOf ["module", "namespace"] then
        return (next.isName || next.isString) && !next.onNewLine
      else if t.isWord "global" then
        return next.isMark "\x7b" || next.isOrdinary || next.isWord "export"
      else if t.isWord "import" then
        return next.isString || next.isMarkOf ["*", "\x7b"] || next.isPlainName
      else if t.isWord "static" then startsDeclaration fuel (n + 1)
      else if t.isWordOf ["abstract", "accessor", "async", "declare", "private", "protected",
          "public", "readonly"] then
        if next.onNewLine then return false else startsDeclaration fuel (n + 1)
      else return false

end ModuleGraph.Script.Grammar
