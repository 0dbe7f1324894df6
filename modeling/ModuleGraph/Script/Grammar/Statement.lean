import ModuleGraph.Script.Grammar.Module

/-!
# Statements

All statements, and the sequences of them that make the bodies of functions and blocks.
-/

set_option autoImplicit false

namespace ModuleGraph.Script.Grammar

open ModuleGraph.Script.Parser

/-! ## Conditions and loops -/

/-- A value in parentheses in front of the statement it is for. -/
def head (g : Grammar) : Parser Unit := do
  expectMark "("
  let _ ← g .expression
  expectMark ")"

/-- The body of a loop or a condition. -/
def body (g : Grammar) : Parser Unit := do
  let _ ← g (.statement true)

/-- A condition with what happens and what happens otherwise. -/
def ifStatement (g : Grammar) : Parser Unit := do
  expectWord "if"
  head g
  body g
  if ← eatWord "else" then body g

/-- A loop with its condition behind it. -/
def doStatement (g : Grammar) : Parser Unit := do
  expectWord "do"
  body g
  expectWord "while"
  head g
  let _ ← eatMark ";"

/-- A loop or a block with a value in front of it. -/
def headedStatement (g : Grammar) : Parser Unit := do
  advance
  head g
  body g

/-- What is left of a loop that counts, from its first semicolon on. -/
def countingLoop (g : Grammar) (isAwait : Bool) : Parser Unit := do
  expectMark ";"
  if !(← current).isMarkOf [";", ")"] then
    let _ ← within Setting.withIn (g .expression)
  expectMark ";"
  if !(← atMark ")") then
    let _ ← within Setting.withIn (g .expression)
  expectMark ")"
  mistakeIf isAwait
  body g

/-- Whether a loop over members or items goes on here. -/
def atLoopWord : Parser Bool := return (← current).isWordOf ["in", "of"]

/-- What is left of a loop over the members or the items of a value, from `in` or `of` on. -/
def traversal (g : Grammar) (isAwait : Bool) : Parser Unit := do
  let isMembers ← atWord "in"
  advance
  let _ ← if isMembers then g .expression else g .assignment
  expectMark ")"
  mistakeIf (isAwait && isMembers)
  body g

/-- What is left of a loop behind what its head opens with. -/
def loopTail (g : Grammar) (isAwait : Bool) : Parser Unit := do
  if ← atLoopWord then traversal g isAwait else countingLoop g isAwait

/-- A loop whose head opens with a declaration. It may leave values to the loop, whatever the
loop is over. -/
def declaringLoop (g : Grammar) (isAwait : Bool) : Parser Unit := do
  let _ ← within (fun s => { s with inOperator := false }) (variableDeclaration g)
  loopTail g isAwait

/-- A loop whose head opens with resources, which are not the members of a value. -/
def resourceLoop (g : Grammar) (isAwait : Bool) : Parser Unit := do
  resources g true
  mistakeIf (← atWord "in")
  loopTail g isAwait

/-- A loop whose head opens with a value, which is assigned to if it is over members or items.
The names `let` and `async` are too much like other loops to be assigned to by `of`. -/
def valueLoop (g : Grammar) (isAwait : Bool) : Parser Unit := do
  let t ← current
  let nextIsOf := (← ahead 1).isWord "of"
  let target ← within (fun s => { s with inOperator := false }) (g .expression)
  if ← atLoopWord then
    assignTo target
    let isAsync := t.kind == .word "async" false
    mistakeIf (nextIsOf && (t.isWord "let" || (isAsync && !isAwait)))
  loopTail g isAwait

/-- Whether `let` opens a declaration in front of a token. -/
def opensAfterLet (t : Token) : Bool :=
  !t.isWord "in" && (t.isMarkOf ["[", "\x7b"] || t.isAnyWord)

/-- Whether the head of a loop opens with resources. -/
def atLoopResources : Parser Bool := do
  let next ← ahead 1
  return ((← atWord "await") && next.isWord "using") ||
    ((← atWord "using") && next.isPlainName && !next.isWord "of")

/-- A loop with a head of several parts. -/
def forStatement (g : Grammar) : Parser Unit := do
  expectWord "for"
  let isAwait ← eatWord "await"
  mistakeIf (isAwait && !(← read).await)
  expectMark "("
  let t ← current
  let next ← ahead 1
  if t.isMarkOf [";", ")"] then countingLoop g isAwait
  else if t.isWordOf ["var", "const"] || (t.isWord "let" && opensAfterLet next) then
    declaringLoop g isAwait
  else if ← atLoopResources then resourceLoop g isAwait
  else valueLoop g isAwait

/-! ## Jumps -/

/-- The end of a loop or of one round, perhaps of one with a label. -/
def jumpStatement : Parser Unit := do
  advance
  if !endsStatement (← current) then
    require (← current).isName
    let _ ← name
  semicolon

/-- The end of a function. -/
def returnStatement (g : Grammar) : Parser Unit := do
  expectWord "return"
  mistakeIf !(← read).inFunction
  if !endsStatement (← current) then
    let _ ← within Setting.withIn (g .expression)
  semicolon

/-- A failure, whose value is on the same line. -/
def throwStatement (g : Grammar) : Parser Unit := do
  expectWord "throw"
  mistakeIf (← current).onNewLine
  let _ ← g .expression
  semicolon

/-! ## Blocks -/

/-- Statements in braces. -/
def block (g : Grammar) : Parser Shape := do
  expectMark "\x7b"
  let _ ← collect do
    if ← atMark "\x7d" then return none
    else return some (← g (.statement false))
  expectMark "\x7d"
  return .plain

/-- A block with what is done when it fails and what is done in any case, one of them at
least. -/
def tryStatement (g : Grammar) : Parser Unit := do
  expectWord "try"
  let _ ← block g
  let hasCatch ← eatWord "catch"
  if hasCatch then
    if ← eatMark "(" then
      let _ ← g .pattern
      let _ ← typeAnnotation g
      expectMark ")"
    let _ ← block g
  let hasFinally ← eatWord "finally"
  if hasFinally then
    let _ ← block g
  mistakeIf (!hasCatch && !hasFinally)

/-- One case of a selection up to the next. -/
def caseClause (g : Grammar) : Parser Unit := do
  if !(← eatWord "default") then
    expectWord "case"
    let _ ← g .expression
  expectMark ":"
  let _ ← collect do
    if (← current).isWordOf ["case", "default"] || (← atMark "\x7d") then return none
    else return some (← g (.statement false))

/-- A selection between cases. -/
def switchStatement (g : Grammar) : Parser Unit := do
  expectWord "switch"
  head g
  expectMark "\x7b"
  let _ ← collect do
    if ← atMark "\x7d" then return none
    else return some (← caseClause g)
  expectMark "\x7d"

/-! ## Statements -/

/-- An expression as a statement, or a statement with a label. -/
def expressionStatement (g : Grammar) : Parser Unit := do
  match ← g .expression with
  | .name _ => if ← eatMark ":" then body g else semicolon
  | _ => semicolon

/-- A statement that opens with `let`, which is a name in front of an operator and where it stands
alone. -/
def letStatement (g : Grammar) (isBody : Bool) : Parser Unit := do
  let next ← ahead 1
  if next.isMarkOf assignmentMarks || isArithmetic next.kind then
    let _ ← g .assignment
    semicolon
  -- such a statement needs no end
  else if next.isMarkOf [".", "("] then
    let _ ← g .expression
  else if (isBody && !next.isMark "[") || next.isMark ";" then
    let _ ← name
    semicolon
  else
    variableStatement g
    mistakeIf isBody

/-- A function as a statement. As a body it is neither asynchronous nor a generator. -/
def functionStatement (g : Grammar) (isBody : Bool) : Parser Unit := do
  let isAsync ← eatWord "async"
  let (_, isGenerator) ← functionDeclaration g isAsync true
  mistakeIf (isBody && (isAsync || isGenerator))

/-- Whether an import as a statement of its own starts here, and not a value. -/
def atImport : Parser Bool := do
  return (← atWord "import") && !(← ahead 1).isMarkOf [".", "("]

/-- A statement that imports and exports nothing. -/
def plainStatement (g : Grammar) (isBody : Bool) : Parser Unit := do
  let t ← current
  let isTyped := (← read).isTyped
  if t.isMark "\x7b" then
    let _ ← block g
  else if t.isMark ";" then advance
  else if t.isWord "if" then ifStatement g
  else if t.isWord "do" then doStatement g
  else if t.isWordOf ["while", "with"] then headedStatement g
  else if t.isWord "for" then forStatement g
  else if t.isWordOf ["continue", "break"] then jumpStatement
  else if t.isWord "switch" then switchStatement g
  else if t.isWord "throw" then throwStatement g
  else if t.isWord "try" then tryStatement g
  else if t.isWord "debugger" then
    advance
    semicolon
  else if t.isWord "return" then returnStatement g
  else if t.isWord "class" then
    let _ ← classTail g
    mistakeIf isBody
  else if t.isWord "var" then variableStatement g
  else if t.isWord "const" && !(isTyped && (← ahead 1).isWord "enum") then
    variableStatement g
    mistakeIf isBody
  else if ← atResources then
    resources g false
    semicolon
  else if t.kind == .word "let" false then letStatement g isBody
  else if ← atFunction then functionStatement g isBody
  else if isTyped && (← startsDeclaration (← read).lexis.limit 0) then
    let _ ← within (fun s => { s with await := false }) (declaration g)
  else expressionStatement g

/-- A statement, which may have decorators. -/
def statement (g : Grammar) (isBody : Bool) : Parser Shape := do
  decorators g
  if ← atImport then importDeclaration
  else if ← atWord "export" then exportDeclaration g
  else
    plainStatement g isBody
    return .plain

/-- A statement of a function or of a source, none at its end. Decorators may stand there for
nothing. -/
def statementOfBody? (g : Grammar) (atClose : Parser Bool) : Parser (Option Shape) := do
  decorators g
  if ← atClose then return none
  else return some (← g (.statement false))

/-- What stands in the braces of a function. -/
def statements (g : Grammar) : Parser Shape := do
  let _ ← collect <| statementOfBody? g do
    return (← atMark "\x7d") || (← atEnd)
  return .plain

end ModuleGraph.Script.Grammar
