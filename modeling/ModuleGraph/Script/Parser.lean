import ModuleGraph.Script.Lexer
import ModuleGraph.Script.Shape

/-!
# Parsers

A parser takes tokens from the front of a source or fails. What a rule may contain depends on
the constructs around it, which is its `Setting`; what has been read so far is its `Progress`.
Some mistakes do not keep a parser from reading on: they are noted by `Parser.mistake`, and a
source with a mistake is refused in the end.
-/

set_option autoImplicit false

namespace ModuleGraph.Script

/-- What the constructs around a rule allow. -/
structure Setting where
  lexis : Lexis
  /-- Whether types may be written. -/
  isTyped : Bool
  /-- Whether `await` is an operator. -/
  await : Bool := false
  /-- Whether `yield` is an operator. -/
  yield : Bool := false
  /-- Whether `in` is an operator. -/
  inOperator : Bool := true
  /-- Whether `return` may stand here. -/
  inFunction : Bool := false
  /-- Whether what is declared here is defined elsewhere. -/
  isAmbient : Bool := false
  /-- Whether the expression is a decorator, where brackets open something new. -/
  inDecorator : Bool := false
  /-- Whether `extends` behind a type constrains what has been inferred. -/
  inConstraint : Bool := false

/-- The setting in which `in` is an operator. -/
def Setting.withIn (s : Setting) : Setting := { s with inOperator := true }

/-- The setting inside of parentheses, where `in` is an operator and brackets access members. -/
def Setting.bracketed (s : Setting) : Setting := { s with inOperator := true, inDecorator := false }

/-- The setting in which conditions may choose between types. -/
def Setting.unconstrained (s : Setting) : Setting := { s with inConstraint := false }

/-- What has been read. -/
structure Progress where
  token : Token
  hasMistake : Bool := false
  /-- The names that have been exported. -/
  exported : List String := []
  /-- The offsets of names in objects that bring a value and have not been assigned to. -/
  unassigned : List Nat := []
  /-- The offsets at which no arrow function starts. -/
  notArrows : List Nat := []

/-- A parser with a result. Progress made before a failure is kept only as far as `attempt`
looks at it. -/
abbrev Parser (α : Type) := ReaderT Setting (OptionT (StateM Progress)) α

namespace Parser

variable {α : Type}

/-! ## Tokens -/

/-- The next token. -/
def current : Parser Token := return (← get).token

/-- Notes a mistake. -/
def mistake : Parser Unit := modify fun s => { s with hasMistake := true }

/-- Notes a mistake if a condition holds. -/
def mistakeIf (condition : Bool) : Parser Unit := do
  if condition then mistake

/-- Moves behind the next token, which is taken as a name if it is a word. -/
def skip : Parser Unit := do
  let lexis := (← read).lexis
  modify fun s => { s with token := Token.after lexis s.token.stop }

/-- Moves behind the next token, which is taken as a keyword if it is a word. -/
def advance : Parser Unit := do
  mistakeIf (← current).isDisguised
  skip

/-- Replaces the next token by another reading of it. -/
def reread (f : Token → Token) : Parser Unit := modify fun s => { s with token := f s.token }

/-- The token `n` places behind the next one. -/
def ahead (n : Nat) : Parser Token := do
  let lexis := (← read).lexis
  let rec follow : Nat → Token → Token
    | 0, t => t
    | n + 1, t => follow n (Token.after lexis t.stop)
  return follow n (← current)

/-- Whether the next token is a mark. -/
def atMark (text : String) : Parser Bool := return (← current).isMark text

/-- Whether the next token is a keyword. -/
def atWord (text : String) : Parser Bool := return (← current).isWord text

/-- Whether the source is at its end. -/
def atEnd : Parser Bool := return (← current).kind == .endOfText

/-- Takes a mark if it is next. -/
def eatMark (text : String) : Parser Bool := do
  if ← atMark text then
    advance
    return true
  else return false

/-- Takes a keyword if it is next. -/
def eatWord (text : String) : Parser Bool := do
  if ← atWord text then
    advance
    return true
  else return false

/-- Takes a mark that has to be next. -/
def expectMark (text : String) : Parser Unit := do
  if !(← eatMark text) then failure

/-- Takes a keyword that has to be next. -/
def expectWord (text : String) : Parser Unit := do
  if !(← eatWord text) then failure

/-- Fails unless a condition holds. -/
def require (condition : Bool) : Parser Unit := do
  if !condition then failure

/-! ## Combination -/

/-- Runs a parser in another setting. -/
def within (f : Setting → Setting) (p : Parser α) : Parser α := withReader f p

/-- Runs a parser that may fail; then nothing has been read. That no arrow function starts at an
offset stays known. -/
def attempt (p : Parser α) : Parser (Option α) := fun setting => do
  let before ← getThe Progress
  match ← OptionT.lift (p setting).run with
  | some a => return some a
  | none =>
      -- what is known about arrows holds for the text, whatever is tried on it next
      modify fun s => { before with notArrows := s.notArrows }
      return none

/-- Whether a parser succeeds. Nothing is read by that. -/
def lookahead (p : Parser α) : Parser Bool := do
  let before ← getThe Progress
  let found ← attempt p
  modify fun s => { before with notArrows := s.notArrows }
  return found.isSome

/-- Collects results until there is none, at most `fuel` of them. -/
def collectFrom (p : Parser (Option α)) : Nat → List α → Parser (List α)
  | 0, _ => failure
  | fuel + 1, read => do
      match ← p with
      | none => return read.reverse
      | some a => collectFrom p fuel (a :: read)

/-- Collects results until there is none. Every result but the last takes a token, so there are
no more than the source has characters. -/
def collect (p : Parser (Option α)) : Parser (List α) := do
  collectFrom p (← read).lexis.limit []

/-- Changes a value until there is no change. -/
def iterate (a : α) (p : α → Parser (Option α)) : Parser α := do
  let rec go : Nat → α → Parser α
    | 0, _ => failure
    | fuel + 1, a => do
        match ← p a with
        | none => return a
        | some a => go fuel a
  go (← read).lexis.limit a

/-- Elements with commas between them, up to where a closing mark is seen, and whether the last
element has a comma behind it. -/
def listUpTo (close : Parser Bool) (element : Parser α) : Parser (List α × Bool) := do
  let elements ← collect do
    if ← close then return none
    let a ← element
    if ← close then return some (a, false)
    expectMark ","
    return some (a, true)
  return (elements.map Prod.fst, (elements.getLast?.map Prod.snd).getD false)

/-- Elements with commas between them, also behind the last, and the closing mark. -/
def listOf (close : String) (element : Parser α) : Parser (List α) := do
  let (elements, _) ← listUpTo (atMark close) element
  expectMark close
  return elements

/-- Whether an angle closes here, alone or at the front of a longer mark. -/
def atClosingAngle : Parser Bool := do
  let t ← current
  match t.kind with
  | .mark _ => return t.start.sees (· == '>')
  | _ => return false

/-- Takes the angle that closes here. -/
def closeAngle : Parser Unit := do
  require (← atClosingAngle)
  -- a mark such as `>>` closes two lists, one angle at a time
  reread Token.firstCharacter
  advance

/-- Whether an angle opens here, alone or at the front of a longer mark. -/
def atOpeningAngle : Parser Bool := return (← current).isMarkOf ["<", "<<"]

/-- Elements in angles. Whether a comma may stand behind the last depends on what they are. -/
def listInAngles (mayTrail : Bool) (element : Parser α) : Parser Unit := do
  require (← atOpeningAngle)
  reread Token.firstCharacter
  advance
  let (_, trailing) ← listUpTo atClosingAngle element
  require (mayTrail || !trailing)
  closeAngle

/-! ## Ends of statements -/

/-- Whether a statement can end in front of a token. -/
def endsStatement (t : Token) : Bool :=
  t.isMarkOf [";", "\x7d"] || t.kind == .endOfText || t.onNewLine

/-- Ends a statement: with a semicolon, or where one can be left out. -/
def semicolon : Parser Unit := do
  let t ← current
  if t.isMark ";" then advance
  else require (endsStatement t)

/-! ## Templates -/

/-- A template with what its substitutions hold. A substitution goes on until a brace closes it,
and the text of the template behind that. Under a tag, escapes need not stand for anything. -/
def templateOf (hasTag : Bool) (content : Parser α) : Parser Unit := do
  if !(← stretch) then
    let _ ← collect do
      let _ ← content
      if ← atMark "\x7d" then
        let lexis := (← read).lexis
        reread (Token.asTemplate lexis)
        if ← stretch then return none
      return some ()
where
  /-- A stretch of the text, and whether it is the last. -/
  stretch : Parser Bool := do
    match (← current).kind with
    | .template isLast isValid =>
        mistakeIf (!hasTag && !isValid)
        advance
        return isLast
    | _ => failure

/-! ## Names -/

/-- Notes a mistake if a word is an operator here and so names nothing. -/
def checkName (text : String) : Parser Unit := do
  let setting ← read
  mistakeIf ((setting.await && text == "await") || (setting.yield && text == "yield"))

/-- A name of a variable. -/
def name : Parser String := do
  let t ← current
  match t.kind with
  | .word text _ =>
      require t.isName
      checkName text
      skip
      return text
  | _ => failure

/-- A word of any kind. -/
def anyWord : Parser String := do
  match (← current).kind with
  | .word text _ =>
      skip
      return text
  | _ => failure

/-- A string. -/
def string : Parser String := do
  match (← current).kind with
  | .string value =>
      advance
      return value
  | _ => failure

end Parser

/-- The constructs that contain one another. -/
inductive Rule where
  /-- Expressions with commas between them. -/
  | expression
  | assignment
  /-- An operand with all operators behind it that bind more tightly than the given degree. -/
  | operand (degree : Nat)
  | unary
  /-- An operand without operators: a value with its accesses and calls. -/
  | access
  /-- A pattern that binds names. -/
  | pattern
  /-- A statement; whether it stands alone as the body of another. -/
  | statement (isBody : Bool)
  /-- Statements in braces. -/
  | block
  /-- What stands in the braces of a function. -/
  | statements
  | type
  /-- A type that no condition chooses. -/
  | unionType

/-- The parsers of the constructs. -/
abbrev Grammar := Rule → Parser Shape

end ModuleGraph.Script
