import ModuleGraph.Script.Grammar.Class

/-!
# Expressions

Values, accesses, operators, arrow functions and assignments, from the inside out.
-/

set_option autoImplicit false

namespace ModuleGraph.Script.Grammar

open ModuleGraph.Script.Parser

/-! ## Values -/

/-- A template with values in it. -/
def template (g : Grammar) (hasTag : Bool) : Parser Unit :=
  templateOf hasTag (within Setting.withIn (g .expression))

/-- A regular expression. -/
def regex : Parser Unit := do
  reread Token.asRegex
  require ((← current).kind == .regex)
  advance

/-- The items of an array. An item that stands for several and has a comma behind it is followed
by a hole, so that it does not count as the last. -/
def arrayLiteral (g : Grammar) : Parser Shape := do
  expectMark "["
  let items ← within Setting.withIn <| collect do
    if ← atMark "]" then return none
    else if ← eatMark "," then return some [Shape.hole]
    else
      let isSpread ← eatMark "..."
      let value ← g .assignment
      let item := if isSpread then Shape.spread value else value
      if ← atMark "]" then return some [item]
      else
        expectMark ","
        return some (if isSpread then [item, .hole] else [item])
  expectMark "]"
  return .array items.flatten

/-- A member of an object that is spelled by its name only. A value of its own is allowed to it
if the object turns out to be assigned to. -/
def shorthandMember (g : Grammar) : Parser Shape := do
  let offset := (← current).start.offset
  let _ ← name
  if ← defaultValue g then
    modify fun s => { s with unassigned := offset :: s.unassigned }
  return .shorthand offset

/-- A method of an object. -/
def objectMethod (g : Grammar) (isAsync isGenerator : Bool) : Parser Shape := do
  let _ ← propertyName g
  let _ ← functionTail g isAsync isGenerator
  return .member .plain

/-- A member of an object. -/
def objectMember (g : Grammar) : Parser Shape := do
  let t ← current
  let next ← ahead 1
  if t.isMark "..." then
    advance
    return .spread (← g .assignment)
  else if t.isWord "async" && !next.onNewLine && (next.opensElementName || next.isMark "*") then
    advance
    objectMethod g true (← eatMark "*")
  else if t.isMark "*" then
    advance
    objectMethod g false true
  else if t.isWordOf ["get", "set"] && next.opensElementName then
    advance
    objectMethod g false false
  else if t.isName && !next.isMarkOf ["(", "<", ":", "."] then shorthandMember g
  -- a name with a value or a body of its own need not be one of a variable
  else
    let _ ← propertyName g
    if ← eatMark ":" then return .member (← g .assignment)
    else
      require ((← current).isMarkOf ["(", "<"])
      let _ ← functionTail g false false
      return .member .plain

/-- The members of an object. -/
def objectLiteral (g : Grammar) : Parser Shape := do
  expectMark "\x7b"
  let (members, trailing) ← within Setting.withIn (listUpTo (atMark "\x7d") (objectMember g))
  expectMark "\x7d"
  return .object (if trailing then members ++ [.hole] else members)

/-- A value in parentheses. -/
def parenthesized (g : Grammar) : Parser Shape := do
  expectMark "("
  let shape ← within Setting.bracketed (g .expression)
  expectMark ")"
  return .parenthesized shape

/-- The arguments of a call. -/
def arguments (g : Grammar) : Parser Unit := do
  expectMark "("
  let _ ← within Setting.bracketed <| listOf ")" do
    let _ ← eatMark "..."
    g .assignment

/-- The argument of an import that is a value, which may have options. -/
def importCall (g : Grammar) : Parser Shape := do
  expectMark "("
  within Setting.withIn do
    let _ ← g .assignment
    if ← eatMark "," then
      if !(← atMark ")") then
        let _ ← g .assignment
        let _ ← eatMark ","
  expectMark ")"
  return .importCall

/-- What `import` stands for inside of an expression: the module itself, or a module that is
loaded later. -/
def importExpression (g : Grammar) : Parser Shape := do
  expectWord "import"
  if ← eatMark "." then
    if ← eatWord "meta" then return .plain
    else
      require ((← current).isWordOf ["source", "defer"])
      advance
      importCall g
  else importCall g

/-- `super`, which is nothing without an access or a call behind it. -/
def superExpression : Parser Unit := do
  expectWord "super"
  mistakeIf !((← current).isMarkOf [".", "[", "("])

/-- A value that is a word or opens with one. -/
def wordValue (g : Grammar) (text : String) : Parser Shape := do
  if text = "class" then
    let _ ← classTail g
    return .plain
  else if text = "import" then importExpression g
  else if text = "super" then
    superExpression
    return .plain
  else if ["this", "null", "true", "false"].contains text then
    advance
    return .plain
  else return .name (← name)

/-- A value without accesses that is not made by `new`. -/
def value (g : Grammar) : Parser Shape := do
  if ← atFunction then
    functionExpression g
    return .plain
  else
    match (← current).kind with
    | .word text _ => wordValue g text
    | .number | .string _ =>
        advance
        return .plain
    | .template _ _ =>
        template g false
        return .plain
    | .mark "/" | .mark "/=" =>
        regex
        return .plain
    | .mark "[" => arrayLiteral g
    | .mark "\x7b" => objectLiteral g
    | .mark "(" => parenthesized g
    | _ => failure

/-! ## Accesses -/

/-- The member of an object behind a dot. -/
def memberName : Parser Unit := do
  require ((← current).isAnyWord || (← current).isPrivateName)
  skip

/-- A member of an object in brackets. -/
def memberInBrackets (g : Grammar) : Parser Unit := do
  expectMark "["
  let _ ← within Setting.withIn (g .expression)
  expectMark "]"

/-- Whether an expression can start with a token that has another behind it. -/
def startsExpression (t next : Token) : Bool :=
  t.isLiteral || t.isTemplate || t.isName || t.isPrivateName || t.isWordOf unaryWords ||
    t.isWordOf ["this", "super", "function", "class", "new", "in", "instanceof"] ||
    t.isMarkOf (["(", "[", "\x7b", "/=", "<", "@"] ++ unaryMarks ++ countingMarks) ||
    (t.isWord "import" && next.isMarkOf ["(", "<", "."]) || isArithmetic t.kind

/-- Whether the type arguments of a value can end here. -/
def endsTypeArguments : Parser Bool := do
  let t ← current
  -- `f<a>(b)` is a call, but `f<a>+b` compares twice
  if t.isMark "(" || t.isTemplate then return true
  else if t.isMarkOf ["<", "+", "-"] || t.opensWithAngle then return false
  else
    let isOperator :=
      isArithmetic t.kind && (!t.isWord "in" || (← read).inOperator)
    return t.onNewLine || isOperator || !startsExpression t (← ahead 1)

/-- Type arguments of a value, if that is what the angle opens. -/
def typeArguments? (g : Grammar) : Parser Bool := do
  let found ← attempt do
    require (← atOpeningAngle)
    reread Token.firstCharacter
    advance
    let (_, trailing) ← listUpTo atClosingAngle (g .type)
    require (!trailing && !(← atMark ">="))
    closeAngle
    require (← endsTypeArguments)
  return found.isSome

/-- How far a chain of accesses has been followed. -/
structure Chain where
  shape : Shape
  /-- Whether a link of the chain is skipped when there is nothing to access. -/
  isOptional : Bool := false
  /-- Whether the last link is the types that a generic value is used with. -/
  isInstance : Bool := false

/-- The shape of a chain as a whole. One with an optional link has no place. -/
def Chain.result (chain : Chain) : Shape :=
  match chain.shape with
  | .place => if chain.isOptional && !chain.isInstance then .plain else .place
  | shape => shape

/-- A chain with a link behind it that has a place. -/
def Chain.place (chain : Chain) : Chain := { chain with shape := .place, isInstance := false }

/-- A chain with a link behind it that gives a value only. -/
def Chain.plain (chain : Chain) : Chain := { chain with shape := .plain, isInstance := false }

/-- The optional access of a member, if there is one. -/
def optionalMember? (g : Grammar) (chain : Chain) : Parser (Option Chain) := do
  let chain := { chain with isOptional := true }
  let next ← ahead 1
  if next.isAnyWord || next.isPrivateName then
    advance
    memberName
    return some chain.place
  else if next.isMark "[" && !(← read).inDecorator then
    advance
    memberInBrackets g
    return some chain.place
  else return none

/-- The next link of a chain, if there is one that calls nothing. -/
def member? (g : Grammar) (chain : Chain) : Parser (Option Chain) := do
  let t ← current
  let setting ← read
  if t.isMark "." then
    advance
    memberName
    return some chain.place
  else if t.isMark "?." then optionalMember? g chain
  else if t.isMark "[" && !setting.inDecorator then
    memberInBrackets g
    return some chain.place
  else if t.isTemplate then
    mistakeIf chain.isOptional
    template g true
    return some chain.plain
  else if setting.isTyped && t.isMark "!" && !t.onNewLine then
    advance
    return some chain.place
  else if setting.isTyped && (← atOpeningAngle) then
    if ← typeArguments? g then return some { chain with shape := .place, isInstance := true }
    else return none
  else return none

/-- Follows the links of a chain that call nothing. -/
def members (g : Grammar) (chain : Chain) : Parser Chain := do
  let chain ← iterate chain (member? g)
  -- what stands behind the mark may still be a call
  return if ← atMark "?." then { chain with isOptional := true } else chain

/-- A call with the links behind it, if there is one. An optional one may be given types. -/
def call? (g : Grammar) (chain : Chain) : Parser (Option Chain) := do
  let isOptional ← eatMark "?."
  if isOptional && (← current).isTemplate then
    mistake
    template g true
    return some (← members g chain.plain)
  else
    let hasTypes := isOptional && (← atMark "<")
    if hasTypes then typeArguments g
    if hasTypes || (← atMark "(") then
      arguments g
      return some (← members g chain.plain)
    else return none

/-- An object that is made, from `new` on. What makes it is no call and no optional link. -/
def newExpression (g : Grammar) (primary : Parser Shape) : Parser Unit := do
  expectWord "new"
  if ← eatMark "." then expectWord "target"
  else
    let maker ← members g { shape := ← primary }
    mistakeIf (maker.shape.isImportCall || maker.isOptional)
    if ← atMark "(" then arguments g

/-- A value without accesses. `new` may be repeated, once for every result that is made of
again. -/
def primary (g : Grammar) : Nat → Parser Shape
  | 0 => failure
  | fuel + 1 => do
      decorators g
      if ← atWord "new" then
        newExpression g (primary g fuel)
        return .plain
      else value g

/-- A value with its accesses and calls. -/
def access (g : Grammar) : Parser Shape := do
  let shape ← primary g (← read).lexis.limit
  let chain ← iterate (← members g { shape }) (call? g)
  return chain.result

/-! ## Operators -/

/-- An operand that is counted up or down in front of it. -/
def countedBefore (g : Grammar) : Parser Shape := do
  advance
  require (← g .unary).isSimpleTarget
  return .plain

/-- A value that may be counted up or down behind it. -/
def countedAfter (g : Grammar) : Parser Shape := do
  let shape ← g .access
  let t ← current
  if t.isMarkOf countingMarks && !t.onNewLine then
    require shape.isSimpleTarget
    advance
    return .plain
  else return shape

/-- An operand that is waited for. -/
def awaited (g : Grammar) : Parser Shape := do
  mistakeIf !(← read).await
  advance
  let _ ← within (fun s => { s with await := true }) (g .unary)
  return .plain

/-- An operand behind the type it is taken to have. -/
def typedOperand (g : Grammar) : Parser Shape := do
  expectMark "<"
  let _ ← g .type
  closeAngle
  let _ ← g .unary
  return .place

/-- An operand with the operators in front of it. -/
def unary (g : Grammar) : Parser Shape := do
  let t ← current
  let next ← ahead 1
  let setting ← read
  if t.isMarkOf countingMarks then countedBefore g
  else if t.isMarkOf unaryMarks || t.isWordOf unaryWords then
    advance
    let _ ← g .unary
    return .plain
  else if setting.isTyped && t.isMark "<" then typedOperand g
  else if t.isWord "await" && (setting.await || (next.showsOperator && !next.isWord "of")) then
    awaited g
  else countedAfter g

/-- The operator behind an operand that binds more tightly than the given degree, if there is
one, and its own degree. Powers group to the right, all else to the left. -/
def binaryOperator? (degree : Nat) : Parser (Option Nat) := do
  let t ← current
  if t.isWord "in" && !(← read).inOperator then return none
  else
    match binaryPrecedence? t.kind with
    | some own =>
        -- 12 is the degree of powers
        if degree < own || (own = 12 && degree = 12) then return some own else return none
    | none => return none

/-- An operand as far as it has been read. -/
structure Operand where
  shape : Shape
  /-- Whether no operator can follow. -/
  isComplete : Bool := false

/-- The operand with the operator `as` or `satisfies` behind it, which binds like a comparison. In
typed sources it takes a type. Elsewhere it takes an operand that counts for nothing. -/
def castTail? (g : Grammar) (degree : Nat) (first : Operand) : Parser (Option Operand) := do
  -- 8 is the degree of comparisons
  if 8 ≤ degree then return none
  else if (← read).isTyped then
    if (← current).onNewLine then return none
    else
      advance
      let _ ← g .type
      return some { shape := .place }
  else
    advance
    let _ ← g (.operand 8)
    return some { first with isComplete := true }

/-- The operand with what may stand behind it: an operator with another operand. -/
def operandTail? (g : Grammar) (degree : Nat) (first : Operand) : Parser (Option Operand) := do
  if first.isComplete then return none
  else if (← current).isWordOf ["as", "satisfies"] then castTail? g degree first
  else
    match ← binaryOperator? degree with
    | some own =>
        advance
        let _ ← g (.operand own)
        return some { shape := .plain }
    | none => return none

/-- A test whether an object has a private member. -/
def privateTest (g : Grammar) : Parser Shape := do
  advance
  require (← read).inOperator
  expectWord "in"
  let _ ← g .unary
  return .plain

/-- Operands with operators between them. A private name is an operand of `in` only. -/
def operand (g : Grammar) (degree : Nat) : Parser Shape := do
  let shape ← if (← current).isPrivateName then privateTest g else g .unary
  return (← iterate { shape : Operand } (operandTail? g degree)).shape

/-! ## Arrow functions -/

/-- The body of an arrow function. -/
def arrowBody (g : Grammar) (isAsync : Bool) : Parser Unit :=
  within (fun s => { s with await := isAsync, yield := false }) do
    if ← atMark "\x7b" then functionBody g
    else
      let _ ← g .assignment

/-- The arrow of a function, which stands on the line where the parameters end. -/
def arrow : Parser Unit := do
  mistakeIf (← current).onNewLine
  expectMark "=>"

/-- The parameters of an arrow function in parentheses with its arrow. -/
def arrowHead (g : Grammar) (isAsync : Bool) : Parser Unit := do
  if isAsync then expectWord "async"
  within (fun s => { s with await := s.await || isAsync }) do
    typeParameters g
    mistakeIf (← parameters g)
    let _ ← resultType g
  arrow

/-- How a text looks that may be an arrow function. -/
inductive Likeness where
  | no
  | maybe
  | yes
  deriving DecidableEq, Repr

/-- How the tokens from an opening parenthesis or angle on look, which is the one `n` places behind
the next token. Where they can only be parameters, it is an arrow function whatever follows. -/
def arrowLikeness (n : Nat) : Parser Likeness := do
  let first ← ahead (n + 1)
  let second ← ahead (n + 2)
  if (← ahead n).isMark "<" then
    return if first.isName || first.isWord "const" then .maybe else .no
  else if first.isMark ")" then
    return if second.isMarkOf ["=>", ":", "\x7b"] then .yes else .no
  else if first.isMarkOf ["[", "\x7b"] then return .maybe
  else if first.isMark "..." then return .yes
  else if first.isWordOf modifierWords && !first.isWord "async" && second.isPlainName then
    return if second.isWord "as" then .no else .yes
  else if !first.isName && !first.isWord "this" then return .no
  else if second.isMark ":" then return .yes
  else if second.isMark "?" then
    return if (← ahead (n + 3)).isMarkOf [":", ",", "=", ")"] then .yes else .no
  else return if second.isMarkOf [",", "=", ")"] then .maybe else .no

/-- An arrow function with parentheses, if one starts here. -/
def arrowFunction? (g : Grammar) (isAsync : Bool) : Parser Bool := do
  let offset := (← current).start.offset
  match ← arrowLikeness (if isAsync then 1 else 0) with
  | .no => return false
  | .yes =>
      arrowHead g isAsync
      arrowBody g isAsync
      return true
  | .maybe =>
      if (← get).notArrows.contains offset then return false
      else if (← attempt (arrowHead g isAsync)).isSome then
        arrowBody g isAsync
        return true
      else
        modify fun s => { s with notArrows := offset :: s.notArrows }
        return false

/-- An arrow function that opens with a parenthesis, an angle or `async`, if one starts here. -/
def anyArrowFunction? (g : Grammar) : Parser Bool := do
  let t ← current
  let opens (t : Token) : Bool := t.isMarkOf ["(", "<"]
  if opens t then arrowFunction? g false
  else if t.isWord "async" then
    let next ← ahead 1
    if next.onNewLine then return false
    else if opens next then arrowFunction? g true
    else if next.isName && (← ahead 2).isMark "=>" then
      advance
      -- the name is read as one of the code around the function
      let _ ← name
      arrow
      arrowBody g true
      return true
    else return false
  else return false

/-! ## Assignments -/

/-- What a generator hands out. -/
def yielded (g : Grammar) : Parser Shape := do
  mistakeIf !(← read).yield
  advance
  within (fun s => { s with yield := true }) do
    let t ← current
    if !t.onNewLine then
      let isDelegated ← eatMark "*"
      let ends :=
        t.kind == .endOfText || t.isMarkOf [";", "\x7d", ")", "]", ":", ","] || t.isWord "in"
      if isDelegated || !ends then
        let _ ← g .assignment
  return .plain

/-- Takes note that an expression is assigned to. -/
def assignTo (target : Shape) : Parser Unit := do
  match target.assignable? with
  | none => failure
  | some offsets =>
      modify fun s => { s with unassigned := s.unassigned.filter fun n => !offsets.contains n }

/-- The operator and the value of an assignment whose target has been read. -/
def assigned (g : Grammar) (target : Shape) : Parser Shape := do
  assignTo target
  advance
  let _ ← g .assignment
  return .assignment

/-- The two values of a choice. -/
def choice (g : Grammar) : Parser Shape := do
  expectMark "?"
  let _ ← within Setting.withIn (g .assignment)
  expectMark ":"
  let _ ← g .assignment
  return .plain

/-- An expression without commas. -/
def assignment (g : Grammar) : Parser Shape := do
  let t ← current
  if t.isWord "yield" && ((← read).yield || (← ahead 1).showsOperator) then yielded g
  else if ← anyArrowFunction? g then return .plain
  else
    let shape ← g (.operand 0)
    let behind ← current
    match shape with
    | .name _ =>
        if behind.isMark "=>" then
          arrow
          arrowBody g false
          return .plain
        else tail behind shape
    | _ => tail behind shape
where
  /-- What may stand behind the first operand. -/
  tail (behind : Token) (shape : Shape) : Parser Shape := do
    if behind.isMarkOf assignmentMarks then assigned g shape
    else if behind.isMark "?" then choice g
    else return shape

/-- Expressions with commas between them. -/
def expression (g : Grammar) : Parser Shape :=
  within (fun s => { s with inDecorator := false }) do
    let first ← g .assignment
    if ← atMark "," then
      let _ ← collect do
        if ← eatMark "," then return some (← g .assignment)
        else return none
      return .plain
    else return first

end ModuleGraph.Script.Grammar
