import ModuleGraph.Script.Grammar.Function

/-!
# Types

The types of typed modules. Little is remembered of a type: only whether it is that of an array or
a tuple.
-/

set_option autoImplicit false

namespace ModuleGraph.Script.Grammar

open ModuleGraph.Script.Parser

/-! ## Names -/

/-- The types a generic construct is used with. -/
def typeArguments (g : Grammar) : Parser Unit :=
  listInAngles false do
    let _ ← g .type

/-- The types a generic construct is used with, if there are any. -/
def optionalTypeArguments (g : Grammar) : Parser Unit := do
  if ← atMark "<" then typeArguments g

/-- The types a named type is used with, if there are any on the same line. -/
def referenceArguments (g : Grammar) : Parser Unit := do
  if (← atOpeningAngle) && !(← current).onNewLine then typeArguments g

/-- A name with the names of its members behind dots. -/
def qualifiedName : Parser Unit := do
  let _ ← anyWord
  let _ ← collect do
    if ← eatMark "." then return some (← anyWord)
    else return none

/-- A type that is given by its name. -/
def typeReference (g : Grammar) : Parser Unit := do
  qualifiedName
  referenceArguments g

/-- An attribute of the module that a type is taken from. -/
def typeImportAttribute (g : Grammar) : Parser Unit := do
  if (← current).isString then advance
  else
    let _ ← anyWord
  expectMark ":"
  let _ ← g .expression

/-- The attributes of the module that a type is taken from. -/
def typeImportAttributes (g : Grammar) : Parser Unit := do
  expectMark "\x7b"
  require ((← current).isWordOf ["assert", "with"])
  skip
  expectMark ":"
  expectMark "\x7b"
  let _ ← listOf "\x7d" (typeImportAttribute g)
  expectMark "\x7d"

/-- The type of something a module exports. -/
def importType (g : Grammar) : Parser Unit := do
  expectWord "import"
  expectMark "("
  let _ ← g .type
  if ← eatMark "," then typeImportAttributes g
  expectMark ")"
  if ← eatMark "." then qualifiedName
  referenceArguments g

/-- The type of a value. -/
def typeQuery (g : Grammar) : Parser Unit := do
  expectWord "typeof"
  if ← atWord "import" then importType g
  else
    qualifiedName
    if !(← current).onNewLine then optionalTypeArguments g

/-! ## Members -/

/-- The parameters and the result of a signature, and whether the result is given. -/
def signature (g : Grammar) : Parser Signature := do
  typeParameters g
  let hasThis ← parameters g
  let hasResult ← resultType g
  return { hasThis, hasResult, hasBody := false }

/-- Members need nothing between them. A comma or a semicolon behind one belongs to it. -/
def memberEnd : Parser Unit := do
  if !(← eatMark ",") then
    let _ ← eatMark ";"

/-- Whether the token `n` places behind the next one is a modifier of a member. -/
def isMemberModifier (n : Nat) : Parser Bool := do
  let t ← ahead n
  let next ← ahead (n + 1)
  return t.isWordOf (["abstract", "declare", "export", "override", "readonly", "static"] ++
    accessibilityWords) && !next.onNewLine && (next.opensElementName || next.isMark "*")

/-- Whether a bracket opens the name of a parameter that stands for all keys, modifiers in front of
it passed over as long as there is fuel. -/
def atIndexSignatureFrom : Nat → Nat → Parser Bool
  | 0, _ => return false
  | fuel + 1, n => do
      if ← isMemberModifier n then atIndexSignatureFrom fuel (n + 1)
      else
        return (← ahead n).isMark "[" && (← ahead (n + 1)).isPlainName && (← ahead (n + 2)).isMark ":"

/-- Whether a member for all keys is next. -/
def atIndexSignature : Parser Bool := do atIndexSignatureFrom (← read).lexis.limit 0

/-- A member for all keys of a type, whose modifiers have been read. Both the keys and the values
have their types given. -/
def indexSignature (g : Grammar) (words : List String) : Parser Unit := do
  checkModifiers words ["readonly", "static"]
  expectMark "["
  let _ ← anyWord
  require (← typeAnnotation g)
  expectMark "]"
  require (← typeAnnotation g)
  memberEnd

/-- A member that is read like a property, or written like one, which gives no result. -/
def accessorSignature (g : Grammar) : Parser Unit := do
  let isSetter ← atWord "set"
  advance
  let _ ← propertyName g
  let _ ← parameters g
  let hasResult ← resultType g
  mistakeIf (isSetter && hasResult)
  memberEnd

/-- A property or a method. -/
def propertySignature (g : Grammar) : Parser Unit := do
  if (← atWord "readonly") && (← ahead 1).opensMemberName then advance
  let _ ← propertyName g
  let _ ← eatMark "?"
  if (← current).isMarkOf ["(", "<"] then
    let _ ← signature g
  else
    let _ ← typeAnnotation g
  memberEnd

/-- A member of a type in braces. What is made by `new` is not told by `this`. -/
def typeMember (g : Grammar) : Parser Unit := do
  let t ← current
  let next ← ahead 1
  if ← atIndexSignature then indexSignature g (← elementModifiers)
  else if t.isMarkOf ["(", "<"] then
    let _ ← signature g
    memberEnd
  else if t.isWord "new" && next.isMarkOf ["(", "<"] then
    advance
    mistakeIf (← signature g).hasThis
    memberEnd
  else if t.isWordOf ["get", "set"] && next.opensMemberName then accessorSignature g
  else propertySignature g

/-- Members up to a closing brace. -/
def typeMembers (g : Grammar) : Parser Unit := do
  expectMark "\x7b"
  let _ ← collect do
    if ← atMark "\x7d" then return none
    else return some (← typeMember g)
  expectMark "\x7d"

/-- Whether the braces that open here map the keys of a type. -/
def atMappedType : Parser Bool := do
  let first ← ahead 1
  if first.isMarkOf ["+", "-"] then return (← ahead 2).isWord "readonly"
  else
    let n := if first.isWord "readonly" then 2 else 1
    return (← ahead n).isMark "[" && (← ahead (n + 1)).isAnyWord && (← ahead (n + 2)).isWord "in"

/-- A type that maps the keys of another. -/
def mappedType (g : Grammar) : Parser Unit := do
  expectMark "\x7b"
  if (← current).isMarkOf ["+", "-"] then advance
  let _ ← eatWord "readonly"
  expectMark "["
  let _ ← name
  expectWord "in"
  let _ ← g .type
  if ← eatWord "as" then
    let _ ← g .type
  expectMark "]"
  if (← current).isMarkOf ["+", "-"] then
    advance
    expectMark "?"
  else
    let _ ← eatMark "?"
  if ← eatMark ":" then
    let _ ← g .type
  let _ ← eatMark ";"
  expectMark "\x7d"

/-- An item of a tuple, which may have a name. -/
def tupleItem (g : Grammar) : Parser Unit := do
  let n := if ← atMark "..." then 1 else 0
  let next ← ahead (n + 1)
  let isNamed :=
    (← ahead n).isAnyWord && (next.isMark ":" || (next.isMark "?" && (← ahead (n + 2)).isMark ":"))
  if isNamed then
    let _ ← eatMark "..."
    let _ ← anyWord
    let _ ← eatMark "?"
    expectMark ":"
  let _ ← eatMark "..."
  let _ ← g .type

/-! ## Where types start -/

/-- The words that are types of their own and take no types, unless a dot makes them names. -/
def typeWords : List String :=
  ["any", "bigint", "boolean", "false", "never", "null", "number", "object", "string", "symbol",
    "true", "undefined", "unknown"]

/-- Whether a type starts `n` places behind the next token. A parameter may start with fewer marks
than a type that stands elsewhere. -/
def startsType : Nat → Bool → Nat → Parser Bool
  | 0, _, _ => return false
  | fuel + 1, inParameter, n => do
      let t ← ahead n
      let next ← ahead (n + 1)
      if t.isMark "(" then
        -- a parenthesis opens a type if what is in it opens a parameter or a type
        if inParameter then return false
        else
          return next.isMarkOf [")", "...", "@", "[", "\x7b"] || next.isName || next.isPrivateName ||
            next.isWordOf modifierWords || (← startsType fuel true (n + 1)) ||
            (← startsType fuel false (n + 1))
      else if t.isMark "-" then return !inParameter && next.kind == .number
      else if t.isWord "function" then return !inParameter
      else
        return t.isLiteral || t.isTemplate || t.isPlainName ||
          t.isMarkOf ["\x7b", "[", "<", "|", "&", "*", "?", "!", "..."] ||
          t.isWordOf ["import", "new", "this", "typeof", "void"]

/-- Skips the start of a parameter, and fails where none starts: modifiers with a name, or a
pattern without a mistake. -/
def parameterStart (g : Grammar) : Parser Unit := do
  let _ ← elementModifiers
  let t ← current
  if t.isPlainName || t.isWord "this" then skip
  else
    require (t.isMarkOf ["[", "\x7b"])
    let before := (← get).hasMistake
    let _ ← g .pattern
    require ((← get).hasMistake == before)

/-- What follows the parenthesis of the parameters of a function and shows that they are some. -/
def parametersSign (g : Grammar) : Parser Unit := do
  expectMark "("
  if !(← current).isMarkOf [")", "..."] then
    parameterStart g
    if !(← current).isMarkOf [":", ",", "?", "="] then
      expectMark ")"
      require (← atMark "=>")

/-- Whether the type of a function or of a constructor starts here. -/
def atFunctionType (g : Grammar) : Parser Bool := do
  let t ← current
  if t.isMark "<" || t.isWord "new" then return true
  else if t.isWord "abstract" then return (← ahead 1).isWord "new"
  else if t.isMark "(" then lookahead (parametersSign g)
  else return false

/-! ## Types without operators -/

/-- A statement about a parameter that ends the program where it does not hold. -/
def assertion (g : Grammar) : Parser Unit := do
  advance
  if !(← eatWord "this") then
    let _ ← anyWord
  if ← eatWord "is" then
    let _ ← g .type

/-- A type that is a word or opens with one. -/
def wordType (g : Grammar) (text : String) : Parser Unit := do
  let next ← ahead 1
  if text = "typeof" then typeQuery g
  else if text = "import" then importType g
  else if text = "void" then advance
  else if text = "this" then
    advance
    let t ← current
    if t.isWord "is" && !t.onNewLine then
      advance
      let _ ← g .type
  else if text = "asserts" && next.isAnyWord && !next.onNewLine then assertion g
  else if typeWords.contains text && !next.isMark "." then advance
  else typeReference g

/-- A type without operators, and whether it is that of a tuple. A question mark or an exclamation
mark in front of a type tells whether it may be null. -/
def plainType (g : Grammar) : Nat → Parser Bool
  | 0 => failure
  | fuel + 1 => do
      match (← current).kind with
      | .string _ | .number =>
          advance
          return false
      | .template _ _ =>
          templateOf false (g .type)
          return false
      | .mark "-" =>
          advance
          require ((← current).kind == .number)
          advance
          return false
      | .mark "?" =>
          advance
          let t ← current
          if !(t.isMarkOf [",", "\x7d", ")", "=", "|"] || t.opensWithAngle) then
            let _ ← g .type
          return false
      | .mark "!" =>
          advance
          let _ ← plainType g fuel
          return false
      | .mark "\x7b" =>
          if ← atMappedType then mappedType g else typeMembers g
          return false
      | .mark "[" =>
          advance
          let _ ← listOf "]" (tupleItem g)
          return true
      | .mark "(" =>
          advance
          let _ ← g .type
          expectMark ")"
          return false
      | .word text _ =>
          wordType g text
          return false
      | _ => failure

/-! ## Operators -/

/-- What may stand behind a type: brackets of an array or of an access, or a mark that tells whether
it may be null. In front of a type a question mark belongs to a condition. The result tells whether
the type is that of an array, none if nothing follows. -/
def typeSuffix? (g : Grammar) : Parser (Option Bool) := do
  let t ← current
  let limit := (← read).lexis.limit
  if t.onNewLine then return none
  else if t.isMark "!" then
    advance
    return some false
  else if t.isMark "?" then
    if ← startsType limit false 1 then return none
    else
      advance
      return some false
  else if t.isMark "[" then
    advance
    let isAccess ← startsType limit false 0
    if isAccess then
      let _ ← g .type
    expectMark "]"
    return some !isAccess
  else return none

/-- A type with what stands behind it, and whether it is that of an array or a tuple. -/
def postfixType (g : Grammar) : Parser Bool :=
  within Setting.unconstrained do
    let isTuple ← plainType g (← read).lexis.limit
    iterate isTuple fun _ => typeSuffix? g

/-- A type that a condition infers, and what it is constrained to. -/
def inferredType (g : Grammar) : Parser Unit := do
  expectWord "infer"
  let _ ← name
  let inConstraint := (← read).inConstraint
  let _ ← attempt do
    expectWord "extends"
    let _ ← within (fun s => { s with inConstraint := true }) (g .type)
    require (inConstraint || !(← atMark "?"))

/-- A type with operators in front of it, and whether it is that of an array or a tuple. Only those
can be read-only. -/
def prefixedType (g : Grammar) : Nat → Parser Bool
  | 0 => failure
  | fuel + 1 => do
      let t ← current
      if t.isWordOf ["keyof", "readonly", "unique"] then
        advance
        let isList ← prefixedType g fuel
        mistakeIf (t.isWord "readonly" && !isList)
        return false
      else if t.isWord "infer" then
        inferredType g
        return false
      else postfixType g

/-- Constructs with a mark between them, and perhaps in front of the first. -/
def separatedBy (mark : String) (p : Parser Unit) : Parser Unit := do
  let _ ← eatMark mark
  p
  let _ ← collect do
    if ← eatMark mark then return some (← p)
    else return none

/-- A type that no condition chooses. -/
def unionType (g : Grammar) : Parser Shape := do
  separatedBy "|" <| separatedBy "&" do
    let _ ← prefixedType g (← read).lexis.limit
  return .plain

/-- The type of a function or of a constructor. What stands between the parameters and the result is
taken for the arrow. -/
def functionType (g : Grammar) : Parser Unit := do
  let _ ← eatWord "abstract"
  let isConstructor ← eatWord "new"
  typeParameters g
  let hasThis ← parameters g
  mistakeIf (isConstructor && hasThis)
  advance
  typeOrPredicate g

/-- A type. A condition behind it chooses between two others. -/
def type (g : Grammar) : Parser Shape := do
  if ← atFunctionType g then functionType g
  else
    let _ ← g .unionType
    let t ← current
    if t.isWord "extends" && !t.onNewLine && !(← read).inConstraint then
      advance
      let _ ← within (fun s => { s with inConstraint := true }) (g .type)
      expectMark "?"
      let _ ← within Setting.unconstrained (g .type)
      expectMark ":"
      let _ ← within Setting.unconstrained (g .type)
  return .plain

end ModuleGraph.Script.Grammar
