import ModuleGraph.Script.Grammar.Declaration

/-!
# Imports and exports

The statements that tie a module to others. Their shape tells what they import and whether they
export.
-/

set_option autoImplicit false

namespace ModuleGraph.Script.Grammar

open ModuleGraph.Script.Parser

/-- A string that names another module, and where it stands. -/
def moduleSpecifier (isReexport : Bool) : Parser Import := do
  let t ← current
  let specifier ← string
  return { specifier, start := t.start.offset, stop := t.stop.offset, isReexport }

/-- An attribute of an import, and the key that it is for. -/
def importAttribute : Parser String := do
  let key ← if (← current).isString then string else anyWord
  expectMark ":"
  let _ ← string
  return key

/-- The attributes behind a specifier, if there are any. An older word for them has to stand on
the same line. No two of them are for one key. -/
def importAttributes : Parser Unit := do
  let t ← current
  if t.isWord "with" || (t.isWord "assert" && !t.onNewLine) then
    skip
    expectMark "\x7b"
    let keys ← listOf "\x7d" importAttribute
    mistakeIf !(decide keys.Nodup)

/-- The name of something a module exports, and whether it is spelled as a string. A string has
to be whole text. -/
def exportName : Parser (String × Bool) := do
  let t ← current
  match t.kind with
  | .word text _ =>
      skip
      return (text, false)
  | .string value =>
      mistakeIf (hasLoneHalf value.toList)
      advance
      return (value, true)
  | _ => failure
where
  /-- Whether a half of a pair is spelled out in a text. -/
  hasLoneHalf : List Char → Bool
    | '\\' :: 'u' :: rest =>
        let value := (rest.take 4).foldl (fun n c => n * 16 + (hexDigit? c).getD 0) 0
        isHighHalf value || isLowHalf value || hasLoneHalf rest
    | _ :: rest => hasLoneHalf rest
    | [] => false

/-- Whether `type` in front of a name in braces qualifies it, and is not the name itself. In
front of `as` that depends on how many times `as` is repeated. -/
def typeQualifies : Parser Bool := do
  let next ← ahead 1
  let second ← ahead 2
  let third ← ahead 3
  if !((← read).isTyped && (← atWord "type")) then return false
  else if next.isWord "as" then
    return if second.isWord "as" then third.isExportName else !second.isExportName
  else return next.isExportName

/-! ## Imports -/

/-- A name in the braces of an import. -/
def importedName : Parser Unit := do
  if ← typeQualifies then advance
  if (← ahead 1).isWord "as" then
    let _ ← exportName
    advance
    let _ ← name
  else
    let _ ← name

/-- The names in the braces of an import. They are read as if no code were around them. -/
def importedNames : Parser Unit := do
  expectMark "\x7b"
  let _ ← within (fun s => { s with await := false, yield := false }) (listOf "\x7d" importedName)

/-- A name for all that a module exports. -/
def importedNamespace : Parser Unit := do
  expectMark "*"
  expectWord "as"
  let _ ← name

/-- What is imported, in front of `from`. -/
def importClause : Parser Unit := do
  if (← current).isName then
    let _ ← name
    if ← eatMark "," then
      if ← atMark "*" then importedNamespace else importedNames
  else if ← atMark "*" then importedNamespace
  else if ← atMark "\x7b" then importedNames
  expectWord "from"

/-- Skips `type`, if it makes all that a clause names types and is not a name itself. -/
def clauseOfTypes : Parser Bool := do
  let next ← ahead 1
  if !((← read).isTyped && (← atWord "type")) then return false
  else
    let qualifies ←
      if next.isWord "from" then pure ((← ahead 2).isWord "from")
      else
        pure (next.isMarkOf ["\x7b", "*"] || (next.isPlainName && !next.isWordOf strictWords))
    if qualifies then advance
    return qualifies

/-- Skips the phase in which a module is imported, if one is given. -/
def importPhase : Parser Unit := do
  let next ← ahead 1
  if (← atWord "defer") && next.isMark "*" then advance
  else if (← atWord "source") && next.isName && !next.isWord "from" then
    if (← ahead 2).isWord "from" then advance

/-- An import. One of types only is none when the module runs. -/
def importDeclaration : Parser Shape := do
  expectWord "import"
  if (← read).isTyped && (← atImportAlias) then
    importAlias
    return .plain
  else
    importPhase
    let isTypeOnly ← clauseOfTypes
    if !(← current).isString then importClause
    let source ← moduleSpecifier false
    importAttributes
    semicolon
    return .clause (if isTypeOnly then none else some source) false

/-! ## Exports -/

/-- Records names that a module exports. It may export a name once; of typed modules that is
seen only later. -/
def recordExports (names : List String) : Parser Unit := do
  if !(← read).isTyped then
    names.forM fun name => do
      mistakeIf ((← get).exported.contains name)
      modify fun s => { s with exported := name :: s.exported }

/-- A name in the braces of an export: what it is inside, whether that is a string, what it is
outside, and whether it is a type. -/
structure ExportedName where
  inner : String
  isString : Bool
  outer : String

/-- A name in the braces of an export. -/
def exportedName : Parser ExportedName := do
  if ← typeQualifies then advance
  let (inner, isString) ← exportName
  if ← eatWord "as" then return { inner, isString, outer := (← exportName).1 }
  else return { inner, isString, outer := inner }

/-- Whether a name cannot be that of a variable, so that only another module can export it. `let`
is let through. -/
def ExportedName.isForeign (e : ExportedName) : Bool :=
  e.isString || reservedWords.contains e.inner ||
    (strictWords.contains e.inner && e.inner != "let")

/-- An export of names in braces, of another module or of this one. -/
def exportNames : Parser Shape := do
  let isTypeOnly ← eatWord "type"
  expectMark "\x7b"
  let names ← listOf "\x7d" exportedName
  let hasSource := (← eatWord "from") && (← current).isLiteral
  if hasSource then
    let source ← moduleSpecifier true
    importAttributes
    recordExports (names.map ExportedName.outer)
    semicolon
    return .clause (if isTypeOnly then none else some source) true
  else
    mistakeIf (names.any ExportedName.isForeign)
    recordExports (names.map ExportedName.outer)
    semicolon
    return .clause none true

/-- An export of all that another module exports, perhaps under one name. -/
def exportAll : Parser Shape := do
  let isTypeOnly ← eatWord "type"
  expectMark "*"
  if ← eatWord "as" then recordExports [(← exportName).1]
  expectWord "from"
  let source ← moduleSpecifier true
  importAttributes
  semicolon
  return .clause (if isTypeOnly then none else some source) true

/-- The export of one value that goes without a name. -/
def exportDefault (g : Grammar) : Parser Shape := do
  expectWord "default"
  recordExports ["default"]
  decorators g
  let isTyped := (← read).isTyped
  let next ← ahead 1
  if isTyped && (← atWord "abstract") && next.isWord "class" then
    require !next.onNewLine
    advance
    let _ ← classTail g
  else if ← atWord "class" then
    let _ ← classTail g
  else if isTyped && (← atWord "interface") && !next.onNewLine then interface g
  else if ← atFunction then
    let _ ← functionDeclaration g (← eatWord "async") false
  else
    let _ ← g .assignment
    semicolon
  return .clause none true

/-- The one value a typed module may stand for. -/
def exportAssignment (g : Grammar) : Parser Shape := do
  expectMark "="
  let _ ← g .assignment
  semicolon
  return .clause none true

/-- A name under which a typed module is seen everywhere. That exports nothing. -/
def exportNamespace : Parser Shape := do
  expectWord "as"
  expectWord "namespace"
  let _ ← anyWord
  semicolon
  return .clause none false

/-- The export of a declaration. -/
def exportedDeclaration (g : Grammar) : Parser Shape := do
  decorators g
  recordExports (← declaration g)
  return .clause none true

/-- An export. -/
def exportDeclaration (g : Grammar) : Parser Shape := do
  expectWord "export"
  let t ← current
  let next ← ahead 1
  let isTyped := (← read).isTyped
  if isTyped && t.isMark "=" then exportAssignment g
  else if isTyped && t.isWord "as" && next.isWord "namespace" then exportNamespace
  else if t.isWord "default" then exportDefault g
  else if t.isMark "*" || (isTyped && t.isWord "type" && next.isMark "*") then exportAll
  else if t.isMark "\x7b" || (isTyped && t.isWord "type" && next.isMark "\x7b") then exportNames
  else exportedDeclaration g

end ModuleGraph.Script.Grammar
