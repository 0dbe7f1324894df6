import ModuleGraph.Script.Cursor

/-!
# Tokens

The words of the language as the grammar sees them. Keywords are words like any others; which
of them may serve as names is told by the list of reserved words. A word that is spelled with
escapes is the same word, but where the grammar asks for a keyword that spelling is a mistake.
-/

set_option autoImplicit false

namespace ModuleGraph.Script

/-- What a token is. -/
inductive TokenKind where
  /-- A name or a keyword with its escapes decoded, and whether it was spelled with any. -/
  | word (text : String) (escaped : Bool)
  /-- A name with a number sign in front. -/
  | privateName (text : String)
  | number
  | string (value : String)
  /-- A stretch of a template: up to its end, or up to the next substitution. Only templates with
  a tag may hold escapes that stand for nothing. -/
  | template (isLast isValid : Bool)
  | regex
  /-- Punctuation. -/
  | mark (text : String)
  | endOfText
  /-- What is no token. -/
  | invalid
  deriving DecidableEq, Repr, Inhabited

/-- A token with the positions in front of it and behind it. -/
structure Token where
  kind : TokenKind
  start : Cursor
  stop : Cursor
  /-- Whether a line ends between the token before and this one. -/
  onNewLine : Bool
  deriving Inhabited

/-- The words that are no names. `await` and `yield` are names in some contexts. -/
def reservedWords : List String :=
  ["await", "break", "case", "catch", "class", "const", "continue", "debugger", "default",
    "delete", "do", "else", "enum", "export", "extends", "false", "finally", "for", "function",
    "if", "import", "in", "instanceof", "new", "null", "return", "super", "switch", "this",
    "throw", "true", "try", "typeof", "var", "void", "while", "with", "yield"]

/-- The words that are no names in strict code. -/
def strictWords : List String :=
  ["implements", "interface", "let", "package", "private", "protected", "public", "static"]

/-- The words that mean something in some places and are names everywhere else. -/
def contextualWords : List String :=
  ["abstract", "accessor", "any", "as", "assert", "asserts", "async", "bigint", "boolean",
    "constructor", "declare", "defer", "from", "get", "global", "infer", "intrinsic", "is", "keyof",
    "meta", "module", "namespace", "never", "number", "object", "of", "out", "override", "readonly",
    "require", "satisfies", "set", "source", "string", "symbol", "target", "type", "undefined",
    "unique", "unknown", "using"]

/-- Whether a word is a keyword anywhere. -/
def isKeyword (text : String) : Bool :=
  reservedWords.contains text || strictWords.contains text || contextualWords.contains text

/-- The operators that assign. -/
def assignmentMarks : List String :=
  ["=", "+=", "-=", "*=", "/=", "%=", "**=", "<<=", ">>=", ">>>=", "&=", "|=", "^=", "&&=", "||=",
    "??="]

/-- The operators that stand in front of an operand. -/
def unaryMarks : List String := ["!", "~", "+", "-"]

/-- The words among them. -/
def unaryWords : List String := ["typeof", "void", "delete"]

/-- The operators that count up or down. -/
def countingMarks : List String := ["++", "--"]

/-- How tightly a binary operator binds. -/
def binaryPrecedence? : TokenKind → Option Nat
  | .mark text =>
      if text = "??" then some 1
      else if text = "||" then some 2
      else if text = "&&" then some 3
      else if text = "|" then some 4
      else if text = "^" then some 5
      else if text = "&" then some 6
      else if ["==", "!=", "===", "!=="].contains text then some 7
      else if ["<", ">", "<=", ">="].contains text then some 8
      else if ["<<", ">>", ">>>"].contains text then some 9
      else if ["+", "-"].contains text then some 10
      else if ["*", "/", "%"].contains text then some 11
      else if text = "**" then some 12
      else none
  | .word text _ => if ["in", "instanceof"].contains text then some 8 else none
  | _ => none

/-- Whether a token is a binary operator on numbers or objects, and not one that decides which of
its operands counts. -/
def isArithmetic (kind : TokenKind) : Bool :=
  match binaryPrecedence? kind with
  | some own => 3 < own
  | none => false

namespace Token

/-- Whether the token is a mark. -/
def isMark (t : Token) (text : String) : Bool := t.kind == .mark text

/-- Whether the token is a certain word. -/
def isWord (t : Token) (text : String) : Bool :=
  match t.kind with
  | .word own _ => own = text
  | _ => false

/-- Whether the token is one of several words. -/
def isWordOf (t : Token) (texts : List String) : Bool :=
  match t.kind with
  | .word own _ => texts.contains own
  | _ => false

/-- Whether the token is a keyword that is spelled with escapes. -/
def isDisguised (t : Token) : Bool :=
  match t.kind with
  | .word text escaped => escaped && isKeyword text
  | _ => false

/-- Whether the token is a word that is no keyword anywhere. -/
def isOrdinary (t : Token) : Bool :=
  match t.kind with
  | .word text _ => !isKeyword text
  | _ => false

/-- Whether the token is one of several marks. -/
def isMarkOf (t : Token) (texts : List String) : Bool :=
  match t.kind with
  | .mark text => texts.contains text
  | _ => false

/-- Whether the token is a word of any kind, as after a dot. -/
def isAnyWord (t : Token) : Bool :=
  match t.kind with
  | .word _ _ => true
  | _ => false

/-- Whether the token is a word that is not reserved. -/
def isPlainName (t : Token) : Bool :=
  match t.kind with
  | .word text _ => !reservedWords.contains text
  | _ => false

/-- Whether the token can name something. Whether `await` and `yield` do is left to the
context. -/
def isName (t : Token) : Bool :=
  match t.kind with
  | .word text _ => text = "await" || text = "yield" || !reservedWords.contains text
  | _ => false

/-- Whether the token is a string. -/
def isString (t : Token) : Bool :=
  match t.kind with
  | .string _ => true
  | _ => false

/-- Whether the token is a stretch of a template. -/
def isTemplate (t : Token) : Bool :=
  match t.kind with
  | .template _ _ => true
  | _ => false

/-- Whether the token is a word or a string, as the names that modules export are. -/
def isExportName (t : Token) : Bool := t.isAnyWord || t.isString

/-- Whether the token is a name with a number sign in front. -/
def isPrivateName (t : Token) : Bool :=
  match t.kind with
  | .privateName _ => true
  | _ => false

/-- Whether the token is a literal value. -/
def isLiteral (t : Token) : Bool :=
  match t.kind with
  | .number | .string _ | .regex => true
  | .word text _ => ["null", "true", "false"].contains text
  | _ => false

/-- Whether the token is a property name that stands without brackets. -/
def isPropertyName (t : Token) : Bool :=
  match t.kind with
  | .word _ _ | .number | .string _ => true
  | _ => false

/-- Whether the token can open the name of an element of a class. -/
def opensElementName (t : Token) : Bool := t.isPropertyName || t.isPrivateName || t.isMark "["

/-- Whether the token can open the name of a member of a type. -/
def opensMemberName (t : Token) : Bool := t.isPropertyName || t.isMark "["

/-- Whether the token is a mark that begins with a closing angle. -/
def opensWithAngle (t : Token) : Bool :=
  match t.kind with
  | .mark text => text.startsWith ">"
  | _ => false

/-- Whether the token, on the line of a word like `yield`, shows that the word is an operator. -/
def showsOperator (t : Token) : Bool := !t.onNewLine && (t.isLiteral || t.isAnyWord)

end Token

end ModuleGraph.Script
