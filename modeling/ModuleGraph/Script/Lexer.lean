import ModuleGraph.Script.Token
import ModuleGraph.Text.Blank
import ModuleGraph.Text.Identifier
import ModuleGraph.Text.Split

/-!
# Reading tokens

`Token.after` reads the token behind a position. Three spellings depend on the grammar and are
read again when it asks for them: a slash that opens a regular expression (`Token.asRegex`), a
brace that closes a substitution (`Token.asTemplate`), and a mark of which only the first
character counts (`Token.firstCharacter`). What cannot be read is an invalid token, which no rule
of the grammar takes.
-/

set_option autoImplicit false

namespace ModuleGraph.Script

open Text

/-- What reading tokens depends on. -/
structure Lexis where
  /-- Whether the comment marks of markup count, as they do in scripts. -/
  hasMarkupComments : Bool
  /-- More than the number of characters of the source. -/
  limit : Nat

/-! ## Gaps -/

/-- Whether a character ends a line. -/
def isLineEnd (c : Char) : Bool :=
  c = '\n' || c = '\r' || c = '\u2028' || c = '\u2029'

/-- Whether a character that ends no line may stand between tokens. -/
def isSpace (c : Char) : Bool :=
  isBlank c || c = '\u200b' || c = '\ufeff'

/-- What a gap between tokens is made of. -/
inductive Gap where
  | space
  | lineComment
  | blockComment
  deriving DecidableEq, Repr

/-- A gap that has been read: where it ends, whether a line ends in it, and whether its last
comment is closed. -/
structure Gap.Extent where
  stop : Cursor
  hasLineEnd : Bool
  isClosed : Bool := true

/-- What a gap goes on with at a character: what follows, and how many characters belong
together with the first. None if the gap is over. -/
def Gap.step (lexis : Lexis) (lineEnd : Bool) : Gap → List Char → Option (Gap × Nat)
  | .blockComment, '*' :: '/' :: _ => some (.space, 1)
  | .blockComment, _ => some (.blockComment, 0)
  | .lineComment, c :: _ => some (if isLineEnd c then .space else .lineComment, 0)
  | .space, '/' :: '/' :: _ => some (.lineComment, 1)
  | .space, '/' :: '*' :: _ => some (.blockComment, 1)
  | .space, '<' :: '!' :: '-' :: '-' :: _ =>
      if lexis.hasMarkupComments then some (.lineComment, 3) else none
  | .space, '-' :: '-' :: '>' :: _ =>
      if lexis.hasMarkupComments && lineEnd then some (.lineComment, 2) else none
  | .space, c :: _ => if isSpace c || isLineEnd c then some (.space, 0) else none
  | _, [] => none

/-- Reads a gap, `pending` counting the characters that belong to what has been seen. -/
def Gap.read (lexis : Lexis) : Gap → Nat → Bool → Nat → List Char → Gap.Extent
  | gap, _, lineEnd, offset, [] =>
      { stop := ⟨[], offset⟩, hasLineEnd := lineEnd, isClosed := gap != .blockComment }
  | gap, pending + 1, lineEnd, offset, c :: rest =>
      Gap.read lexis gap pending lineEnd (offset + c.utf8Size) rest
  | gap, 0, lineEnd, offset, c :: rest =>
      match gap.step lexis lineEnd (c :: rest) with
      | none => { stop := ⟨c :: rest, offset⟩, hasLineEnd := lineEnd }
      | some (next, pending) =>
          Gap.read lexis next pending (lineEnd || isLineEnd c) (offset + c.utf8Size) rest

/-! ## Escapes -/

/-- The value of a hexadecimal digit. -/
def hexDigit? (c : Char) : Option Nat :=
  let n := c.toNat
  if 0x30 ≤ n ∧ n ≤ 0x39 then some (n - 0x30)
  else if 0x41 ≤ n ∧ n ≤ 0x46 then some (n - 0x41 + 10)
  else if 0x61 ≤ n ∧ n ≤ 0x66 then some (n - 0x61 + 10)
  else none

/-- The value of exactly `count` hexadecimal digits. -/
def fixedHex? : Nat → Nat → Cursor → Option (Nat × Cursor)
  | 0, value, c => some (value, c)
  | count + 1, value, c => do
      let digit ← hexDigit? (← c.peek?)
      fixedHex? count (value * 16 + digit) c.advance

/-- The code point in braces, behind the opening one. -/
def bracedHex? (c : Cursor) : Option (Nat × Cursor) := do
  let (digits, stop) := c.takeWhile fun a => (hexDigit? a).isSome
  let value := digits.foldl (fun value a => value * 16 + (hexDigit? a).getD 0) 0
  if digits.isEmpty || 0x10FFFF < value || !stop.sees (· == '\x7d') then none
  else some (value, stop.advance)

/-- The code point of an escape behind its `u`, one half of a pair as it stands. -/
def codePoint? (c : Cursor) : Option (Nat × Cursor) :=
  if c.sees (· == '\x7b') then bracedHex? c.advance else fixedHex? 4 0 c

/-- Whether a code point is the first half of a pair. -/
def isHighHalf (n : Nat) : Bool := 0xD800 ≤ n && n ≤ 0xDBFF

/-- Whether a code point is the second half of a pair. -/
def isLowHalf (n : Nat) : Bool := 0xDC00 ≤ n && n ≤ 0xDFFF

/-- How a code point that is no character stands in the value of a string. -/
def spelledOut (n : Nat) : List Char := '\\' :: 'u' :: Nat.toDigits 16 n

/-- The characters of an escape of a string behind its `u`. Two escapes can stand for one
character; a half without its other half is spelled out. -/
def unicodeEscape? (c : Cursor) : Option (List Char × Cursor) := do
  let isBraced := c.sees (· == '\x7b')
  let (high, stop) ← codePoint? c
  match stop.rest with
  | '\\' :: 'u' :: _ =>
      if isHighHalf high && !isBraced then
        let (low, stop) ← fixedHex? 4 0 (stop.skip 2)
        if isLowHalf low then
          some ([Char.ofNat (0x10000 + (high - 0xD800) * 0x400 + (low - 0xDC00))], stop)
        else some (spelledOut high ++ spelledOut low, stop)
      else some (single high, stop)
  | _ => some (single high, stop)
where
  /-- The characters of one code point. -/
  single (n : Nat) : List Char :=
    if isHighHalf n || isLowHalf n then spelledOut n else [Char.ofNat n]

/-- Whether a character is an octal digit. -/
def isOctalDigit (c : Char) : Bool := '0' ≤ c && c ≤ '7'

/-- The character of an escape of octal digits: at most three of them, at most two if the first
is above three. -/
def octalEscape (first : Char) (c : Cursor) : List Char × Cursor :=
  let count := if first ≤ '3' then 2 else 1
  let digits := (c.rest.take count).takeWhile isOctalDigit
  let value := digits.foldl (fun value a => value * 8 + (a.toNat - 0x30)) (first.toNat - 0x30)
  ([Char.ofNat value], c.skip digits.length)

/-- The characters of an escape behind its backslash, none if it stands for nothing, and the
position behind it. In a template digits stand for nothing, but for a lone zero. -/
def escape (inTemplate : Bool) (c : Cursor) : Option (List Char) × Cursor :=
  match c.rest with
  | [] => (none, c)
  | '\r' :: '\n' :: _ => (some [], c.skip 2)
  | a :: rest =>
      let stop := c.advance
      let valid (value : Option (List Char × Cursor)) : Option (List Char) × Cursor :=
        match value with
        | some (cs, stop) => (some cs, stop)
        | none => (none, stop)
      if isLineEnd a then (some [], stop)
      else
        match a with
        | 'b' => (some ['\x08'], stop)
        | 'f' => (some ['\x0c'], stop)
        | 'n' => (some ['\n'], stop)
        | 'r' => (some ['\r'], stop)
        | 't' => (some ['\t'], stop)
        | 'v' => (some ['\x0b'], stop)
        | 'x' => valid ((fixedHex? 2 0 stop).map fun (n, stop) => ([Char.ofNat n], stop))
        | 'u' => valid (unicodeEscape? stop)
        | a =>
            if a = '0' && !rest.head?.any Char.isDigit then (some ['\x00'], stop)
            else if inTemplate && a.isDigit then (none, stop)
            else if isOctalDigit a then
              let (cs, stop) := octalEscape a stop
              (some cs, stop)
            else (some [a], stop)

/-! ## Strings and templates -/

/-- Reads a string behind its opening quote. -/
def stringTail (quote : Char) : Nat → List Char → Cursor → Option (String × Cursor)
  | 0, _, _ => none
  | fuel + 1, read, c =>
      match c.rest with
      | [] => none
      | '\\' :: _ =>
          match escape false c.advance with
          | (some cs, stop) => stringTail quote fuel (cs.reverse ++ read) stop
          | (none, _) => none
      | a :: _ =>
          if a = quote then some (String.ofList read.reverse, c.advance)
          else if a = '\n' || a = '\r' then none
          else stringTail quote fuel (a :: read) c.advance

/-- Reads a stretch of a template behind its opening quote or brace. -/
def templateTail : Nat → Bool → Cursor → TokenKind × Cursor
  | 0, _, c => (.invalid, c)
  | fuel + 1, isValid, c =>
      match c.rest with
      | [] => (.invalid, c)
      | '\x60' :: _ => (.template true isValid, c.advance)
      | '$' :: '\x7b' :: _ => (.template false isValid, c.skip 2)
      | '\\' :: _ =>
          let (value, stop) := escape true c.advance
          templateTail fuel (isValid && value.isSome) stop
      | _ :: _ => templateTail fuel isValid c.advance

/-! ## Numbers -/

/-- Skips digits that may have single underscores between them. Behind an underscore there has
to be a digit. -/
def digitsTail? (p : Char → Bool) : Nat → Cursor → Option Cursor
  | 0, _ => none
  | fuel + 1, c =>
      let (_, stop) := c.takeWhile p
      if stop.sees (· == '_') then
        if stop.advance.sees p then digitsTail? p fuel stop.advance else none
      else some stop

/-- Skips at least one digit. -/
def digits? (lexis : Lexis) (p : Char → Bool) (c : Cursor) : Option Cursor :=
  if c.sees p then digitsTail? p lexis.limit c else none

/-- Skips an exponent, if there is one. -/
def exponent? (lexis : Lexis) (c : Cursor) : Option Cursor :=
  if c.sees fun a => a = 'e' || a = 'E' then
    let c := c.advance
    digits? lexis Char.isDigit (if c.sees fun a => a = '+' || a = '-' then c.advance else c)
  else some c

/-- Skips what may follow a decimal point. -/
def fraction? (lexis : Lexis) (c : Cursor) : Option Cursor := do
  let c ← if c.sees Char.isDigit then digits? lexis Char.isDigit c else some c
  exponent? lexis c

/-- Skips the mark of a big integer, if there is one. -/
def skipBigMark (c : Cursor) : Cursor := if c.sees (· == 'n') then c.advance else c

/-- Skips a number in another base behind its letter. -/
def basedNumber? (lexis : Lexis) (p : Char → Bool) (c : Cursor) : Option Cursor :=
  (digits? lexis p c).map skipBigMark

/-- Skips a number that opens with a superfluous zero: octal unless one of its digits is not,
and decimal then. -/
def legacyNumber? (lexis : Lexis) (c : Cursor) : Option Cursor :=
  let (digits, stop) := c.takeWhile Char.isDigit
  if digits.all isOctalDigit then some stop
  else if stop.sees (· == '.') then fraction? lexis stop.advance
  else if stop.sees (· == 'e') then exponent? lexis stop
  else some stop

/-- Skips a number. -/
def number? (lexis : Lexis) (c : Cursor) : Option Cursor :=
  let isHex (a : Char) : Bool := (hexDigit? a).isSome
  match c.rest with
  | '.' :: _ => fraction? lexis c.advance
  | '0' :: 'x' :: _ | '0' :: 'X' :: _ => basedNumber? lexis isHex (c.skip 2)
  | '0' :: 'o' :: _ | '0' :: 'O' :: _ => basedNumber? lexis isOctalDigit (c.skip 2)
  | '0' :: 'b' :: _ | '0' :: 'B' :: _ =>
      basedNumber? lexis (fun a => a = '0' || a = '1') (c.skip 2)
  | '0' :: a :: _ =>
      if a.isDigit then legacyNumber? lexis c.advance
      else if a = '.' then fraction? lexis (c.skip 2)
      else if a = 'e' || a = 'E' then exponent? lexis c.advance
      else some (skipBigMark c.advance)
  | _ => do
      let stop ← digits? lexis Char.isDigit c
      match stop.rest with
      | '.' :: _ => fraction? lexis stop.advance
      | 'n' :: _ => some stop.advance
      | _ => exponent? lexis stop

/-- Reads a number. A name or a digit must not follow it directly. -/
def readNumber (lexis : Lexis) (c : Cursor) : TokenKind × Cursor :=
  match number? lexis c with
  | none => (.invalid, c)
  | some stop =>
      if stop.sees fun a => a.isDigit || isIdentifierStart a then (.invalid, stop)
      else (.number, stop)

/-! ## Words -/

/-- Whether a character may stand in a word behind what has been read of it. -/
def continuesWord (read : List Char) (c : Char) : Bool :=
  if read.isEmpty then isIdentifierStart c else isIdentifierPart c

/-- Reads a word on from what has been read of it, last character first. Escapes have to stand for
characters that may stand there themselves. -/
def wordTail : Nat → Bool → List Char → Cursor → Option (String × Bool × Cursor)
  | 0, _, _, _ => none
  | fuel + 1, escaped, read, c =>
      let (plain, stop) :=
        if c.sees (continuesWord read) then c.takeWhile isIdentifierPart else ([], c)
      let read := plain.reverse ++ read
      match stop.rest with
      | '\\' :: 'u' :: _ => do
          let (n, stop) ← codePoint? (stop.skip 2)
          let a := Char.ofNat n
          if continuesWord read a then wordTail fuel true (a :: read) stop else none
      | '\\' :: _ => none
      | _ => if read.isEmpty then none else some (String.ofList read.reverse, escaped, stop)

/-- Reads a word. -/
def readWord (lexis : Lexis) (c : Cursor) : TokenKind × Cursor :=
  match wordTail lexis.limit false [] c with
  | some (text, escaped, stop) => (.word text escaped, stop)
  | none => (.invalid, c)

/-! ## Marks -/

/-- The marks, each behind all marks that it begins. -/
def marks : List (List Char × String) :=
  [">>>=", "...", "===", "!==", "**=", "<<=", ">>=", ">>>", "&&=", "||=", "??=", "=>", "==", "!=",
    "<=", ">=", "<<", ">>", "&&", "||", "??", "++", "--", "+=", "-=", "*=", "/=", "%=", "&=", "|=",
    "^=", "**", "\x7b", "\x7d", "(", ")", "[", "]", ".", ";", ",", "<", ">", "+", "-", "*", "/",
    "%", "&", "|", "^", "!", "~", "?", ":", "=", "@"].map fun text => (text.toList, text)

/-- Reads a mark. An optional chain and a condition in front of a number look alike up to the
digit. -/
def readMark (c : Cursor) : TokenKind × Cursor :=
  match c.rest with
  | '?' :: '.' :: rest =>
      if rest.head?.any Char.isDigit then (.mark "?", c.advance) else (.mark "?.", c.skip 2)
  | cs =>
      match marks.find? fun mark => startsWith cs mark.1 with
      | some (text, name) => (.mark name, c.skip text.length)
      | none => (.invalid, c)

/-! ## Tokens -/

/-- Reads the token that starts at a position. -/
def readKind (lexis : Lexis) (c : Cursor) : TokenKind × Cursor :=
  match c.rest with
  | [] => (.endOfText, c)
  | '"' :: _ => quoted '"'
  | '\'' :: _ => quoted '\''
  | '\x60' :: _ => templateTail lexis.limit true c.advance
  | '#' :: _ =>
      match readWord lexis c.advance with
      | (.word text _, stop) => (.privateName text, stop)
      | _ => (.invalid, c)
  | '.' :: a :: _ => if a.isDigit then readNumber lexis c else readMark c
  | a :: _ =>
      if a.isDigit then readNumber lexis c
      else if a = '\\' || isIdentifierStart a then readWord lexis c
      else readMark c
where
  /-- Reads a string with the given quote. -/
  quoted (quote : Char) : TokenKind × Cursor :=
    match stringTail quote lexis.limit [] c.advance with
    | some (value, stop) => (.string value, stop)
    | none => (.invalid, c)

namespace Token

/-- Reads the token behind a gap. -/
def behind (lexis : Lexis) (gap : Gap.Extent) : Token :=
  let (kind, stop) := if gap.isClosed then readKind lexis gap.stop else (.invalid, gap.stop)
  { kind, start := gap.stop, stop, onNewLine := gap.hasLineEnd }

/-- Reads the token behind a position. -/
def after (lexis : Lexis) (c : Cursor) : Token :=
  behind lexis (Gap.read lexis .space 0 false c.offset c.rest)

/-- Reads the first token of a source. A first line that opens with `#!` is for others. -/
def first (lexis : Lexis) (source : List Char) : Token :=
  match source with
  | '#' :: '!' :: rest => behind lexis (Gap.read lexis .lineComment 0 true 2 rest)
  | source => behind lexis (Gap.read lexis .space 0 true 0 source)

/-- Skips the body of a regular expression up to the slash that closes it. Slashes in brackets
do not. -/
def regexBody? (inClass : Bool) (c : Cursor) : Option Cursor := go inClass c.offset c.rest
where
  /-- Walks from an offset. -/
  go (inClass : Bool) (offset : Nat) : List Char → Option Cursor
    | [] => none
    | a :: rest =>
        if isLineEnd a then none
        else
          match a, rest with
          | '\\', b :: rest =>
              if isLineEnd b then none else go inClass (offset + 1 + b.utf8Size) rest
          | '/', rest => if inClass then go inClass (offset + 1) rest else some ⟨rest, offset + 1⟩
          | '[', rest => go true (offset + 1) rest
          | ']', rest => go false (offset + 1) rest
          | a, rest => go inClass (offset + a.utf8Size) rest

/-- Reads a token that opens with a slash as a regular expression. Its flags are of eight kinds,
each at most once. -/
def asRegex (t : Token) : Token :=
  match regexBody? false t.start.advance with
  | none => { t with kind := .invalid }
  | some stop =>
      let (flags, stop) := stop.takeWhile fun a => a.isAlphanum || a = '$' || a = '_'
      let known := flags.all fun a => ['d', 'g', 'i', 'm', 's', 'u', 'v', 'y'].contains a
      let kind := if known && decide flags.Nodup then TokenKind.regex else .invalid
      { t with kind, stop }

/-- Reads a token that is a closing brace as the next stretch of a template. -/
def asTemplate (lexis : Lexis) (t : Token) : Token :=
  let (kind, stop) := templateTail lexis.limit true t.start.advance
  { t with kind, stop }

/-- The first character of a token as a mark of its own. -/
def firstCharacter (t : Token) : Token :=
  match t.start.rest with
  | [] => t
  | a :: _ => { t with kind := .mark (String.singleton a), stop := t.start.advance }

end Token

end ModuleGraph.Script
