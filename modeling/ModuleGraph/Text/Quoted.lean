import ModuleGraph.Text.Printable

/-!
# Quoted text

How a text is written between double quotes in a message: the quote and the backslash take a
backslash, four controls have a letter, everything that is not printable becomes `\\u{…}` with
the code point in lower case hexadecimal, and all else stands for itself.
-/

set_option autoImplicit false

namespace ModuleGraph.Text

/-- The lower case hexadecimal digits of a number, without leading zeros. -/
def lowerHex (n : Nat) : List Char := Nat.toDigits 16 n

/-- One character between double quotes. -/
def quoteChar (c : Char) : List Char :=
  match c with
  | '"' => ['\\', '"']
  | '\\' => ['\\', '\\']
  | '\n' => ['\\', 'n']
  | '\r' => ['\\', 'r']
  | '\t' => ['\\', 't']
  | '\x00' => ['\\', '0']
  | c => if isPrintable c then [c] else ['\\', 'u', '\x7b'] ++ lowerHex c.toNat ++ ['\x7d']

/-- A text between double quotes. -/
def quoted (s : String) : String :=
  String.ofList ('"' :: s.toList.flatMap quoteChar ++ ['"'])

end ModuleGraph.Text
