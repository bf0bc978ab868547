/-
Texts quoted for a reader: between double quotes, with line breaks, quotes and every character that
would not show spelled out.
-/
import IamConvergence.Text.Hidden

namespace IamConvergence

/-- A code point spelled out in lower-case hexadecimal digits. -/
def spellCodePoint (c : Char) : List Char :=
  ['\\', 'u', '{'] ++ Nat.toDigits 16 c.toNat ++ ['}']

/-- A character as it stands between the quotes. -/
def quoteChar (c : Char) : List Char :=
  match c with
  | '\x00' => ['\\', '0']
  | '\t' => ['\\', 't']
  | '\r' => ['\\', 'r']
  | '\n' => ['\\', 'n']
  | '"' => ['\\', '"']
  | '\\' => ['\\', '\\']
  | c =>
    if CharClass.joining.contains c || CharClass.hidden.contains c then spellCodePoint c else [c]

/-- A text between double quotes. -/
def quoted (s : String) : String :=
  String.ofList (['"'] ++ s.toList.flatMap quoteChar ++ ['"'])

end IamConvergence
