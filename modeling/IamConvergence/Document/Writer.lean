/-
Writing JSON documents: compact, members in key order, floating-point numbers with the fewest digits
that read back, and only those characters escaped that may not stand in a text.
-/
import IamConvergence.Document.Value
import IamConvergence.Number.Shortest

namespace IamConvergence

/-! ## Numbers -/

/-- Floating-point numbers stand positionally from 10^-5 up to below 10^16. -/
def Number.layout : Decimal.Layout where
  leastPositional := -5
  mostPositional := 15
  exponentMark := 'e'
  plusSign := true

/-- The text of an integer. -/
def intChars (i : Int) : List Char :=
  if i < 0 then '-' :: Nat.toDigits 10 i.natAbs else Nat.toDigits 10 i.natAbs

/-- The text of a floating-point number. -/
def Binary64.chars (x : Binary64) : List Char :=
  let magnitude :=
    if x.place = 0 then ['0', '.', '0'] else Number.layout.text (Decimal.shortest x)
  if x.negative then '-' :: magnitude else magnitude

/-- The text of a number. -/
def Number.chars : Number → List Char
  | .integer i => intChars i
  | .float x => x.chars

/-! ## Texts -/

/-- A hexadecimal digit. -/
def hexDigit (n : Nat) : Char := Nat.digitChar n

/-- A character as it stands between quotes. -/
def escapeChar (c : Char) : List Char :=
  match c with
  | '"' => ['\\', '"']
  | '\\' => ['\\', '\\']
  | '\x08' => ['\\', 'b']
  | '\x0c' => ['\\', 'f']
  | '\n' => ['\\', 'n']
  | '\r' => ['\\', 'r']
  | '\t' => ['\\', 't']
  | c =>
    if c.toNat < 0x20 then
      ['\\', 'u', '0', '0', hexDigit (c.toNat / 16), hexDigit (c.toNat % 16)]
    else [c]

/-- A text between quotes. -/
def textChars (s : String) : List Char := '"' :: s.toList.flatMap escapeChar ++ ['"']

/-! ## Values -/

namespace Value

mutual

/-- The characters of a value. -/
def chars : Value → List Char
  | .null => ['n', 'u', 'l', 'l']
  | .bool true => ['t', 'r', 'u', 'e']
  | .bool false => ['f', 'a', 'l', 's', 'e']
  | .number n => n.chars
  | .text s => textChars s
  | .array [] => ['[', ']']
  | .array (v :: vs) => '[' :: v.chars ++ itemsChars vs
  | .object [] => ['{', '}']
  | .object ((k, v) :: ms) => '{' :: textChars k ++ ':' :: v.chars ++ membersChars ms

/-- The items after the first one, with the closing bracket. -/
def itemsChars : List Value → List Char
  | [] => [']']
  | v :: vs => ',' :: v.chars ++ itemsChars vs

/-- The members after the first one, with the closing brace. -/
def membersChars : List (String × Value) → List Char
  | [] => ['}']
  | (k, v) :: ms => ',' :: textChars k ++ ':' :: v.chars ++ membersChars ms

end

/-- The text of a value. -/
def render (v : Value) : String := String.ofList v.chars

end Value

end IamConvergence
