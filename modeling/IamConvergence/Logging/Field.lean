/-
Conditions on the fields of a span: a name, and after an equals sign a value. A value that is a
truth value or a number is compared as such, any other is a pattern.
-/
import IamConvergence.Pattern.Support

namespace IamConvergence.Logging

/-! ## Plain values -/

/-- A text without a sign in front. -/
def dropSign : List Char → List Char
  | '+' :: cs | '-' :: cs => cs
  | cs => cs

/-- Whether a text is the exponent of a number, or nothing. -/
def isExponent : List Char → Bool
  | [] => true
  | c :: cs =>
    (c == 'e' || c == 'E') && !(dropSign cs).isEmpty && (dropSign cs).all Char.isDigit

/-- Whether a text is an unsigned number in decimal digits, with or without a fraction and an
exponent. A digit on either side of the point is enough. -/
def isDecimal (cs : List Char) : Bool :=
  match cs.dropWhile Char.isDigit with
  | '.' :: rest =>
    ((cs.head?.any Char.isDigit) || (rest.head?.any Char.isDigit)) &&
      isExponent (rest.dropWhile Char.isDigit)
  | rest => cs.head?.any Char.isDigit && isExponent rest

/-- Whether a text is a truth value or a number. Infinity and what is no number count as numbers. -/
def isPlainValue (cs : List Char) : Bool :=
  ["true", "false"].contains (String.ofList cs) ||
    ["inf", "infinity", "nan"].contains (String.ofList ((dropSign cs).map Char.toLower)) ||
    isDecimal (dropSign cs)

/-! ## Conditions -/

/-- Checks a condition. The value ends at a second equals sign, and what follows does not count. -/
def checkField (cs : List Char) : Except PatternFault Unit :=
  match cs.splitOn '=' with
  | _ :: value :: _ => if isPlainValue value then .ok () else Pattern.check value
  | _ => .ok ()

end IamConvergence.Logging
