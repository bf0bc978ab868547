/-
Numbers in document text. Without a fraction or an exponent a number that fits 64 bits stays an
integer. Otherwise the digits that fit an unsigned 64-bit significand are kept, the others only
count, and the significand is scaled by a power of ten in floating-point arithmetic.
-/
import IamConvergence.Document.Syntax
import IamConvergence.Document.Value

namespace IamConvergence.Numeral

/-- What was read from the front of a text, with the text after it. -/
abbrev WithRest (α : Type) : Type := α × List Char

/-- The value of a decimal digit. -/
def digitValue (c : Char) : Nat := c.toNat - '0'.toNat

/-- Takes digits into a significand while it stays below 2^64, and gives the digits left. -/
def absorb (significand : Nat) : List Char → Nat × List Char
  | [] => (significand, [])
  | d :: ds =>
    let next := significand * 10 + digitValue d
    if next < twoPow 64 then absorb next ds else (significand, d :: ds)

/-- The leading digits of a text and the text after them. -/
def spanDigits (cs : List Char) : List Char × List Char :=
  (cs.takeWhile Char.isDigit, cs.dropWhile Char.isDigit)

/-- A significand times a power of ten, as a floating-point number. -/
def scaled (negative : Bool) (significand : Nat) (exponent : Int) (rest : List Char) :
    Except Halt (WithRest Number) :=
  match (Binary64.ofNat? significand).bind (·.scaleTen? exponent) with
  | some x => .ok (.float { x with negative := negative }, rest)
  | none => .error ⟨.numberOutOfRange, rest, 0⟩

/-- The digits of an exponent as long as they stay below 2^31, and the text after them; nothing and
the text after the digit that goes beyond. -/
def exponentDigits (exponent : Nat) : List Char → Option Nat × List Char
  | [] => (some exponent, [])
  | c :: cs =>
    if c.isDigit then
      let next := exponent * 10 + digitValue c
      if next < twoPow 31 then exponentDigits next cs else (none, cs)
    else (some exponent, c :: cs)

/-- The sign of an exponent, true when negative, and the text after it. -/
def exponentSign : List Char → Bool × List Char
  | '+' :: cs => (false, cs)
  | '-' :: cs => (true, cs)
  | cs => (false, cs)

/-- The number after the mark of its exponent. -/
def exponentPart (negative : Bool) (significand : Nat) (start : Int) (cs : List Char) :
    Except Halt (WithRest Number) :=
  let (below, cs) := exponentSign cs
  match cs with
  | [] => .error ⟨.endInValue, [], 0⟩
  | c :: _ =>
    if c.isDigit then
      match exponentDigits 0 cs with
      | (some e, rest) => scaled negative significand (if below then start - e else start + e) rest
      | (none, rest) =>
        if significand ≠ 0 ∧ ¬ below then .error ⟨.numberOutOfRange, rest, 0⟩
        else .ok (.float { Binary64.zero with negative := negative }, rest.dropWhile Char.isDigit)
    else .error ⟨.badNumber, cs, 1⟩

/-- Whether a character is the mark of an exponent. -/
def isExponentMark (c : Char) : Bool := c == 'e' || c == 'E'

/-- The number after its decimal point. -/
def fractionPart (negative : Bool) (significand : Nat) (start : Int) (cs : List Char) :
    Except Halt (WithRest Number) :=
  let (digits, rest) := spanDigits cs
  if digits.isEmpty then
    .error (if rest.isEmpty then ⟨.endInValue, [], 0⟩ else ⟨.badNumber, rest, 1⟩)
  else
    let (significand, left) := absorb significand digits
    let exponent : Int := start - (digits.length - left.length : Nat)
    match rest with
    | c :: cs =>
      if isExponentMark c then exponentPart negative significand exponent cs
      else scaled negative significand exponent rest
    | [] => scaled negative significand exponent []

/-- An integer that fits 64 bits; negative zero and what lies below the signed range are
floating-point numbers. -/
def whole (negative : Bool) (significand : Nat) (rest : List Char) :
    Except Halt (WithRest Number) :=
  if !negative then .ok (.integer significand, rest)
  else if significand = 0 ∨ twoPow 63 < significand then scaled true significand 0 rest
  else .ok (.integer (-significand), rest)

/-- The number after its integer digits, of which `left` did not fit the significand. -/
def afterInteger (negative : Bool) (significand : Nat) (left : Nat) (rest : List Char) :
    Except Halt (WithRest Number) :=
  match rest with
  | '.' :: cs => fractionPart negative significand left cs
  | c :: cs =>
    if isExponentMark c then exponentPart negative significand left cs
    else if left = 0 then whole negative significand rest
    else scaled negative significand left rest
  | [] => if left = 0 then whole negative significand [] else scaled negative significand left []

/-- Reads a number after its sign. A leading zero stands alone. -/
def read (negative : Bool) (cs : List Char) : Except Halt (WithRest Number) :=
  match cs with
  | [] => .error ⟨.endInValue, [], 0⟩
  | c :: rest =>
    if !c.isDigit then .error ⟨.badNumber, cs, 1⟩
    else if c = '0' then
      if rest.head?.any Char.isDigit then .error ⟨.badNumber, rest, 1⟩
      else afterInteger negative 0 0 rest
    else
      let (digits, rest) := spanDigits cs
      let (significand, left) := absorb 0 digits
      afterInteger negative significand left.length rest

end IamConvergence.Numeral
