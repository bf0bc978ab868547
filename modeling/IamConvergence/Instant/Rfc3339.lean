/-
Instants as RFC 3339 text. Writing gives UTC with `Z` and as many groups of three fractional digits
as needed. Reading takes any offset; blanks may stand around the parts, a blank may stand for `T`,
`UTC` for `Z`, and a year of more than four digits has a sign.
-/
import IamConvergence.Document.Syntax
import IamConvergence.Instant.Basic
import IamConvergence.Instant.Calendar
import IamConvergence.Number.Power
import IamConvergence.Text.CharClass

namespace IamConvergence

/-- What is wrong with the text of an instant. -/
inductive InstantFault where
  | invalid
  | outOfRange
  | tooShort
  | tooLong
  | impossible
  deriving DecidableEq

/-- The wording of a fault. -/
def InstantFault.message : InstantFault → String
  | .invalid => "input contains invalid characters"
  | .outOfRange => "input is out of range"
  | .tooShort => "premature end of input"
  | .tooLong => "trailing input"
  | .impossible => "no possible date and time matching input"

namespace Rfc3339

/-! ## Writing -/

/-- A number with leading zeros up to a width. -/
def padded (width n : Nat) : List Char :=
  let ds := Nat.toDigits 10 n
  List.replicate (width - ds.length) '0' ++ ds

/-- A year: four digits, with a sign only outside of 0 to 9999. -/
def yearChars (y : Int) : List Char :=
  if 0 ≤ y ∧ y ≤ 9999 then padded 4 y.toNat
  else (if y < 0 then '-' else '+') :: padded 4 y.natAbs

/-- The fraction of a second: no digits, or three, six or nine. -/
def fractionChars (nano : Nat) : List Char :=
  if nano = 0 then []
  else if nano % 1000000 = 0 then '.' :: padded 3 (nano / 1000000)
  else if nano % 1000 = 0 then '.' :: padded 6 (nano / 1000)
  else '.' :: padded 9 nano

/-- The characters of an instant. -/
def chars (t : Instant) : List Char :=
  let date := Date.ofDays (t.second / 86400)
  let inDay := (t.second % 86400).toNat
  let leap := 1000000000 ≤ t.nano
  yearChars date.year ++ '-' :: padded 2 date.month ++ '-' :: padded 2 date.day ++
    'T' :: padded 2 (inDay / 3600) ++ ':' :: padded 2 (inDay / 60 % 60) ++
    ':' :: padded 2 (inDay % 60 + if leap then 1 else 0) ++
    fractionChars (if leap then t.nano - 1000000000 else t.nano) ++ ['Z']

/-- The text of an instant. -/
def render (t : Instant) : String := String.ofList (chars t)

/-! ## Reading -/

/-- What was read from the front of a text, with the text after it. -/
abbrev Part (α : Type) : Type := Except InstantFault (α × List Char)

/-- The number that a list of digits writes. -/
def digitsValue (ds : List Char) : Nat := Nat.ofDigitChars 10 ds 0

/-- Reads a number of at least one digit and at most a given count of digits. -/
def readNumber (most : Option Nat) (cs : List Char) : Except InstantFault (Nat × List Char) :=
  let ds := (match most with | some n => cs.take n | none => cs).takeWhile Char.isDigit
  if ds.isEmpty then .error (if cs.isEmpty then .tooShort else .invalid)
  else .ok (digitsValue ds, cs.drop ds.length)

/-- Reads a number of one or two digits in a range, after blanks. -/
def readField (least most : Nat) (cs : List Char) : Except InstantFault (Nat × List Char) := do
  let (n, rest) ← readNumber (some 2) (dropBlank cs)
  if least ≤ n ∧ n ≤ most then .ok (n, rest) else .error .outOfRange

/-- Reads a separator, with blanks before and after it. -/
def readSeparator (c : Char) (cs : List Char) : Except InstantFault (List Char) :=
  match dropBlank cs with
  | [] => .error .tooShort
  | d :: rest => if d = c then .ok (dropBlank rest) else .error .invalid

/-- Reads a year: up to four digits, or a sign and any number of them. -/
def readYear (cs : List Char) : Except InstantFault (Int × List Char) :=
  let bounded (y : Int) (rest : List Char) : Except InstantFault (Int × List Char) :=
    if -twoPow 31 ≤ y ∧ y < twoPow 31 then .ok (y, rest) else .error .outOfRange
  match dropBlank cs with
  | '-' :: cs => do
    let (n, rest) ← readNumber none cs
    bounded (-n) rest
  | '+' :: cs => do
    let (n, rest) ← readNumber none cs
    bounded n rest
  | cs => do
    let (n, rest) ← readNumber (some 4) cs
    bounded n rest

/-- Reads the fraction of a second in nanoseconds; digits after the ninth do not count. -/
def readFraction : List Char → Except InstantFault (Nat × List Char)
  | '.' :: cs => do
    let (_, rest) ← readNumber (some 9) cs
    let ds := cs.take (cs.length - rest.length)
    .ok (digitsValue ds * tenPow (9 - ds.length), rest.dropWhile Char.isDigit)
  | cs => .ok (0, cs)

/-- Two digits at the front of a text; it is too short if it has less than two bytes. -/
def readTwo (cs : List Char) : Except InstantFault (Char × Char × List Char) :=
  if byteCount (cs.take 2) < 2 then .error .tooShort
  else
    match cs with
    | a :: b :: rest => if a.isDigit ∧ b.isDigit then .ok (a, b, rest) else .error .invalid
    | _ => .error .invalid

/-- Reads the minutes of an offset, between 00 and 59. -/
def readOffsetMinutes (cs : List Char) : Except InstantFault (Nat × List Char) := do
  let (a, b, rest) ← readTwo cs
  if '5' < a then .error .outOfRange else .ok (digitsValue [a, b], rest)

/-- Reads a numeric offset from UTC, in seconds, after its sign. -/
def readOffsetAfterSign (negative : Bool) (cs : List Char) :
    Except InstantFault (Int × List Char) := do
  let (a, b, rest) ← readTwo cs
  let (minutes, rest) ← readOffsetMinutes
    (rest.dropWhile fun c => c == ':' || CharClass.blank.contains c)
  let seconds : Int := (digitsValue [a, b] * 3600 + minutes * 60 : Nat)
  .ok (if negative then -seconds else seconds, rest)

/-- Reads an offset from UTC in seconds. -/
def readOffset (cs : List Char) : Except InstantFault (Int × List Char) :=
  if (cs.take 3).map Char.toUpper = ['U', 'T', 'C'] then .ok (0, cs.drop 3)
  else
    match cs with
    | [] => .error .tooShort
    | c :: rest =>
      if c = 'Z' ∨ c = 'z' then .ok (0, rest)
      else if c = '+' then readOffsetAfterSign false rest
      else if c = '-' ∨ c = '\u2212' then readOffsetAfterSign true rest
      else .error .invalid

/-- Drops the mark between date and time. -/
def readTimeMark : List Char → Except InstantFault (List Char)
  | [] => .error .tooShort
  | c :: cs => if c = 'T' ∨ c = 't' ∨ c = ' ' then .ok cs else .error .invalid

/-- The instant of a local date and time under an offset. -/
def instantOf? (date : Date) (hour minute second nano : Nat) (offset : Int) :
    Except InstantFault Instant :=
  if offset ≤ -86400 ∨ 86400 ≤ offset ∨ !date.isValid then .error .outOfRange
  else
    let inDay : Int := (hour * 3600 + minute * 60 + min second 59 : Nat)
    let total := date.toDays * 86400 + inDay - offset
    if Date.hasYear (Date.ofDays (total / 86400)).year then
      .ok ⟨total, if second = 60 then nano + 1000000000 else nano⟩
    else .error .impossible

/-- Reads an instant that fills a text. -/
def readInstant (cs : List Char) : Except InstantFault Instant := do
  let (year, cs) ← readYear cs
  let cs ← readSeparator '-' cs
  let (month, cs) ← readField 1 12 cs
  let cs ← readSeparator '-' cs
  let (day, cs) ← readField 1 31 cs
  let cs ← readTimeMark cs
  let (hour, cs) ← readField 0 23 cs
  let cs ← readSeparator ':' cs
  let (minute, cs) ← readField 0 59 cs
  let cs ← readSeparator ':' cs
  let (second, cs) ← readField 0 60 cs
  let (nano, cs) ← readFraction cs
  let (offset, cs) ← readOffset (dropBlank cs)
  if (dropBlank cs).isEmpty then instantOf? ⟨year, month, day⟩ hour minute second nano offset
  else .error .tooLong

/-- The instant that a text writes, or what is wrong with it. -/
def parse (s : String) : Except InstantFault Instant := readInstant s.toList

end Rfc3339

end IamConvergence
