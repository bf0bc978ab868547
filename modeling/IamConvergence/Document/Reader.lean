/-
Reading JSON documents. The grammar is strict: no trailing commas, no comments, no leading zeros.
Containers nest at most 127 deep, a surrogate escape stands only in a pair, and of several members
under one key the last counts. A reader works on the characters left and halts at the first fault.
-/
import IamConvergence.Document.Numeral
import IamConvergence.Text.Hexadecimal

namespace IamConvergence.Document

open Numeral (WithRest)

/-! ## Tokens -/

/-- Blanks between tokens. -/
def isBlank (c : Char) : Bool := c == ' ' || c == '\n' || c == '\t' || c == '\r'

/-- Drops blanks in front. -/
def skipBlanks (cs : List Char) : List Char := cs.dropWhile isBlank

/-- Reads the remaining letters of a word. -/
def readWord : List Char → List Char → Except Halt (List Char)
  | [], cs => .ok cs
  | _ :: _, [] => .error ⟨.endInValue, [], 0⟩
  | w :: ws, c :: cs => if c = w then readWord ws cs else .error ⟨.expectedWord, c :: cs, 1⟩

/-- The number that four hexadecimal digits write. -/
def hexFour? (a b c d : Char) : Option Nat := do
  return (((← hexValue? a) * 16 + (← hexValue? b)) * 16 + (← hexValue? c)) * 16 + (← hexValue? d)

/-- Reads four hexadecimal digits. The four bytes that should hold them count as read. -/
def readHexFour (cs : List Char) : Except Halt (WithRest Nat) :=
  let fault : Halt := if byteCount (cs.take 4) < 4 then ⟨.endInText, [], 0⟩ else ⟨.badEscape, cs, 4⟩
  match cs with
  | a :: b :: c :: d :: rest =>
    match hexFour? a b c d with
    | some n => .ok (n, rest)
    | none => .error fault
  | _ => .error fault

/-- Whether a 16-bit unit is the first half of a surrogate pair. -/
def isHighSurrogate (n : Nat) : Bool := 0xD800 ≤ n && n ≤ 0xDBFF

/-- Whether a 16-bit unit is the second half of a surrogate pair. -/
def isLowSurrogate (n : Nat) : Bool := 0xDC00 ≤ n && n ≤ 0xDFFF

/-- The second half of a surrogate pair, with its escape. -/
def readLowSurrogate : List Char → Except Halt (WithRest Nat)
  | [] => .error ⟨.endInText, [], 0⟩
  | '\\' :: [] => .error ⟨.endInText, [], 0⟩
  | '\\' :: 'u' :: cs => do
    let (low, rest) ← readHexFour cs
    if isLowSurrogate low then .ok (low, rest) else .error ⟨.loneSurrogate, rest, 0⟩
  | '\\' :: cs => .error ⟨.endOfEscape, cs, 1⟩
  | cs => .error ⟨.endOfEscape, cs, 1⟩

/-- The character of a hexadecimal escape and the number of characters it takes. -/
def readUnicode (cs : List Char) : Except Halt (Char × Nat) := do
  let (n, rest) ← readHexFour cs
  if isLowSurrogate n then .error ⟨.loneSurrogate, rest, 0⟩
  else if isHighSurrogate n then
    let (low, _) ← readLowSurrogate rest
    .ok (Char.ofNat (0x10000 + (n - 0xD800) * 0x400 + (low - 0xDC00)), 10)
  else .ok (Char.ofNat n, 4)

/-- The character that an escape stands for, and the number of characters after the backslash that
it takes. -/
def unescape : List Char → Except Halt (Char × Nat)
  | [] => .error ⟨.endInText, [], 0⟩
  | c :: cs =>
    match c with
    | '"' => .ok ('"', 1)
    | '\\' => .ok ('\\', 1)
    | '/' => .ok ('/', 1)
    | 'b' => .ok ('\x08', 1)
    | 'f' => .ok ('\x0c', 1)
    | 'n' => .ok ('\n', 1)
    | 'r' => .ok ('\r', 1)
    | 't' => .ok ('\t', 1)
    | 'u' => (readUnicode cs).map fun (x, n) => (x, n + 1)
    | _ => .error ⟨.badEscape, c :: cs, 1⟩

/-- Reads a text after its opening quote, `skip` characters of which are already accounted for. -/
def readChars : Nat → List Char → Except Halt (WithRest (List Char))
  | _, [] => .error ⟨.endInText, [], 0⟩
  | skip + 1, _ :: cs => readChars skip cs
  | 0, c :: cs =>
    if c = '"' then .ok ([], cs)
    else if c = '\\' then do
      let (x, n) ← unescape cs
      let (xs, rest) ← readChars n cs
      .ok (x :: xs, rest)
    else if c.toNat < 0x20 then .error ⟨.controlCharacter, c :: cs, 1⟩
    else do
      let (xs, rest) ← readChars 0 cs
      .ok (c :: xs, rest)

/-- Reads a text after its opening quote. -/
def readText (cs : List Char) : Except Halt (WithRest String) :=
  (readChars 0 cs).map fun (xs, rest) => (String.ofList xs, rest)

/-! ## Containers -/

/-- Reads the items of a list, from its first item on. Every item takes a character at least, so
`fuel` may be the length of the text. -/
def readItems (item : List Char → Except Halt (WithRest Value)) :
    (fuel : Nat) → List Char → Except Halt (WithRest (List Value))
  | 0, cs => .error ⟨.endInList, cs, 0⟩
  | fuel + 1, cs => do
    let (v, cs) ← item cs
    match skipBlanks cs with
    | [] => .error ⟨.endInList, [], 0⟩
    | ']' :: rest => .ok ([v], rest)
    | ',' :: cs =>
      match skipBlanks cs with
      | [] => .error ⟨.endInValue, [], 0⟩
      | ']' :: cs => .error ⟨.trailingComma, ']' :: cs, 1⟩
      | cs =>
        let (vs, rest) ← readItems item fuel cs
        .ok (v :: vs, rest)
    | cs => .error ⟨.expectedListEnd, cs, 1⟩

/-- Reads a list after its opening bracket. -/
def readList (item : List Char → Except Halt (WithRest Value)) (cs : List Char) :
    Except Halt (WithRest (List Value)) :=
  match skipBlanks cs with
  | [] => .error ⟨.endInList, [], 0⟩
  | ']' :: rest => .ok ([], rest)
  | cs => readItems item cs.length cs

/-- Reads the members of an object, from after the opening quote of its first key on. -/
def readMembers (value : List Char → Except Halt (WithRest Value)) :
    (fuel : Nat) → List Char → Except Halt (WithRest (List (String × Value)))
  | 0, cs => .error ⟨.endInObject, cs, 0⟩
  | fuel + 1, cs => do
    let (k, cs) ← readText cs
    match skipBlanks cs with
    | [] => .error ⟨.endInObject, [], 0⟩
    | ':' :: cs =>
      let (v, cs) ← value cs
      match skipBlanks cs with
      | [] => .error ⟨.endInObject, [], 0⟩
      | '}' :: rest => .ok ([(k, v)], rest)
      | ',' :: cs =>
        match skipBlanks cs with
        | [] => .error ⟨.endInValue, [], 0⟩
        | '"' :: cs =>
          let (ms, rest) ← readMembers value fuel cs
          .ok ((k, v) :: ms, rest)
        | '}' :: cs => .error ⟨.trailingComma, '}' :: cs, 1⟩
        | cs => .error ⟨.keyNotText, cs, 1⟩
      | cs => .error ⟨.expectedObjectEnd, cs, 1⟩
    | cs => .error ⟨.expectedColon, cs, 1⟩

/-- Reads an object after its opening brace. -/
def readObject (value : List Char → Except Halt (WithRest Value)) (cs : List Char) :
    Except Halt (WithRest (List (String × Value))) :=
  match skipBlanks cs with
  | [] => .error ⟨.endInObject, [], 0⟩
  | '}' :: rest => .ok ([], rest)
  | '"' :: cs => readMembers value (cs.length + 1) cs
  | cs => .error ⟨.keyNotText, cs, 1⟩

/-! ## Values -/

/-- Reads a value in which containers nest at most `depth` deep. -/
def readValue (depth : Nat) (cs : List Char) : Except Halt (WithRest Value) :=
  match skipBlanks cs with
  | [] => .error ⟨.endInValue, [], 0⟩
  | c :: rest =>
    match c with
    | 'n' => (readWord ['u', 'l', 'l'] rest).map (.null, ·)
    | 't' => (readWord ['r', 'u', 'e'] rest).map (.bool true, ·)
    | 'f' => (readWord ['a', 'l', 's', 'e'] rest).map (.bool false, ·)
    | '-' => (Numeral.read true rest).map fun (n, rest) => (.number n, rest)
    | '"' => (readText rest).map fun (s, rest) => (.text s, rest)
    | '[' =>
      match depth with
      | 0 => .error ⟨.tooDeep, c :: rest, 1⟩
      | depth + 1 => (readList (readValue depth) rest).map fun (vs, rest) => (.array vs, rest)
    | '{' =>
      match depth with
      | 0 => .error ⟨.tooDeep, c :: rest, 1⟩
      | depth + 1 =>
        (readObject (readValue depth) rest).map fun (ms, rest) => (Value.ofMembers ms, rest)
    | _ =>
      if c.isDigit then (Numeral.read false (c :: rest)).map fun (n, rest) => (.number n, rest)
      else .error ⟨.expectedValue, c :: rest, 1⟩

/-- The deepest nesting of containers that is read. -/
def maxDepth : Nat := 127

/-- Reads a whole document. -/
def read (cs : List Char) : Except Halt Value := do
  let (v, rest) ← readValue maxDepth cs
  match skipBlanks rest with
  | [] => .ok v
  | rest => .error ⟨.trailingCharacters, rest, 1⟩

/-- The value of a document, or the fault that it has. -/
def parse (doc : String) : Except SyntaxFault Value :=
  (read doc.toList).mapError (·.inText doc.toList)

/-- The value of a document, if it is valid JSON. -/
def parse? (doc : String) : Option Value := (parse doc).toOption

end IamConvergence.Document
