/-
Reading regular expressions. Groups and sets are kept on a stack of what is open, so that a text is
read from left to right in one go. In verbose mode blanks and comments between the parts are
ignored. Why a text is no pattern is not told; properties of characters are not supported and count
as that.
-/
import IamConvergence.Number.Power
import IamConvergence.Pattern.Basic
import IamConvergence.Text.Alphanumeric
import IamConvergence.Text.Hexadecimal

namespace IamConvergence.Pattern

/-! ## Verbose mode -/

/-- Drops blanks and comments, which run from a number sign to the end of the line. -/
def dropComments (inComment : Bool) : List Char → List Char
  | [] => []
  | c :: cs =>
    if inComment then dropComments (c != '\n') cs
    else if CharClass.blank.contains c then dropComments false cs
    else if c = '#' then dropComments true cs
    else c :: cs

/-- Drops what verbose mode ignores. -/
def skip (verbose : Bool) (cs : List Char) : List Char :=
  if verbose then dropComments false cs else cs

/-- The first character that is no blank, nor the number sign in front of all others. -/
def pastBlanks? (inComment : Bool) : List Char → Option Char
  | [] => none
  | c :: cs =>
    if CharClass.blank.contains c then pastBlanks? inComment cs
    else if !inComment && c == '#' then pastBlanks? true cs
    else some c

/-- The character that tells what a hyphen before it stands for. Unlike elsewhere, a comment counts
from its first word on. -/
def following? (verbose : Bool) (cs : List Char) : Option Char :=
  if verbose then pastBlanks? false cs else cs.head?

/-- Takes characters of a kind, at most a given number of them, and skips behind each. -/
def spanSkipping (verbose : Bool) (kind : Char → Bool) :
    (most : Nat) → List Char → List Char × List Char
  | most + 1, c :: cs =>
    if kind c then
      let (ds, rest) := spanSkipping verbose kind most (skip verbose cs)
      (c :: ds, rest)
    else ([], c :: cs)
  | _, cs => ([], cs)

/-! ## Escapes -/

/-- What a backslash and the text after it stand for. -/
inductive Escape where
  | char (c : PatternChar)
  | edge
  | wordBoundary
  | shorthand (negated : Bool)

/-- An escape as a part of a pattern. -/
def Escape.pattern : Escape → Pattern
  | .char c => .char c
  | .edge => .edge
  | .wordBoundary => .wordBoundary
  | .shorthand negated => .shorthand negated

/-- An escape as a member of a set. -/
def Escape.item? : Escape → Option SetItem
  | .char c => some (.char c)
  | .shorthand negated => some (.shorthand negated)
  | .edge | .wordBoundary => none

/-- The character with a code point in hexadecimal digits. -/
def charOfHex? (ds : List Char) : Option Char :=
  let n := ds.foldl (fun n d => n * 16 + (hexValue? d).getD 0) 0
  if n.isValidChar then some (Char.ofNat n) else none

/-- Reads a code point: a fixed number of digits, or any number in braces. -/
def readHex (verbose : Bool) (digits : Nat) (cs : List Char) : Option (PatternChar × List Char) :=
  match skip verbose cs with
  | '{' :: cs =>
    match spanSkipping verbose isHexDigit cs.length (skip verbose cs) with
    | ([], _) => none
    | (ds, '}' :: rest) => (charOfHex? ds).map fun c => ({ char := c }, skip verbose rest)
    | _ => none
  | cs =>
    let (ds, rest) := spanSkipping verbose isHexDigit digits cs
    if ds.length = digits then
      (charOfHex? ds).map fun c => ({ char := c, isByte := digits == 2 }, rest)
    else none

/-- Whether a character may stand in the name of a boundary. -/
def isBoundaryNameChar (c : Char) : Bool := c.isAlpha || c == '-'

/-- Drops the name of a word boundary in braces. What cannot be a name is left for the bounds of a
repetition. -/
def dropBoundaryName (verbose : Bool) (cs : List Char) : Option (List Char) :=
  match cs with
  | '{' :: inner =>
    match skip verbose inner with
    | [] => none
    | c :: rest =>
      if isBoundaryNameChar c then
        match spanSkipping verbose isBoundaryNameChar (rest.length + 1) (c :: rest) with
        | (name, '}' :: rest) =>
          if ["start", "end", "start-half", "end-half"].contains (String.ofList name) then some rest
          else none
        | _ => none
      else some cs
  | _ => some cs

/-- The control character with a letter of its own. -/
def controlChar? : Char → Option Char
  | 'a' => some '\x07'
  | 'f' => some '\x0c'
  | 't' => some '\t'
  | 'n' => some '\n'
  | 'r' => some '\r'
  | 'v' => some '\x0b'
  | _ => none

/-- Whether a character may be escaped to stand for itself. -/
def isEscapable (c : Char) : Bool :=
  c.toNat < 0x80 && !c.isAlphanum && c != '<' && c != '>'

/-- Reads an escape after its backslash. -/
def readEscape (verbose : Bool) : List Char → Option (Escape × List Char)
  | [] => none
  | c :: cs =>
    match c with
    | 'x' => (readHex verbose 2 cs).map fun (x, rest) => (.char x, rest)
    | 'u' => (readHex verbose 4 cs).map fun (x, rest) => (.char x, rest)
    | 'U' => (readHex verbose 8 cs).map fun (x, rest) => (.char x, rest)
    | 'd' | 's' | 'w' => some (.shorthand false, cs)
    | 'D' | 'S' | 'W' => some (.shorthand true, cs)
    | 'A' | 'z' => some (.edge, cs)
    | 'b' => (dropBoundaryName verbose cs).map (.wordBoundary, ·)
    | 'B' | '<' | '>' => some (.wordBoundary, cs)
    | c =>
      match controlChar? c with
      | some x => some (.char { char := x }, cs)
      | none => if isEscapable c then some (.char { char := c }, cs) else none

/-! ## Sets -/

/-- A set whose closing bracket is still to come: the operand before the last operator, and the
members after it, the latest first. -/
structure OpenSet where
  negated : Bool
  left : Option CharSet
  items : List SetItem

namespace OpenSet

/-- The set of what was read. -/
def chars (s : OpenSet) : CharSet :=
  match s.left with
  | none => .union s.items.reverse
  | some left => .combined left (.union s.items.reverse)

/-- Adds a member. -/
def push (s : OpenSet) (i : SetItem) : OpenSet := { s with items := i :: s.items }

/-- Makes what was read the left operand of an operator. -/
def operator (s : OpenSet) : OpenSet := { s with left := some s.chars, items := [] }

end OpenSet

/-- Opens a set after its bracket. Hyphens in front stand for themselves, and so does a closing
bracket that comes first. -/
def openSet (verbose : Bool) (cs : List Char) : Option (OpenSet × List Char) :=
  let (negated, cs) := match skip verbose cs with
    | '^' :: rest => (true, skip verbose rest)
    | cs => (false, cs)
  match spanSkipping verbose (· == '-') cs.length cs with
  | (_, []) => none
  | ([], ']' :: rest) =>
    match skip verbose rest with
    | [] => none
    | rest => some (⟨negated, none, [.char { char := ']' }]⟩, rest)
  | (hyphens, rest) => some (⟨negated, none, hyphens.map fun c => .char { char := c }⟩, rest)

/-- The names of sets of ASCII characters. -/
def setNames : List String :=
  ["alnum", "alpha", "ascii", "blank", "cntrl", "digit", "graph", "lower", "print", "punct",
    "space", "upper", "word", "xdigit"]

/-- Reads a name between colons after an opening bracket, and whether it is negated. -/
def readSetName? : List Char → Option (Bool × List Char)
  | ':' :: cs =>
    let (negated, cs) := match cs with
      | '^' :: rest => (true, rest)
      | cs => (false, cs)
    match cs.dropWhile (· != ':') with
    | ':' :: ']' :: rest =>
      if setNames.contains (String.ofList (cs.takeWhile (· != ':'))) then some (negated, rest)
      else none
    | _ => none
  | _ => none

/-- Reads one end of a range. -/
def readSetEnd (verbose : Bool) : List Char → Option (Escape × List Char)
  | [] => none
  | '\\' :: cs => readEscape verbose cs
  | c :: cs => some (.char { char := c }, cs)

/-- Reads a member of a set or a range. A hyphen before the closing bracket or another hyphen makes
no range. -/
def readSetItem (verbose : Bool) (cs : List Char) : Option (SetItem × List Char) := do
  let (low, cs) ← readSetEnd verbose cs
  match skip verbose cs with
  | [] => none
  | '-' :: rest =>
    if following? verbose rest = some ']' ∨ following? verbose rest = some '-' then
      low.item?.map (·, '-' :: rest)
    else
      let (high, rest) ← readSetEnd verbose (skip verbose rest)
      match low, high with
      | .char l, .char h => if l.char ≤ h.char then some (.range l h, rest) else none
      | _, _ => none
  | cs => low.item?.map (·, cs)

/-- Reads a set up to its closing bracket. Every round takes a character at least, so `fuel` may be
the length of the text and one. -/
def readSet (verbose : Bool) :
    (fuel : Nat) → List OpenSet → OpenSet → List Char → Option (Bool × CharSet × List Char)
  | 0, _, _, _ => none
  | fuel + 1, outer, s, cs =>
    match skip verbose cs with
    | [] => none
    | ']' :: rest =>
      match outer with
      | [] => some (s.negated, s.chars, rest)
      | o :: outer => readSet verbose fuel outer (o.push (.set s.negated s.chars)) rest
    | '[' :: rest =>
      match readSetName? rest with
      | some (negated, rest) => readSet verbose fuel outer (s.push (.named negated)) rest
      | none => do
        let (inner, rest) ← openSet verbose rest
        readSet verbose fuel (s :: outer) inner rest
    | '&' :: '&' :: rest | '-' :: '-' :: rest | '~' :: '~' :: rest =>
      readSet verbose fuel outer s.operator rest
    | cs => do
      let (item, rest) ← readSetItem verbose cs
      readSet verbose fuel outer (s.push item) rest

/-! ## Repetitions -/

/-- Reads a number below 2^32 with blanks around it. -/
def readCount (verbose : Bool) (cs : List Char) : Option (Nat × List Char) :=
  let cs := dropBlank cs
  let (ds, rest) := spanSkipping verbose Char.isDigit cs.length cs
  let n := Nat.ofDigitChars 10 ds 0
  if ds.isEmpty ∨ twoPow 32 ≤ n then none else some (n, dropBlank rest)

/-- Reads the bounds of a repetition after the opening brace, and tells whether the upper one is
zero. -/
def readBounds (verbose : Bool) (cs : List Char) : Option (Bool × List Char) := do
  let (least, cs) ← readCount verbose (skip verbose cs)
  match cs with
  | '}' :: rest => some (least == 0, rest)
  | ',' :: cs =>
    match skip verbose cs with
    | '}' :: rest => some (false, rest)
    | cs =>
      let (most, cs) ← readCount verbose cs
      match cs with
      | '}' :: rest => if least ≤ most then some (most == 0, rest) else none
      | _ => none
  | _ => none

/-- Drops the mark of a repetition that prefers fewer rounds. -/
def dropLazyMark : List Char → List Char
  | '?' :: cs => cs
  | cs => cs

/-! ## Groups -/

/-- Reads switches up to the closing parenthesis or the colon, and tells whether a group follows.
One hyphen turns those after it off; none stands twice. -/
def readFlags (negated : Bool) (settings : FlagSettings) :
    List Char → Option (FlagSettings × Bool × List Char)
  | [] => none
  | c :: cs =>
    if c = ')' ∨ c = ':' then some (settings, c == ':', cs)
    else if c = '-' then
      if negated ∨ cs.head? = some ')' ∨ cs.head? = some ':' then none
      else readFlags true settings cs
    else
      match PatternFlag.ofChar? c with
      | some f =>
        if (settings.lookup f).isSome then none
        else readFlags negated ((f, !negated) :: settings) cs
      | none => none

/-- Whether a character may stand in the name of a group. -/
def isGroupNameChar (c : Char) : Bool :=
  c == '_' || c == '.' || c == '[' || c == ']' || CharClass.alphanumeric.contains c

/-- Whether a text is the name of a group. -/
def isGroupName : List Char → Bool
  | [] => false
  | c :: cs => (c == '_' || CharClass.isAlphabetic c) && cs.all isGroupNameChar

/-- What an opening parenthesis begins. -/
inductive GroupStart where
  | switch (settings : FlagSettings)
  | group (settings : FlagSettings) (name : Option String)

/-- Reads the beginning of a group after its parenthesis. -/
def readGroupStart (verbose : Bool) (cs : List Char) : Option (GroupStart × List Char) :=
  let named (cs : List Char) : Option (GroupStart × List Char) :=
    match cs.takeWhile (· != '>'), cs.dropWhile (· != '>') with
    | name, '>' :: rest =>
      if isGroupName name then some (.group [] (some (String.ofList name)), rest) else none
    | _, _ => none
  match skip verbose cs with
  | '?' :: '=' :: _ | '?' :: '!' :: _ | '?' :: '<' :: '=' :: _ | '?' :: '<' :: '!' :: _ => none
  | '?' :: 'P' :: '<' :: rest | '?' :: '<' :: rest => named rest
  | '?' :: rest =>
    match readFlags false [] rest with
    | some (settings, true, rest) => some (.group settings none, rest)
    | some ([], false, _) => none
    | some (settings, false, rest) => some (.switch settings, rest)
    | none => none
  | rest => some (.group [] none, rest)

/-- A group whose closing parenthesis is still to come: its alternatives and the parts of the last
one, each the latest first. -/
structure OpenGroup where
  settings : FlagSettings
  verbose : Bool
  choices : List Pattern := []
  parts : List Pattern := []

namespace OpenGroup

/-- Adds a part. -/
def push (g : OpenGroup) (p : Pattern) : OpenGroup := { g with parts := p :: g.parts }

/-- The parts of the last alternative as one. -/
def lastChoice (g : OpenGroup) : Pattern :=
  match g.parts with
  | [] => .empty
  | [p] => p
  | ps => .sequence ps.reverse

/-- The pattern of what was read. -/
def pattern (g : OpenGroup) : Pattern :=
  if g.choices.isEmpty then g.lastChoice else .choice (g.lastChoice :: g.choices).reverse

/-- Begins another alternative. -/
def alternate (g : OpenGroup) : OpenGroup :=
  { g with choices := g.lastChoice :: g.choices, parts := [] }

/-- Repeats the last part, which has to be more than a switch. -/
def repeatLast? (g : OpenGroup) (never : Bool) : Option OpenGroup :=
  match g.parts with
  | [] | .flags _ :: _ => none
  | p :: ps => some { g with parts := .repeated p never :: ps }

/-- Whether verbose mode is on after some settings. -/
def verboseAfter (g : OpenGroup) (settings : FlagSettings) : Bool :=
  (settings.lookup .verbose).getD g.verbose

end OpenGroup

/-! ## Patterns -/

/-- Reads a part that is no group, and adds it to the group it stands in. -/
def readPart (g : OpenGroup) (c : Char) (cs : List Char) : Option (OpenGroup × List Char) :=
  match c with
  | '|' => some (g.alternate, cs)
  | '?' | '*' | '+' => (g.repeatLast? false).map (·, dropLazyMark cs)
  | '{' => do
    let (never, rest) ← readBounds g.verbose cs
    let g ← g.repeatLast? never
    some (g, dropLazyMark (skip g.verbose rest))
  | '[' => do
    let (s, rest) ← openSet g.verbose cs
    let (negated, chars, rest) ← readSet g.verbose (rest.length + 1) [] s rest
    some (g.push (.set negated chars), rest)
  | '\\' => do
    let (e, rest) ← readEscape g.verbose cs
    some (g.push e.pattern, rest)
  | '.' => some (g.push .anyChar, cs)
  | '^' | '$' => some (g.push .edge, cs)
  | c => some (g.push (.char { char := c }), cs)

/-- Reads a pattern to its end, given the groups that are open, the innermost first, and the names
of groups in use. Every round takes a character at least, so `fuel` may be the length of the text
and one. -/
def readParts :
    (fuel : Nat) → List OpenGroup → List String → OpenGroup → List Char → Option Pattern
  | 0, _, _, _, _ => none
  | fuel + 1, outer, names, g, cs =>
    match skip g.verbose cs with
    | [] => if outer.isEmpty then some g.pattern else none
    | '(' :: cs => do
      match ← readGroupStart g.verbose cs with
      | (.switch settings, rest) =>
        let g := { g.push (.flags settings) with verbose := g.verboseAfter settings }
        readParts fuel outer names g rest
      | (.group settings name, rest) =>
        if name.any names.contains then none
        else
          let inner : OpenGroup := { settings, verbose := g.verboseAfter settings }
          readParts fuel (g :: outer) (name.toList ++ names) inner rest
    | ')' :: cs =>
      match outer with
      | [] => none
      | o :: outer => readParts fuel outer names (o.push (.group g.settings g.pattern)) cs
    | c :: cs => do
      let (g, rest) ← readPart g c cs
      readParts fuel outer names g rest

/-- The pattern that a text writes. -/
def read (cs : List Char) : Option Pattern :=
  readParts (cs.length + 1) [] [] { settings := [], verbose := false } cs

end IamConvergence.Pattern
