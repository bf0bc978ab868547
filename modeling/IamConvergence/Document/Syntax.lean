/-
Faults of document text: what was wrong, and the line and column where the reader stopped. Columns
count bytes.
-/
namespace IamConvergence

/-- What stops the reading of a document. -/
inductive SyntaxCause where
  | endInList
  | endInObject
  | endInText
  | endInValue
  | expectedColon
  | expectedListEnd
  | expectedObjectEnd
  | expectedWord
  | expectedValue
  | badEscape
  | badNumber
  | numberOutOfRange
  | controlCharacter
  | keyNotText
  | loneSurrogate
  | trailingComma
  | trailingCharacters
  | endOfEscape
  | tooDeep
  deriving DecidableEq

/-- The wording of a cause. -/
def SyntaxCause.message : SyntaxCause → String
  | .endInList => "EOF while parsing a list"
  | .endInObject => "EOF while parsing an object"
  | .endInText => "EOF while parsing a string"
  | .endInValue => "EOF while parsing a value"
  | .expectedColon => "expected `:`"
  | .expectedListEnd => "expected `,` or `]`"
  | .expectedObjectEnd => "expected `,` or `\x7d`"
  | .expectedWord => "expected ident"
  | .expectedValue => "expected value"
  | .badEscape => "invalid escape"
  | .badNumber => "invalid number"
  | .numberOutOfRange => "number out of range"
  | .controlCharacter => "control character (\\u0000-\\u001F) found while parsing a string"
  | .keyNotText => "key must be a string"
  | .loneSurrogate => "lone leading surrogate in hex escape"
  | .trailingComma => "trailing comma"
  | .trailingCharacters => "trailing characters"
  | .endOfEscape => "unexpected end of hex escape"
  | .tooDeep => "recursion limit exceeded"

/-- A cause with the place where it was found. -/
structure SyntaxFault where
  cause : SyntaxCause
  line : Nat
  column : Nat
  deriving DecidableEq

/-- The text of a fault. -/
def SyntaxFault.message (f : SyntaxFault) : String :=
  s!"{f.cause.message} at line {f.line} column {f.column}"

/-- Where a reader stopped: before `rest`, or the given number of bytes into it. -/
structure Halt where
  cause : SyntaxCause
  rest : List Char
  ahead : Nat
  deriving DecidableEq

/-- The number of bytes of a text. -/
def byteCount : List Char → Nat
  | [] => 0
  | c :: cs => c.utf8Size + byteCount cs

/-- Line and column of a byte position, counted from a given line and column. -/
def placeOfByte (line column : Nat) : Nat → List Char → Nat × Nat
  | 0, _ => (line, column)
  | n, [] => (line, column + n)
  | n, c :: cs =>
    if c = '\n' then placeOfByte (line + 1) 0 (n - 1) cs
    else if c.utf8Size ≤ n then placeOfByte line (column + c.utf8Size) (n - c.utf8Size) cs
    else (line, column + n)

/-- The fault a halt in a text amounts to. A position past the end is the end. -/
def Halt.inText (h : Halt) (text : List Char) : SyntaxFault :=
  let total := byteCount text
  let place := placeOfByte 1 0 (min total (total - byteCount h.rest + h.ahead)) text
  ⟨h.cause, place.1, place.2⟩

end IamConvergence
