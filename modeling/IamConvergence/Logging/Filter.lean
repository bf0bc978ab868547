/-
Directives that filter log output. A directive names a target, a span in brackets with conditions
on its fields in braces, and a level after an equals sign; each part may be missing. Only whether a
text is made of such directives is decided here.
-/
import IamConvergence.Document.Syntax
import IamConvergence.Logging.Field

namespace IamConvergence.Logging

/-! ## Faults -/

/-- Why a text is no list of directives. -/
inductive FilterFault where
  | directive
  | level
  | field (fault : PatternFault)
  deriving DecidableEq

/-- The wording of a fault. -/
def FilterFault.message : FilterFault → String
  | .directive => "invalid filter directive"
  | .level =>
    "error parsing level filter: expected one of \"off\", \"error\", \"warn\", \"info\", " ++
      "\"debug\", \"trace\", or a number 0-5"
  | .field fault => s!"invalid field filter: {fault.message}"

/-! ## Levels -/

/-- Whether a text writes a number from 0 to 5, with a plus sign or leading zeros or without. -/
def isLevelNumber (cs : List Char) : Bool :=
  let ds := match cs with
    | '+' :: rest => rest
    | _ => cs
  !ds.isEmpty && ds.all Char.isDigit && Nat.ofDigitChars 10 ds 0 ≤ 5

/-- Whether a text names a level, by a word in any case, a number, or nothing. -/
def isLevel (cs : List Char) : Bool :=
  cs.isEmpty || isLevelNumber cs ||
    ["off", "error", "warn", "info", "debug", "trace"].contains
      (String.ofList (cs.map Char.toLower))

/-! ## Directives -/

/-- A text without its first bytes. -/
def dropBytes : Nat → List Char → List Char
  | 0, cs => cs
  | _ + 1, [] => []
  | n + 1, c :: cs => dropBytes (n + 1 - c.utf8Size) cs

/-- The first bytes of a text. -/
def takeBytes : Nat → List Char → List Char
  | 0, _ => []
  | _ + 1, [] => []
  | n + 1, c :: cs => c :: takeBytes (n + 1 - c.utf8Size) cs

/-- Where in a directive a reader stands. A field and a level are remembered by where they begin. -/
inductive Position where
  | start
  | target
  | span
  | field (place : Nat)
  | afterFields
  | afterSpan
  | level (place : Nat)

/-- Whether a character may begin a target. -/
def beginsTarget (c : Char) : Bool :=
  c == '-' || c == ':' || c == '_' || CharClass.alphanumeric.contains c

/-- The position after a character that stands at a place of a text. A condition on a field is
checked as soon as it ends. -/
def Position.next (text : List Char) (place : Nat) : Position → Char → Except FilterFault Position
  | .start, c =>
    if c = '[' then .ok .span
    else if beginsTarget c then .ok .target
    else .error .directive
  | .target, c =>
    .ok (if c = '=' then .level (place + 1) else if c = '[' then .span else .target)
  | .span, c =>
    .ok (if c = ']' then .afterSpan else if c = '{' then .field (place + 1) else .span)
  | .field first, c =>
    if c ≠ '}' then .ok (.field first)
    else if place = first then .error .directive
    else
      ((checkField (takeBytes (place - first) (dropBytes first text))).mapError .field).map
        fun _ => .afterFields
  | .afterFields, c => if c = ']' then .ok .afterSpan else .error .directive
  | .afterSpan, c => if c = '=' then .ok (.level (place + 1)) else .error .directive
  | .level first, _ => .ok (.level first)

/-- The position after characters of a text, the first of which stands at a place. -/
def Position.after (text : List Char) (p : Position) (place : Nat) :
    List Char → Except FilterFault Position
  | [] => .ok p
  | c :: cs => do
    let q ← p.next text place c
    q.after text (place + c.utf8Size) cs

/-- Blanks around a text dropped. -/
def trimmed (cs : List Char) : List Char := (dropBlank (dropBlank cs).reverse).reverse

/-- Checks one directive. Places are counted in bytes from the first character that is not blank,
but fields and the level are taken from the directive as it stands. -/
def checkDirective (cs : List Char) : Except FilterFault Unit := do
  match ← Position.start.after cs 0 (trimmed cs) with
  | .target | .afterSpan => .ok ()
  | .level first => if isLevel (dropBytes first cs) then .ok () else .error .level
  | _ => .error .directive

/-- The parts of a text between commas that are not empty. -/
def directives (cs : List Char) : List (List Char) := (cs.splitOn ',').filter (!·.isEmpty)

/-- Checks a list of directives, separated by commas. -/
def checkFilter (s : String) : Except FilterFault Unit :=
  (directives s.toList).forM checkDirective

end IamConvergence.Logging
