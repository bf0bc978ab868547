/-
Which patterns can be used. There are no tables of Unicode properties or letter cases, what matches
has to be text, and boundaries of words are only known among ASCII characters.
-/
import IamConvergence.Pattern.Reader

namespace IamConvergence

/-! ## Faults -/

/-- Why a pattern cannot be used. -/
inductive PatternFault where
  /-- It is no pattern, or it needs what there is none of. -/
  | unbuildable
  /-- It tests for boundaries of words among all characters. -/
  | wordBoundary
  deriving DecidableEq

/-- The wording of a fault. -/
def PatternFault.message : PatternFault → String
  | .unbuildable => "error building NFA"
  | .wordBoundary =>
    "unsupported regex feature for DFAs: cannot build DFAs for regexes with Unicode word " ++
      "boundaries; switch to ASCII word boundaries, or heuristically enable Unicode word " ++
      "boundaries or use a different regex engine"

/-! ## Modes -/

/-- How characters are taken at some place in a pattern: by code point or by byte, and with or
without regard to their case. -/
structure PatternMode where
  unicode : Bool := true
  ignoreCase : Bool := false
  deriving DecidableEq

/-- The mode after switches are set. -/
def PatternMode.set (m : PatternMode) (settings : FlagSettings) : PatternMode where
  unicode := (settings.lookup .unicode).getD m.unicode
  ignoreCase := (settings.lookup .ignoreCase).getD m.ignoreCase

/-! ## Support -/

/-- Whether a character stands for itself in a mode. By code point its case matters, for want of
tables; a byte beyond ASCII is no text. -/
def PatternChar.isSupported (m : PatternMode) (c : PatternChar) : Bool :=
  if m.unicode then !m.ignoreCase else !c.isByte || c.char.toNat < 0x80

/-- Whether a character can be in a set. A set of bytes holds ASCII characters only. -/
def PatternChar.isSettable (m : PatternMode) (c : PatternChar) : Bool :=
  if m.unicode then !m.ignoreCase else c.char.toNat < 0x80

/-- Whether a complement can be taken: among bytes it would hold more than text. -/
def PatternMode.allows (m : PatternMode) (negated : Bool) : Bool := m.unicode || !negated

mutual

/-- Whether a member of a set is supported. -/
def SetItem.isSupported (m : PatternMode) : SetItem → Bool
  | .char c => c.isSettable m
  | .range low high => low.isSettable m && high.isSettable m
  | .named negated => !(m.unicode && m.ignoreCase) && m.allows negated
  | .shorthand negated => !m.unicode && !negated
  | .set negated chars => m.allows negated && chars.isSupported m

/-- Whether a set is supported. -/
def CharSet.isSupported (m : PatternMode) : CharSet → Bool
  | .union items => SetItem.areSupported m items
  | .combined left right => left.isSupported m && right.isSupported m

/-- Whether all members of a list are supported. -/
def SetItem.areSupported (m : PatternMode) : List SetItem → Bool
  | [] => true
  | i :: is => i.isSupported m && SetItem.areSupported m is

end

/-- What is known after a supported pattern: the mode behind it, and whether it tests for boundaries
of words among all characters. -/
structure PatternSurvey where
  mode : PatternMode
  wordBoundary : Bool

mutual

/-- Goes through a pattern in a mode. -/
def Pattern.survey (m : PatternMode) : Pattern → Option PatternSurvey
  | .empty | .edge => some ⟨m, false⟩
  | .flags settings => some ⟨m.set settings, false⟩
  | .char c => if c.isSupported m then some ⟨m, false⟩ else none
  | .anyChar => if m.unicode then some ⟨m, false⟩ else none
  | .wordBoundary => some ⟨m, m.unicode⟩
  | .shorthand negated => if !m.unicode && !negated then some ⟨m, false⟩ else none
  | .set negated chars =>
    if m.allows negated && chars.isSupported m then some ⟨m, false⟩ else none
  | .repeated part never =>
    (part.survey m).map fun s => { s with wordBoundary := !never && s.wordBoundary }
  | .group settings inner => (inner.survey (m.set settings)).map fun s => { s with mode := m }
  | .sequence parts | .choice parts => Pattern.surveyAll m parts

/-- Goes through patterns one after the other. -/
def Pattern.surveyAll (m : PatternMode) : List Pattern → Option PatternSurvey
  | [] => some ⟨m, false⟩
  | p :: ps => do
    let s ← p.survey m
    let t ← Pattern.surveyAll s.mode ps
    some ⟨t.mode, s.wordBoundary || t.wordBoundary⟩

end

namespace Pattern

/-- The deepest nesting of parts that is supported. -/
def maxDepth : Nat := 250

/-- Checks that a text is a pattern that can be used. -/
def check (cs : List Char) : Except PatternFault Unit :=
  match (read cs).filter (·.depth ≤ maxDepth) with
  | none => .error .unbuildable
  | some p =>
    match p.survey {} with
    | none => .error .unbuildable
    | some s => if s.wordBoundary then .error .wordBoundary else .ok ()

end Pattern

end IamConvergence
