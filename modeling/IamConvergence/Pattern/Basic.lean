/-
Regular expressions, as far as their parts decide whether they can be used: characters, sets of
characters, boundaries, repetitions, groups and switches, and how deep these stand in one another.
-/
namespace IamConvergence

/-! ## Switches -/

/-- A switch that a pattern sets for the rest of the group it stands in. -/
inductive PatternFlag where
  | ignoreCase
  | multiLine
  | dotAll
  | swapGreed
  | unicode
  | crlf
  | verbose
  deriving DecidableEq

/-- The letter of a switch. -/
def PatternFlag.ofChar? : Char → Option PatternFlag
  | 'i' => some .ignoreCase
  | 'm' => some .multiLine
  | 's' => some .dotAll
  | 'U' => some .swapGreed
  | 'u' => some .unicode
  | 'R' => some .crlf
  | 'x' => some .verbose
  | _ => none

/-- Switches, each turned on or off. -/
abbrev FlagSettings : Type := List (PatternFlag × Bool)

/-! ## Parts -/

/-- A single character, and whether it is written as a byte, in two hexadecimal digits. -/
structure PatternChar where
  char : Char
  isByte : Bool := false
  deriving DecidableEq

mutual

/-- A member of a set of characters in brackets. -/
inductive SetItem where
  | char (c : PatternChar)
  | range (low high : PatternChar)
  /-- A set of ASCII characters by its name. -/
  | named (negated : Bool)
  /-- Digits, blanks or word characters by their letter. -/
  | shorthand (negated : Bool)
  | set (negated : Bool) (chars : CharSet)

/-- The characters between brackets. -/
inductive CharSet where
  | union (items : List SetItem)
  /-- Two sets, intersected or subtracted in one of two ways. -/
  | combined (left right : CharSet)

end

/-- A regular expression. -/
inductive Pattern where
  | empty
  | flags (settings : FlagSettings)
  | char (c : PatternChar)
  | anyChar
  /-- The start or the end of a line or of the text. -/
  | edge
  | wordBoundary
  | shorthand (negated : Bool)
  | set (negated : Bool) (chars : CharSet)
  /-- A repetition; `never` tells whether not even one is allowed. -/
  | repeated (part : Pattern) (never : Bool)
  | group (settings : FlagSettings) (inner : Pattern)
  | sequence (parts : List Pattern)
  | choice (parts : List Pattern)

/-! ## Nesting -/

mutual

/-- How deep the sets in a member of a set nest. -/
def SetItem.depth : SetItem → Nat
  | .set _ chars => chars.depth + 1
  | .char _ | .range _ _ | .named _ | .shorthand _ => 0

/-- How deep the parts of a set nest. Several members count as a part of their own. -/
def CharSet.depth : CharSet → Nat
  | .union items => SetItem.depthAll items + (if 1 < items.length then 1 else 0)
  | .combined left right => max left.depth right.depth + 1

/-- The greatest depth among members of a set. -/
def SetItem.depthAll : List SetItem → Nat
  | [] => 0
  | i :: is => max i.depth (SetItem.depthAll is)

end

mutual

/-- How deep the parts of a pattern nest. -/
def Pattern.depth : Pattern → Nat
  | .empty | .flags _ | .char _ | .anyChar | .edge | .wordBoundary | .shorthand _ => 0
  | .set _ chars => chars.depth + 1
  | .repeated part _ => part.depth + 1
  | .group _ inner => inner.depth + 1
  | .sequence parts | .choice parts => Pattern.depthAll parts + 1

/-- The greatest depth among patterns. -/
def Pattern.depthAll : List Pattern → Nat
  | [] => 0
  | p :: ps => max p.depth (Pattern.depthAll ps)

end

end IamConvergence
