/-
Classes of characters given by their boundaries: the code points at which membership changes. A
character is in the class when an odd number of boundaries lie at or below its code point.
-/
namespace IamConvergence

/-- A class of characters, as the increasing list of the code points where membership changes. -/
structure CharClass where
  bounds : List Nat

namespace CharClass

/-- Whether a character is in the class. -/
def contains (k : CharClass) (c : Char) : Bool :=
  k.bounds.foldl (fun inside b => if b ≤ c.toNat then !inside else inside) false

/-- White space: the blanks and line breaks of every script. -/
def blank : CharClass := ⟨[
  0x0009, 0x000E, 0x0020, 0x0021, 0x0085, 0x0086, 0x00A0, 0x00A1, 0x1680, 0x1681, 0x2000, 0x200B,
  0x2028, 0x202A, 0x202F, 0x2030, 0x205F, 0x2060, 0x3000, 0x3001]⟩

end CharClass

/-- Whether a text holds nothing but white space. -/
def isBlankText (s : String) : Bool := s.toList.all CharClass.blank.contains

/-- Drops white space in front. -/
def dropBlank (cs : List Char) : List Char := cs.dropWhile CharClass.blank.contains

end IamConvergence
