/-
Points in time to the nanosecond. A leap second shares the second before it and has a nanosecond
count of a billion or more.
-/
namespace IamConvergence

/-- A point in time: seconds from the start of 1970 in UTC, and nanoseconds. -/
structure Instant where
  second : Int
  nano : Nat
  deriving DecidableEq

namespace Instant

/-- The start of a second. -/
def ofSecond (s : Int) : Instant := ⟨s, 0⟩

/-- Whether one instant is earlier than another. -/
def before (a b : Instant) : Bool :=
  a.second < b.second || (a.second == b.second && a.nano < b.nano)

end Instant

end IamConvergence
