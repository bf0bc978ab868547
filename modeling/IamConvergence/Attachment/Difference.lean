/-
What has to change for one set of identifiers to become another.
-/
import IamConvergence.Ordered.IdSet

namespace IamConvergence

/-- Changes to a membership, in increasing order. -/
structure Difference where
  toAttach : List String
  toDetach : List String
  deriving DecidableEq

/-- The changes that turn `current` into `desired`. -/
def Difference.between (desired current : IdSet) : Difference where
  toAttach := (desired.diff current).toList
  toDetach := (current.diff desired).toList

/-- Whether nothing has to change. -/
def Difference.isEmpty (d : Difference) : Bool := d.toAttach.isEmpty && d.toDetach.isEmpty

end IamConvergence
