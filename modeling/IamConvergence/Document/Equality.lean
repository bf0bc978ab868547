/-
Semantic equality of documents. Key order does not matter; numbers are equal when they are the same
integer or when the floating-point numbers nearest to them are equal, so that `1` and `1.0` are.
-/
import IamConvergence.Document.Value

namespace IamConvergence

/-- Whether two numbers are the same integer or round to equal floating-point numbers. -/
def Number.equal (a b : Number) : Bool :=
  a == b ||
    match a.toBinary64?, b.toBinary64? with
    | some x, some y => x.same y
    | _, _ => false

namespace Value

mutual

/-- Whether two values are equal up to key order and the form of their numbers. -/
def equal : Value → Value → Bool
  | .null, .null => true
  | .bool a, .bool b => a == b
  | .number a, .number b => a.equal b
  | .text a, .text b => a == b
  | .array as, .array bs => equalItems as bs
  | .object as, .object bs => as.length == bs.length && equalMembers as bs
  | _, _ => false

/-- Whether two lists of values are equal item by item. -/
def equalItems : List Value → List Value → Bool
  | [], [] => true
  | a :: as, b :: bs => a.equal b && equalItems as bs
  | _, _ => false

/-- Whether every member of the first list has an equal one under its key in the second. -/
def equalMembers : List (String × Value) → List (String × Value) → Bool
  | [], _ => true
  | (k, a) :: as, bs =>
    (match bs.lookup k with
      | some b => a.equal b
      | none => false) && equalMembers as bs

end

end Value

end IamConvergence
