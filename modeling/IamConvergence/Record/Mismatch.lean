/-
What is wrong with a JSON value that should describe a record, and how that is worded.
-/
import IamConvergence.Document.Writer
import IamConvergence.Instant.Rfc3339
import IamConvergence.Text.Quoted

namespace IamConvergence

/-- Why a value does not describe what was expected. -/
inductive Mismatch where
  | wrongType (found : Value) (expected : String)
  | outOfRange (found : Int) (expected : String)
  | missing (field : String)
  | tooShort (length : Nat) (record : String) (fields : Nat)
  | tooLong (length : Nat)
  | badInstant (fault : InstantFault)
  deriving DecidableEq

/-- A value as a message names it: scalars with their content, containers by their kind. -/
def Value.described : Value → String
  | .null => "null"
  | .bool b => s!"boolean `{b}`"
  | .number (.integer i) => s!"integer `{String.ofList (intChars i)}`"
  | .number (.float x) => s!"floating point `{String.ofList x.chars}`"
  | .text s => s!"string {quoted s}"
  | .array _ => "sequence"
  | .object _ => "map"

/-- The wording of a mismatch. -/
def Mismatch.message : Mismatch → String
  | .wrongType found expected => s!"invalid type: {found.described}, expected {expected}"
  | .outOfRange found expected =>
    s!"invalid value: {(Value.int found).described}, expected {expected}"
  | .missing field => s!"missing field `{field}`"
  | .tooShort length record fields =>
    let noun := if fields = 1 then "element" else "elements"
    s!"invalid length {length}, expected struct {record} with {fields} {noun}"
  | .tooLong length => s!"invalid length {length}, expected fewer elements in array"
  | .badInstant fault => fault.message

end IamConvergence
