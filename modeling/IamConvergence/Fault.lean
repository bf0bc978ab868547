/-
Faults of a handler step. A fault names the resource that it concerns, so that a status message
points at it, and says whether trying again can help.
-/
import IamConvergence.Document.Syntax

namespace IamConvergence

/-- Why a step failed. -/
inductive Fault where
  /-- The provider refused or failed a call. -/
  | provider (resource operation message : String) (retryable : Bool)
  /-- The provider does not know the target. -/
  | notFound (resource message : String)
  /-- A configuration is not valid. -/
  | validation (resource message : String) (field : Option String)
  /-- A payload could not be read. -/
  | serialization (message : String) (kind : Option String)
  /-- The pass was cancelled before it finished. -/
  | cancelled (resource : String)
  /-- Something else went wrong. -/
  | internal (context message : String)
  deriving DecidableEq

namespace Fault

/-- A validation fault of no known resource. -/
def invalid (message : String) : Fault := .validation "unknown" message none

/-- A validation fault of a field. -/
def invalidField (resource field message : String) : Fault :=
  .validation resource message (some field)

/-- A refusal by the provider that trying again does not mend. -/
def refusal (resource operation message : String) : Fault :=
  .provider resource operation message false

/-- The fault that unreadable document text amounts to. -/
def ofSyntax (f : SyntaxFault) : Fault := .serialization f.message none

/-- The text of a fault. -/
def message : Fault → String
  | .provider resource operation message _ =>
    s!"provider error [{operation}] for {resource}: {message}"
  | .notFound resource message => s!"not found: {resource}: {message}"
  | .validation resource message _ => s!"validation error for {resource}: {message}"
  | .serialization message _ => s!"serialization error: {message}"
  | .cancelled resource => s!"convergence pass for {resource} cancelled"
  | .internal context message => s!"internal error [{context}]: {message}"

/-- Whether trying again can help. -/
def isRetryable : Fault → Bool
  | .provider _ _ _ retryable => retryable
  | .cancelled _ | .internal _ _ => true
  | .notFound _ _ | .validation _ _ _ | .serialization _ _ => false

/-- Whether the provider does not know the target. To delete or to detach it is then already
done. -/
def isNotFound : Fault → Bool
  | .notFound _ _ => true
  | _ => false

/-- The resource that a fault concerns. -/
def resource? : Fault → Option String
  | .provider resource _ _ _ | .notFound resource _ | .validation resource _ _
  | .cancelled resource => some resource
  | .serialization _ _ | .internal _ _ => none

end Fault

/-- What is to be done about a fault. -/
inductive FaultClass where
  /-- The pass is to be tried again. -/
  | retryable
  /-- An operator has to look at it. -/
  | permanent
  deriving DecidableEq

/-- Decides what is to be done about a fault. -/
abbrev Classifier : Type := Fault → FaultClass

/-- Follows what the fault itself says. -/
def Fault.defaultClass : Classifier := fun f =>
  if f.isRetryable then .retryable else .permanent

end IamConvergence
