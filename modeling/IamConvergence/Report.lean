/-
What a handler step reports. Every report carries the status to keep, also after a failure, so that
the status kept follows the remote state.
-/
import IamConvergence.Fault

namespace IamConvergence

/-- Where a step left the resource. -/
inductive Phase where
  | converged
  | inProgress
  | retryableFailure
  | permanentFailure
  deriving DecidableEq

/-- The name of a phase. -/
def Phase.name : Phase → String
  | .converged => "Converged"
  | .inProgress => "InProgress"
  | .retryableFailure => "RetryableFailure"
  | .permanentFailure => "PermanentFailure"

/-- The phase of a failure of a class. -/
def FaultClass.phase : FaultClass → Phase
  | .retryable => .retryableFailure
  | .permanent => .permanentFailure

/-- The outcome of a step with the status to keep. -/
structure Report (σ : Type) where
  status : σ
  phase : Phase
  details : Option String
  fault : Option Fault
  deriving DecidableEq

namespace Report

variable {σ : Type}

/-- The resource is as it should be. -/
def success (status : σ) (details : String) : Report σ := ⟨status, .converged, some details, none⟩

/-- The provider has not finished. -/
def inProgress (status : σ) (details : String) : Report σ :=
  ⟨status, .inProgress, some details, none⟩

/-- A failure for an operator, whatever a classifier would say. -/
def permanent (status : σ) (f : Fault) : Report σ :=
  ⟨status, .permanentFailure, some f.message, some f⟩

/-- A failure of the class that a classifier gives it. -/
def ofFault (status : σ) (f : Fault) (classify : Classifier) : Report σ :=
  ⟨status, (classify f).phase, some f.message, some f⟩

/-- Success with the given details, or the failure if there is one. -/
def settle (status : σ) (f : Option Fault) (details : String) (classify : Classifier) : Report σ :=
  match f with
  | none => success status details
  | some f => ofFault status f classify

/-- Whether the resource is as it should be. -/
def isConverged (r : Report σ) : Bool := r.phase == .converged

/-- Whether to run the step again without an operator. -/
def shouldRequeue (r : Report σ) : Bool := r.phase == .inProgress || r.phase == .retryableFailure

@[simp] theorem settle_status (status : σ) (f : Option Fault) (details : String)
    (classify : Classifier) : (settle status f details classify).status = status := by
  cases f <;> rfl

/-- A failure of any class is not convergence. -/
theorem ofFault_phase_ne (status : σ) (f : Fault) (classify : Classifier) :
    (ofFault status f classify).phase ≠ .converged := by
  show (classify f).phase ≠ .converged
  cases classify f <;> decide

theorem settle_phase_eq_iff (status : σ) (f : Option Fault) (details : String)
    (classify : Classifier) : (settle status f details classify).phase = .converged ↔ f = none := by
  cases f with
  | none => exact ⟨fun _ => rfl, fun _ => rfl⟩
  | some f =>
    constructor
    · intro h; exact absurd h (ofFault_phase_ne status f classify)
    · intro h; cases h

end Report

end IamConvergence
