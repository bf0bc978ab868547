/-
One convergence pass over the membership of a resource. The live membership is listed, what should
go is detached and what is missing is attached, each in increasing order and one call at a time. The
first failing call ends the pass, and the outcome tells what is attached at that moment.
-/
import IamConvergence.Attachment.Difference
import IamConvergence.Pass

namespace IamConvergence

/-! ## Requests -/

/-- Requests about the membership of one resource. -/
inductive AttachmentRequest where
  | list
  | attach (id : String)
  | detach (id : String)
  deriving DecidableEq

/-- What answers a request about a membership. -/
@[reducible] def AttachmentRequest.Answer : AttachmentRequest → Type
  | .list => List String
  | .attach _ | .detach _ => Unit

/-- A pass over requests about a membership. -/
abbrev AttachmentPass (α : Type) : Type := Pass AttachmentRequest AttachmentRequest.Answer α

/-! ## Outcomes -/

/-- What a pass over a membership leaves. -/
structure AttachmentOutcome where
  /-- The members attached when the pass ended. -/
  attached : IdSet
  attachedCount : Nat
  detachedCount : Nat
  fault : Option Fault
  deriving DecidableEq

namespace AttachmentOutcome

/-- A membership in which nothing has changed. -/
def unchanged (s : IdSet) (f : Option Fault) : AttachmentOutcome := ⟨s, 0, 0, f⟩

/-- Whether the pass ran to its end. -/
def isConverged (o : AttachmentOutcome) : Bool := o.fault.isNone

/-- Whether the pass attached or detached anything. -/
def changed (o : AttachmentOutcome) : Bool := 0 < o.attachedCount || 0 < o.detachedCount

/-- Counts a member as detached. -/
def detach (o : AttachmentOutcome) (id : String) : AttachmentOutcome :=
  { o with attached := o.attached.erase id, detachedCount := o.detachedCount + 1 }

/-- Counts a member as attached. -/
def attach (o : AttachmentOutcome) (id : String) : AttachmentOutcome :=
  { o with attached := o.attached.insert id, attachedCount := o.attachedCount + 1 }

/-- Ends with a fault. -/
def failed (o : AttachmentOutcome) (f : Fault) : AttachmentOutcome := { o with fault := some f }

end AttachmentOutcome

/-! ## The pass -/

namespace Attachment

/-- Attaches members one by one. -/
def attachAll (parent : String) : List String → AttachmentOutcome → AttachmentPass AttachmentOutcome
  | [], o => .done o
  | id :: ids, o =>
    .ask parent (.attach id) fun
      | .ok _ => attachAll parent ids (o.attach id)
      | .error f => .done (o.failed f)

/-- Detaches members one by one, then attaches others. A member that is already gone counts as
detached. -/
def detachAll (parent : String) (toAttach : List String) :
    List String → AttachmentOutcome → AttachmentPass AttachmentOutcome
  | [], o => attachAll parent toAttach o
  | id :: ids, o =>
    .ask parent (.detach id) fun answer =>
      match removalFault? answer with
      | none => detachAll parent toAttach ids (o.detach id)
      | some f => .done (o.failed f)

/-- Brings the membership of a resource to the desired one. If it cannot be listed, the last known
membership is given back. -/
def reconcile (parent : String) (desired lastKnown : List String) :
    AttachmentPass AttachmentOutcome :=
  .ask parent .list fun
    | .error f => .done (.unchanged (.ofList lastKnown) (some f))
    | .ok listed =>
      let current := IdSet.ofList listed
      let changes := Difference.between (.ofList desired) current
      detachAll parent changes.toAttach changes.toDetach (.unchanged current none)

end Attachment

end IamConvergence
