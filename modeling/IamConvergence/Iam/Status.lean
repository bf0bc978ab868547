/-
The status of a role or policy that is kept between steps. Empty fields are left out when it is
written and empty when they are missing.
-/
import IamConvergence.Iam.Config
import IamConvergence.Iam.Entity

namespace IamConvergence

/-- Reads a kept status of some kind; none and null stand for the empty one. -/
def resolveStatus {α : Type} (kind : String) (decode : Value → Except Mismatch α) (empty : α) :
    Option Value → Except Fault α
  | none | some .null => .ok empty
  | some raw => resolveRaw kind decode raw

/-! ## Roles -/

/-- The status of a role. -/
structure RoleStatus where
  arn : String := ""
  id : String := ""
  name : String := ""
  /-- The managed policies that are attached, in increasing order. -/
  attached : List String := []
  deriving DecidableEq

namespace RoleStatus

/-- The fields of a role status. -/
def shape : Shape RoleStatus :=
  Shape.of RoleStatus.mk
    |>.field ⟨"roleArn", Decode.text, some ""⟩
    |>.field ⟨"roleId", Decode.text, some ""⟩
    |>.field ⟨"roleName", Decode.text, some ""⟩
    |>.field ⟨"attachedPolicies", Decode.texts, some []⟩

/-- The value that describes a status. -/
def toValue (s : RoleStatus) : Value :=
  .ofPresent [
    ("roleArn", presentText s.arn),
    ("roleId", presentText s.id),
    ("roleName", presentText s.name),
    ("attachedPolicies", if s.attached.isEmpty then none else some (.texts s.attached))]

/-- Reads a kept status. -/
def resolve : Option Value → Except Fault RoleStatus :=
  resolveStatus "iam-role status" (shape.decode "IamRoleStatus") {}

/-- Takes over what identifies a role. -/
def identify (s : RoleStatus) (r : Role) : RoleStatus :=
  { s with arn := r.arn, id := r.id, name := r.name }

end RoleStatus

/-! ## Policies -/

/-- The status of a policy. -/
structure PolicyStatus where
  arn : String := ""
  id : String := ""
  name : String := ""
  /-- The default version. -/
  versionId : String := ""
  deriving DecidableEq

namespace PolicyStatus

/-- The fields of a policy status. -/
def shape : Shape PolicyStatus :=
  Shape.of PolicyStatus.mk
    |>.field ⟨"policyArn", Decode.text, some ""⟩
    |>.field ⟨"policyId", Decode.text, some ""⟩
    |>.field ⟨"policyName", Decode.text, some ""⟩
    |>.field ⟨"currentVersionId", Decode.text, some ""⟩

/-- The value that describes a status. -/
def toValue (s : PolicyStatus) : Value :=
  .ofPresent [
    ("policyArn", presentText s.arn),
    ("policyId", presentText s.id),
    ("policyName", presentText s.name),
    ("currentVersionId", presentText s.versionId)]

/-- Reads a kept status. -/
def resolve : Option Value → Except Fault PolicyStatus :=
  resolveStatus "iam-policy status" (shape.decode "IamPolicyStatus") {}

/-- Takes over what identifies a policy. -/
def identify (s : PolicyStatus) (p : Policy) : PolicyStatus :=
  { s with arn := p.arn, id := p.id, name := p.name, versionId := p.defaultVersionId }

end PolicyStatus

end IamConvergence
