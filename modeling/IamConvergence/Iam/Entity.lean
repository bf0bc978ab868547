/-
Roles and managed policies of an account as a provider reports them, their JSON form, and what is
handed in to create one.
-/
import IamConvergence.Record.Shape

namespace IamConvergence

/-! ## Roles -/

/-- A role of an account. -/
structure Role where
  arn : String
  id : String
  name : String
  path : String
  /-- The document that says who may assume the role. -/
  trustPolicy : String
  description : String
  /-- The longest session in seconds. -/
  maxSessionDuration : Int
  tags : Table String
  createdAt : Instant
  deriving DecidableEq

/-- What is handed in to create a role. -/
structure RoleDraft where
  name : String
  trustPolicy : String
  path : String
  description : String
  maxSessionDuration : Int
  tags : Table String
  deriving DecidableEq

namespace Role

/-- The fields of a role. -/
def shape : Shape Role :=
  Shape.of Role.mk
    |>.field ⟨"arn", Decode.text, none⟩
    |>.field ⟨"roleId", Decode.text, none⟩
    |>.field ⟨"roleName", Decode.text, none⟩
    |>.field ⟨"path", Decode.text, none⟩
    |>.field ⟨"assumeRolePolicyDocument", Decode.text, none⟩
    |>.field ⟨"description", Decode.text, some ""⟩
    |>.field ⟨"maxSessionDuration", Decode.int32, none⟩
    |>.field ⟨"tags", Decode.textTable, some .empty⟩
    |>.field ⟨"createdAt", Decode.instant, none⟩

/-- The role that a value describes. -/
def ofValue : Value → Except Mismatch Role := shape.decode "Role"

/-- The value that describes a role. -/
def toValue (r : Role) : Value :=
  .ofMembers [
    ("arn", .text r.arn),
    ("roleId", .text r.id),
    ("roleName", .text r.name),
    ("path", .text r.path),
    ("assumeRolePolicyDocument", .text r.trustPolicy),
    ("description", .text r.description),
    ("maxSessionDuration", .int r.maxSessionDuration),
    ("tags", .textTable r.tags),
    ("createdAt", .text (Rfc3339.render r.createdAt))]

end Role

/-! ## Policies -/

/-- A managed policy of an account. -/
structure Policy where
  arn : String
  id : String
  name : String
  path : String
  defaultVersionId : String
  description : String
  tags : Table String
  createdAt : Instant
  deriving DecidableEq

/-- What is handed in to create a policy. Its document becomes the first version. -/
structure PolicyDraft where
  name : String
  document : String
  path : String
  description : String
  tags : Table String
  deriving DecidableEq

namespace Policy

/-- The fields of a policy. -/
def shape : Shape Policy :=
  Shape.of Policy.mk
    |>.field ⟨"arn", Decode.text, none⟩
    |>.field ⟨"policyId", Decode.text, none⟩
    |>.field ⟨"policyName", Decode.text, none⟩
    |>.field ⟨"path", Decode.text, none⟩
    |>.field ⟨"defaultVersionId", Decode.text, none⟩
    |>.field ⟨"description", Decode.text, some ""⟩
    |>.field ⟨"tags", Decode.textTable, some .empty⟩
    |>.field ⟨"createdAt", Decode.instant, none⟩

/-- The policy that a value describes. -/
def ofValue : Value → Except Mismatch Policy := shape.decode "Policy"

/-- The value that describes a policy. -/
def toValue (p : Policy) : Value :=
  .ofMembers [
    ("arn", .text p.arn),
    ("policyId", .text p.id),
    ("policyName", .text p.name),
    ("path", .text p.path),
    ("defaultVersionId", .text p.defaultVersionId),
    ("description", .text p.description),
    ("tags", .textTable p.tags),
    ("createdAt", .text (Rfc3339.render p.createdAt))]

end Policy

end IamConvergence
