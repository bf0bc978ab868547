/-
The slice of an identity service that the handlers use: requests about roles and managed policies,
what answers them, and how memberships and version histories are kept by means of them.
-/
import IamConvergence.Attachment.Reconcile
import IamConvergence.Iam.Entity
import IamConvergence.Version.Reconcile

namespace IamConvergence

/-- Requests to an identity service. -/
inductive IamRequest where
  | getRole (name : String)
  | createRole (draft : RoleDraft)
  | updateTrustPolicy (name document : String)
  | deleteRole (name : String)
  | listAttached (name : String)
  | attach (name arn : String)
  | detach (name arn : String)
  | findPolicy (name path : String)
  | getPolicy (arn : String)
  | createPolicy (draft : PolicyDraft)
  | deletePolicy (arn : String)
  | getVersion (arn version : String)
  | listVersions (arn : String)
  | createVersion (arn document : String) (asDefault : Bool)
  | deleteVersion (arn version : String)
  deriving DecidableEq

namespace IamRequest

/-- What answers a request. A look-up that finds nothing is answered by none, not by a fault. -/
@[reducible] def Answer : IamRequest → Type
  | .getRole _ => Option Role
  | .createRole _ => Role
  | .listAttached _ => List String
  | .findPolicy _ _ | .getPolicy _ => Option Policy
  | .createPolicy _ => Policy
  | .getVersion _ _ | .createVersion _ _ _ => DocumentVersion
  | .listVersions _ => List DocumentVersion
  | .updateTrustPolicy _ _ | .deleteRole _ | .attach _ _ | .detach _ _ | .deletePolicy _
  | .deleteVersion _ _ => Unit

/-- The service's name of the operation that a request asks for. -/
def operation : IamRequest → String
  | .getRole _ => "GetRole"
  | .createRole _ => "CreateRole"
  | .updateTrustPolicy _ _ => "UpdateAssumeRolePolicy"
  | .deleteRole _ => "DeleteRole"
  | .listAttached _ => "ListAttachedRolePolicies"
  | .attach _ _ => "AttachRolePolicy"
  | .detach _ _ => "DetachRolePolicy"
  | .findPolicy _ _ => "ListPolicies"
  | .getPolicy _ => "GetPolicy"
  | .createPolicy _ => "CreatePolicy"
  | .deletePolicy _ => "DeletePolicy"
  | .getVersion _ _ => "GetPolicyVersion"
  | .listVersions _ => "ListPolicyVersions"
  | .createVersion _ _ _ => "CreatePolicyVersion"
  | .deleteVersion _ _ => "DeletePolicyVersion"

end IamRequest

/-- A pass over requests to an identity service. -/
abbrev IamPass (α : Type) : Type := Pass IamRequest IamRequest.Answer α

/-- The managed policies attached to a role, as a membership. -/
def roleAttachments (role : String) :
    Pass.Adapter AttachmentRequest AttachmentRequest.Answer IamRequest IamRequest.Answer
  | guarded, resource, .list => .call guarded resource (.listAttached role) .done
  | guarded, resource, .attach arn => .call guarded resource (.attach role arn) .done
  | guarded, resource, .detach arn => .call guarded resource (.detach role arn) .done

/-- The versions of a managed policy, as a version history. The default version takes two calls,
which a cancellation does not separate. -/
def policyVersions (arn : String) :
    Pass.Adapter VersionRequest VersionRequest.Answer IamRequest IamRequest.Answer
  | guarded, resource, .getDefault =>
    .call guarded resource (.getPolicy arn) fun
      | .error f => .done (.error f)
      | .ok none => .done (.error (.notFound arn "policy does not exist"))
      | .ok (some policy) =>
        .call false resource (.getVersion arn policy.defaultVersionId) .done
  | guarded, resource, .list => .call guarded resource (.listVersions arn) .done
  | guarded, resource, .create content =>
    .call guarded resource (.createVersion arn content true) fun answer =>
      .done (answer.map DocumentVersion.id)
  | guarded, resource, .delete id => .call guarded resource (.deleteVersion arn id) .done

end IamConvergence
