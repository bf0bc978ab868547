/-
The steps of a role's handler. To deploy creates the role if it is missing, corrects its trust
policy if that has drifted, and brings its attached policies to the configured ones. To delete
detaches everything first. The status always records what is attached, also when a step stops
partway.
-/
import IamConvergence.Iam.Request
import IamConvergence.Iam.Status
import IamConvergence.Report

namespace IamConvergence

/-- The handler of one role for one reconciliation. -/
structure RoleHandler where
  config : RoleConfig
  status : RoleStatus
  classify : Classifier

/-- A step of a role's handler. -/
abbrev RoleStep : Type := IamPass (Report RoleStatus)

namespace RoleHandler

/-- The handler of a raw configuration and a kept status. -/
def ofRaw (classify : Classifier) (config : Value) (status : Option Value) :
    Except Fault RoleHandler := do
  let config ← RoleConfig.resolve config
  let status ← RoleStatus.resolve status
  .ok ⟨config, status, classify⟩

/-- A failure with the status reached. -/
def fail (h : RoleHandler) (status : RoleStatus) (f : Fault) : Report RoleStatus :=
  .ofFault status f h.classify

/-- Looks the role up. -/
def lookUp (h : RoleHandler) (next : Except Fault (Option Role) → RoleStep) : RoleStep :=
  .ask h.config.name (.getRole h.config.name) next

/-- Brings the attached policies to the desired ones. -/
def attachments (h : RoleHandler) (desired : List String) (status : RoleStatus) :
    IamPass AttachmentOutcome :=
  (Attachment.reconcile h.config.name desired status.attached).adapt
    (roleAttachments h.config.name)

/-! ## Deploying -/

/-- What is handed in to create the role. -/
def draft (h : RoleHandler) : RoleDraft where
  name := h.config.name
  trustPolicy := h.config.trustDocument
  path := h.config.path
  description := h.config.description
  maxSessionDuration := h.config.maxSessionDuration
  tags := h.config.tags

/-- The summary of a deployment. -/
def deployDetails (status : RoleStatus) (created : Bool) (o : AttachmentOutcome) : String :=
  let total := o.attached.size
  if created then s!"Created role {status.name} with {total} policies"
  else if o.changed then
    s!"Updated role {status.name}: attached {o.attachedCount}, detached {o.detachedCount}, " ++
      s!"total {total} policies"
  else s!"Role {status.name} unchanged with {total} policies"

/-- Brings the attached policies of a role that exists to the configured ones. -/
def converge (h : RoleHandler) (status : RoleStatus) (created : Bool) : RoleStep :=
  (h.attachments h.config.managedPolicies status).map fun o =>
    .settle { status with attached := o.attached.toList } o.fault
      (deployDetails status created o) h.classify

/-- Creates or updates the role and brings its attached policies to the configured ones. -/
def deploy (h : RoleHandler) : RoleStep :=
  h.lookUp fun
    | .error f => .done (h.fail h.status f)
    | .ok none =>
      .ask h.config.name (.createRole h.draft) fun
        | .error f => .done (h.fail h.status f)
        | .ok role => h.converge { h.status.identify role with attached := [] } true
    | .ok (some role) =>
      let status := h.status.identify role
      if documentsEqual role.trustPolicy h.config.trustDocument then h.converge status false
      else
        .ask h.config.name (.updateTrustPolicy h.config.name h.config.trustDocument) fun
          | .error f => .done (h.fail status f)
          | .ok _ => h.converge status false

/-- Whether the deployed role still exists, with its identity refreshed. -/
def checkDeployment (h : RoleHandler) : RoleStep :=
  if h.status.arn.isEmpty then .done (.inProgress h.status "Role deployment not started")
  else
    h.lookUp fun
      | .ok (some role) =>
        let status := h.status.identify role
        .done (.success status
          s!"Role {status.name} ready with {status.attached.length} policies")
      | .ok none =>
        .done (.permanent h.status
          (.notFound h.config.name s!"role not found: {h.config.name}"))
      | .error f => .done (h.fail h.status f)

/-! ## Deleting -/

/-- Deletes a role from which everything is detached. -/
def deleteDetached (h : RoleHandler) (status : RoleStatus) : RoleStep :=
  .ask h.config.name (.deleteRole h.config.name) fun answer =>
    match removalFault? answer with
    | some f => .done (h.fail status f)
    | none => .done (.success status s!"Deleted role {h.config.name}")

/-- Detaches every policy, then deletes the role. -/
def delete (h : RoleHandler) : RoleStep :=
  h.lookUp fun
    | .error f => .done (h.fail h.status f)
    | .ok none =>
      .done (.success { h.status with attached := [] }
        s!"Role {h.config.name} already deleted")
    | .ok (some _) =>
      (h.attachments [] h.status).bind fun o =>
        let status := { h.status with attached := o.attached.toList }
        match o.fault with
        | some f => .done (h.fail status f)
        | none => h.deleteDetached status

/-- Whether the role is gone. -/
def checkDeleted (h : RoleHandler) : RoleStep :=
  h.lookUp fun
    | .ok none => .done (.success h.status s!"Role {h.config.name} deleted")
    | .ok (some _) =>
      .done (.inProgress h.status s!"Waiting for role {h.config.name} deletion")
    | .error f => .done (h.fail h.status f)

end RoleHandler

end IamConvergence
