/-
The steps of a managed policy's handler. To apply creates the policy if none has the configured name
under the configured path, and otherwise brings its default version to the configured document. To
delete removes every version but the default first.
-/
import IamConvergence.Iam.Request
import IamConvergence.Iam.Status
import IamConvergence.Report

namespace IamConvergence

/-- The handler of one policy for one reconciliation. -/
structure PolicyHandler where
  config : PolicyConfig
  status : PolicyStatus
  classify : Classifier
  versionBound : Nat

/-- A step of a policy's handler. -/
abbrev PolicyStep : Type := IamPass (Report PolicyStatus)

namespace PolicyHandler

/-- The handler of a raw configuration and a kept status under a bound on versions. -/
def ofRaw (classify : Classifier) (settings : Settings) (config : Value)
    (status : Option Value) : Except Fault PolicyHandler := do
  settings.validate
  let config ← PolicyConfig.resolve config
  let status ← PolicyStatus.resolve status
  .ok ⟨config, status, classify, settings.versionBound⟩

/-- A failure with the status reached. -/
def fail (h : PolicyHandler) (status : PolicyStatus) (f : Fault) : Report PolicyStatus :=
  .ofFault status f h.classify

/-- Looks up the policy that the status names. -/
def lookUp (h : PolicyHandler) (next : Except Fault (Option Policy) → PolicyStep) : PolicyStep :=
  .ask h.status.arn (.getPolicy h.status.arn) next

/-! ## Applying -/

/-- What is handed in to create the policy. -/
def draft (h : PolicyHandler) : PolicyDraft where
  name := h.config.name
  document := h.config.document
  path := h.config.path
  description := h.config.description
  tags := h.config.tags

/-- Creates the policy. -/
def create (h : PolicyHandler) : PolicyStep :=
  .ask h.config.name (.createPolicy h.draft) fun
    | .error f => .done (h.fail h.status f)
    | .ok policy =>
      let status := h.status.identify policy
      .done (.success status s!"Created policy {status.name} at version {status.versionId}")

/-- The summary of an update. -/
def updateDetails (status : PolicyStatus) (o : VersionOutcome) : String :=
  if !o.changed then s!"Policy {status.name} unchanged at version {status.versionId}"
  else
    let updated := s!"Updated policy {status.name} to version {status.versionId}"
    match o.evicted with
    | [] => updated
    | [id] => s!"{updated}, deleted version {id}"
    | ids => updated ++ ", deleted versions " ++ String.intercalate ", " ids

/-- Brings the default version of a policy that exists to the configured document. -/
def update (h : PolicyHandler) (status : PolicyStatus) : PolicyStep :=
  ((Version.reconcile status.arn h.config.document h.versionBound).adapt
    (policyVersions status.arn)).map fun o =>
      let status := { status with versionId := o.versionId.getD status.versionId }
      .settle status o.fault (updateDetails status o) h.classify

/-- Creates the policy, or brings its default version to the configured document. -/
def apply (h : PolicyHandler) : PolicyStep :=
  .ask h.config.name (.findPolicy h.config.name h.config.path) fun
    | .error f => .done (h.fail h.status f)
    | .ok none => h.create
    | .ok (some policy) => h.update (h.status.identify policy)

/-- Whether the applied policy still exists, with its identity refreshed. -/
def checkApplied (h : PolicyHandler) : PolicyStep :=
  if h.status.arn.isEmpty then .done (.inProgress h.status "Policy deployment not started")
  else
    h.lookUp fun
      | .ok (some policy) =>
        let status := h.status.identify policy
        .done (.success status s!"Policy {status.name} ready at version {status.versionId}")
      | .ok none =>
        .done (.permanent h.status
          (.notFound h.status.arn s!"policy not found at ARN {h.status.arn}"))
      | .error f => .done (h.fail h.status f)

/-! ## Deleting -/

/-- Deletes a policy of which only the default version is left. -/
def deleteLast (h : PolicyHandler) : PolicyStep :=
  .ask h.status.arn (.deletePolicy h.status.arn) fun answer =>
    match removalFault? answer with
    | some f => .done (h.fail h.status f)
    | none => .done (.success h.status s!"Deleting policy {h.status.name}")

/-- Deletes versions one by one, then the policy. -/
def deleteVersions (h : PolicyHandler) : List String → PolicyStep
  | [] => h.deleteLast
  | id :: ids =>
    .ask h.status.arn (.deleteVersion h.status.arn id) fun answer =>
      match removalFault? answer with
      | some f => .done (h.fail h.status f)
      | none => h.deleteVersions ids

/-- Deletes every version but the default, then the policy. Versions that are not found are already
gone. -/
def deleteExisting (h : PolicyHandler) : PolicyStep :=
  .ask h.status.arn (.listVersions h.status.arn) fun
    | .ok versions => h.deleteVersions ((versions.filter (!·.isDefault)).map (·.id))
    | .error f => if f.isNotFound then h.deleteLast else .done (h.fail h.status f)

/-- Deletes the policy that the status names, with all its versions. -/
def delete (h : PolicyHandler) : PolicyStep :=
  if h.status.arn.isEmpty then .done (.success h.status "No policy to delete")
  else
    h.lookUp fun
      | .error f => .done (h.fail h.status f)
      | .ok none => .done (.success h.status s!"Policy {h.status.name} already deleted")
      | .ok (some _) => h.deleteExisting

/-- Whether the policy is gone. -/
def checkDeleted (h : PolicyHandler) : PolicyStep :=
  if h.status.arn.isEmpty then .done (.success h.status "No policy to delete")
  else
    h.lookUp fun
      | .ok none => .done (.success h.status s!"Policy {h.status.name} deleted")
      | .ok (some _) =>
        .done (.inProgress h.status s!"Waiting for policy {h.status.name} deletion")
      | .error f => .done (h.fail h.status f)

end PolicyHandler

end IamConvergence
