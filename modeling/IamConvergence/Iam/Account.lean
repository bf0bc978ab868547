/-
An identity account in memory. It behaves as the handlers expect of the service: names and resource
names are unique, documents are JSON, versions of a policy are bounded, and what is still in use is
not deleted. A request that is refused changes nothing but the call log. Failures can be queued per
operation; each is the answer to one call.
-/
import IamConvergence.Iam.Request

namespace IamConvergence

/-! ## State -/

/-- A role with the managed policies attached to it. -/
structure RoleEntry where
  role : Role
  attached : IdSet
  deriving DecidableEq

/-- A policy with its versions, oldest first, and the number of the next one. -/
structure PolicyEntry where
  policy : Policy
  versions : List DocumentVersion
  nextVersion : Nat
  deriving DecidableEq

/-- A policy entry with a further version, which may become the only default. -/
def PolicyEntry.push (e : PolicyEntry) (v : DocumentVersion) : PolicyEntry :=
  if v.isDefault then
    { policy := { e.policy with defaultVersionId := v.id }
      versions := e.versions.map (fun w => { w with isDefault := false }) ++ [v]
      nextVersion := e.nextVersion + 1 }
  else { e with versions := e.versions ++ [v], nextVersion := e.nextVersion + 1 }

/-- An account. Roles stand under their names, policies under their resource names. -/
structure Account where
  accountId : String := "123456789012"
  versionLimit : Nat := defaultVersionBound
  tick : Nat := 0
  lastId : Nat := 0
  roles : Table RoleEntry := .empty
  policies : Table PolicyEntry := .empty
  failures : List (String × Fault) := []
  calls : List String := []
  deriving DecidableEq

namespace Account

/-! ## Names, ids and time -/

/-- The resource name of a policy of the account. -/
def policyArn (a : Account) (path name : String) : String :=
  s!"arn:aws:iam::{a.accountId}:policy{path}{name}"

/-- The resource name of a role of the account. -/
def roleArn (a : Account) (path name : String) : String :=
  s!"arn:aws:iam::{a.accountId}:role{path}{name}"

/-- Whether a resource name is that of a policy of the account. -/
def ownsPolicy (a : Account) (arn : String) : Bool :=
  (s!"arn:aws:iam::{a.accountId}:policy/").toList.isPrefixOf arn.toList

/-- A number in sixteen upper-case hexadecimal digits. -/
def hexId (n : Nat) : String :=
  let ds := (Nat.toDigits 16 n).map Char.toUpper
  String.ofList (List.replicate (16 - ds.length) '0' ++ ds)

/-- The start of the account's clock, 2024-01-01T00:00:00Z. -/
def clockStart : Int := 1704067200

/-- The id that is issued next. -/
def freshId (a : Account) (kind : String) : String := kind ++ hexId (a.lastId + 1)

/-- The time of the next change. -/
def now (a : Account) : Instant := .ofSecond (clockStart + (a.tick + 1 : Nat))

/-- The account after an id was issued and the clock has moved on. -/
def issued (a : Account) : Account := { a with tick := a.tick + 1, lastId := a.lastId + 1 }

/-! ## Look-ups that must succeed -/

/-- The entry of a role. -/
def roleEntry (a : Account) (name : String) : Except Fault RoleEntry :=
  match a.roles.find? name with
  | some e => .ok e
  | none =>
    .error (.notFound name s!"NoSuchEntity: The role with name {name} cannot be found.")

/-- The entry of a policy. -/
def policyEntry (a : Account) (arn : String) : Except Fault PolicyEntry :=
  match a.policies.find? arn with
  | some e => .ok e
  | none =>
    .error (.notFound arn s!"NoSuchEntity: Policy {arn} does not exist or is not attachable.")

/-- The fault of a version that a policy does not have. -/
def noVersion (arn version : String) : Fault :=
  .notFound arn s!"NoSuchEntity: Policy version {version} does not exist."

/-- Refuses a text that is not JSON. -/
def checkDocument (resource operation document : String) : Except Fault Unit :=
  if (Document.parse? document).isNone then
    .error (.refusal resource operation "MalformedPolicyDocument: Syntax errors in policy.")
  else .ok ()

/-! ## Roles -/

/-- Creates a role without attachments. -/
def createRole (a : Account) (d : RoleDraft) : Except Fault (Role × Account) := do
  if a.roles.contains d.name then
    .error (.refusal d.name "CreateRole"
      s!"EntityAlreadyExists: Role with name {d.name} already exists.")
  checkDocument d.name "CreateRole" d.trustPolicy
  let role : Role := {
    arn := a.roleArn d.path d.name
    id := a.freshId "AROA"
    name := d.name
    path := d.path
    trustPolicy := d.trustPolicy
    description := d.description
    maxSessionDuration := d.maxSessionDuration
    tags := d.tags
    createdAt := a.now }
  .ok (role, { a.issued with roles := a.roles.insert d.name ⟨role, .empty⟩ })

/-- Replaces the trust policy of a role. -/
def updateTrustPolicy (a : Account) (name document : String) : Except Fault Account := do
  checkDocument name "UpdateAssumeRolePolicy" document
  let e ← a.roleEntry name
  .ok { a with
    roles := a.roles.insert name { e with role := { e.role with trustPolicy := document } } }

/-- Deletes a role to which nothing is attached. -/
def deleteRole (a : Account) (name : String) : Except Fault Account := do
  let e ← a.roleEntry name
  if e.attached.isEmpty then .ok { a with roles := a.roles.erase name }
  else
    .error (.refusal name "DeleteRole"
      "DeleteConflict: Cannot delete entity, must detach all policies first.")

/-- Attaches a policy to a role. A policy of the account has to exist. -/
def attach (a : Account) (name arn : String) : Except Fault Account := do
  if a.ownsPolicy arn then discard (a.policyEntry arn)
  let e ← a.roleEntry name
  .ok { a with roles := a.roles.insert name { e with attached := e.attached.insert arn } }

/-- Detaches a policy from a role. -/
def detach (a : Account) (name arn : String) : Except Fault Account := do
  let e ← a.roleEntry name
  if arn ∈ e.attached then
    .ok { a with roles := a.roles.insert name { e with attached := e.attached.erase arn } }
  else .error (.notFound arn s!"NoSuchEntity: Policy {arn} was not found.")

/-! ## Policies -/

/-- The first policy in key order with a name and a path. -/
def findPolicy (a : Account) (name path : String) : Option Policy :=
  (a.policies.values.map (·.policy)).find? fun p => p.name == name && p.path == path

/-- Creates a policy with its first version. -/
def createPolicy (a : Account) (d : PolicyDraft) : Except Fault (Policy × Account) := do
  let arn := a.policyArn d.path d.name
  if a.policies.contains arn then
    .error (.refusal arn "CreatePolicy"
      s!"EntityAlreadyExists: A policy called {d.name} already exists.")
  checkDocument arn "CreatePolicy" d.document
  let policy : Policy := {
    arn := arn
    id := a.freshId "ANPA"
    name := d.name
    path := d.path
    defaultVersionId := "v1"
    description := d.description
    tags := d.tags
    createdAt := a.now }
  let entry : PolicyEntry := ⟨policy, [⟨"v1", some d.document, true, a.now⟩], 2⟩
  .ok (policy, { a.issued with policies := a.policies.insert arn entry })

/-- Deletes a policy that has one version left and is attached to no role. -/
def deletePolicy (a : Account) (arn : String) : Except Fault Account := do
  let e ← a.policyEntry arn
  if 1 < e.versions.length then
    .error (.refusal arn "DeletePolicy"
      ("DeleteConflict: This policy has more than one version. " ++
        "Before you delete a policy, you must delete the policy's versions."))
  else if a.roles.values.any (arn ∈ ·.attached) then
    .error (.refusal arn "DeletePolicy"
      "DeleteConflict: Cannot delete a policy attached to entities.")
  else .ok { a with policies := a.policies.erase arn }

/-! ## Versions -/

/-- A version of a policy with its content. -/
def getVersion (a : Account) (arn version : String) : Except Fault DocumentVersion := do
  let e ← a.policyEntry arn
  match e.versions.find? (·.id == version) with
  | some v => .ok v
  | none => .error (noVersion arn version)

/-- The versions of a policy without their contents. -/
def listVersions (a : Account) (arn : String) : Except Fault (List DocumentVersion) := do
  let e ← a.policyEntry arn
  .ok (e.versions.map fun v => { v with content := none })

/-- Creates a version of a policy that has room for it. -/
def createVersion (a : Account) (arn document : String) (asDefault : Bool) :
    Except Fault (DocumentVersion × Account) := do
  let e ← a.policyEntry arn
  if a.versionLimit ≤ e.versions.length then
    .error (.refusal arn "CreatePolicyVersion"
      s!"LimitExceeded: Cannot exceed quota for PolicyVersionsPerPolicy: {a.versionLimit}")
  checkDocument arn "CreatePolicyVersion" document
  let v : DocumentVersion := ⟨s!"v{e.nextVersion}", some document, asDefault, a.now⟩
  .ok (v, { a with tick := a.tick + 1, policies := a.policies.insert arn (e.push v) })

/-- Deletes a version that is not the default. -/
def deleteVersion (a : Account) (arn version : String) : Except Fault Account := do
  let e ← a.policyEntry arn
  match e.versions.find? (·.id == version) with
  | none => .error (noVersion arn version)
  | some v =>
    if v.isDefault then
      .error (.refusal arn "DeletePolicyVersion"
        "DeleteConflict: Cannot delete the default version of a policy.")
    else
      let entry := { e with versions := e.versions.eraseP (·.id == version) }
      .ok { a with policies := a.policies.insert arn entry }

/-! ## Requests -/

/-- What a request answers and changes, if it is not refused. -/
def effect (a : Account) : (q : IamRequest) → Except Fault (q.Answer × Account)
  | .getRole name => .ok ((a.roles.find? name).map (·.role), a)
  | .createRole draft => a.createRole draft
  | .updateTrustPolicy name document => (a.updateTrustPolicy name document).map ((), ·)
  | .deleteRole name => (a.deleteRole name).map ((), ·)
  | .listAttached name => (a.roleEntry name).map (·.attached.toList, a)
  | .attach name arn => (a.attach name arn).map ((), ·)
  | .detach name arn => (a.detach name arn).map ((), ·)
  | .findPolicy name path => .ok (a.findPolicy name path, a)
  | .getPolicy arn => .ok ((a.policies.find? arn).map (·.policy), a)
  | .createPolicy draft => a.createPolicy draft
  | .deletePolicy arn => (a.deletePolicy arn).map ((), ·)
  | .getVersion arn version => (a.getVersion arn version).map (·, a)
  | .listVersions arn => (a.listVersions arn).map (·, a)
  | .createVersion arn document asDefault => a.createVersion arn document asDefault
  | .deleteVersion arn version => (a.deleteVersion arn version).map ((), ·)

/-- The first failure queued for an operation, and the others. -/
def takeFailure (operation : String) :
    List (String × Fault) → Option Fault × List (String × Fault)
  | [] => (none, [])
  | (op, f) :: rest =>
    if op = operation then (some f, rest)
    else
      let (found, others) := takeFailure operation rest
      (found, (op, f) :: others)

/-- Logs a call and takes the failure queued for it. -/
def enter (a : Account) (operation : String) : Option Fault × Account :=
  let (found, others) := takeFailure operation a.failures
  (found, { a with failures := others, calls := a.calls ++ [operation] })

/-- Performs a request. -/
def perform (q : IamRequest) (a : Account) : Except Fault q.Answer × Account :=
  match a.enter q.operation with
  | (some f, a) => (.error f, a)
  | (none, a) =>
    match a.effect q with
    | .ok (answer, a) => (.ok answer, a)
    | .error f => (.error f, a)

/-- Queues a failure for the next call of an operation. -/
def failNext (a : Account) (operation : String) (f : Fault) : Account :=
  { a with failures := a.failures ++ [(operation, f)] }

/-- Forgets the calls made so far. -/
def clearCalls (a : Account) : Account := { a with calls := [] }

end Account

end IamConvergence
