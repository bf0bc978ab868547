/-
Configurations of roles and policies. A raw configuration is read, checked and completed with
defaults once per step; what is wrong with it is permanent, since trying again does not change it.
-/
import IamConvergence.Document.Reader
import IamConvergence.Record.Shape
import IamConvergence.Version.Reconcile

namespace IamConvergence

/-! ## Resolving -/

/-- The path of a role or policy that gives none. -/
def defaultPath : String := "/"

/-- The longest session of a role that gives none, in seconds. -/
def defaultSessionDuration : Int := 3600

/-- Reads a raw value of some kind. -/
def resolveRaw {α : Type} (kind : String) (decode : Value → Except Mismatch α) (raw : Value) :
    Except Fault α :=
  (decode raw).mapError fun m =>
    .serialization s!"failed to parse {kind}: {m.message}" (some kind)

/-- A text as a member, left out when it is empty. -/
def presentText (s : String) : Option Value := if s.isEmpty then none else some (.text s)

/-- A table of texts as a member, left out when it is empty. -/
def presentTable (t : Table String) : Option Value :=
  if t.isEmpty then none else some (.textTable t)

/-! ## Roles -/

/-- The configuration of a role. -/
structure RoleConfig where
  name : String
  /-- The trust policy: a JSON value, or the text of one. -/
  trustPolicy : Value
  description : String
  /-- The longest session in seconds; zero stands for the default. -/
  maxSessionDuration : Int
  path : String
  /-- The managed policies to be attached. -/
  managedPolicies : List String
  tags : Table String
  deriving DecidableEq

namespace RoleConfig

/-- The fields of a role configuration. -/
def shape : Shape RoleConfig :=
  Shape.of RoleConfig.mk
    |>.field ⟨"roleName", Decode.text, some ""⟩
    |>.field ⟨"assumeRolePolicy", Decode.anything, some .null⟩
    |>.field ⟨"description", Decode.text, some ""⟩
    |>.field ⟨"maxSessionDuration", Decode.int32, some 0⟩
    |>.field ⟨"path", Decode.text, some ""⟩
    |>.field ⟨"managedPolicyArns", Decode.texts, some []⟩
    |>.field ⟨"tags", Decode.textTable, some .empty⟩

/-- The value that describes a configuration. -/
def toValue (c : RoleConfig) : Value :=
  .ofPresent [
    ("roleName", some (.text c.name)),
    ("assumeRolePolicy", some c.trustPolicy),
    ("description", presentText c.description),
    ("maxSessionDuration", some (.int c.maxSessionDuration)),
    ("path", presentText c.path),
    ("managedPolicyArns", some (.texts c.managedPolicies)),
    ("tags", presentTable c.tags)]

/-- What is wrong with a trust policy. -/
def trustFault? : Value → Option String
  | .null => some "assumeRolePolicy is required and cannot be empty"
  | .text s =>
    if isBlankText s then some "assumeRolePolicy is required and cannot be empty"
    else if (Document.parse? s).isNone then some "assumeRolePolicy must be valid JSON"
    else none
  | _ => none

/-- Checks the fields, the name first. -/
def validate (c : RoleConfig) : Except Fault Unit :=
  if c.name.isEmpty then
    .error (.invalidField "iam-role" "roleName" "roleName is required and cannot be empty")
  else
    match trustFault? c.trustPolicy with
    | some message => .error (.invalidField c.name "assumeRolePolicy" message)
    | none =>
      if c.managedPolicies.isEmpty then
        .error (.invalidField c.name "managedPolicyArns"
          "managedPolicyArns is required and must contain at least one policy ARN")
      else if c.managedPolicies.any isBlankText then
        .error (.invalidField c.name "managedPolicyArns"
          "managedPolicyArns cannot contain empty entries")
      else if c.maxSessionDuration < 0 then
        .error (.invalidField c.name "maxSessionDuration"
          "maxSessionDuration cannot be negative")
      else .ok ()

/-- Fills in the path and the session duration. -/
def withDefaults (c : RoleConfig) : RoleConfig :=
  { c with
    path := if c.path.isEmpty then defaultPath else c.path
    maxSessionDuration :=
      if c.maxSessionDuration = 0 then defaultSessionDuration else c.maxSessionDuration }

/-- Reads, checks and completes a raw configuration. -/
def resolve (raw : Value) : Except Fault RoleConfig := do
  let c ← resolveRaw "iam-role config" (shape.decode "IamRoleConfig") raw
  c.validate
  .ok c.withDefaults

/-- The trust policy as the text that is sent to the provider. -/
def trustDocument (c : RoleConfig) : String :=
  match c.trustPolicy with
  | .text s => s
  | v => v.render

end RoleConfig

/-! ## Policies -/

/-- The configuration of a managed policy. -/
structure PolicyConfig where
  name : String
  /-- The policy document, as text. -/
  document : String
  description : String
  path : String
  tags : Table String
  deriving DecidableEq

namespace PolicyConfig

/-- The fields of a policy configuration. -/
def shape : Shape PolicyConfig :=
  Shape.of PolicyConfig.mk
    |>.field ⟨"policyName", Decode.text, some ""⟩
    |>.field ⟨"policyDocument", Decode.text, some ""⟩
    |>.field ⟨"description", Decode.text, some ""⟩
    |>.field ⟨"path", Decode.text, some ""⟩
    |>.field ⟨"tags", Decode.textTable, some .empty⟩

/-- The value that describes a configuration. -/
def toValue (c : PolicyConfig) : Value :=
  .ofPresent [
    ("policyName", some (.text c.name)),
    ("policyDocument", some (.text c.document)),
    ("description", presentText c.description),
    ("path", presentText c.path),
    ("tags", presentTable c.tags)]

/-- Checks the fields, the name first. -/
def validate (c : PolicyConfig) : Except Fault Unit :=
  if c.name.isEmpty then
    .error (.invalidField "iam-policy" "policyName" "policyName is required and cannot be empty")
  else if c.document.isEmpty then
    .error (.invalidField c.name "policyDocument"
      "policyDocument is required and cannot be empty")
  else if (Document.parse? c.document).isNone then
    .error (.invalidField c.name "policyDocument" "policyDocument must be valid JSON")
  else .ok ()

/-- Fills in the path. -/
def withDefaults (c : PolicyConfig) : PolicyConfig :=
  { c with path := if c.path.isEmpty then defaultPath else c.path }

/-- Reads, checks and completes a raw configuration. -/
def resolve (raw : Value) : Except Fault PolicyConfig := do
  let c ← resolveRaw "iam-policy config" (shape.decode "IamPolicyConfig") raw
  c.validate
  .ok c.withDefaults

end PolicyConfig

/-! ## Settings -/

/-- Settings of the policy handler. -/
structure Settings where
  /-- How many versions of a policy the provider retains. -/
  versionBound : Nat := defaultVersionBound
  deriving DecidableEq

namespace Settings

/-- The fields of the settings. -/
def shape : Shape Settings :=
  Shape.of Settings.mk
    |>.field ⟨"maxPolicyVersions", Decode.count, some defaultVersionBound⟩

/-- The settings that a value describes. -/
def ofValue : Value → Except Mismatch Settings := shape.decode "ConvergenceSettings"

/-- The value that describes settings. -/
def toValue (s : Settings) : Value := .ofMembers [("maxPolicyVersions", .int s.versionBound)]

/-- Refuses a bound that leaves no room beside the default version. -/
def validate (s : Settings) : Except Fault Unit := checkVersionBound s.versionBound

end Settings

end IamConvergence
