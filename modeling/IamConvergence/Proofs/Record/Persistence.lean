/-
What is kept of roles and policies between steps, and what a provider reports of them, survives
being written as a JSON value and read again.
-/
import IamConvergence.Iam.Status
import IamConvergence.Proofs.Record.Shape
import IamConvergence.Version.Basic

namespace IamConvergence

open IamConvergence.Field IamConvergence.Shape

variable {α ε : Type}

/-- Records are written as JSON values and read again. Those that their types can hold come back as
they were, and no others are read. A value that describes one need not have the form in which it is
written, but this form stays as it is. -/
structure Persists (write : α → Value) (read : Value → Except ε α) (Held : α → Prop) : Prop where
  back : ∀ x, Held x → read (write x) = .ok x
  held : ∀ v x, read v = .ok x → Held x
  normal : ∀ v x, read v = .ok x → (read (write x)).map write = .ok (write x)

theorem Persists.of {write : α → Value} {read : Value → Except ε α} {Held : α → Prop}
    (back : ∀ x, Held x → read (write x) = .ok x) (held : ∀ v x, read v = .ok x → Held x) :
    Persists write read Held where
  back := back
  held := held
  normal v x h := by
    rw [back x (held v x h)]
    rfl

/-- The member of an object under a key. -/
def Value.member? : Value → String → Option Value
  | .object ms, k => ms.lookup k
  | _, _ => none

/-- Fields of a record are left out when it is written just if they are empty, and are empty when
they are missing where it is read. They are given by name, with whether they are empty. -/
structure OmitsEmpty (write : α → Value) (read : Value → Except ε α)
    (fields : α → List (String × Bool)) : Prop where
  omitted : ∀ x, ∀ f ∈ fields x, ((write x).member? f.1).isNone = f.2
  missing : ∀ ms x, read (.object ms) = .ok x → ∀ f ∈ fields x, ms.lookup f.1 = none → f.2 = true

theorem isNone_member?_ofPresent {ms : List (String × Option Value)}
    {fields : List (String × Bool)} (hnames : (ms.map (·.1)).Nodup)
    (hfields : fields ⊆ ms.map fun m => (m.1, m.2.isNone)) :
    ∀ f ∈ fields, ((Value.ofPresent ms).member? f.1).isNone = f.2 := by
  intro f hf
  obtain ⟨⟨k, v⟩, hmem, rfl⟩ := List.mem_map.mp (hfields hf)
  have hfound : (Value.ofPresent ms).member? k = v := Entries.lookup_present hnames hmem
  dsimp only
  rw [hfound]

/-- A field that is missing is empty, if that is what stands for it. -/
theorem isEmpty_of_takes {f : Field α} {isEmpty : α → Bool} {x : α} {v : Option Value}
    (habsent : f.absent.all isEmpty = true) (h : f.Takes v x) (hv : v = none) :
    isEmpty x = true := by
  rw [hv] at h
  have hx : f.absent = some x := h
  rwa [hx] at habsent

/-! ## Entities -/

namespace Role

/-- A session duration of 32 bits, and a date of the calendar. -/
def Storable (r : Role) : Prop := IsInt32 r.maxSessionDuration ∧ r.createdAt.Valid

theorem takes {r : Role} (h : r.Storable) : shape.Takes [
    ("arn", some (.text r.arn)),
    ("roleId", some (.text r.id)),
    ("roleName", some (.text r.name)),
    ("path", some (.text r.path)),
    ("assumeRolePolicyDocument", some (.text r.trustPolicy)),
    ("description", some (.text r.description)),
    ("maxSessionDuration", some (.int r.maxSessionDuration)),
    ("tags", some (.textTable r.tags)),
    ("createdAt", some (.text (Rfc3339.render r.createdAt)))] r :=
  (Takes.of Role.mk).field (takes_text "arn" none r.arn)
    |>.field (takes_text "roleId" none r.id)
    |>.field (takes_text "roleName" none r.name)
    |>.field (takes_text "path" none r.path)
    |>.field (takes_text "assumeRolePolicyDocument" none r.trustPolicy)
    |>.field (takes_text "description" (some "") r.description)
    |>.field (takes_int32 "maxSessionDuration" none h.1)
    |>.field (takes_textTable "tags" (some .empty) r.tags)
    |>.field (takes_instant "createdAt" none h.2)

theorem storable_of_build (src : Source) : shape.Ensures src Storable := by
  refine .field (.field (.field (.field (.field (.field (.field (.field (.field (.of ?_)))))))))
  intro arn _ id _ name _ path _ trustPolicy _ description _ duration hduration tags _ created
    hcreated
  exact ⟨isInt32_of_takes (by simp) hduration, valid_of_takes hcreated⟩

theorem persists : Persists toValue ofValue Storable :=
  .of (fun _ h => (takes h).decode_ofPresent (by simp) "Role")
    fun _ _ h => Ensures.of_decode storable_of_build h

end Role

namespace Policy

/-- A date of the calendar. -/
def Storable (p : Policy) : Prop := p.createdAt.Valid

theorem takes {p : Policy} (h : p.Storable) : shape.Takes [
    ("arn", some (.text p.arn)),
    ("policyId", some (.text p.id)),
    ("policyName", some (.text p.name)),
    ("path", some (.text p.path)),
    ("defaultVersionId", some (.text p.defaultVersionId)),
    ("description", some (.text p.description)),
    ("tags", some (.textTable p.tags)),
    ("createdAt", some (.text (Rfc3339.render p.createdAt)))] p :=
  (Takes.of Policy.mk).field (takes_text "arn" none p.arn)
    |>.field (takes_text "policyId" none p.id)
    |>.field (takes_text "policyName" none p.name)
    |>.field (takes_text "path" none p.path)
    |>.field (takes_text "defaultVersionId" none p.defaultVersionId)
    |>.field (takes_text "description" (some "") p.description)
    |>.field (takes_textTable "tags" (some .empty) p.tags)
    |>.field (takes_instant "createdAt" none h)

theorem storable_of_build (src : Source) : shape.Ensures src Storable := by
  refine .field (.field (.field (.field (.field (.field (.field (.field (.of ?_))))))))
  intro arn _ id _ name _ path _ versionId _ description _ tags _ created hcreated
  exact valid_of_takes hcreated

theorem persists : Persists toValue ofValue Storable :=
  .of (fun _ h => (takes h).decode_ofPresent (by simp) "Policy")
    fun _ _ h => Ensures.of_decode storable_of_build h

end Policy

namespace DocumentVersion

/-- A date of the calendar. -/
def Storable (v : DocumentVersion) : Prop := v.createdAt.Valid

theorem takes {v : DocumentVersion} (h : v.Storable) : shape.Takes [
    ("versionId", some (.text v.id)),
    ("content", v.content.map .text),
    ("isDefault", some (.bool v.isDefault)),
    ("createdAt", some (.text (Rfc3339.render v.createdAt)))] v :=
  (Takes.of DocumentVersion.mk).field (takes_text "versionId" none v.id)
    |>.field (takes_optionalText "content" v.content)
    |>.field (takes_bool "isDefault" none v.isDefault)
    |>.field (takes_instant "createdAt" none h)

theorem storable_of_build (src : Source) : shape.Ensures src Storable := by
  refine .field (.field (.field (.field (.of ?_))))
  intro id _ content _ isDefault _ created hcreated
  exact valid_of_takes hcreated

theorem persists : Persists toValue ofValue Storable :=
  .of (fun _ h => (takes h).decode_ofPresent (by simp) "VersionedDocument")
    fun _ _ h => Ensures.of_decode storable_of_build h

end DocumentVersion

/-! ## Status -/

theorem isNone_presentText (s : String) : (presentText s).isNone = s.isEmpty := by
  unfold presentText
  cases s.isEmpty <;> rfl

theorem isNone_presentTable (t : Table String) : (presentTable t).isNone = t.isEmpty := by
  unfold presentTable
  cases t.isEmpty <;> rfl

theorem resolveRaw_eq_ok_iff {kind : String} {decode : Value → Except Mismatch α} {raw : Value}
    {x : α} : resolveRaw kind decode raw = .ok x ↔ decode raw = .ok x := by
  unfold resolveRaw
  cases decode raw <;> simp [Except.mapError]

namespace RoleStatus

/-- The fields, with whether they are empty. -/
def emptiness (s : RoleStatus) : List (String × Bool) := [
  ("roleArn", s.arn.isEmpty),
  ("roleId", s.id.isEmpty),
  ("roleName", s.name.isEmpty),
  ("attachedPolicies", s.attached.isEmpty)]

theorem takes (s : RoleStatus) : shape.Takes [
    ("roleArn", presentText s.arn),
    ("roleId", presentText s.id),
    ("roleName", presentText s.name),
    ("attachedPolicies", if s.attached.isEmpty then none else some (.texts s.attached))] s :=
  (Takes.of RoleStatus.mk).field (takes_presentText "roleArn" s.arn)
    |>.field (takes_presentText "roleId" s.id)
    |>.field (takes_presentText "roleName" s.name)
    |>.field (takes_presentTexts "attachedPolicies" s.attached)

theorem persists : Persists toValue (fun v => resolve (some v)) fun _ => True :=
  .of (fun s _ => resolveRaw_eq_ok_iff.mpr ((takes s).decode_ofPresent (by simp) "IamRoleStatus"))
    fun _ _ _ => trivial

theorem missing_of_build (ms : List (String × Value)) : shape.Ensures (.ofMembers ms) fun s =>
    ∀ f ∈ s.emptiness, ms.lookup f.1 = none → f.2 = true := by
  refine .field (.field (.field (.field (.of ?_))))
  intro arn harn id hid name hname attached hattached
  simp only [emptiness, List.forall_mem_cons]
  exact ⟨isEmpty_of_takes rfl harn, isEmpty_of_takes rfl hid, isEmpty_of_takes rfl hname,
    isEmpty_of_takes rfl hattached, List.forall_mem_nil _⟩

theorem omitsEmpty : OmitsEmpty toValue (fun v => resolve (some v)) emptiness where
  omitted s := by
    refine isNone_member?_ofPresent (by simp) ?_
    cases hattached : s.attached <;> simp [emptiness, isNone_presentText, hattached]
  missing ms _ h :=
    missing_of_build ms _ (decode_object_eq_ok_iff.mp (resolveRaw_eq_ok_iff.mp h)).2

end RoleStatus

namespace PolicyStatus

/-- The fields, with whether they are empty. -/
def emptiness (s : PolicyStatus) : List (String × Bool) := [
  ("policyArn", s.arn.isEmpty),
  ("policyId", s.id.isEmpty),
  ("policyName", s.name.isEmpty),
  ("currentVersionId", s.versionId.isEmpty)]

theorem takes (s : PolicyStatus) : shape.Takes [
    ("policyArn", presentText s.arn),
    ("policyId", presentText s.id),
    ("policyName", presentText s.name),
    ("currentVersionId", presentText s.versionId)] s :=
  (Takes.of PolicyStatus.mk).field (takes_presentText "policyArn" s.arn)
    |>.field (takes_presentText "policyId" s.id)
    |>.field (takes_presentText "policyName" s.name)
    |>.field (takes_presentText "currentVersionId" s.versionId)

theorem persists : Persists toValue (fun v => resolve (some v)) fun _ => True :=
  .of (fun s _ =>
      resolveRaw_eq_ok_iff.mpr ((takes s).decode_ofPresent (by simp) "IamPolicyStatus"))
    fun _ _ _ => trivial

theorem missing_of_build (ms : List (String × Value)) : shape.Ensures (.ofMembers ms) fun s =>
    ∀ f ∈ s.emptiness, ms.lookup f.1 = none → f.2 = true := by
  refine .field (.field (.field (.field (.of ?_))))
  intro arn harn id hid name hname versionId hversion
  simp only [emptiness, List.forall_mem_cons]
  exact ⟨isEmpty_of_takes rfl harn, isEmpty_of_takes rfl hid, isEmpty_of_takes rfl hname,
    isEmpty_of_takes rfl hversion, List.forall_mem_nil _⟩

theorem omitsEmpty : OmitsEmpty toValue (fun v => resolve (some v)) emptiness where
  omitted s := by
    refine isNone_member?_ofPresent (by simp) ?_
    simp [emptiness, isNone_presentText]
  missing ms _ h :=
    missing_of_build ms _ (decode_object_eq_ok_iff.mp (resolveRaw_eq_ok_iff.mp h)).2

end PolicyStatus

/-! ## All of them -/

/-- What is kept and what is reported survives being written and read: the two kinds of status,
which leave out what is empty, roles, policies and versions. -/
theorem records_persist :
    (Persists RoleStatus.toValue (fun v => RoleStatus.resolve (some v)) (fun _ => True) ∧
      OmitsEmpty RoleStatus.toValue (fun v => RoleStatus.resolve (some v)) RoleStatus.emptiness) ∧
    (Persists PolicyStatus.toValue (fun v => PolicyStatus.resolve (some v)) (fun _ => True) ∧
      OmitsEmpty PolicyStatus.toValue (fun v => PolicyStatus.resolve (some v))
        PolicyStatus.emptiness) ∧
    Persists Role.toValue Role.ofValue Role.Storable ∧
    Persists Policy.toValue Policy.ofValue Policy.Storable ∧
    Persists DocumentVersion.toValue DocumentVersion.ofValue DocumentVersion.Storable :=
  ⟨⟨RoleStatus.persists, RoleStatus.omitsEmpty⟩, ⟨PolicyStatus.persists, PolicyStatus.omitsEmpty⟩,
    Role.persists, Policy.persists, DocumentVersion.persists⟩

/-- A role of the last leap second. -/
def leapRole : Role where
  arn := "arn:aws:iam::123456789012:role/app"
  id := "AROA0000000000000001"
  name := "app"
  path := "/"
  trustPolicy := "\x7b\x7d"
  description := ""
  maxSessionDuration := 3600
  tags := Table.ofList [("team", "core")]
  createdAt := ⟨1483228799, 1500000000⟩

theorem leapRole_persists : leapRole.Storable ∧ Role.ofValue leapRole.toValue = .ok leapRole := by
  have h : leapRole.Storable :=
    ⟨by unfold IsInt32; decide, by decide, by decide, by decide⟩
  exact ⟨h, records_persist.2.2.1.back _ h⟩

end IamConvergence
