/-
What the requests to an account do when they are not refused: what each of them needs to find in the
account, what it answers and what account it leaves. Whatever else has to be known of an operation
is read off here.
-/
import IamConvergence.Iam.Account
import IamConvergence.Proofs.Ordered.Table

namespace IamConvergence

/-! ## Steps that may be refused -/

section

variable {ε α β : Type} {x : Except ε α}

theorem bind_eq_ok_iff {f : α → Except ε β} {b : β} :
    x >>= f = .ok b ↔ ∃ a, x = .ok a ∧ f a = .ok b := by
  cases x with
  | error e =>
    constructor
    · intro h; cases h
    · rintro ⟨a, ha, -⟩; cases ha
  | ok a =>
    constructor
    · intro h; exact ⟨a, rfl, h⟩
    · rintro ⟨_, ha, h⟩; cases ha; exact h

/-- A step that answers nothing. -/
theorem map_unit_eq_ok_iff {u : Unit} {a : α} : x.map ((), ·) = .ok (u, a) ↔ x = .ok a := by
  cases x <;> simp [Except.map]

/-- A step that only reads a state. -/
theorem map_read_eq_ok_iff {a : α} {b b' : β} :
    x.map (·, b) = .ok (a, b') ↔ x = .ok a ∧ b' = b := by
  cases x with
  | error e => simp [Except.map]
  | ok a' => simp [Except.map, eq_comm]

theorem map_eq_error_iff {f : α → β} {e : ε} : x.map f = .error e ↔ x = .error e := by
  cases x <;> simp [Except.map]

theorem map_id_eq (x : Except ε α) : x.map id = x := by
  cases x <;> rfl

theorem ok_bind (a : α) (f : α → Except ε β) : (.ok a : Except ε α) >>= f = f a := rfl

theorem error_bind (e : ε) (f : α → Except ε β) : (.error e : Except ε α) >>= f = .error e := rfl

theorem bind_eq_error_iff {f : α → Except ε β} {e : ε} :
    x >>= f = .error e ↔ x = .error e ∨ ∃ a, x = .ok a ∧ f a = .error e := by
  cases x <;> simp [ok_bind, error_bind]

theorem discard_eq_ok_iff {u : Unit} : discard x = .ok u ↔ ∃ a, x = .ok a := by
  cases x <;> simp [discard, Functor.mapConst, Except.map]

theorem ite_error_eq_ok_iff {c : Prop} [Decidable c] {e : ε} {a : α} :
    (if c then .error e else x) = .ok a ↔ ¬c ∧ x = .ok a := by
  by_cases hc : c <;> simp [hc]

end

/-- Whether a request only reads. -/
def IamRequest.reads : IamRequest → Bool
  | .getRole _ | .listAttached _ | .findPolicy _ _ | .getPolicy _ | .getVersion _ _
  | .listVersions _ => true
  | .createRole _ | .updateTrustPolicy _ _ | .deleteRole _ | .attach _ _ | .detach _ _
  | .createPolicy _ | .deletePolicy _ | .createVersion _ _ _ | .deleteVersion _ _ => false

namespace Account

variable {a a' : Account}

/-! ## Look-ups -/

theorem roleEntry_eq_ok_iff {name : String} {e : RoleEntry} :
    a.roleEntry name = .ok e ↔ a.roles.find? name = some e := by
  unfold roleEntry
  cases a.roles.find? name <;> simp

/-- The fault of a role that is not there. -/
def noRole (name : String) : Fault :=
  .notFound name s!"NoSuchEntity: The role with name {name} cannot be found."

/-- Of a role that is not there nothing is listed, detached or deleted. -/
theorem effect_of_no_role {name : String} (h : a.roles.find? name = none) :
    a.effect (.listAttached name) = .error (noRole name) ∧
      (∀ arn, a.effect (.detach name arn) = .error (noRole name)) ∧
      a.effect (.deleteRole name) = .error (noRole name) := by
  have hentry : a.roleEntry name = .error (noRole name) := by
    unfold roleEntry
    rw [h]
    rfl
  refine ⟨?_, fun arn => ?_, ?_⟩
  · rw [effect, hentry]
    rfl
  · rw [effect, detach, hentry]
    rfl
  · rw [effect, deleteRole, hentry]
    rfl

theorem policyEntry_eq_ok_iff {arn : String} {e : PolicyEntry} :
    a.policyEntry arn = .ok e ↔ a.policies.find? arn = some e := by
  unfold policyEntry
  cases a.policies.find? arn <;> simp

/-- The fault of a policy that is not there. -/
def noPolicy (arn : String) : Fault :=
  .notFound arn s!"NoSuchEntity: Policy {arn} does not exist or is not attachable."

theorem policyEntry_of_none {arn : String} (h : a.policies.find? arn = none) :
    a.policyEntry arn = .error (noPolicy arn) := by
  unfold policyEntry
  rw [h]
  rfl

theorem checkDocument_eq_ok_iff {resource operation document : String} {u : Unit} :
    checkDocument resource operation document = .ok u ↔
      (Document.parse? document).isSome = true := by
  unfold checkDocument
  rw [ite_error_eq_ok_iff]
  cases Document.parse? document <;> simp

/-! ## What the operations do -/

/-- The role that is created from a draft. -/
def roleOf (a : Account) (d : RoleDraft) : Role where
  arn := a.roleArn d.path d.name
  id := a.freshId "AROA"
  name := d.name
  path := d.path
  trustPolicy := d.trustPolicy
  description := d.description
  maxSessionDuration := d.maxSessionDuration
  tags := d.tags
  createdAt := a.now

/-- The policy that is created from a draft. -/
def policyOf (a : Account) (d : PolicyDraft) : Policy where
  arn := a.policyArn d.path d.name
  id := a.freshId "ANPA"
  name := d.name
  path := d.path
  defaultVersionId := "v1"
  description := d.description
  tags := d.tags
  createdAt := a.now

/-- The account with another entry under a role's name. -/
def putRole (a : Account) (name : String) (e : RoleEntry) : Account :=
  { a with roles := a.roles.insert name e }

/-- The account with another entry under a policy's resource name. -/
def putPolicy (a : Account) (arn : String) (e : PolicyEntry) : Account :=
  { a with policies := a.policies.insert arn e }

theorem find?_putRole (a : Account) (role : String) (e : RoleEntry) :
    (a.putRole role e).roles.find? role = some e :=
  Table.find?_insert_self a.roles role e

theorem find?_putPolicy (a : Account) (arn : String) (e : PolicyEntry) :
    (a.putPolicy arn e).policies.find? arn = some e :=
  Table.find?_insert_self a.policies arn e

/-- What a request needs to find, what it answers and what it leaves. -/
def Effect : (q : IamRequest) → Account → q.Answer → Account → Prop
  | .getRole name, a, answer, a' => answer = (a.roles.find? name).map (·.role) ∧ a' = a
  | .createRole d, a, role, a' =>
    a.roles.find? d.name = none ∧ (Document.parse? d.trustPolicy).isSome = true ∧
      role = a.roleOf d ∧ a' = a.issued.putRole d.name ⟨role, .empty⟩
  | .updateTrustPolicy name document, a, _, a' =>
    (Document.parse? document).isSome = true ∧ ∃ e, a.roles.find? name = some e ∧
      a' = a.putRole name { e with role := { e.role with trustPolicy := document } }
  | .deleteRole name, a, _, a' =>
    ∃ e, a.roles.find? name = some e ∧ e.attached.isEmpty = true ∧
      a' = { a with roles := a.roles.erase name }
  | .listAttached name, a, listed, a' =>
    (∃ e, a.roles.find? name = some e ∧ listed = e.attached.toList) ∧ a' = a
  | .attach name arn, a, _, a' =>
    (a.ownsPolicy arn = true → ∃ e, a.policies.find? arn = some e) ∧
      ∃ e, a.roles.find? name = some e ∧
        a' = a.putRole name { e with attached := e.attached.insert arn }
  | .detach name arn, a, _, a' =>
    ∃ e, a.roles.find? name = some e ∧ arn ∈ e.attached ∧
      a' = a.putRole name { e with attached := e.attached.erase arn }
  | .findPolicy name path, a, answer, a' => answer = a.findPolicy name path ∧ a' = a
  | .getPolicy arn, a, answer, a' => answer = (a.policies.find? arn).map (·.policy) ∧ a' = a
  | .createPolicy d, a, policy, a' =>
    a.policies.find? (a.policyArn d.path d.name) = none ∧
      (Document.parse? d.document).isSome = true ∧ policy = a.policyOf d ∧
      a' = a.issued.putPolicy policy.arn ⟨policy, [⟨"v1", some d.document, true, a.now⟩], 2⟩
  | .deletePolicy arn, a, _, a' =>
    ∃ e, a.policies.find? arn = some e ∧ ¬1 < e.versions.length ∧
      ¬a.roles.values.any (arn ∈ ·.attached) = true ∧
      a' = { a with policies := a.policies.erase arn }
  | .getVersion arn version, a, v, a' =>
    (∃ e, a.policies.find? arn = some e ∧ e.versions.find? (·.id == version) = some v) ∧ a' = a
  | .listVersions arn, a, versions, a' =>
    (∃ e, a.policies.find? arn = some e ∧
      versions = e.versions.map fun v => { v with content := none }) ∧ a' = a
  | .createVersion arn document asDefault, a, v, a' =>
    ∃ e, a.policies.find? arn = some e ∧ ¬a.versionLimit ≤ e.versions.length ∧
      (Document.parse? document).isSome = true ∧
      v = ⟨s!"v{e.nextVersion}", some document, asDefault, a.now⟩ ∧
      a' = { a with tick := a.tick + 1 }.putPolicy arn (e.push v)
  | .deleteVersion arn version, a, _, a' =>
    ∃ e, a.policies.find? arn = some e ∧
      ∃ v, e.versions.find? (·.id == version) = some v ∧ v.isDefault = false ∧
        a' = a.putPolicy arn { e with versions := e.versions.eraseP (·.id == version) }

theorem createRole_eq_ok_iff {d : RoleDraft} {role : Role} :
    a.createRole d = .ok (role, a') ↔ Effect (.createRole d) a role a' := by
  simp only [createRole, error_bind, ite_error_eq_ok_iff, Table.not_contains_iff, bind_eq_ok_iff,
    checkDocument_eq_ok_iff]
  constructor
  · rintro ⟨hnew, -, hdocument, heq⟩
    cases heq
    exact ⟨hnew, hdocument, rfl, rfl⟩
  · rintro ⟨hnew, hdocument, rfl, rfl⟩
    exact ⟨hnew, (), hdocument, rfl⟩

theorem updateTrustPolicy_eq_ok_iff {name document : String} :
    a.updateTrustPolicy name document = .ok a' ↔
      Effect (.updateTrustPolicy name document) a () a' := by
  simp only [updateTrustPolicy, bind_eq_ok_iff, checkDocument_eq_ok_iff, roleEntry_eq_ok_iff]
  constructor
  · rintro ⟨-, hdocument, e, he, heq⟩
    cases heq
    exact ⟨hdocument, e, he, rfl⟩
  · rintro ⟨hdocument, e, he, rfl⟩
    exact ⟨(), hdocument, e, he, rfl⟩

theorem deleteRole_eq_ok_iff {name : String} :
    a.deleteRole name = .ok a' ↔ Effect (.deleteRole name) a () a' := by
  simp only [deleteRole, bind_eq_ok_iff, roleEntry_eq_ok_iff]
  constructor
  · rintro ⟨e, he, heq⟩
    split at heq
    · rename_i hempty
      cases heq
      exact ⟨e, he, hempty, rfl⟩
    · cases heq
  · rintro ⟨e, he, hempty, rfl⟩
    refine ⟨e, he, ?_⟩
    rw [if_pos hempty]

theorem attach_eq_ok_iff {name arn : String} :
    a.attach name arn = .ok a' ↔ Effect (.attach name arn) a () a' := by
  by_cases howns : a.ownsPolicy arn = true
  · simp only [attach, howns, if_true, bind_eq_ok_iff, discard_eq_ok_iff,
      policyEntry_eq_ok_iff, roleEntry_eq_ok_iff]
    constructor
    · rintro ⟨-, hp, e, he, heq⟩
      cases heq
      exact ⟨fun _ => hp, e, he, rfl⟩
    · rintro ⟨hp, e, he, rfl⟩
      exact ⟨(), hp howns, e, he, rfl⟩
  · simp only [attach, howns, Bool.false_eq_true, if_false, bind_eq_ok_iff, roleEntry_eq_ok_iff]
    constructor
    · rintro ⟨e, he, heq⟩
      cases heq
      exact ⟨fun h => absurd h howns, e, he, rfl⟩
    · rintro ⟨-, e, he, rfl⟩
      exact ⟨e, he, rfl⟩

theorem detach_eq_ok_iff {name arn : String} :
    a.detach name arn = .ok a' ↔ Effect (.detach name arn) a () a' := by
  simp only [detach, bind_eq_ok_iff, roleEntry_eq_ok_iff]
  constructor
  · rintro ⟨e, he, heq⟩
    split at heq
    · rename_i hmem
      cases heq
      exact ⟨e, he, hmem, rfl⟩
    · cases heq
  · rintro ⟨e, he, hmem, rfl⟩
    refine ⟨e, he, ?_⟩
    rw [if_pos hmem]
    rfl

theorem createPolicy_eq_ok_iff {d : PolicyDraft} {policy : Policy} :
    a.createPolicy d = .ok (policy, a') ↔ Effect (.createPolicy d) a policy a' := by
  simp only [createPolicy, error_bind, ite_error_eq_ok_iff, Table.not_contains_iff, bind_eq_ok_iff,
    checkDocument_eq_ok_iff]
  constructor
  · rintro ⟨hnew, -, hdocument, heq⟩
    cases heq
    exact ⟨hnew, hdocument, rfl, rfl⟩
  · rintro ⟨hnew, hdocument, rfl, rfl⟩
    exact ⟨hnew, (), hdocument, rfl⟩

theorem deletePolicy_eq_ok_iff {arn : String} :
    a.deletePolicy arn = .ok a' ↔ Effect (.deletePolicy arn) a () a' := by
  simp only [deletePolicy, bind_eq_ok_iff, policyEntry_eq_ok_iff, ite_error_eq_ok_iff, Effect,
    Except.ok.injEq, eq_comm (a := a')]

theorem getVersion_eq_ok_iff {arn version : String} {v : DocumentVersion} :
    a.getVersion arn version = .ok v ↔
      ∃ e, a.policies.find? arn = some e ∧ e.versions.find? (·.id == version) = some v := by
  simp only [getVersion, bind_eq_ok_iff, policyEntry_eq_ok_iff]
  refine exists_congr fun e => and_congr_right fun _ => ?_
  cases e.versions.find? (·.id == version) <;> simp

theorem listVersions_eq_ok_iff {arn : String} {versions : List DocumentVersion} :
    a.listVersions arn = .ok versions ↔ ∃ e, a.policies.find? arn = some e ∧
      versions = e.versions.map fun v => { v with content := none } := by
  simp only [listVersions, bind_eq_ok_iff, policyEntry_eq_ok_iff, Except.ok.injEq,
    eq_comm (a := versions)]

theorem createVersion_eq_ok_iff {arn document : String} {asDefault : Bool} {v : DocumentVersion} :
    a.createVersion arn document asDefault = .ok (v, a') ↔
      Effect (.createVersion arn document asDefault) a v a' := by
  simp only [createVersion, error_bind, ite_error_eq_ok_iff, bind_eq_ok_iff,
    policyEntry_eq_ok_iff, checkDocument_eq_ok_iff]
  constructor
  · rintro ⟨e, he, hroom, -, hdocument, heq⟩
    cases heq
    exact ⟨e, he, hroom, hdocument, rfl, rfl⟩
  · rintro ⟨e, he, hroom, hdocument, rfl, rfl⟩
    exact ⟨e, he, hroom, (), hdocument, rfl⟩

theorem deleteVersion_eq_ok_iff {arn version : String} :
    a.deleteVersion arn version = .ok a' ↔ Effect (.deleteVersion arn version) a () a' := by
  simp only [deleteVersion, bind_eq_ok_iff, policyEntry_eq_ok_iff]
  refine exists_congr fun e => and_congr_right fun _ => ?_
  cases e.versions.find? (·.id == version) with
  | none => simp
  | some v =>
    simp only [ite_error_eq_ok_iff, Except.ok.injEq, Option.some.injEq]
    constructor
    · rintro ⟨hnot, heq⟩
      exact ⟨v, rfl, Bool.eq_false_iff.mpr hnot, heq.symm⟩
    · rintro ⟨_, rfl, hnot, heq⟩
      exact ⟨Bool.eq_false_iff.mp hnot, heq.symm⟩

/-- A request that is not refused does what is told of it. -/
theorem effect_eq_ok_iff {q : IamRequest} {answer : q.Answer} :
    a.effect q = .ok (answer, a') ↔ Effect q a answer a' := by
  have hread : ∀ {α : Type} {x y : α}, (.ok (x, a) : Except Fault (α × Account)) = .ok (y, a') ↔
      y = x ∧ a' = a := by
    intro α x y
    rw [Except.ok.injEq, Prod.mk.injEq, eq_comm, eq_comm (a := a)]
  cases q with
  | getRole name => exact hread
  | createRole d => exact createRole_eq_ok_iff
  | updateTrustPolicy name document => exact map_unit_eq_ok_iff.trans updateTrustPolicy_eq_ok_iff
  | deleteRole name => exact map_unit_eq_ok_iff.trans deleteRole_eq_ok_iff
  | listAttached name =>
    simp only [effect, Effect, ← roleEntry_eq_ok_iff]
    cases a.roleEntry name <;> simp [Except.map, eq_comm]
  | attach name arn => exact map_unit_eq_ok_iff.trans attach_eq_ok_iff
  | detach name arn => exact map_unit_eq_ok_iff.trans detach_eq_ok_iff
  | findPolicy name path => exact hread
  | getPolicy arn => exact hread
  | createPolicy d => exact createPolicy_eq_ok_iff
  | deletePolicy arn => exact map_unit_eq_ok_iff.trans deletePolicy_eq_ok_iff
  | getVersion arn version =>
    exact map_read_eq_ok_iff.trans (and_congr_left fun _ => getVersion_eq_ok_iff)
  | listVersions arn =>
    exact map_read_eq_ok_iff.trans (and_congr_left fun _ => listVersions_eq_ok_iff)
  | createVersion arn document asDefault => exact createVersion_eq_ok_iff
  | deleteVersion arn version => exact map_unit_eq_ok_iff.trans deleteVersion_eq_ok_iff

theorem Effect.eq_of_reads {q : IamRequest} {answer : q.Answer} (h : Effect q a answer a')
    (hq : q.reads = true) : a' = a := by
  cases q with
  | getRole | listAttached | findPolicy | getPolicy | getVersion | listVersions => exact h.2
  | _ => cases hq

/-- Deleting a policy does not find it only if it is not there. -/
theorem absent_of_deletePolicy {arn : String} {f : Fault}
    (h : a.effect (.deletePolicy arn) = .error f) (hnotFound : f.isNotFound = true) :
    a.policies.find? arn = none := by
  cases hfind : a.policies.find? arn with
  | none => rfl
  | some e =>
    have hrefused := map_eq_error_iff.mp h
    simp only [deletePolicy, policyEntry_eq_ok_iff.mpr hfind, bind, Except.bind] at hrefused
    split at hrefused
    · cases hrefused
      cases hnotFound
    · split at hrefused
      · cases hrefused
        cases hnotFound
      · cases hrefused

/-- What no request changes. -/
structure Unaffected (a a' : Account) : Prop where
  accountId : a'.accountId = a.accountId
  versionLimit : a'.versionLimit = a.versionLimit
  failures : a'.failures = a.failures
  calls : a'.calls = a.calls

theorem Effect.unaffected {q : IamRequest} {answer : q.Answer} (h : Effect q a answer a') :
    Unaffected a a' := by
  cases q with
  | getRole | listAttached | findPolicy | getPolicy | getVersion | listVersions =>
    obtain ⟨-, rfl⟩ := h
    exact ⟨rfl, rfl, rfl, rfl⟩
  | createRole | createPolicy =>
    obtain ⟨-, -, -, rfl⟩ := h
    exact ⟨rfl, rfl, rfl, rfl⟩
  | updateTrustPolicy | attach =>
    obtain ⟨-, e, -, rfl⟩ := h
    exact ⟨rfl, rfl, rfl, rfl⟩
  | deleteRole | detach =>
    obtain ⟨e, -, -, rfl⟩ := h
    exact ⟨rfl, rfl, rfl, rfl⟩
  | deletePolicy =>
    obtain ⟨e, -, -, -, rfl⟩ := h
    exact ⟨rfl, rfl, rfl, rfl⟩
  | createVersion =>
    obtain ⟨e, -, -, -, -, rfl⟩ := h
    exact ⟨rfl, rfl, rfl, rfl⟩
  | deleteVersion =>
    obtain ⟨e, -, v, -, -, rfl⟩ := h
    exact ⟨rfl, rfl, rfl, rfl⟩

end Account

end IamConvergence
