/-
The operations of an account in steps: what is looked at and what is changed, in the order in which
an operation does it. What was changed before a fault stays changed, so that an operation leaves the
account alone when it fails only if its steps are in the right order. They are: taken step by step,
every operation does what it does as a whole.
-/
import IamConvergence.Proofs.Account.Operations
import IamConvergence.Proofs.Ordered.IdSet

namespace IamConvergence.Account

/-! ## Steps -/

/-- A part of an operation. A fault ends the operation, but takes no change back. -/
abbrev Steps (α : Type) : Type := ExceptT Fault (StateM Account) α

namespace Steps

/-- Looks something up that has to be there, or checks something. -/
def require {α : Type} (check : Account → Except Fault α) : Steps α := do
  ofExcept (check (← get))

/-- Logs a call and takes the failure queued for it. -/
def enter (operation : String) : Steps Unit := do
  modify fun a => { a with calls := a.calls ++ [operation] }
  let (found, others) := takeFailure operation (← get).failures
  modify fun a => { a with failures := others }
  if let some f := found then throw f

/-- Moves the clock on and tells the time. -/
def advance : Steps Instant := do
  modify fun a => { a with tick := a.tick + 1 }
  return .ofSecond (clockStart + (← get).tick)

/-- Gives the next id away. -/
def issue (kind : String) : Steps String := do
  modify fun a => { a with lastId := a.lastId + 1 }
  return kind ++ hexId (← get).lastId

/-- Changes the entry of a role where it stands. -/
def changeRole (name : String) (change : RoleEntry → RoleEntry) : Steps Unit := do
  let e ← require (·.roleEntry name)
  modify (·.putRole name (change e))

/-- Changes the entry of a policy where it stands. -/
def changePolicy (arn : String) (change : PolicyEntry → PolicyEntry) : Steps Unit := do
  let e ← require (·.policyEntry arn)
  modify (·.putPolicy arn (change e))

/-- What an operation does once it is entered. -/
def body : (q : IamRequest) → Steps q.Answer
  | .getRole name => return ((← get).roles.find? name).map (·.role)
  | .createRole d => do
    if (← get).roles.contains d.name then
      throw (.refusal d.name "CreateRole"
        s!"EntityAlreadyExists: Role with name {d.name} already exists.")
    require fun _ => checkDocument d.name "CreateRole" d.trustPolicy
    let arn := (← get).roleArn d.path d.name
    let id ← issue "AROA"
    let createdAt ← advance
    let role : Role := ⟨arn, id, d.name, d.path, d.trustPolicy, d.description,
      d.maxSessionDuration, d.tags, createdAt⟩
    modify (·.putRole d.name ⟨role, .empty⟩)
    return role
  | .updateTrustPolicy name document => do
    require fun _ => checkDocument name "UpdateAssumeRolePolicy" document
    changeRole name fun e => { e with role := { e.role with trustPolicy := document } }
  | .deleteRole name => do
    let e ← require (·.roleEntry name)
    if !e.attached.isEmpty then
      throw (.refusal name "DeleteRole"
        "DeleteConflict: Cannot delete entity, must detach all policies first.")
    modify fun a => { a with roles := a.roles.erase name }
  | .listAttached name => return (← require (·.roleEntry name)).attached.toList
  | .attach name arn => do
    if (← get).ownsPolicy arn then let _ ← require (·.policyEntry arn)
    changeRole name fun e => { e with attached := e.attached.insert arn }
  | .detach name arn => do
    -- it is taken away first, and then it is told whether it was there
    let e ← require (·.roleEntry name)
    changeRole name fun e => { e with attached := e.attached.erase arn }
    if arn ∉ e.attached then
      throw (.notFound arn s!"NoSuchEntity: Policy {arn} was not found.")
  | .findPolicy name path => return (← get).findPolicy name path
  | .getPolicy arn => return ((← get).policies.find? arn).map (·.policy)
  | .createPolicy d => do
    let arn := (← get).policyArn d.path d.name
    if (← get).policies.contains arn then
      throw (.refusal arn "CreatePolicy"
        s!"EntityAlreadyExists: A policy called {d.name} already exists.")
    require fun _ => checkDocument arn "CreatePolicy" d.document
    let createdAt ← advance
    let id ← issue "ANPA"
    let policy : Policy := ⟨arn, id, d.name, d.path, "v1", d.description, d.tags, createdAt⟩
    modify (·.putPolicy arn ⟨policy, [⟨"v1", some d.document, true, createdAt⟩], 2⟩)
    return policy
  | .deletePolicy arn => do
    let e ← require (·.policyEntry arn)
    if 1 < e.versions.length then
      throw (.refusal arn "DeletePolicy"
        ("DeleteConflict: This policy has more than one version. " ++
          "Before you delete a policy, you must delete the policy's versions."))
    if (← get).roles.values.any (arn ∈ ·.attached) then
      throw (.refusal arn "DeletePolicy"
        "DeleteConflict: Cannot delete a policy attached to entities.")
    modify fun a => { a with policies := a.policies.erase arn }
  | .getVersion arn version => require (·.getVersion arn version)
  | .listVersions arn => do
    let e ← require (·.policyEntry arn)
    return e.versions.map fun v => { v with content := none }
  | .createVersion arn document asDefault => do
    let e ← require (·.policyEntry arn)
    let limit := (← get).versionLimit
    if limit ≤ e.versions.length then
      throw (.refusal arn "CreatePolicyVersion"
        s!"LimitExceeded: Cannot exceed quota for PolicyVersionsPerPolicy: {limit}")
    require fun _ => checkDocument arn "CreatePolicyVersion" document
    let createdAt ← advance
    -- the policy is looked up once more after the clock has moved
    let e ← require (·.policyEntry arn)
    let v : DocumentVersion := ⟨s!"v{e.nextVersion}", some document, asDefault, createdAt⟩
    changePolicy arn fun e => { e with nextVersion := e.nextVersion + 1 }
    if asDefault then
      changePolicy arn fun e =>
        { e with versions := e.versions.map fun w => { w with isDefault := false } }
      changePolicy arn fun e => { e with policy := { e.policy with defaultVersionId := v.id } }
    changePolicy arn fun e => { e with versions := e.versions ++ [v] }
    return v
  | .deleteVersion arn version => do
    let e ← require (·.policyEntry arn)
    match e.versions.find? (·.id == version) with
    | none => throw (noVersion arn version)
    | some v =>
      if v.isDefault then
        throw (.refusal arn "DeletePolicyVersion"
          "DeleteConflict: Cannot delete the default version of a policy.")
      changePolicy arn fun e => { e with versions := e.versions.eraseP (·.id == version) }

/-! ## What the steps do -/

section

variable {α β : Type}

@[simp] theorem bind_apply (p : Steps α) (f : α → Steps β) (a : Account) :
    (p >>= f) a = match p a with
      | (.ok x, b) => f x b
      | (.error e, b) => (.error e, b) := by
  show ExceptT.bindCont f (p a).1 (p a).2 = _
  rcases p a with ⟨_ | _, b⟩ <;> rfl

@[simp] theorem map_apply (f : α → β) (p : Steps α) (a : Account) :
    (f <$> p) a = match p a with
      | (.ok x, b) => (.ok (f x), b)
      | (.error e, b) => (.error e, b) := by
  rw [← bind_pure_comp, bind_apply]
  rfl

@[simp] theorem pure_apply (x : α) (a : Account) : (pure x : Steps α) a = (.ok x, a) := rfl

@[simp] theorem throw_apply (f : Fault) (a : Account) :
    (throw f : Steps α) a = (.error f, a) := rfl

@[simp] theorem get_apply (a : Account) : (get : Steps Account) a = (.ok a, a) := rfl

@[simp] theorem modify_apply (f : Account → Account) (a : Account) :
    (modify f : Steps Unit) a = (.ok (), f a) := rfl

@[simp] theorem ite_apply {c : Prop} [Decidable c] (p q : Steps α) (a : Account) :
    (if c then p else q) a = if c then p a else q a := by
  split <;> rfl

@[simp] theorem require_apply (check : Account → Except Fault α) (a : Account) :
    require check a = (check a, a) := by
  show (ofExcept (check a) : Steps α) a = _
  cases check a <;> rfl

/-- Entering an operation is one look at the failures queued for it. -/
theorem enter_apply (operation : String) (a : Account) :
    enter operation a = match a.enter operation with
      | (some f, b) => (.error f, b)
      | (none, b) => (.ok (), b) := by
  simp only [enter, Account.enter, bind_apply, modify_apply, get_apply]
  cases (takeFailure operation a.failures).1 <;> rfl

/-- What an account is left as by a request that takes effect, or is refused and changes nothing. -/
def settle (a : Account) : Except Fault (α × Account) → Except Fault α × Account
  | .ok (x, b) => (.ok x, b)
  | .error f => (.error f, a)

@[simp] theorem settle_ok (a b : Account) (x : α) : settle a (.ok (x, b)) = (.ok x, b) := rfl

@[simp] theorem settle_error (a : Account) (f : Fault) :
    settle a (.error f : Except Fault (α × Account)) = (.error f, a) := rfl

attribute [simp] ok_bind error_bind

@[simp] theorem map_ok (f : α → β) (x : α) : (.ok x : Except Fault α).map f = .ok (f x) := rfl

@[simp] theorem map_error (f : α → β) (e : Fault) :
    (.error e : Except Fault α).map f = .error e := rfl

end

/-! ## Entries that are changed where they stand -/

theorem policyEntry_putPolicy (a : Account) (arn : String) (e : PolicyEntry) :
    (a.putPolicy arn e).policyEntry arn = .ok e :=
  policyEntry_eq_ok_iff.mpr (find?_putPolicy a arn e)

/-- Of two changes of an entry the second one counts. -/
theorem putPolicy_putPolicy (a : Account) (arn : String) (e e' : PolicyEntry) :
    (a.putPolicy arn e).putPolicy arn e' = a.putPolicy arn e' := by
  unfold putPolicy
  simp only [Table.insert_insert]

/-! ## What the operations do -/

section

variable (a : Account)

theorem body_createRole (d : RoleDraft) :
    body (.createRole d) a = settle a (a.effect (.createRole d)) := by
  by_cases hold : a.roles.contains d.name = true
  · simp [body, effect, createRole, hold]
  · cases hdocument : checkDocument d.name "CreateRole" d.trustPolicy with
    | error f => simp [body, effect, createRole, hold, hdocument]
    | ok =>
      simp only [body, effect, createRole, hold, hdocument, bind_apply, get_apply, require_apply,
        ite_apply, if_false, ok_bind, Bool.false_eq_true, settle_ok]
      rfl

theorem body_updateTrustPolicy (name document : String) :
    body (.updateTrustPolicy name document) a =
      settle a (a.effect (.updateTrustPolicy name document)) := by
  cases hdocument : checkDocument name "UpdateAssumeRolePolicy" document with
  | error f => simp [body, effect, updateTrustPolicy, hdocument]
  | ok =>
    cases h : a.roleEntry name <;>
      simp [body, effect, updateTrustPolicy, changeRole, hdocument, h, putRole]

theorem body_deleteRole (name : String) :
    body (.deleteRole name) a = settle a (a.effect (.deleteRole name)) := by
  cases h : a.roleEntry name with
  | error f => simp [body, effect, deleteRole, h]
  | ok e =>
    by_cases hempty : e.attached.isEmpty = true <;> simp [body, effect, deleteRole, h, hempty]

theorem body_attach (name arn : String) :
    body (.attach name arn) a = settle a (a.effect (.attach name arn)) := by
  have hdiscard : ∀ e : PolicyEntry, discard (.ok e : Except Fault PolicyEntry) = .ok () :=
    fun _ => rfl
  have hrefused : ∀ f, discard (.error f : Except Fault PolicyEntry) = .error f := fun _ => rfl
  by_cases howns : a.ownsPolicy arn = true
  · cases hp : a.policyEntry arn with
    | error f => simp [body, effect, attach, howns, hp, hrefused]
    | ok p =>
      cases h : a.roleEntry name <;>
        simp [body, effect, attach, changeRole, howns, hp, h, hdiscard, putRole]
  · cases h : a.roleEntry name <;>
      simp [body, effect, attach, changeRole, howns, h, putRole]

/-- To take away what is not there changes nothing, so it can be taken away before it is told. -/
theorem body_detach (name arn : String) :
    body (.detach name arn) a = settle a (a.effect (.detach name arn)) := by
  cases h : a.roleEntry name with
  | error f => simp [body, effect, detach, h]
  | ok e =>
    by_cases hmem : arn ∈ e.attached
    · simp [body, effect, detach, changeRole, h, hmem, putRole]
    · have herase : e.attached.erase arn = e.attached := IdSet.ext_mem fun x => by
        rw [IdSet.mem_erase]
        exact ⟨And.left, fun hx => ⟨hx, fun heq => hmem (heq ▸ hx)⟩⟩
      have hsame : a.putRole name e = a := by
        unfold putRole
        rw [Table.insert_of_find? (roleEntry_eq_ok_iff.mp h)]
      simp [body, effect, detach, changeRole, h, hmem, herase, hsame]

theorem body_createPolicy (d : PolicyDraft) :
    body (.createPolicy d) a = settle a (a.effect (.createPolicy d)) := by
  by_cases hold : a.policies.contains (a.policyArn d.path d.name) = true
  · simp [body, effect, createPolicy, hold]
  · cases hdocument : checkDocument (a.policyArn d.path d.name) "CreatePolicy" d.document with
    | error f => simp [body, effect, createPolicy, hold, hdocument]
    | ok =>
      simp only [body, effect, createPolicy, hold, hdocument, bind_apply, get_apply, require_apply,
        ite_apply, if_false, ok_bind, Bool.false_eq_true, settle_ok]
      rfl

theorem body_deletePolicy (arn : String) :
    body (.deletePolicy arn) a = settle a (a.effect (.deletePolicy arn)) := by
  cases h : a.policyEntry arn with
  | error f => simp [body, effect, deletePolicy, h, -String.reduceAppend]
  | ok e =>
    by_cases hlen : 1 < e.versions.length <;>
      by_cases hused : a.roles.values.any (arn ∈ ·.attached) = true <;>
      simp only [body, effect, deletePolicy, bind_apply, require_apply, ite_apply,
        throw_apply, get_apply, modify_apply, h, hlen, hused, ok_bind, if_true, if_false,
        Bool.false_eq_true, map_ok, map_error, settle_ok, settle_error]

/-- The version counter, the flags, the policy and the versions are changed one after the other, and
together they are the entry with one more version. -/
theorem body_createVersion (arn document : String) (asDefault : Bool) :
    body (.createVersion arn document asDefault) a =
      settle a (a.effect (.createVersion arn document asDefault)) := by
  cases h : a.policyEntry arn with
  | error f => simp [body, effect, createVersion, h]
  | ok e =>
    by_cases hroom : a.versionLimit ≤ e.versions.length
    · simp [body, effect, createVersion, h, hroom]
    · cases hdocument : checkDocument arn "CreatePolicyVersion" document with
      | error f => simp [body, effect, createVersion, h, hroom, hdocument]
      | ok =>
        have hlater : policyEntry { a with tick := a.tick + 1 } arn = .ok e := h
        cases asDefault <;>
          simp [body, effect, createVersion, changePolicy, advance, h, hroom, hdocument, hlater,
            PolicyEntry.push, policyEntry_putPolicy, putPolicy_putPolicy] <;> rfl

theorem body_deleteVersion (arn version : String) :
    body (.deleteVersion arn version) a = settle a (a.effect (.deleteVersion arn version)) := by
  cases h : a.policyEntry arn with
  | error f => simp [body, effect, deleteVersion, h]
  | ok e =>
    cases hfind : e.versions.find? (·.id == version) with
    | none => simp [body, effect, deleteVersion, h, hfind]
    | some v =>
      by_cases hdefault : v.isDefault = true <;>
        simp [body, effect, deleteVersion, changePolicy, h, hfind, hdefault, putPolicy]

/-- An operation taken step by step does what it does as a whole. -/
theorem body_eq (q : IamRequest) : body q a = settle a (a.effect q) := by
  cases q with
  | getRole name => rfl
  | createRole d => exact body_createRole a d
  | updateTrustPolicy name document => exact body_updateTrustPolicy a name document
  | deleteRole name => exact body_deleteRole a name
  | listAttached name => cases h : a.roleEntry name <;> simp [body, effect, h]
  | attach name arn => exact body_attach a name arn
  | detach name arn => exact body_detach a name arn
  | findPolicy name path => rfl
  | getPolicy arn => rfl
  | createPolicy d => exact body_createPolicy a d
  | deletePolicy arn => exact body_deletePolicy a arn
  | getVersion arn version => cases h : a.getVersion arn version <;> simp [body, effect, h]
  | listVersions arn => cases h : a.policyEntry arn <;> simp [body, effect, listVersions, h]
  | createVersion arn document asDefault => exact body_createVersion a arn document asDefault
  | deleteVersion arn version => exact body_deleteVersion a arn version

end

end Steps

/-! ## Calls -/

/-- A call, step by step. -/
def stepwise (q : IamRequest) : Steps q.Answer := do
  Steps.enter q.operation
  Steps.body q

/-- A call taken step by step is the call as a whole. -/
theorem stepwise_eq (q : IamRequest) (a : Account) : stepwise q a = a.perform q := by
  simp only [stepwise, Steps.bind_apply, Steps.enter_apply, perform, Steps.body_eq]
  rcases a.enter q.operation with ⟨_ | f, b⟩
  · dsimp only
    cases b.effect q <;> rfl
  · rfl

end IamConvergence.Account
