/-
The checks agree with the steps that work on a resource, although the two know of each other only
by a status that is written and read again, and although they look the resource up in different
ways: a role by its configured name, a policy by the resource name that the status tells. What a
step reports as converged a check finds so, and what a step reports as deleted a check of its
deployment misses. A check itself never changes anything.
-/
import IamConvergence.Proofs.Account.Integrity
import IamConvergence.Proofs.Idempotence
import IamConvergence.Proofs.Policy.Deletion
import IamConvergence.Proofs.Record.Persistence
import IamConvergence.Proofs.Role.Removal

namespace IamConvergence

open Account (serves admits undisturbed Effect)

variable {α ι κ τ : Type} {truthful : List String} {u : Unreliable serves (admits truthful) τ}
  {a : Account}

/-! ## Passes that only read -/

/-- Whatever it is answered, a pass makes no calls but such as read. -/
inductive OnlyReads : IamPass α → Prop where
  | done (x : α) : OnlyReads (.done x)
  | call {guarded : Bool} {resource : String} {q : IamRequest}
    {next : Except Fault q.Answer → IamPass α} (reads : q.reads = true)
    (rest : ∀ answer, OnlyReads (next answer)) : OnlyReads (.call guarded resource q next)

/-- However its calls are disturbed, a pass leaves the account as it was, with every role and every
policy. -/
def Harmless (p : IamPass α) : Prop :=
  ∀ {τ : Type} {admits : IamRequest → Account → Fault → Prop} (u : Unreliable serves admits τ)
    (r : Run τ), u.live (p.run u.provider r).2.state = u.live r.state

theorem OnlyReads.harmless {p : IamPass α} (h : OnlyReads p) : Harmless p := by
  intro τ admits u r
  induction h generalizing r with
  | done x => rfl
  | @call guarded resource q next reads rest ih =>
    cases hmade : guarded && r.cancelled with
    | true =>
      simp only [Pass.run, Pass.attempt, hmade, if_true]
      exact ih _ r
    | false =>
      rw [Pass.run_call_made _ _ _ _ hmade, ih]
      exact Account.eq_of_reads (u.disturbed q r.state) reads

/-! ## Reports of checks -/

/-- A check by a handler, undisturbed and from where a step ended. -/
def checkAfter (u : Unreliable serves (admits truthful) τ)
    (e : Episode ι IamRequest IamRequest.Answer (Report κ) τ) (check : ι → IamPass (Report κ))
    (h : ι) : Episode ι IamRequest IamRequest.Answer (Report κ) Account :=
  Pass.episode undisturbed check h false (u.live e.after).quiet

/-- A check misses the resource under a resource name: without one, the resource was never there,
and otherwise its loss is a failure for good. -/
structure Misses (report : Report κ) (arn : String) : Prop where
  unstarted : arn = "" → report.phase = .inProgress
  lost : arn ≠ "" → report.phase = .permanentFailure ∧
    ∃ f, report.fault = some f ∧ f.isNotFound = true

/-- So it is if it does not look without a resource name, and with one looks in vain. -/
theorem Misses.of_looks {check : ι → IamPass (Report κ)} {h : ι} {arn : String} (status : κ)
    (unstarted : arn = "" → ∃ details, Looks (check h) a [] (.inProgress status details))
    (lost : arn ≠ "" → ∃ qs resource message,
      Looks (check h) a qs (.permanent status (.notFound resource message))) :
    Misses (Pass.episode undisturbed check h false a).result arn := by
  constructor
  · intro harn
    obtain ⟨details, hlook⟩ := unstarted harn
    rw [hlook.result]
    rfl
  · intro harn
    obtain ⟨qs, resource, message, hlook⟩ := lost harn
    rw [hlook.result]
    exact ⟨rfl, _, rfl, rfl⟩

/-! ## Roles -/

namespace RoleHandler

variable {h : RoleHandler} {e : RoleEntry}

theorem harmless_checkDeployment (h : RoleHandler) : Harmless h.checkDeployment := by
  refine OnlyReads.harmless ?_
  unfold checkDeployment
  split
  · exact .done _
  · refine .call rfl fun answer => ?_
    rcases answer with f | _ | role <;> exact .done _

theorem harmless_checkDeleted (h : RoleHandler) : Harmless h.checkDeleted := by
  refine OnlyReads.harmless (.call rfl fun answer => ?_)
  rcases answer with f | _ | role <;> exact .done _

theorem effect_getRole_of_none (hnone : a.roles.find? h.config.name = none) :
    Effect (.getRole h.config.name) a none a :=
  ⟨by rw [hnone]; rfl, rfl⟩

/-- A role that stands as the status tells it is looked up, and the status stays the same. -/
theorem idle_checkDeployment (hfailures : a.failures = []) (harn : e.role.arn ≠ "")
    (hrealized : h.config.Realized a h.status e) :
    Idle (Pass.episode undisturbed checkDeployment h false a) [.getRole h.config.name]
      h.status := by
  have hget : Effect (.getRole h.config.name) a (some e.role) a :=
    ⟨by rw [hrealized.found]; rfl, rfl⟩
  have hlook : Looks h.checkDeployment a [.getRole h.config.name]
      (.success (h.status.identify e.role) _) :=
    .ite_neg (by simpa [hrealized.status] using harn) (Looks.call hfailures rfl hget (.done a _))
  have hsame : h.status.identify e.role = h.status := by
    rw [hrealized.status]
    rfl
  rw [hsame] at hlook
  exact hlook.idle rfl

/-- A role that is not there is looked up, and the status stays the same. -/
theorem idle_checkDeleted (hfailures : a.failures = [])
    (hnone : a.roles.find? h.config.name = none) :
    Idle (Pass.episode undisturbed checkDeleted h false a) [.getRole h.config.name] h.status := by
  have hlook : Looks h.checkDeleted a [.getRole h.config.name] (.success h.status _) :=
    Looks.call hfailures rfl (effect_getRole_of_none hnone) (.done a _)
  exact hlook.idle rfl

/-- A check misses a role that is not there. -/
theorem misses_checkDeployment (hfailures : a.failures = [])
    (hnone : a.roles.find? h.config.name = none) :
    Misses (Pass.episode undisturbed checkDeployment h false a).result h.status.arn := by
  refine .of_looks h.status (fun harn => ?_) fun harn => ?_
  · exact ⟨_, .ite_pos (by simpa using harn) (.done a _)⟩
  · have hget := effect_getRole_of_none hnone
    exact ⟨_, _, _, .ite_neg (by simpa using harn) (Looks.call hfailures rfl hget (.done a _))⟩

/-- The handler of the next reconciliation, for which the status is read back from what was written
of it. -/
def restored (e : Episode RoleHandler IamRequest IamRequest.Answer (Report RoleStatus) τ)
    (classify : Classifier) : Except Fault RoleHandler :=
  (RoleStatus.resolve (some e.result.status.toValue)).map fun status =>
    ⟨e.input.config, status, classify⟩

theorem restored_eq (e : Episode RoleHandler IamRequest IamRequest.Answer (Report RoleStatus) τ)
    (classify : Classifier) :
    restored e classify = .ok ⟨e.input.config, e.result.status, classify⟩ := by
  have hback : RoleStatus.resolve (some e.result.status.toValue) = .ok e.result.status :=
    RoleStatus.persists.back _ trivial
  unfold restored
  rw [hback]
  rfl

/-- If a deployment reports convergence, then a check with the status that it reported looks the
role up once, converges and reports the same status. -/
def CheckedDeployment (u : Unreliable serves (admits truthful) τ)
    (e : Episode RoleHandler IamRequest IamRequest.Answer (Report RoleStatus) τ) : Prop :=
  e.result.phase = .converged → ∀ classify, ∃ h', restored e classify = .ok h' ∧
    Idle (checkAfter u e checkDeployment h') [.getRole e.input.config.name] e.result.status

/-- If a deletion reports convergence, then so does a check of it with the status that it reported,
and a check of the deployment misses the role. -/
def CheckedDeletion (u : Unreliable serves (admits truthful) τ)
    (e : Episode RoleHandler IamRequest IamRequest.Answer (Report RoleStatus) τ) : Prop :=
  e.result.phase = .converged → ∀ classify, ∃ h', restored e classify = .ok h' ∧
    Idle (checkAfter u e checkDeleted h') [.getRole e.input.config.name] e.result.status ∧
    Misses (checkAfter u e checkDeployment h').result e.result.status.arn

theorem checked_deploy (u : Unreliable serves (admits truthful) τ)
    (hdetach : "DetachRolePolicy" ∈ truthful) (h : RoleHandler) (cancelled : Bool) {t : τ}
    (hnamed : (u.live t).EveryRole fun _ r => r.arn ≠ "") :
    CheckedDeployment u (Pass.episode u.provider deploy h cancelled t) := by
  intro hphase classify
  have hcourse := u.course_calls h.deploy ⟨cancelled, t⟩
  obtain ⟨e, hrealized⟩ := (deployed u.provider h ⟨cancelled, t⟩).realized hcourse hdetach hphase
  have harn := hnamed.of_course Account.lasting_arn hcourse _ _ hrealized.found
  exact ⟨_, restored_eq _ classify, idle_checkDeployment rfl harn hrealized.quiet⟩

theorem checked_delete (u : Unreliable serves (admits truthful) τ)
    (hdelete : "DeleteRole" ∈ truthful) (h : RoleHandler) (cancelled : Bool) (t : τ) :
    CheckedDeletion u (Pass.episode u.provider delete h cancelled t) := by
  intro hphase classify
  have hgone := (deleted u.provider h ⟨cancelled, t⟩).gone
    (u.course_calls h.delete ⟨cancelled, t⟩) hdelete hphase
  exact ⟨_, restored_eq _ classify, idle_checkDeleted rfl hgone, misses_checkDeployment rfl hgone⟩

end RoleHandler

/-! ## Policies -/

namespace PolicyHandler

variable {h : PolicyHandler} {e : PolicyEntry} {v : DocumentVersion}

theorem harmless_checkApplied (h : PolicyHandler) : Harmless h.checkApplied := by
  refine OnlyReads.harmless ?_
  unfold checkApplied
  split
  · exact .done _
  · refine .call rfl fun answer => ?_
    rcases answer with f | _ | policy <;> exact .done _

theorem harmless_checkDeleted (h : PolicyHandler) : Harmless h.checkDeleted := by
  refine OnlyReads.harmless ?_
  unfold checkDeleted
  split
  · exact .done _
  · refine .call rfl fun answer => ?_
    rcases answer with f | _ | policy <;> exact .done _

/-- What a check asks: a resource name, if the status tells one, is looked up. -/
def lookUps (h : PolicyHandler) : List IamRequest :=
  if h.status.arn = "" then [] else [.getPolicy h.status.arn]

theorem effect_getPolicy_of_none (hnone : a.policies.find? h.status.arn = none) :
    Effect (.getPolicy h.status.arn) a none a :=
  ⟨by rw [hnone]; rfl, rfl⟩

/-- A policy that stands as the status tells it is looked up, and the status stays the same. -/
theorem idle_checkApplied (hfailures : a.failures = []) (harn : h.status.arn ≠ "")
    (hrealized : h.config.Realized a h.status e v) :
    Idle (Pass.episode undisturbed checkApplied h false a) [.getPolicy h.status.arn] h.status := by
  have hstands : a.policies.find? h.status.arn = some e := by
    rw [hrealized.status]
    exact hrealized.stands
  have hget : Effect (.getPolicy h.status.arn) a (some e.policy) a := ⟨by rw [hstands]; rfl, rfl⟩
  have hlook : Looks h.checkApplied a [.getPolicy h.status.arn]
      (.success (h.status.identify e.policy) _) :=
    .ite_neg (by simpa using harn) (Looks.call hfailures rfl hget (.done a _))
  have hsame : h.status.identify e.policy = h.status := by
    rw [hrealized.status]
    rfl
  rw [hsame] at hlook
  exact hlook.idle rfl

/-- A policy that is not there is looked up, if there is a resource name to look it up by, and the
status stays the same. -/
theorem idle_checkDeleted (hfailures : a.failures = [])
    (hnone : h.status.arn ≠ "" → a.policies.find? h.status.arn = none) :
    Idle (Pass.episode undisturbed checkDeleted h false a) h.lookUps h.status := by
  unfold lookUps
  by_cases harn : h.status.arn = ""
  · rw [if_pos harn]
    have hlook : Looks h.checkDeleted a [] (.success h.status _) :=
      .ite_pos (by simpa using harn) (.done a _)
    exact hlook.idle rfl
  · rw [if_neg harn]
    have hlook : Looks h.checkDeleted a [.getPolicy h.status.arn] (.success h.status _) :=
      .ite_neg (by simpa using harn)
        (Looks.call hfailures rfl (effect_getPolicy_of_none (hnone harn)) (.done a _))
    exact hlook.idle rfl

/-- A check misses a policy that is not there. -/
theorem misses_checkApplied (hfailures : a.failures = [])
    (hnone : h.status.arn ≠ "" → a.policies.find? h.status.arn = none) :
    Misses (Pass.episode undisturbed checkApplied h false a).result h.status.arn := by
  refine .of_looks h.status (fun harn => ?_) fun harn => ?_
  · exact ⟨_, .ite_pos (by simpa using harn) (.done a _)⟩
  · have hget := effect_getPolicy_of_none (hnone harn)
    exact ⟨_, _, _, .ite_neg (by simpa using harn) (Looks.call hfailures rfl hget (.done a _))⟩

/-- The handler of the next reconciliation, for which the status is read back from what was written
of it. -/
def restored (e : Episode PolicyHandler IamRequest IamRequest.Answer (Report PolicyStatus) τ)
    (classify : Classifier) : Except Fault PolicyHandler :=
  (PolicyStatus.resolve (some e.result.status.toValue)).map fun status =>
    ⟨e.input.config, status, classify, e.input.versionBound⟩

theorem restored_eq (e : Episode PolicyHandler IamRequest IamRequest.Answer (Report PolicyStatus) τ)
    (classify : Classifier) :
    restored e classify =
      .ok ⟨e.input.config, e.result.status, classify, e.input.versionBound⟩ := by
  have hback : PolicyStatus.resolve (some e.result.status.toValue) = .ok e.result.status :=
    PolicyStatus.persists.back _ trivial
  unfold restored
  rw [hback]
  rfl

/-- If an application reports convergence, then a check with the status that it reported looks the
policy up once, converges and reports the same status. -/
def CheckedApplication (u : Unreliable serves (admits truthful) τ)
    (e : Episode PolicyHandler IamRequest IamRequest.Answer (Report PolicyStatus) τ) : Prop :=
  e.result.phase = .converged → ∀ classify, ∃ h', restored e classify = .ok h' ∧
    Idle (checkAfter u e checkApplied h') [.getPolicy e.result.status.arn] e.result.status

/-- If a deletion reports convergence, then so does a check of it with the status that it reported,
and a check of the application misses the policy. -/
def CheckedDeletion (u : Unreliable serves (admits truthful) τ)
    (e : Episode PolicyHandler IamRequest IamRequest.Answer (Report PolicyStatus) τ) : Prop :=
  e.result.phase = .converged → ∀ classify, ∃ h', restored e classify = .ok h' ∧
    Idle (checkAfter u e checkDeleted h') h'.lookUps e.result.status ∧
    Misses (checkAfter u e checkApplied h').result e.result.status.arn

theorem checked_apply (u : Unreliable serves (admits truthful) τ) (h : PolicyHandler)
    (cancelled : Bool) {t : τ} (hwell : (u.live t).WellFormed) :
    CheckedApplication u (Pass.episode u.provider apply h cancelled t) := by
  intro hphase classify
  obtain ⟨e, v, hrealized⟩ := (applied u h ⟨cancelled, t⟩).realized hwell hphase
  obtain ⟨hwell', -⟩ := hwell.of_course (u.course_calls h.apply ⟨cancelled, t⟩)
  have harn : (h.apply.run u.provider ⟨cancelled, t⟩).1.status.arn ≠ "" := by
    rw [hrealized.status]
    exact hwell'.arn_ne_empty hrealized.stands
  exact ⟨_, restored_eq _ classify, idle_checkApplied rfl harn hrealized.quiet⟩

theorem checked_delete (u : Unreliable serves (admits truthful) τ)
    (hdelete : "DeletePolicy" ∈ truthful) (h : PolicyHandler) (cancelled : Bool) (t : τ) :
    CheckedDeletion u (Pass.episode u.provider delete h cancelled t) := by
  intro hphase classify
  obtain ⟨hstatus, hgone⟩ := empties_delete hdelete h ⟨cancelled, t⟩ hphase
  rw [← hstatus] at hgone
  exact ⟨_, restored_eq _ classify, idle_checkDeleted rfl hgone, misses_checkApplied rfl hgone⟩

end PolicyHandler

/-! ## Checks -/

/-- Checks agree with the steps before them, from any reachable account and with any status,
however the calls of the steps are disturbed, as long as no detaching and no deletion of a role or a
policy is made up to find its target missing. And no check changes anything, whatever disturbs
it. -/
theorem checks_agree (u : Unreliable serves (admits truthful) τ)
    (hdetach : "DetachRolePolicy" ∈ truthful) (hrole : "DeleteRole" ∈ truthful)
    (hpolicy : "DeletePolicy" ∈ truthful) {t : τ} (hreachable : (u.live t).Reachable)
    (cancelled : Bool) :
    (∀ h,
      RoleHandler.CheckedDeployment u
        (Pass.episode u.provider RoleHandler.deploy h cancelled t) ∧
      RoleHandler.CheckedDeletion u
        (Pass.episode u.provider RoleHandler.delete h cancelled t)) ∧
    (∀ h,
      PolicyHandler.CheckedApplication u
        (Pass.episode u.provider PolicyHandler.apply h cancelled t) ∧
      PolicyHandler.CheckedDeletion u
        (Pass.episode u.provider PolicyHandler.delete h cancelled t)) ∧
    (∀ h : RoleHandler, Harmless h.checkDeployment ∧ Harmless h.checkDeleted) ∧
    ∀ h : PolicyHandler, Harmless h.checkApplied ∧ Harmless h.checkDeleted := by
  refine ⟨fun h => ⟨?_, ?_⟩, fun h => ⟨?_, ?_⟩, fun h => ?_, fun h => ?_⟩
  · exact h.checked_deploy u hdetach cancelled (hreachable.everyRole Account.lasting_arn)
  · exact h.checked_delete u hrole cancelled t
  · exact h.checked_apply u cancelled hreachable.wellFormed
  · exact h.checked_delete u hpolicy cancelled t
  · exact ⟨h.harmless_checkDeployment, h.harmless_checkDeleted⟩
  · exact ⟨h.harmless_checkApplied, h.harmless_checkDeleted⟩

/-- A role that is created and another one that is deleted, a policy that is created and another one
that is deleted although its versions are made up not to be found. -/
theorem checks_agree_created_and_deleted :
    let arn := "arn:aws:iam::123456789012:policy/old"
    let new : RoleHandler :=
      ⟨.plain "new" ["arn:aws:iam::aws:policy/ReadOnlyAccess"], {}, Fault.defaultClass⟩
    let old : RoleHandler :=
      ⟨.plain "old" [], { arn := "arn:aws:iam::123456789012:role/old" }, Fault.defaultClass⟩
    let new' : PolicyHandler := ⟨⟨"new", "[]", "", "/", .empty⟩, {}, Fault.defaultClass, 5⟩
    let old' : PolicyHandler :=
      ⟨⟨"old", "[]", "", "/", .empty⟩, { arn := arn }, Fault.defaultClass, 5⟩
    let a := (Account.perform (.createPolicy old'.draft)
      (Account.perform (.createRole old.draft) {}).2).2
    let gone : Fault := .notFound arn "NoSuchEntity: Policy does not exist."
    let u := Account.interrupted
      ["DetachRolePolicy", "DeleteRole", "DeletePolicyVersion", "DeletePolicy"]
    let t := (⟨a.failNext "ListPolicyVersions" gone, by decide +kernel⟩, [])
    let e := Pass.episode u.provider RoleHandler.deploy new false t
    let d := Pass.episode u.provider RoleHandler.delete old false t
    let e' := Pass.episode u.provider PolicyHandler.apply new' false t
    let d' := Pass.episode u.provider PolicyHandler.delete old' false t
    (u.live t).Reachable ∧
      (e.result.phase = .converged ∧ RoleHandler.CheckedDeployment u e) ∧
      (d.result.phase = .converged ∧ d.result.status.arn ≠ "" ∧ RoleHandler.CheckedDeletion u d) ∧
      (e'.result.phase = .converged ∧ PolicyHandler.CheckedApplication u e') ∧
      d'.result.phase = .converged ∧ d'.result.status.arn = arn ∧
      PolicyHandler.CheckedDeletion u d' ∧ Harmless old'.checkApplied := by
  intro arn new old new' old' a gone u t e d e' d'
  have hreachable : (u.live t).Reachable := by
    have hqueued : (a.failNext "ListPolicyVersions" gone).Reachable :=
      .queued _ _ (((Account.Reachable.empty _).performed _).performed _)
    simp only [u, t, Account.interrupted]
    exact hqueued.quiet
  obtain ⟨hroles, hpolicies, -, hharmless⟩ :=
    checks_agree u (by decide) (by decide) (by decide) hreachable false
  exact ⟨hreachable, ⟨by decide +kernel, (hroles new).1⟩,
    ⟨by decide +kernel, by decide +kernel, (hroles old).2⟩,
    ⟨by decide +kernel, (hpolicies new').1⟩, by decide +kernel, by decide +kernel,
    (hpolicies old').2, (hharmless old').1⟩

end IamConvergence
