/-
A step that has converged is idle when it is run again: from where it ended and with the status that
it reported, undisturbed, it looks whether everything is as configured, finds it so, changes nothing
and reports the same.
-/
import IamConvergence.Proofs.Account.Looks
import IamConvergence.Proofs.Policy.Apply
import IamConvergence.Proofs.Role.Deploy

namespace IamConvergence

open Account (serves admits undisturbed Effect)

variable {τ : Type} {truthful : List String} {a : Account}

/-- A pass asks just some requests, none of which changes anything, and reports a status as
converged. -/
structure Idle {ι σ : Type} (e : Episode ι IamRequest IamRequest.Answer (Report σ) Account)
    (looks : List IamRequest) (status : σ) : Prop where
  requests : e.calls.map (·.request) = looks
  after : e.after = { e.before with calls := e.before.calls ++ looks.map (·.operation) }
  converged : e.result.phase = .converged
  status : e.result.status = status

theorem Looks.idle {ι σ : Type} {step : ι → IamPass (Report σ)} {input : ι}
    {looks : List IamRequest} {report : Report σ} (h : Looks (step input) a looks report)
    (hphase : report.phase = .converged) :
    Idle (Pass.episode undisturbed step input false a) looks report.status := by
  constructor
  · exact h.requests a.calls
  · show ((step input).run undisturbed ⟨false, a.withCalls a.calls⟩).2.state = _
    rw [h.run]
    rfl
  · rw [h.result]
    exact hphase
  · rw [h.result]

/-! ## Roles -/

namespace RoleHandler

variable {h : RoleHandler} {e : RoleEntry}

/-- What a deployment asks when there is nothing to do. -/
def looks (h : RoleHandler) : List IamRequest :=
  [.getRole h.config.name, .listAttached h.config.name]

/-- Attached policies that are as configured are only listed. -/
theorem looks_attachments {status : RoleStatus} {desired : List String}
    (hfailures : a.failures = []) (hfound : a.roles.find? h.config.name = some e)
    (hdesired : .ofList desired = e.attached) :
    Looks (h.attachments desired status) a [.listAttached h.config.name]
      (.unchanged e.attached none) := by
  unfold attachments
  rw [Attachment.reconcile_eq]
  refine Looks.call hfailures rfl ⟨⟨e, hfound, rfl⟩, rfl⟩ ?_
  -- nothing is planned
  show Looks (Pass.adapt _ (Attachment.carryOut _ (Attachment.plan _ _) _)) a [] _
  rw [IdSet.ofList_toList, hdesired, Attachment.plan_self]
  exact .done a _

/-- A role that stands as it is configured is only looked at. -/
theorem idle_deploy (hfailures : a.failures = []) (hrealized : h.config.Realized a h.status e) :
    Idle (Pass.episode undisturbed deploy h false a) h.looks h.status := by
  have hdesired : .ofList h.config.managedPolicies = e.attached :=
    IdSet.ext_mem fun x => IdSet.mem_ofList.trans (hrealized.members x).symm
  have hget : Effect (.getRole h.config.name) a (some e.role) a := by
    refine ⟨?_, rfl⟩
    rw [hrealized.found]
    rfl
  have hlook : Looks h.deploy a h.looks
      (h.settled (h.status.identify e.role) false (.unchanged e.attached none)) := by
    refine Looks.call hfailures rfl hget ?_
    dsimp only
    rw [if_pos hrealized.trust]
    exact (looks_attachments hfailures hrealized.found hdesired).map _
  have hstatus : (h.settled (h.status.identify e.role) false
      (.unchanged e.attached none)).status = h.status := by
    rw [settled_status, hrealized.status]
    rfl
  rw [← hstatus]
  exact hlook.idle rfl

/-- The handler of the next reconciliation. -/
def resume (e : Episode RoleHandler IamRequest IamRequest.Answer (Report RoleStatus) τ) :
    RoleHandler :=
  { e.input with status := e.result.status }

/-- If a deployment reports convergence, then the next one, undisturbed, is idle. -/
def Settles (u : Unreliable serves (admits truthful) τ)
    (e : Episode RoleHandler IamRequest IamRequest.Answer (Report RoleStatus) τ) : Prop :=
  e.result.phase = .converged →
    Idle (Pass.episode undisturbed deploy (resume e) false (u.live e.after).quiet) (resume e).looks
      e.result.status

theorem settles_deploy (u : Unreliable serves (admits truthful) τ)
    (htruthful : "DetachRolePolicy" ∈ truthful) (h : RoleHandler) (cancelled : Bool) (t : τ) :
    Settles u (Pass.episode u.provider deploy h cancelled t) := by
  intro hphase
  obtain ⟨e, hrealized⟩ := (deployed u.provider h ⟨cancelled, t⟩).realized
    (u.course_calls h.deploy ⟨cancelled, t⟩) htruthful hphase
  exact idle_deploy rfl hrealized.quiet

end RoleHandler

/-! ## Policies -/

namespace PolicyHandler

variable {h : PolicyHandler} {e : PolicyEntry} {v : DocumentVersion}

/-- What an application asks when there is nothing to do. -/
def looks (h : PolicyHandler) : List IamRequest :=
  [.findPolicy h.config.name h.config.path, .getPolicy h.status.arn,
    .getVersion h.status.arn h.status.versionId]

/-- A default version that is as configured is only read. -/
theorem looks_update {status : PolicyStatus} (hfailures : a.failures = [])
    (hstands : a.policies.find? status.arn = some e)
    (hdefault : e.versions.find? (·.id == e.policy.defaultVersionId) = some v)
    (hdocument : documentsEqual (v.content.getD "") h.config.document = true) :
    Looks (h.update status) a
      [.getPolicy status.arn, .getVersion status.arn e.policy.defaultVersionId]
      (h.updated status ⟨some v.id, false, [], none⟩) := by
  have hget : Effect (.getPolicy status.arn) a (some e.policy) a := by
    refine ⟨?_, rfl⟩
    rw [hstands]
    rfl
  have hversion : Effect (.getVersion status.arn e.policy.defaultVersionId) a v a :=
    ⟨⟨e, hstands, hdefault⟩, rfl⟩
  have hlook : Looks ((Version.reconcile status.arn h.config.document h.versionBound).adapt
      (policyVersions status.arn)) a
      [.getPolicy status.arn, .getVersion status.arn e.policy.defaultVersionId]
      ⟨some v.id, false, [], none⟩ := by
    refine Looks.call hfailures rfl hget (Looks.call hfailures rfl hversion ?_)
    show Looks (Pass.adapt _ (if documentsEqual (v.content.getD "") h.config.document = true
      then _ else _)) a [] _
    rw [if_pos hdocument]
    exact .done a _
  exact hlook.map _

/-- A policy that stands as it is configured is only looked at. -/
theorem idle_apply (hfailures : a.failures = []) (hrealized : h.config.Realized a h.status e v) :
    Idle (Pass.episode undisturbed apply h false a) h.looks h.status := by
  have hvid : v.id = e.policy.defaultVersionId := by simpa using List.find?_some hrealized.default
  have hfind : Effect (.findPolicy h.config.name h.config.path) a (some e.policy) a :=
    ⟨hrealized.found.symm, rfl⟩
  have hlook : Looks h.apply a h.looks
      (h.updated (h.status.identify e.policy) ⟨some v.id, false, [], none⟩) := by
    unfold looks
    rw [hrealized.status]
    refine Looks.call hfailures rfl hfind ?_
    exact looks_update hfailures hrealized.stands hrealized.default hrealized.document
  have hstatus : (h.updated (h.status.identify e.policy) ⟨some v.id, false, [], none⟩).status =
      h.status := by
    rw [updated_status, hrealized.status, ← hvid]
    rfl
  rw [← hstatus]
  exact hlook.idle rfl

/-- The handler of the next reconciliation. -/
def resume (e : Episode PolicyHandler IamRequest IamRequest.Answer (Report PolicyStatus) τ) :
    PolicyHandler :=
  { e.input with status := e.result.status }

/-- If an application reports convergence, then the next one, undisturbed, is idle. -/
def Settles (u : Unreliable serves (admits truthful) τ)
    (e : Episode PolicyHandler IamRequest IamRequest.Answer (Report PolicyStatus) τ) : Prop :=
  e.result.phase = .converged →
    Idle (Pass.episode undisturbed apply (resume e) false (u.live e.after).quiet) (resume e).looks
      e.result.status

theorem settles_apply (u : Unreliable serves (admits truthful) τ) (h : PolicyHandler)
    (cancelled : Bool) {t : τ} (hwell : (u.live t).WellFormed) :
    Settles u (Pass.episode u.provider apply h cancelled t) := by
  intro hphase
  obtain ⟨e, v, hrealized⟩ := (applied u h ⟨cancelled, t⟩).realized hwell hphase
  exact idle_apply rfl hrealized.quiet

end PolicyHandler

/-! ## Converged steps -/

/-- A step that reports convergence, from any reachable account and with any status, settles, as
long as no detaching was made up to find its target missing. -/
theorem settles_of_reachable (u : Unreliable serves (admits truthful) τ)
    (htruthful : "DetachRolePolicy" ∈ truthful) {t : τ} (hreachable : (u.live t).Reachable)
    (cancelled : Bool) :
    (∀ h, RoleHandler.Settles u (Pass.episode u.provider RoleHandler.deploy h cancelled t)) ∧
      ∀ h, PolicyHandler.Settles u (Pass.episode u.provider PolicyHandler.apply h cancelled t) := by
  constructor
  · intro h
    exact RoleHandler.settles_deploy u htruthful h cancelled t
  · intro h
    exact PolicyHandler.settles_apply u h cancelled hreachable.wellFormed

/-- A role that is created, and a policy that gets a second version. -/
theorem settles_of_reachable_updated :
    let h : RoleHandler :=
      ⟨.plain "app" ["arn:aws:iam::aws:policy/ReadOnlyAccess"], {}, Fault.defaultClass⟩
    let h' : PolicyHandler := ⟨⟨"read", "[]", "", "/", .empty⟩, {}, Fault.defaultClass, 2⟩
    let a := (Account.perform (.createPolicy { h'.draft with document := "0" }) {}).2
    let u := Account.interrupted ["DetachRolePolicy", "DeletePolicyVersion"]
    let t := (⟨a, by decide +kernel⟩, [])
    let e := Pass.episode u.provider RoleHandler.deploy h false t
    let e' := Pass.episode u.provider PolicyHandler.apply h' false t
    (u.live t).Reachable ∧ e.result.phase = .converged ∧
      Idle (Pass.episode undisturbed RoleHandler.deploy (RoleHandler.resume e) false
        (u.live e.after).quiet) (RoleHandler.resume e).looks e.result.status ∧
      e'.result.phase = .converged ∧ e'.result.status.versionId = "v2" ∧
      Idle (Pass.episode undisturbed PolicyHandler.apply (PolicyHandler.resume e') false
        (u.live e'.after).quiet) (PolicyHandler.resume e').looks e'.result.status := by
  intro h h' a u t e e'
  have hreachable : (u.live t).Reachable := ((Account.Reachable.empty 5).performed _).quiet
  have hsettles := settles_of_reachable u List.mem_cons_self hreachable false
  have hrole : RoleHandler.Settles u e := hsettles.1 h
  have hpolicy : PolicyHandler.Settles u e' := hsettles.2 h'
  have hphase : e.result.phase = .converged := by decide +kernel
  have hphase' : e'.result.phase = .converged := by decide +kernel
  exact ⟨hreachable, hphase, hrole hphase, hphase', by decide +kernel, hpolicy hphase'⟩

end IamConvergence
