/-
The steps of the handlers are disciplined, also down in the passes over attached policies and over
versions: whatever is answered with a fault ends the step with that fault, unless it removes what is
already gone; and only a default version's content is looked up without being guarded, right after
its policy. What is left are the few ways in which a step fails although no call did.
-/
import IamConvergence.Iam.PolicyHandler
import IamConvergence.Iam.RoleHandler
import IamConvergence.Proofs.Attachment.Plan
import IamConvergence.Proofs.Pass.Discipline
import IamConvergence.Proofs.Version.Trace

namespace IamConvergence

/-- What was exchanged with an identity service. -/
abbrev IamExchange : Type := Exchange IamRequest IamRequest.Answer

/-! ## The discipline -/

namespace IamRequest

/-- Whether a request removes something. -/
def removes : IamRequest → Bool
  | .deleteRole _ | .detach _ _ | .deletePolicy _ | .deleteVersion _ _ => true
  | .getRole _ | .createRole _ | .updateTrustPolicy _ _ | .listAttached _ | .attach _ _
  | .findPolicy _ _ | .getPolicy _ | .createPolicy _ | .getVersion _ _ | .listVersions _
  | .createVersion _ _ _ => false

/-- Whether a request lists the versions of a policy. -/
def listsVersions : IamRequest → Bool
  | .listVersions _ => true
  | .getRole _ | .createRole _ | .updateTrustPolicy _ _ | .deleteRole _ | .listAttached _
  | .attach _ _ | .detach _ _ | .findPolicy _ _ | .getPolicy _ | .createPolicy _
  | .deletePolicy _ | .getVersion _ _ | .createVersion _ _ _ | .deleteVersion _ _ => false

/-- Whether a request belongs to the one before: the content of a version to the policy of which it
is the default. -/
def joins (last : Option IamRequest) (q : IamRequest) : Bool :=
  match q, last with
  | .getVersion arn _, some (.getPolicy arn') => arn == arn'
  | _, _ => false

theorem not_joins_joined {last : Option IamRequest} {q q' : IamRequest} (h : joins last q = true) :
    joins (some q) q' = false := by
  cases q' with
  | getVersion arn version =>
    cases q with
    | getPolicy arn' => cases h
    | _ => rfl
  | _ => rfl

/-- Whether a step goes on after a fault: that the target of a removal is not found is tolerated; if
`gone`, so is that there is no policy of which to list the versions. -/
def tolerates (gone : Bool) (q : IamRequest) (f : Fault) : Bool :=
  (q.removes || (q.listsVersions && gone)) && f.isNotFound

/-- The discipline of the steps. -/
def discipline (gone : Bool) : Discipline IamRequest where
  tolerates := tolerates gone
  joins := joins
  cancelled _ _ := Bool.and_false _
  first q := by cases q <;> rfl
  apart _ _ _ := not_joins_joined

end IamRequest

/-! ## Reports -/

/-- A report carries a fault, of the class that a classifier gives it. -/
structure Report.Carries {κ : Type} (report : Report κ) (f : Fault) (classify : Classifier) :
    Prop where
  fault : report.fault = some f
  details : report.details = some f.message
  phase : report.phase = (classify f).phase

theorem Report.carries_ofFault {κ : Type} (status : κ) (f : Fault) (classify : Classifier) :
    (Report.ofFault status f classify).Carries f classify :=
  ⟨rfl, rfl, rfl⟩

theorem Report.carries_settle {κ : Type} (status : κ) {f : Option Fault} (details : String)
    (classify : Classifier) {g : Fault} (h : f = some g) :
    (Report.settle status f details classify).Carries g classify := by
  rw [h]
  exact ⟨rfl, rfl, rfl⟩

theorem Report.fault_settle {κ : Type} (status : κ) (f : Option Fault) (details : String)
    (classify : Classifier) : (Report.settle status f details classify).fault = f := by
  cases f <;> rfl

/-- A step ends with the fault that it is told; told of none, it carries one only if what was
exchanged excuses it. -/
def Disciplined {κ : Type} (gone : Bool) (classify : Classifier)
    (excuses : List IamExchange → Fault → Prop) (p : IamPass (Report κ)) (es : List IamExchange) :
    Prop :=
  p.Follows (IamRequest.discipline gone) (fun f report => report.Carries f classify)
    (fun es report => ∀ f, report.fault = some f → excuses es f) es

theorem removalFault?_error {α : Type} {f : Fault} (h : f.isNotFound = false) :
    removalFault? (.error f : Except Fault α) = some f := by
  rw [removalFault?, h]
  rfl

namespace Disciplined

variable {κ : Type} {gone : Bool} {classify : Classifier} {excuses : List IamExchange → Fault → Prop}
  {es : List IamExchange} {resource : String} {q : IamRequest} {status : κ}

/-- A step that fails with the fault of a request, unless the request is answered. -/
theorem ask {next : Except Fault q.Answer → IamPass (Report κ)}
    (guards : IamRequest.joins (lastRequest? es) q = false)
    (hnone : ∀ f, q.tolerates gone f = false)
    (hfail : ∀ f, next (.error f) = .done (.ofFault status f classify))
    (rest : ∀ a, Disciplined gone classify excuses (next (.ok a)) (es ++ [⟨q, .ok a⟩])) :
    Disciplined gone classify excuses (.ask resource q next) es :=
  Pass.Follows.ask guards hnone (fun f => ⟨_, hfail f, Report.carries_ofFault status f classify⟩) rest

/-- A step that fails with the fault of a removal, unless its target is gone. -/
theorem removal (status : κ) {next : Except Fault q.Answer → IamPass (Report κ)}
    (guards : IamRequest.joins (lastRequest? es) q = false) (hremoves : q.removes = true)
    (hfail : ∀ answer f, removalFault? answer = some f →
      next answer = .done (.ofFault status f classify))
    (rest : ∀ answer, removalFault? answer = none →
      Disciplined gone classify excuses (next answer) (es ++ [⟨q, answer⟩])) :
    Disciplined gone classify excuses (.ask resource q next) es := by
  have hgone : ∀ f, q.tolerates gone f = f.isNotFound := fun f => by
    rw [IamRequest.tolerates, hremoves]
    rfl
  exact Pass.Follows.removal guards hgone (fun f hf => ⟨_, hfail _ f (removalFault?_error hf),
    Report.carries_ofFault status f classify⟩) rest

end Disciplined

/-! ## Attached policies -/

/-- A pass over attached policies ends with the fault that it is told, and else with none. -/
abbrev Forthright (p : IamPass AttachmentOutcome) (es : List IamExchange) : Prop :=
  p.Follows (IamRequest.discipline false) (fun f o => o.fault = some f) (fun _ o => o.fault = none) es

theorem forthright_attachAll (parent role : String) :
    ∀ (ids : List String) {o : AttachmentOutcome} (es : List IamExchange), o.fault = none →
      Forthright ((Attachment.attachAll parent ids o).adapt (roleAttachments role)) es
  | [], _, _, ho => .done ho
  | _ :: ids, o, _, ho =>
    .ask rfl (fun _ => rfl) (fun f => ⟨o.failed f, rfl, rfl⟩) fun _ =>
      forthright_attachAll parent role ids _ ho

theorem forthright_detachAll (parent role : String) (new : List String) :
    ∀ (ids : List String) {o : AttachmentOutcome} (es : List IamExchange), o.fault = none →
      Forthright ((Attachment.detachAll parent new ids o).adapt (roleAttachments role)) es
  | [], _, es, ho => forthright_attachAll parent role new es ho
  | id :: ids, o, es, ho => by
    refine .removal (q := IamRequest.detach role id) rfl (fun _ => rfl) (fun f hf => ⟨o.failed f, ?_, rfl⟩) ?_
    · simp only [Pass.bind, removalFault?_error hf]
      rfl
    · intro answer hnone
      simp only [Pass.bind, hnone]
      exact forthright_detachAll parent role new ids _ ho

theorem forthright_reconcile (parent role : String) (desired lastKnown : List String)
    (es : List IamExchange) :
    Forthright ((Attachment.reconcile parent desired lastKnown).adapt (roleAttachments role)) es :=
  .ask (q := IamRequest.listAttached role) rfl (fun _ => rfl)
    (fun f => ⟨AttachmentOutcome.unchanged (.ofList lastKnown) (some f), rfl, rfl⟩) fun _ =>
    forthright_detachAll parent role _ _ _ rfl

/-! ## Versions -/

/-- How the versions of a policy may not come to the desired one although no call failed: there is no
such policy, or none of the versions that are left may go although they leave no room. -/
inductive Stuck (arn : String) (bound : Nat) (es : List IamExchange) : Fault → Prop where
  | unknown (h : ⟨.getPolicy arn, .ok none⟩ ∈ es) :
    Stuck arn bound es (.notFound arn "policy does not exist")
  | crowded {history : List DocumentVersion} {evicted : List String}
    (listed : ⟨.listVersions arn, .ok history⟩ ∈ es)
    (deleted : ∀ id ∈ evicted, ∃ answer, ⟨.deleteVersion arn id, answer⟩ ∈ es)
    (kept : ∀ v ∈ Version.withoutAll evicted history, v.isDefault = true)
    (full : bound ≤ (Version.withoutAll evicted history).length) :
    Stuck arn bound es (Version.crowded arn (Version.withoutAll evicted history).length bound)

section

variable {arn desired current : String} {bound : Nat}

/-- A pass over versions ends with the fault that it is told, and else with none or stuck. -/
abbrev Candid (arn : String) (bound : Nat) (p : IamPass VersionOutcome)
    (es : List IamExchange) : Prop :=
  p.Follows (IamRequest.discipline false) (fun f o => o.fault = some f)
    (fun es o => ∀ f, o.fault = some f → Stuck arn bound es f) es

theorem candid_evict {history : List DocumentVersion} {evicted : List String}
    {es : List IamExchange} (listed : ⟨.listVersions arn, .ok history⟩ ∈ es)
    (deleted : ∀ id ∈ evicted, ∃ answer, ⟨.deleteVersion arn id, answer⟩ ∈ es) :
    Candid arn bound ((Version.evict arn desired current bound (Version.withoutAll evicted history)
      evicted).adapt (policyVersions arn)) es := by
  by_cases hroom : (Version.withoutAll evicted history).length < bound
  · rw [Version.evict_of_room evicted hroom]
    exact .ask (q := IamRequest.createVersion arn desired true) rfl (fun _ => rfl)
      (fun f => ⟨VersionOutcome.failed (some current) evicted f, rfl, rfl⟩) fun _ => .done nofun
  · have hfull := Nat.not_lt.mp hroom
    cases hcandidate : evictionCandidate? (Version.withoutAll evicted history) bound with
    | none =>
      rw [Version.evict_of_crowded evicted hfull hcandidate]
      refine .done fun f hf => ?_
      cases hf
      exact .crowded listed deleted (Version.isDefault_of_no_candidate hfull hcandidate) hfull
    | some v =>
      have hshorter : (Version.withoutAll (evicted ++ [v.id]) history).length <
          (Version.withoutAll evicted history).length := by
        rw [← Version.without_withoutAll]
        exact Version.length_without_lt (mem_of_evictionCandidate? hcandidate).1
      rw [Version.evict_of_candidate evicted hfull hcandidate, Version.without_withoutAll]
      refine .removal (q := IamRequest.deleteVersion arn v.id) rfl (fun _ => rfl)
        (fun f hf => ⟨VersionOutcome.failed (some current) evicted f, ?_, rfl⟩) fun answer hnone => ?_
      · simp only [Pass.bind, removalFault?_error hf]
        rfl
      · simp only [Pass.bind, hnone]
        refine candid_evict (List.mem_append_left _ listed) fun id hid => ?_
        rcases List.mem_append.mp hid with hid | hid
        · obtain ⟨answer', hmem⟩ := deleted id hid
          exact ⟨answer', List.mem_append_left _ hmem⟩
        · obtain rfl := List.mem_singleton.mp hid
          exact ⟨answer, List.mem_append_right _ List.mem_cons_self⟩
termination_by (Version.withoutAll evicted history).length

theorem candid_evict_listed {history : List DocumentVersion} {es : List IamExchange}
    (listed : ⟨.listVersions arn, .ok history⟩ ∈ es) :
    Candid arn bound ((Version.evict arn desired current bound history []).adapt
      (policyVersions arn)) es := by
  have hevict : Candid arn bound ((Version.evict arn desired current bound
      (Version.withoutAll [] history) []).adapt (policyVersions arn)) es :=
    candid_evict listed nofun
  rwa [Version.withoutAll_nil] at hevict

theorem candid_reconcile (es : List IamExchange) :
    Candid arn bound ((Version.reconcile arn desired bound).adapt (policyVersions arn)) es := by
  refine .ask (q := IamRequest.getPolicy arn) rfl (fun _ => rfl)
    (fun f => ⟨VersionOutcome.failed none [] f, rfl, rfl⟩) fun found => ?_
  cases found with
  | none =>
    refine .done fun f hf => ?_
    cases hf
    exact .unknown (List.mem_append_right _ List.mem_cons_self)
  | some policy =>
    refine .call (q := IamRequest.getVersion arn policy.defaultVersionId) ?_
      (fun f _ => ⟨VersionOutcome.failed none [] f, rfl, rfl⟩) fun answer hallows => ?_
    · rw [lastRequest?_append]
      exact (congrArg (! ·) (beq_self_eq_true arn)).symm
    · cases answer with
      | error f => cases hallows f rfl
      | ok v =>
        show Candid arn bound (Pass.adapt (policyVersions arn)
          (if documentsEqual (v.content.getD "") desired = true then _ else _)) _
        by_cases hsame : documentsEqual (v.content.getD "") desired = true
        · rw [if_pos hsame]
          exact .done nofun
        · rw [if_neg hsame]
          refine .ask (q := IamRequest.listVersions arn) rfl (fun _ => rfl)
            (fun f => ⟨VersionOutcome.failed (some v.id) [] f, rfl, rfl⟩) fun history => ?_
          exact candid_evict_listed (List.mem_append_right _ List.mem_cons_self)

end

/-! ## The steps of a role's handler -/

/-- Told of no fault, a step carries none. -/
abbrev NoExcuse (_ : List IamExchange) (_ : Fault) : Prop := False

namespace RoleHandler

variable {excuses : List IamExchange → Fault → Prop}

theorem disciplined_converge (h : RoleHandler) (status : RoleStatus) (created : Bool)
    (es : List IamExchange) :
    Disciplined false h.classify excuses (h.converge status created) es := by
  refine (forthright_reconcile _ _ _ _ es).map _ (fun f o ho => ?_) fun es o ho f hf => ?_
  · exact Report.carries_settle _ _ _ ho
  · rw [Report.fault_settle, ho] at hf
    cases hf

theorem disciplined_deploy (h : RoleHandler) :
    Disciplined false h.classify NoExcuse h.deploy [] := by
  refine .ask rfl (fun _ => rfl) (fun _ => rfl) fun found => ?_
  cases found with
  | none =>
    refine .ask rfl (fun _ => rfl) (fun _ => rfl) fun role => ?_
    exact h.disciplined_converge _ true _
  | some role =>
    dsimp only
    split
    · exact h.disciplined_converge _ false _
    · refine .ask rfl (fun _ => rfl) (fun _ => rfl) fun _ => ?_
      exact h.disciplined_converge _ false _

/-- A check fails although no call did when it finds no role. -/
def NoRole (h : RoleHandler) (es : List IamExchange) (f : Fault) : Prop :=
  ⟨.getRole h.config.name, .ok none⟩ ∈ es ∧
    f = .notFound h.config.name s!"role not found: {h.config.name}"

theorem disciplined_checkDeployment (h : RoleHandler) :
    Disciplined false h.classify h.NoRole h.checkDeployment [] := by
  unfold checkDeployment
  split
  · exact .done nofun
  · refine .ask rfl (fun _ => rfl) (fun _ => rfl) fun found => ?_
    cases found with
    | none =>
      refine .done fun f hf => ?_
      cases hf
      exact ⟨List.mem_cons_self, rfl⟩
    | some role => exact .done nofun

theorem disciplined_deleteDetached (h : RoleHandler) (status : RoleStatus) (es : List IamExchange) :
    Disciplined false h.classify NoExcuse (h.deleteDetached status) es := by
  refine .removal status rfl rfl (fun answer f hf => ?_) fun answer hnone => ?_
  · simp only [hf]
    rfl
  · simp only [hnone]
    exact .done nofun

theorem disciplined_delete (h : RoleHandler) :
    Disciplined false h.classify NoExcuse h.delete [] := by
  refine .ask rfl (fun _ => rfl) (fun _ => rfl) fun found => ?_
  cases found with
  | none => exact .done nofun
  | some role =>
    refine (forthright_reconcile _ _ _ _ _).bind (fun f o ho => ?_) fun es o ho => ?_
    · rw [ho]
      exact ⟨_, rfl, Report.carries_ofFault _ f _⟩
    · rw [ho]
      exact h.disciplined_deleteDetached _ es

theorem disciplined_checkDeleted (h : RoleHandler) :
    Disciplined false h.classify NoExcuse h.checkDeleted [] := by
  refine .ask rfl (fun _ => rfl) (fun _ => rfl) fun found => ?_
  cases found with
  | none => exact .done nofun
  | some role => exact .done nofun

end RoleHandler

/-! ## The steps of a policy's handler -/

namespace PolicyHandler

/-- An application fails although no call did when the versions of the policy that it found are
stuck. -/
def VersionsStuck (h : PolicyHandler) (es : List IamExchange) (f : Fault) : Prop :=
  ∃ policy, ⟨.findPolicy h.config.name h.config.path, .ok (some policy)⟩ ∈ es ∧
    Stuck policy.arn h.versionBound es f

theorem disciplined_update (h : PolicyHandler) (status : PolicyStatus) {es : List IamExchange} :
    Disciplined false h.classify
      (fun es' f => es <+: es' ∧ Stuck status.arn h.versionBound es' f) (h.update status) es := by
  refine ((candid_reconcile es).keeps List.prefix_rfl).map _ (fun f o ho => ?_) ?_
  · exact Report.carries_settle _ _ _ ho
  · rintro es' o ⟨hstuck, hkept⟩ f hf
    rw [Report.fault_settle] at hf
    exact ⟨hkept, hstuck f hf⟩

theorem disciplined_apply (h : PolicyHandler) :
    Disciplined false h.classify h.VersionsStuck h.apply [] := by
  refine .ask rfl (fun _ => rfl) (fun _ => rfl) fun found => ?_
  cases found with
  | none =>
    exact .ask rfl (fun _ => rfl) (fun _ => rfl) fun _ =>
      .done nofun
  | some policy =>
    refine (h.disciplined_update _).weaken fun es report hclose f hf => ?_
    obtain ⟨hkept, hstuck⟩ := hclose f hf
    exact ⟨policy, hkept.subset List.mem_cons_self, hstuck⟩

/-- A check fails although no call did when it finds no policy. -/
def NoPolicy (h : PolicyHandler) (es : List IamExchange) (f : Fault) : Prop :=
  ⟨.getPolicy h.status.arn, .ok none⟩ ∈ es ∧
    f = .notFound h.status.arn s!"policy not found at ARN {h.status.arn}"

theorem disciplined_checkApplied (h : PolicyHandler) :
    Disciplined false h.classify h.NoPolicy h.checkApplied [] := by
  unfold checkApplied
  split
  · exact .done nofun
  · refine .ask rfl (fun _ => rfl) (fun _ => rfl) fun found => ?_
    cases found with
    | none =>
      refine .done fun f hf => ?_
      cases hf
      exact ⟨List.mem_cons_self, rfl⟩
    | some policy => exact .done nofun

theorem disciplined_deleteLast (h : PolicyHandler) (es : List IamExchange) :
    Disciplined true h.classify NoExcuse h.deleteLast es := by
  refine .removal h.status rfl rfl (fun answer f hf => ?_) fun answer hnone => ?_
  · simp only [hf]
    rfl
  · simp only [hnone]
    exact .done nofun

theorem disciplined_deleteVersions (h : PolicyHandler) :
    ∀ (ids : List String) (es : List IamExchange),
      Disciplined true h.classify NoExcuse (h.deleteVersions ids) es
  | [], es => h.disciplined_deleteLast es
  | id :: ids, es => by
    refine .removal h.status rfl rfl (fun answer f hf => ?_) fun answer hnone => ?_
    · simp only [hf]
      rfl
    · simp only [hnone]
      exact h.disciplined_deleteVersions ids _

theorem disciplined_deleteExisting (h : PolicyHandler) (es : List IamExchange) :
    Disciplined true h.classify NoExcuse h.deleteExisting es := by
  refine .call rfl (fun f hf => ⟨h.fail h.status f, ?_, ?_⟩) fun answer hallows => ?_
  · have hfound : f.isNotFound = false := hf
    simp only [hfound, Bool.false_eq_true, if_false]
  · exact Report.carries_ofFault _ f _
  · cases answer with
    | ok versions => exact h.disciplined_deleteVersions _ _
    | error f =>
      -- without a policy there are no versions to delete
      have hgone : f.isNotFound = true := hallows f rfl
      simp only [hgone, if_true]
      exact h.disciplined_deleteLast _

theorem disciplined_delete (h : PolicyHandler) :
    Disciplined true h.classify NoExcuse h.delete [] := by
  unfold delete
  split
  · exact .done nofun
  · refine .ask rfl (fun _ => rfl) (fun _ => rfl) fun found => ?_
    cases found with
    | none => exact .done nofun
    | some policy => exact h.disciplined_deleteExisting _

theorem disciplined_checkDeleted (h : PolicyHandler) :
    Disciplined false h.classify NoExcuse h.checkDeleted [] := by
  unfold checkDeleted
  split
  · exact .done nofun
  · refine .ask rfl (fun _ => rfl) (fun _ => rfl) fun found => ?_
    cases found with
    | none => exact .done nofun
    | some policy => exact .done nofun

end PolicyHandler

end IamConvergence
