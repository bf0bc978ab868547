/-
The handlers' adapters over an account. The policies attached to a role are a membership whose calls
are calls about the role; the versions of a policy are a history whose default version takes two
calls, which leave the account alone. Over an account whose calls are disturbed both are disturbed
in the same ways.
-/
import IamConvergence.Proofs.Account.Service
import IamConvergence.Proofs.Attachment.Plan
import IamConvergence.Proofs.Pass.Adapter

namespace IamConvergence

/-- A call to an identity service. -/
abbrev IamCall (σ : Type) : Type := Call IamRequest IamRequest.Answer σ

variable {σ τ : Type}

/-! ## The policies attached to a role -/

/-- A request about a membership as one about a role. -/
def AttachmentRequest.onRole (role : String) : AttachmentRequest → IamRequest
  | .list => .listAttached role
  | .attach arn => .attach role arn
  | .detach arn => .detach role arn

/-- A call about a membership as one about a role. -/
def AttachmentCall.onRole (role : String) : AttachmentCall σ → IamCall σ
  | ⟨resource, .list, reply, s, s'⟩ => ⟨resource, .listAttached role, reply, s, s'⟩
  | ⟨resource, .attach arn, reply, s, s'⟩ => ⟨resource, .attach role arn, reply, s, s'⟩
  | ⟨resource, .detach arn, reply, s, s'⟩ => ⟨resource, .detach role arn, reply, s, s'⟩

section

variable (c : AttachmentCall σ) (role : String)

@[simp] theorem onRole_before : (c.onRole role).before = c.before := by
  obtain ⟨resource, q, reply, s, s'⟩ := c
  cases q <;> rfl

@[simp] theorem onRole_after : (c.onRole role).after = c.after := by
  obtain ⟨resource, q, reply, s, s'⟩ := c
  cases q <;> rfl

@[simp] theorem onRole_isAbandoned :
    (c.onRole role).reply.isAbandoned = c.reply.isAbandoned := by
  obtain ⟨resource, q, reply, s, s'⟩ := c
  cases q <;> rfl

end

/-- The policies attached to a role could be listed. -/
def Listed (cs : List (IamCall σ)) (role : String) : Prop :=
  ∃ c ∈ cs, c.request = .listAttached role ∧ c.answer.isOk = true

instance (cs : List (IamCall σ)) (role : String) : Decidable (Listed cs role) :=
  inferInstanceAs (Decidable (∃ c ∈ cs, c.request = .listAttached role ∧ c.answer.isOk = true))

theorem listed_append {cs ds : List (IamCall σ)} {role : String} :
    Listed (cs ++ ds) role ↔ Listed cs role ∨ Listed ds role := by
  unfold Listed
  simp only [List.mem_append, or_and_right, exists_or]

theorem listed_onRole {cs : List (AttachmentCall σ)} {role : String} :
    Listed (cs.map (AttachmentCall.onRole role)) role ↔
      ∃ listed, Call.Answered cs .list (.ok listed) := by
  constructor
  · rintro ⟨c, hc, hrequest, hok⟩
    obtain ⟨⟨resource, q, reply, s, s'⟩, hmem, rfl⟩ := List.mem_map.mp hc
    cases q with
    | list =>
      cases hanswer : reply.answer resource with
      | ok listed => exact ⟨listed, resource, reply, s, s', hmem, hanswer⟩
      | error f =>
        have hnot : (reply.answer resource).isOk = true := hok
        rw [hanswer] at hnot
        cases hnot
    | attach => cases hrequest
    | detach => cases hrequest
  · rintro ⟨listed, resource, reply, s, s', hmem, hanswer⟩
    refine ⟨_, List.mem_map_of_mem hmem, rfl, ?_⟩
    show (reply.answer resource).isOk = true
    rw [hanswer]
    rfl

theorem not_listed_append {cs ds : List (IamCall σ)} {role : String} (hcs : ¬Listed cs role)
    (hds : ¬Listed ds role) : ¬Listed (cs ++ ds) role := by
  rw [listed_append, not_or]
  exact ⟨hcs, hds⟩

/-- Other calls do not list them. -/
theorem not_listed_of_asked {resource role : String} {q : IamRequest} {cancelled cancelled' : Bool}
    {cs : List (IamCall σ)} {answer : Except Fault q.Answer}
    (h : Pass.Asked resource q cancelled cs answer cancelled') (hq : q ≠ .listAttached role) :
    ¬Listed cs role := by
  rintro ⟨c, hc, hrequest, -⟩
  exact hq ((h.request_eq c hc).symm.trans hrequest)

/-- No call about the attached policies looks the role up. -/
theorem not_answered_onRole (cs : List (AttachmentCall σ)) (role name : String)
    (answer : Except Fault (Option Role)) :
    ¬Call.Answered (cs.map (AttachmentCall.onRole role)) (.getRole name) answer := by
  rintro ⟨resource, reply, s, s', hmem, -⟩
  obtain ⟨⟨resource', q, reply', b, b'⟩, -, heq⟩ := List.mem_map.mp hmem
  cases q <;> cases heq

theorem lead_onRole {cs : List (AttachmentCall σ)} {role : String} {s s' : σ} :
    Call.Lead s (cs.map (AttachmentCall.onRole role)) s' ↔ Call.Lead s cs s' := by
  induction cs generalizing s with
  | nil => rfl
  | cons c cs ih =>
    obtain ⟨resource, q, reply, b, b'⟩ := c
    cases q <;> exact and_congr_right fun _ => ih

/-- The provider of the policies attached to a role. -/
def attachmentsOf (provider : Provider IamRequest IamRequest.Answer σ) (role : String) :
    Provider AttachmentRequest AttachmentRequest.Answer σ
  | .list => provider (.listAttached role)
  | .attach arn => provider (.attach role arn)
  | .detach arn => provider (.detach role arn)

theorem realizes_roleAttachments (provider : Provider IamRequest IamRequest.Answer σ)
    (role : String) :
    Pass.Realizes (roleAttachments role) provider (attachmentsOf provider role) := by
  intro guarded resource q r
  rw [Pass.attempt_eq]
  cases q <;> (unfold roleAttachments; rw [Pass.run_call_done, Pass.attempt_eq]; rfl)

theorem renames_roleAttachments (provider : Provider IamRequest IamRequest.Answer σ)
    (role : String) :
    Pass.Renames (roleAttachments role) provider (attachmentsOf provider role)
      (AttachmentCall.onRole role) := by
  intro guarded resource q r
  cases q <;> rfl

namespace Account

variable {truthful : List String}

/-- What a request about the policies attached to a role does. -/
def attachmentEffect (role : String) :
    (q : AttachmentRequest) → Account → Except Fault (q.Answer × Account)
  | .list, a => a.effect (.listAttached role)
  | .attach arn, a => a.effect (.attach role arn)
  | .detach arn, a => a.effect (.detach role arn)

/-- What may have become of a call about the policies attached to a role. -/
theorem disturbed_of_onRole {u : Unreliable serves (admits truthful) τ} {role : String}
    {c : AttachmentCall τ} (h : u.Explains (c.onRole role)) :
    Disturbed (.ofEffect (attachmentEffect role)) (fun q => admits truthful (q.onRole role))
      c.request (u.live c.before) c.reply (u.live c.after) := by
  obtain ⟨resource, q, reply, s, s'⟩ := c
  -- under its other name the request does the same
  cases q with
  | list | attach arn | detach arn =>
    exact Disturbed.map h id (fun _ _ heffect => heffect) (fun _ heffect => heffect)
      (fun _ hf => hf) reply.map_id.symm

end Account

/-! ## The versions of a policy -/

/-- The provider of the versions of a policy. -/
def versionsOf (provider : Provider IamRequest IamRequest.Answer σ) (arn : String) :
    Provider VersionRequest VersionRequest.Answer σ
  | .getDefault, s =>
    match provider (.getPolicy arn) s with
    | (.abandoned, s) => (.abandoned, s)
    | (.completed (.error f) cancelled, s) => (.completed (.error f) cancelled, s)
    | (.completed (.ok none) cancelled, s) =>
      (.completed (.error (.notFound arn "policy does not exist")) cancelled, s)
    | (.completed (.ok (some policy)) cancelled, s) =>
      match provider (.getVersion arn policy.defaultVersionId) s with
      | (.abandoned, s) => (.abandoned, s)
      | (.completed result cancelled', s) => (.completed result (cancelled || cancelled'), s)
  | .list, s => provider (.listVersions arn) s
  | .create content, s =>
    let (reply, s) := provider (.createVersion arn content true) s
    (reply.map DocumentVersion.id, s)
  | .delete id, s => provider (.deleteVersion arn id) s

theorem realizes_policyVersions (provider : Provider IamRequest IamRequest.Answer σ)
    (arn : String) : Pass.Realizes (policyVersions arn) provider (versionsOf provider arn) := by
  intro guarded resource q r
  rw [Pass.attempt_eq]
  unfold policyVersions
  cases q with
  | getDefault =>
    cases hmade : guarded && r.cancelled with
    | true => simp only [Pass.run, Pass.attempt, hmade, if_true]
    | false =>
      rw [Pass.run_call_made _ _ _ _ hmade]
      simp only [Pass.made, versionsOf, Bool.false_eq_true, if_false]
      rcases provider (.getPolicy arn) r.state with ⟨⟨f | p, cancelled⟩ | _, s⟩
      · rfl
      · cases p with
        | none => rfl
        | some p =>
          -- the second call is made whether or not a cancellation has arrived
          simp only [Reply.answer_completed, Pass.run_call_done, Pass.attempt_eq, Pass.made,
            Reply.cancels_completed, Bool.false_and, Bool.false_eq_true, if_false]
          rcases provider (.getVersion arn p.defaultVersionId) s with ⟨⟨result, cancelled'⟩ | _, s'⟩
          · simp [Bool.or_assoc]
          · simp
      · rfl
  | list => rw [Pass.run_call_done, Pass.attempt_eq]; rfl
  | create content =>
    cases hmade : guarded && r.cancelled with
    | true => simp only [Pass.run, Pass.attempt, hmade, if_true]; rfl
    | false =>
      rw [Pass.run_call_made _ _ _ _ hmade]
      simp only [Pass.made, versionsOf, Bool.false_eq_true, if_false]
      rcases provider (.createVersion arn content true) r.state with ⟨_ | _, s⟩ <;> rfl
  | delete id => rw [Pass.run_call_done, Pass.attempt_eq]; rfl

/-- A request is one by which the versions of a policy are kept. -/
def IamRequest.OnVersions (arn : String) : IamRequest → Prop
  | .getPolicy arn' | .getVersion arn' _ | .listVersions arn' | .createVersion arn' _ _
  | .deleteVersion arn' _ => arn' = arn
  | _ => False

theorem onVersions_policyVersions (provider : Provider IamRequest IamRequest.Answer σ)
    (arn : String) {α : Type} (p : Pass VersionRequest VersionRequest.Answer α) (r : Run σ) :
    ∀ c ∈ (p.adapt (policyVersions arn)).calls provider r, c.request.OnVersions arn := by
  refine Pass.forall_calls_adapt (fun guarded resource q => ?_) p r
  cases q with
  | getDefault =>
    refine Pass.forall_calls_call (fun _ _ _ => rfl) fun answer => ?_
    rcases answer with f | _ | policy
    · exact Pass.forall_calls_done _
    · exact Pass.forall_calls_done _
    · exact Pass.forall_calls_call (fun _ _ _ => rfl) fun _ => Pass.forall_calls_done _
  | list | create | delete =>
    exact Pass.forall_calls_call (fun _ _ _ => rfl) fun _ => Pass.forall_calls_done _

/-- Calls about the versions of a policy answer no other request. -/
theorem not_answered_of_onVersions {arn : String} {cs : List (IamCall σ)} {q : IamRequest}
    (hcs : ∀ c ∈ cs, c.request.OnVersions arn) (hq : ¬q.OnVersions arn)
    (answer : Except Fault q.Answer) : ¬Call.Answered cs q answer := by
  rintro ⟨resource, reply, s, s', hmem, -⟩
  exact hq (hcs _ hmem)

namespace Account

variable {truthful : List String}

/-- What a request about the versions of a policy does. -/
def versionEffect (arn : String) :
    (q : VersionRequest) → Account → Except Fault (q.Answer × Account)
  | .getDefault, a =>
    match a.policies.find? arn with
    | none => .error (.notFound arn "policy does not exist")
    | some e => a.effect (.getVersion arn e.policy.defaultVersionId)
  | .list, a => a.effect (.listVersions arn)
  | .create content, a =>
    (a.effect (.createVersion arn content true)).map fun x => (x.1.id, x.2)
  | .delete id, a => a.effect (.deleteVersion arn id)

/-- The two calls of a default version are disturbed as one. -/
theorem disturbed_getDefault (u : Unreliable serves (admits truthful) τ) (arn : String) (t : τ) :
    Disturbed (.ofEffect (versionEffect arn)) (fun _ _ _ => True) .getDefault (u.live t)
      (versionsOf u.provider arn .getDefault t).1
      (u.live (versionsOf u.provider arn .getDefault t).2) := by
  have hget := u.disturbed (.getPolicy arn) t
  have hkept := eq_of_reads hget rfl
  rcases hp : u.provider (.getPolicy arn) t with ⟨⟨f | p, cancelled⟩ | _, s⟩ <;>
    rw [hp] at hget hkept
  · simp only [versionsOf, hp, hkept]
    exact .failed cancelled trivial
  · have hanswer : (Reply.completed (.ok p) cancelled).answer arn = .ok p := rfl
    obtain ⟨hfound, -⟩ := effect_of_answer hget hanswer
    cases p with
    | none =>
      simp only [versionsOf, hp, hkept]
      have hnone : versionEffect arn .getDefault (u.live t) =
          .error (.notFound arn "policy does not exist") := by
        simp only [versionEffect, Option.map_eq_none_iff.mp hfound.symm]
      exact .served cancelled ⟨hnone, rfl⟩
    | some p =>
      have hsome : versionEffect arn .getDefault (u.live t) =
          (u.live t).effect (.getVersion arn p.defaultVersionId) := by
        obtain ⟨e, he, rfl⟩ := Option.map_eq_some_iff.mp hfound.symm
        simp only [versionEffect, he]
      have hget' := u.disturbed (.getVersion arn p.defaultVersionId) s
      have hkept' := eq_of_reads hget' rfl
      rw [hkept] at hget' hkept'
      rcases hv : u.provider (.getVersion arn p.defaultVersionId) s with
        ⟨⟨f | v, cancelled'⟩ | _, s'⟩ <;> rw [hv] at hget' hkept' <;>
        simp only [versionsOf, hp, hv, hkept']
      · exact .failed (cancelled || cancelled') trivial
      · refine .served (cancelled || cancelled') ?_
        have hanswer' : (Reply.completed (.ok v) cancelled').answer arn = .ok v := rfl
        show versionEffect arn .getDefault (u.live t) = .ok (v, u.live t)
        rw [hsome, hget'.effect_of_ok hanswer', hkept']
      · exact .lost
  · simp only [versionsOf, hp, hkept]
    exact .lost

/-- The versions of a policy of an account whose calls are disturbed. -/
def versions (u : Unreliable serves (admits truthful) τ) (arn : String) :
    Unreliable (.ofEffect (versionEffect arn)) (fun _ _ _ => True) τ where
  provider := versionsOf u.provider arn
  live := u.live
  disturbed q t := by
    cases q with
    | getDefault => exact disturbed_getDefault u arn t
    | list =>
      exact (u.disturbed (.listVersions arn) t).map id (fun _ _ h => h) (fun _ h => h)
        (fun _ _ => trivial) (Reply.map_id _).symm
    | create content =>
      refine (u.disturbed (.createVersion arn content true) t).map DocumentVersion.id ?_ ?_
        (fun _ _ => trivial) rfl
      · intro v a h
        rw [versionEffect, h]
        rfl
      · intro f h
        rw [versionEffect, h]
        rfl
    | delete id =>
      exact (u.disturbed (.deleteVersion arn id) t).map (·) (fun _ _ h => h) (fun _ h => h)
        (fun _ _ => trivial) (Reply.map_id _).symm

end Account

end IamConvergence
