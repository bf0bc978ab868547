/-
Steps for different roles, and for policies, do not get in each other's way. Every call of a step for
a role is about that role, so the step leaves all other roles and all policies; and since this is
also all that another such step depends on, two steps for different roles can change places. The
steps for a policy leave all roles and all other policies.
-/
import IamConvergence.Proofs.Account.Frame
import IamConvergence.Proofs.Policy.Tracking
import IamConvergence.Proofs.Role.Locality

namespace IamConvergence

open Account (OnlyPolicy OnlyRole serves admits undisturbed)

variable {τ : Type} {truthful : List String}

/-! ## What steps leave alone -/

namespace RoleHandler

variable (provider : Provider IamRequest IamRequest.Answer τ) (h : RoleHandler) (r : Run τ)

theorem onRole_attachments (desired : List String) (status : RoleStatus) :
    ∀ c ∈ (h.attachments desired status).calls provider r, c.request.OnRole h.config.name := by
  refine Pass.forall_calls_adapt (fun guarded resource q => ?_) _ r
  cases q with
  | list | attach | detach =>
    exact Pass.forall_calls_call (fun _ _ _ => rfl) fun _ => Pass.forall_calls_done _

theorem onRole_converge (status : RoleStatus) (created : Bool) :
    ∀ c ∈ (h.converge status created).calls provider r, c.request.OnRole h.config.name := by
  unfold converge
  rw [Pass.calls_map]
  exact h.onRole_attachments provider r _ _

theorem onRole_deploy : ∀ c ∈ h.deploy.calls provider r, c.request.OnRole h.config.name := by
  refine Pass.forall_calls_call (fun _ _ _ => rfl) (fun answer => ?_) r
  rcases answer with f | _ | role
  · exact Pass.forall_calls_done _
  · refine Pass.forall_calls_call (fun _ _ _ => rfl) fun answer => ?_
    cases answer with
    | error f => exact Pass.forall_calls_done _
    | ok role => exact fun r => h.onRole_converge provider r _ _
  · dsimp only
    split
    · exact fun r => h.onRole_converge provider r _ _
    · refine Pass.forall_calls_call (fun _ _ _ => rfl) fun answer => ?_
      cases answer with
      | error f => exact Pass.forall_calls_done _
      | ok x => exact fun r => h.onRole_converge provider r _ _

theorem onRole_delete : ∀ c ∈ h.delete.calls provider r, c.request.OnRole h.config.name := by
  refine Pass.forall_calls_call (fun _ _ _ => rfl) (fun answer r => ?_) r
  rcases answer with f | _ | role
  · exact Pass.forall_calls_done _ r
  · exact Pass.forall_calls_done _ r
  · dsimp only
    rw [Pass.calls_bind]
    refine List.forall_mem_append.mpr ⟨h.onRole_attachments provider r _ _, ?_⟩
    split
    · exact Pass.forall_calls_done _ _
    · refine Pass.forall_calls_call (fun _ _ _ => rfl) (fun answer => ?_) _
      split
      · exact Pass.forall_calls_done _
      · exact Pass.forall_calls_done _

/-- A step for a role leaves all other roles and all policies, however its calls are disturbed. -/
theorem onlyRole_step (u : Unreliable serves (admits truthful) τ) (p : RoleOperation) (r : Run τ) :
    OnlyRole h.config.name (u.live r.state) (u.live ((p.step h).run u.provider r).2.state) := by
  refine .of_course (u.course_calls (p.step h) r) ?_
  cases p with
  | deploy => exact h.onRole_deploy u.provider r
  | delete => exact h.onRole_delete u.provider r

end RoleHandler

namespace PolicyHandler

variable (u : Unreliable serves (admits truthful) τ) (h : PolicyHandler) (r : Run τ)

theorem onPolicy_deleteVersions (provider : Provider IamRequest IamRequest.Answer τ) :
    ∀ (ids : List String) (r : Run τ), ∀ c ∈ (h.deleteVersions ids).calls provider r,
      c.request.OnPolicy h.status.arn
  | [] => by
    refine Pass.forall_calls_call (fun _ _ _ => rfl) fun answer => ?_
    split
    · exact Pass.forall_calls_done _
    · exact Pass.forall_calls_done _
  | id :: ids => by
    refine Pass.forall_calls_call (fun _ _ _ => rfl) fun answer => ?_
    split
    · exact Pass.forall_calls_done _
    · exact onPolicy_deleteVersions provider ids

theorem onPolicy_delete (provider : Provider IamRequest IamRequest.Answer τ) :
    ∀ c ∈ h.delete.calls provider r, c.request.OnPolicy h.status.arn := by
  unfold delete lookUp
  split
  · exact Pass.forall_calls_done _ r
  · refine Pass.forall_calls_call (fun _ _ _ => rfl) (fun answer => ?_) r
    rcases answer with f | _ | policy
    · exact Pass.forall_calls_done _
    · exact Pass.forall_calls_done _
    · refine Pass.forall_calls_call (fun _ _ _ => rfl) fun answer => ?_
      cases answer with
      | ok versions => exact h.onPolicy_deleteVersions provider _
      | error f =>
        dsimp only
        split
        · exact h.onPolicy_deleteVersions provider []
        · exact Pass.forall_calls_done _

/-- A deletion leaves all roles and all other policies, however its calls are disturbed. -/
theorem onlyPolicy_delete :
    OnlyPolicy h.status.arn (u.live r.state) (u.live (h.delete.run u.provider r).2.state) :=
  .of_course (u.course_calls h.delete r) (h.onPolicy_delete r u.provider)

/-- Some calls left all roles, and all policies but the one that they found or created. -/
structure Spares (h : PolicyHandler) (a : Account) (cs : List (IamCall τ)) (a' : Account) : Prop where
  roles : a'.roles = a.roles
  others : ∀ arn, (∀ policy, Identifies h cs policy → policy.arn ≠ arn) →
    a'.policies.find? arn = a.policies.find? arn

variable {u h r}

theorem spares_create
    (hkept : ∀ c ∈ h.create.calls u.provider r, c.reply.isAbandoned = true → ¬u.Effective c) :
    Spares h (u.live r.state) (h.create.calls u.provider r)
      (u.live (h.create.run u.provider r).2.state) := by
  unfold create at hkept ⊢
  obtain ⟨ns, answer, r', hcreate, hcourse, hrun, hcalls⟩ := u.exists_asked h.config.name
    (.createPolicy h.draft) _ r
  rw [hcalls] at hkept
  rw [hrun, hcalls]
  cases answer with
  | error f =>
    rw [Pass.calls_done, List.append_nil] at hkept ⊢
    have hlive : u.live r'.state = u.live r.state := hcourse.live_eq_of_error hcreate hkept
    show Spares h (u.live r.state) ns (u.live r'.state)
    rw [hlive]
    exact ⟨rfl, fun _ _ => rfl⟩
  | ok policy =>
    rw [Pass.calls_done, List.append_nil]
    have honly := OnlyPolicy.of_createPolicy (Account.effect_of_asked hcourse hcreate)
    refine ⟨honly.roles, fun arn hother => honly.others arn ?_⟩
    exact (hother policy (.inr hcreate.answered)).symm

/-- An application leaves all roles and all other policies, however its calls are disturbed, unless
one is given up after its effect. -/
theorem spares_apply
    (hkept : ∀ c ∈ h.apply.calls u.provider r, c.reply.isAbandoned = true → ¬u.Effective c) :
    Spares h (u.live r.state) (h.apply.calls u.provider r)
      (u.live (h.apply.run u.provider r).2.state) := by
  unfold apply at hkept ⊢
  obtain ⟨fs, answer, r', hfind, hcourse, hrun, hcalls⟩ := u.exists_asked h.config.name
    (.findPolicy h.config.name h.config.path) _ r
  rw [hcalls] at hkept
  -- the look-up only reads, so what follows it may be told from where it started
  rw [hrun, hcalls, ← Account.live_eq_of_asked hcourse hfind rfl]
  rcases answer with f | _ | policy
  · exact ⟨rfl, fun _ _ => rfl⟩
  · obtain ⟨hroles, hothers⟩ := spares_create fun c hc => hkept c (List.mem_append_right _ hc)
    refine ⟨hroles, fun arn hother => hothers arn fun policy hpolicy => ?_⟩
    exact hother policy (identifies_append.mpr (.inr hpolicy))
  · have honly : OnlyPolicy policy.arn (u.live r'.state) _ :=
      .of_course (u.course_calls (h.update (h.status.identify policy)) r') fun c hc =>
        (onVersions_update u.provider h (h.status.identify policy) r' c hc).onPolicy
    refine ⟨honly.roles, fun arn hother => honly.others arn ?_⟩
    exact (hother policy (identifies_append.mpr (.inl (.inl hfind.answered)))).symm

end PolicyHandler

/-! ## Steps side by side -/

section

variable {α ι : Type} {R : α → Account → α → Account → Prop} {pass : ι → IamPass α} {input : ι}
  {a b : Account}

/-- What is related side by side is related after undisturbed passes, apart from the logs. -/
theorem Paired.episodes (h : Paired R (pass input) a (pass input) b) (hfailures : a.failures = [])
    (hfailures' : b.failures = []) :
    ∃ a' b', (Pass.episode undisturbed pass input false a).after.quiet = a'.quiet ∧
      (Pass.episode undisturbed pass input false b).after.quiet = b'.quiet ∧
      R (Pass.episode undisturbed pass input false a).result a'
        (Pass.episode undisturbed pass input false b).result b' := by
  obtain ⟨x, a', y, b', hx, hy, hrelated⟩ := h
  obtain ⟨hresult, hquiet⟩ := hx.episode hfailures
  obtain ⟨hresult', hquiet'⟩ := hy.episode hfailures'
  refine ⟨a', b', hquiet, hquiet', ?_⟩
  rw [hresult, hresult']
  exact hrelated

end

namespace RoleHandler

variable {h k : RoleHandler} {a b : Account}

/-- An undisturbed step, from an account with nothing queued. -/
abbrev stepped (p : RoleOperation) (h : RoleHandler) (a : Account) :
    Episode RoleHandler IamRequest IamRequest.Answer (Report RoleStatus) Account :=
  Pass.episode undisturbed p.step h false a

theorem onlyRole_undisturbed (p : RoleOperation) (h : RoleHandler) (cancelled : Bool)
    (a : Account) :
    OnlyRole h.config.name a (Pass.episode undisturbed p.step h cancelled a).after := by
  have honly := h.onlyRole_step Account.alone p ⟨cancelled, a⟩
  exact ⟨honly.others, honly.policies, honly.accountId⟩

theorem onlyRole_stepped (p : RoleOperation) (h : RoleHandler) (a : Account) :
    OnlyRole h.config.name a (stepped p h a).after :=
  onlyRole_undisturbed p h false a

theorem failures_stepped (p : RoleOperation) (h : RoleHandler) (hfailures : a.failures = []) :
    (stepped p h a).after.failures = [] :=
  Account.failures_run (p.step h) (r := ⟨false, a⟩) hfailures

/-- A step leaves the same in two accounts that agree about the role. -/
theorem sameOutcome_stepped (p : RoleOperation) (hagree : Account.Agree h.config.name a b)
    (hfailures : a.failures = []) (hfailures' : b.failures = []) :
    h.SameOutcome (a.roles.find? h.config.name) (stepped p h a).result (stepped p h a).after
      (stepped p h b).result (stepped p h b).after := by
  obtain ⟨a', b', hquiet, hquiet', hsame⟩ := (paired_step p hagree).episodes hfailures hfailures'
  refine ⟨hsame.report, ?_⟩
  rw [Account.roles_of_quiet hquiet, Account.roles_of_quiet hquiet']
  exact hsame.entry

/-! ## Two roles -/

/-- Two steps can change places: each reports the same, whichever comes first, and in the end the
roles and the policies are the same. About a role that was missing, all up to what was issued. -/
structure Interchange (p q : RoleOperation) (h k : RoleHandler) (a : Account) : Prop where
  report : SameReport (a.roles.find? h.config.name) (stepped p h a).result
    (stepped p h (stepped q k a).after).result
  report' : SameReport (a.roles.find? k.config.name) (stepped q k a).result
    (stepped q k (stepped p h a).after).result
  roles : ∀ name, SameEntry (a.roles.find? name)
    ((stepped q k (stepped p h a).after).after.roles.find? name)
    ((stepped p h (stepped q k a).after).after.roles.find? name)
  policies : (stepped q k (stepped p h a).after).after.policies =
    (stepped p h (stepped q k a).after).after.policies

/-- Before a step for one role, and after it, an account is alike to the handler of another. -/
theorem agree_stepped (p : RoleOperation) (h : RoleHandler) (a : Account) {name : String}
    (hname : name ≠ h.config.name) : Account.Agree name a (stepped p h a).after := by
  have honly := onlyRole_stepped p h a
  exact ⟨⟨honly.accountId, honly.policies⟩, honly.others name hname⟩

theorem interchange (p q : RoleOperation) (hname : h.config.name ≠ k.config.name)
    (hfailures : a.failures = []) : Interchange p q h k a := by
  -- each step sees its role as it was, whether or not the other one came before
  have hfirst := sameOutcome_stepped p (agree_stepped q k a hname) hfailures
    (failures_stepped q k hfailures)
  have hsecond := sameOutcome_stepped q (agree_stepped p h a hname.symm) hfailures
    (failures_stepped p h hfailures)
  -- and leaves the other role as it finds it
  have hp := onlyRole_stepped p h a
  have hq := onlyRole_stepped q k a
  have hpq := onlyRole_stepped q k (stepped p h a).after
  have hqp := onlyRole_stepped p h (stepped q k a).after
  refine ⟨hfirst.report, hsecond.report, fun name => ?_, ?_⟩
  · by_cases hh : name = h.config.name
    · rw [hh, hpq.others _ hname]
      exact hfirst.entry
    · by_cases hk : name = k.config.name
      · rw [hk, hqp.others _ hname.symm]
        exact hsecond.entry.symm
      · -- neither step is about this role
        rw [hpq.others _ hk, hp.others _ hh, hqp.others _ hh, hq.others _ hk]
        exact .refl _ _
  · rw [hpq.policies, hp.policies, hqp.policies, hq.policies]

end RoleHandler

/-! ## All steps -/

/-- Undisturbed steps for different roles can change places. And even if failures are queued or the
cancellation came before it, a step for a role leaves all other roles and all policies, and a step
for a policy leaves all roles and all other policies. -/
theorem steps_independent (a : Account) :
    (a.failures = [] → ∀ (p q : RoleOperation) (h k : RoleHandler), h.config.name ≠ k.config.name →
        RoleHandler.Interchange p q h k a) ∧
      ∀ cancelled,
        (∀ (p : RoleOperation) (h : RoleHandler),
          OnlyRole h.config.name a (Pass.episode undisturbed p.step h cancelled a).after) ∧
        (∀ h, PolicyHandler.Spares h a
          (Pass.episode undisturbed PolicyHandler.apply h cancelled a).calls
          (Pass.episode undisturbed PolicyHandler.apply h cancelled a).after) ∧
        ∀ h : PolicyHandler, OnlyPolicy h.status.arn a
          (Pass.episode undisturbed PolicyHandler.delete h cancelled a).after := by
  refine ⟨fun hfailures p q h k hname => RoleHandler.interchange p q hname hfailures,
    fun cancelled => ⟨fun p h => ?_, fun h => ?_, fun h => ?_⟩⟩
  · exact RoleHandler.onlyRole_undisturbed p h cancelled a
  · -- no call is given up
    have hkept : ∀ c ∈ h.apply.calls undisturbed ⟨cancelled, a⟩,
        c.reply.isAbandoned = true → ¬Account.alone.Effective c :=
      Pass.forall_calls (fun _ _ _ => nofun) h.apply ⟨cancelled, a⟩
    have hspares := PolicyHandler.spares_apply (u := Account.alone) hkept
    exact ⟨hspares.roles, hspares.others⟩
  · have honly := h.onlyPolicy_delete Account.alone ⟨cancelled, a⟩
    exact ⟨honly.others, honly.roles⟩

/-- Two roles are created, in either order, and only the ids that they get differ. The one policy of
the account, which either of them attaches, gets a second version, or is deleted. -/
theorem steps_independent_creating :
    let arn := "arn:aws:iam::123456789012:policy/read"
    let h : RoleHandler := ⟨.plain "app" [arn], {}, Fault.defaultClass⟩
    let k : RoleHandler := ⟨.plain "web" [arn], {}, Fault.defaultClass⟩
    let l : PolicyHandler := ⟨⟨"read", "[]", "", "/", .empty⟩, { arn := arn }, Fault.defaultClass, 5⟩
    let a := (Account.perform (.createPolicy { l.draft with document := "0" }) {}).2
    let first := RoleHandler.stepped .deploy h a
    let second := RoleHandler.stepped .deploy h (RoleHandler.stepped .deploy k a).after
    let applied := Pass.episode undisturbed PolicyHandler.apply l false a
    let deleted := Pass.episode undisturbed PolicyHandler.delete l false a
    a.failures = [] ∧ h.config.name ≠ k.config.name ∧
      (first.result.phase = .converged ∧ first.result.status.id ≠ second.result.status.id ∧
        RoleHandler.Interchange .deploy .deploy h k a ∧ OnlyRole h.config.name a first.after) ∧
      (applied.result.status.versionId = "v2" ∧ l.Spares a applied.calls applied.after) ∧
      deleted.result.phase = .converged ∧ OnlyPolicy l.status.arn a deleted.after := by
  intro arn h k l a first second applied deleted
  have hfailures : a.failures = [] := by decide +kernel
  have hname : h.config.name ≠ k.config.name := by decide
  obtain ⟨hinterchange, hleft⟩ := steps_independent a
  obtain ⟨honlyRole, hspares, honlyPolicy⟩ := hleft false
  exact ⟨hfailures, hname, ⟨by decide +kernel, by decide +kernel,
    hinterchange hfailures .deploy .deploy h k hname, honlyRole .deploy h⟩,
    ⟨by decide +kernel, hspares l⟩, by decide +kernel, honlyPolicy l⟩

end IamConvergence
