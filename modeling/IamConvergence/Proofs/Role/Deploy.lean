/-
What a deployment leaves of a role of an account whose calls are disturbed. Whichever way the role
came to have its trust policy, it stands as the status tells it when its attached policies are gone
through; so a deployment that reports convergence converged, and one that went through the attached
policies reports the attached ones, unless a call was given up after its effect.
-/
import IamConvergence.Proofs.Document.Equality
import IamConvergence.Proofs.Role.Attachments
import IamConvergence.Proofs.Role.Trace

namespace IamConvergence

open Account (serves admits Effect effect_of_asked)

variable {τ : Type} {truthful : List String} {u : Unreliable serves (admits truthful) τ} {t t' : τ}

/-- A role stands as it is configured, and the status tells it as it stands. -/
structure RoleConfig.Realized (c : RoleConfig) (a : Account) (s : RoleStatus) (e : RoleEntry) :
    Prop where
  found : a.roles.find? c.name = some e
  trust : documentsEqual e.role.trustPolicy c.trustDocument = true
  members : ∀ x, x ∈ e.attached ↔ x ∈ c.managedPolicies
  status : s = ⟨e.role.arn, e.role.id, e.role.name, e.attached.toList⟩
  ordered : s.attached.Pairwise (· < ·)

/-- What is queued and logged is no matter. -/
theorem RoleConfig.Realized.quiet {c : RoleConfig} {a : Account} {s : RoleStatus} {e : RoleEntry}
    (h : c.Realized a s e) : c.Realized a.quiet s e :=
  ⟨h.found, h.trust, h.members, h.status, h.ordered⟩

/-- A role with the empty trust policy. -/
def RoleConfig.plain (name : String) (managedPolicies : List String) : RoleConfig where
  name := name
  trustPolicy := .text "\x7b\x7d"
  description := ""
  maxSessionDuration := defaultSessionDuration
  path := defaultPath
  managedPolicies := managedPolicies
  tags := .empty

namespace RoleHandler

variable {h : RoleHandler} {a : Account} {s : RoleStatus} {e : RoleEntry} {created cancelled : Bool}
  {cs ds : List (IamCall τ)} {report : Report RoleStatus}

/-! ## Up to the attached policies -/

/-- A role with the configured trust policy, which the status identifies. -/
structure Prepared (h : RoleHandler) (a : Account) (s : RoleStatus) (e : RoleEntry) : Prop where
  found : a.roles.find? h.config.name = some e
  trust : documentsEqual e.role.trustPolicy h.config.trustDocument = true
  identity : s = ⟨e.role.arn, e.role.id, e.role.name, s.attached⟩

theorem prepared_of_createRole {a' : Account} {role : Role} {attached : List String}
    (heffect : Effect (.createRole h.draft) a role a') :
    ∃ e, Prepared h a' { h.status.identify role with attached := attached } e := by
  obtain ⟨-, hdocument, rfl, rfl⟩ := heffect
  refine ⟨⟨a.roleOf h.draft, .empty⟩, Account.find?_putRole _ h.config.name _, ?_, rfl⟩
  exact documentsEqual_self hdocument

theorem prepared_of_updateTrustPolicy {a' : Account} {role : Role} {answer : Unit}
    (hget : some role = (a.roles.find? h.config.name).map (·.role))
    (heffect : Effect (.updateTrustPolicy h.config.name h.config.trustDocument) a answer a') :
    ∃ e, Prepared h a' (h.status.identify role) e := by
  obtain ⟨hdocument, e, he, rfl⟩ := heffect
  rw [he] at hget
  cases hget
  refine ⟨_, Account.find?_putRole a h.config.name _, ?_, rfl⟩
  exact documentsEqual_self hdocument

theorem fail_phase_ne (h : RoleHandler) (s : RoleStatus) (f : Fault) :
    (h.fail s f).phase ≠ .converged :=
  Report.ofFault_phase_ne s f h.classify

/-- A deployment failed before the attached policies were listed, or it goes on to them with a role
that is prepared. -/
theorem Deployed.fail_or_prepared (hdeployed : Deployed h cancelled cs report)
    (hcourse : u.Course t cs t') :
    (report.phase ≠ .converged ∧ ¬Listed cs h.config.name) ∨
      ∃ gs ds m s e created cancelled', cs = gs ++ ds ∧ ¬Listed gs h.config.name ∧
        Prepared h (u.live m) s e ∧ Converging h s created cancelled' ds report ∧
        u.Course m ds t' := by
  cases hdeployed with
  | unread get => exact .inl ⟨h.fail_phase_ne _ _, not_listed_of_asked get nofun⟩
  | uncreated get create =>
    refine .inl ⟨h.fail_phase_ne _ _, ?_⟩
    exact not_listed_append (not_listed_of_asked get nofun) (not_listed_of_asked create nofun)
  | unupdated get drifted update =>
    refine .inl ⟨h.fail_phase_ne _ _, ?_⟩
    exact not_listed_append (not_listed_of_asked get nofun) (not_listed_of_asked update nofun)
  | @created _ _ gs ns ds role _ get create converging =>
    obtain ⟨m, -, hcourse⟩ := hcourse.split
    obtain ⟨m', hcreate, hcourse⟩ := hcourse.split
    obtain ⟨e, hprepared⟩ := prepared_of_createRole (effect_of_asked hcreate create)
    refine .inr ⟨gs ++ ns, ds, m', _, e, true, _, (List.append_assoc ..).symm, ?_, hprepared,
      converging, hcourse⟩
    exact not_listed_append (not_listed_of_asked get nofun) (not_listed_of_asked create nofun)
  | @kept _ gs ds role _ get same converging =>
    obtain ⟨m, hgets, hcourse⟩ := hcourse.split
    obtain ⟨hget, hkept⟩ := effect_of_asked hgets get
    obtain ⟨e, he, rfl⟩ := Option.map_eq_some_iff.mp hget.symm
    rw [← hkept] at he
    exact .inr ⟨gs, ds, m, _, e, false, _, rfl, not_listed_of_asked get nofun, ⟨he, same, rfl⟩,
      converging, hcourse⟩
  | @updated _ _ gs ns ds role _ get drifted update converging =>
    obtain ⟨m, hgets, hcourse⟩ := hcourse.split
    obtain ⟨m', hupdate, hcourse⟩ := hcourse.split
    obtain ⟨hget, hkept⟩ := effect_of_asked hgets get
    rw [← hkept] at hget
    obtain ⟨e, hprepared⟩ := prepared_of_updateTrustPolicy hget (effect_of_asked hupdate update)
    refine .inr ⟨gs ++ ns, ds, m', _, e, false, _, (List.append_assoc ..).symm, ?_, hprepared,
      converging, hcourse⟩
    exact not_listed_append (not_listed_of_asked get nofun) (not_listed_of_asked update nofun)

/-! ## The attached policies -/

/-- A prepared role stays prepared. -/
theorem Converging.prepared (hconverging : Converging h s created cancelled cs report)
    (hprepared : Prepared h (u.live t) s e) (hcourse : u.Course t cs t') :
    ∃ e', Prepared h (u.live t') report.status e' := by
  cases hconverging with
  | settled attachments =>
    obtain ⟨e', he', hrole⟩ := Account.role_of_course hcourse hprepared.found
    refine ⟨e', he', ?_, ?_⟩
    · rw [hrole]
      exact hprepared.trust
    · rw [settled_status, hrole, hprepared.identity]

/-- Once they were listed, the status tells the policies that are attached. -/
theorem Converging.attached (hconverging : Converging h s created cancelled cs report)
    (hcourse : u.Course t cs t') (htruthful : "DetachRolePolicy" ∈ truthful)
    (hlisted : Listed cs h.config.name)
    (hkept : ∀ c ∈ cs, c.reply.isAbandoned = true → ¬u.Effective c) :
    ∃ e, (u.live t').roles.find? h.config.name = some e ∧
      report.status.attached = e.attached.toList := by
  cases hconverging with
  | @settled cs o attachments =>
    obtain ⟨e, he, hattached⟩ := Account.attached_of_reconciled attachments hcourse htruthful
      (listed_onRole.mp hlisted) (Account.live_eq_of_kept hcourse hkept)
    refine ⟨e, he, ?_⟩
    rw [settled_status, hattached]

/-- Convergence is reported of a role that stands as it is configured. -/
theorem Converging.realized (hconverging : Converging h s created cancelled cs report)
    (hprepared : Prepared h (u.live t) s e) (hcourse : u.Course t cs t')
    (htruthful : "DetachRolePolicy" ∈ truthful) (hphase : report.phase = .converged) :
    ∃ e', h.config.Realized (u.live t') report.status e' := by
  obtain ⟨e', hprepared'⟩ := hconverging.prepared hprepared hcourse
  cases hconverging with
  | @settled cs o attachments =>
    have hnone : o.fault = none := (Report.settle_phase_eq_iff ..).mp hphase
    obtain ⟨hlisted, hall⟩ := attachments.of_fault_eq_none hnone
    -- every call counted, so there is none that has to be kept from an effect
    obtain ⟨e'', he'', hattached⟩ := Account.attached_of_reconciled attachments hcourse htruthful
      hlisted fun c hc ht => absurd (hall c hc) (by rw [ht]; exact Bool.false_ne_true)
    cases hprepared'.found.symm.trans he''
    have hstatus : (h.settled s created o).status.attached = e'.attached.toList := by
      rw [settled_status, hattached]
    refine ⟨e', hprepared'.found, hprepared'.trust, ?_, ?_, ?_⟩
    · intro x
      rw [← hattached, attachments.reached hnone]
      exact IdSet.mem_ofList
    · rw [← hstatus]
      exact hprepared'.identity
    · rw [hstatus]
      exact e'.attached.ordered

/-! ## Whole deployments -/

/-- Convergence is reported of a role that stands as it is configured. -/
theorem Deployed.realized (hdeployed : Deployed h cancelled cs report) (hcourse : u.Course t cs t')
    (htruthful : "DetachRolePolicy" ∈ truthful) (hphase : report.phase = .converged) :
    ∃ e, h.config.Realized (u.live t') report.status e := by
  rcases hdeployed.fail_or_prepared hcourse with
    ⟨hfail, -⟩ | ⟨gs, ds, m, s, e, created, _, rfl, -, hprepared, hconverging, hcourse⟩
  · exact absurd hphase hfail
  · exact hconverging.realized hprepared hcourse htruthful hphase

/-- Once they were listed, the status tells the policies that are attached. -/
theorem Deployed.attached (hdeployed : Deployed h cancelled cs report) (hcourse : u.Course t cs t')
    (htruthful : "DetachRolePolicy" ∈ truthful) (hlisted : Listed cs h.config.name)
    (hkept : ∀ c ∈ cs, c.reply.isAbandoned = true → ¬u.Effective c) :
    ∃ e, (u.live t').roles.find? h.config.name = some e ∧
      report.status.attached = e.attached.toList := by
  rcases hdeployed.fail_or_prepared hcourse with
    ⟨-, hunlisted⟩ | ⟨gs, ds, m, s, e, created, _, rfl, hunlisted, hprepared, hconverging, hcourse⟩
  · exact absurd hlisted hunlisted
  · exact hconverging.attached hcourse htruthful
      ((listed_append.mp hlisted).resolve_left hunlisted)
      fun c hc => hkept c (List.mem_append_right _ hc)

/-- What a deployment reports is so: what it reports as converged stands as it is configured; and if
it could list the attached policies and no call was given up after its effect, it reports the
attached policies, converged or not. -/
structure Faithful (u : Unreliable serves (admits truthful) τ)
    (e : Episode RoleHandler IamRequest IamRequest.Answer (Report RoleStatus) τ) : Prop where
  converged : e.result.phase = .converged →
    ∃ entry, e.input.config.Realized (u.live e.after) e.result.status entry
  attached : Listed e.calls e.input.config.name →
    (∀ c ∈ e.calls, c.reply.isAbandoned = true → ¬u.Effective c) →
    ∃ entry, (u.live e.after).roles.find? e.input.config.name = some entry ∧
      e.result.status.attached = entry.attached.toList

/-- From any state and status, as long as no detaching is made up to find its target missing. -/
theorem faithful_deploy (u : Unreliable serves (admits ["DetachRolePolicy"]) τ) (h : RoleHandler)
    (cancelled : Bool) (t : τ) : Faithful u (Pass.episode u.provider deploy h cancelled t) := by
  have hdeployed := deployed u.provider h ⟨cancelled, t⟩
  have hcourse := u.course_calls h.deploy ⟨cancelled, t⟩
  constructor
  · intro hphase
    exact hdeployed.realized hcourse List.mem_cons_self hphase
  · intro hlisted hkept
    exact hdeployed.attached hcourse List.mem_cons_self hlisted hkept

/-- A throttled detaching leaves a stale policy, which is reported; the next deployment detaches
it. -/
theorem faithful_deploy_throttled :
    let h : RoleHandler :=
      ⟨.plain "app" ["arn:aws:iam::aws:policy/ReadOnlyAccess"], {}, Fault.defaultClass⟩
    let a := (Account.perform (.attach "app" "arn:aws:iam::aws:policy/Stale")
      (Account.perform (.createRole h.draft) {}).2).2
    let throttled : Fault := .provider "app" "DetachRolePolicy" "Throttling: Rate exceeded" true
    let u := Account.interrupted ["DetachRolePolicy"]
    let t := (⟨a, by decide +kernel⟩, [.none false, .none false, .fault throttled false])
    let e := Pass.episode u.provider deploy h false t
    let e' := Pass.episode u.provider deploy { h with status := e.result.status } false e.after
    e.result.phase = .retryableFailure ∧
      e.result.status.attached = ["arn:aws:iam::aws:policy/Stale"] ∧
      (∃ entry, (u.live e.after).roles.find? e.input.config.name = some entry ∧
        e.result.status.attached = entry.attached.toList) ∧
      e'.result.phase = .converged ∧
      e'.result.status.attached = ["arn:aws:iam::aws:policy/ReadOnlyAccess"] ∧
      ∃ entry, e'.input.config.Realized (u.live e'.after) e'.result.status entry := by
  intro h a throttled u t e e'
  have hfaithful : Faithful u e := faithful_deploy u h false t
  have hfaithful' : Faithful u e' := faithful_deploy u _ false e.after
  have hlisted : Listed e.calls e.input.config.name := by decide +kernel
  have hkept : ∀ c ∈ e.calls, c.reply.isAbandoned = true → ¬u.Effective c := by decide +kernel
  have hphase : e'.result.phase = .converged := by decide +kernel
  exact ⟨by decide +kernel, by decide +kernel, hfaithful.attached hlisted hkept, hphase,
    by decide +kernel, hfaithful'.converged hphase⟩

end RoleHandler

end IamConvergence
