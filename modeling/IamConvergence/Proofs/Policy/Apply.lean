/-
What an application leaves of a policy of an account whose calls are disturbed. Convergence is
reported of a policy that is found under the configured name and path, has the configured document
as its default version and is identified by the status.
-/
import IamConvergence.Iam.PolicyHandler
import IamConvergence.Proofs.Policy.Versions

namespace IamConvergence

open Account (serves admits Effect effect_of_asked versions)
open Pass (Asked)

variable {τ : Type} {truthful : List String} {u : Unreliable serves (admits truthful) τ} {t t' : τ}

/-- A policy stands as it is configured, and the status tells it as it stands. -/
structure PolicyConfig.Realized (c : PolicyConfig) (a : Account) (s : PolicyStatus)
    (e : PolicyEntry) (v : DocumentVersion) : Prop where
  found : a.findPolicy c.name c.path = some e.policy
  stands : a.policies.find? e.policy.arn = some e
  default : e.versions.find? (·.id == e.policy.defaultVersionId) = some v
  document : documentsEqual (v.content.getD "") c.document = true
  status : s = ⟨e.policy.arn, e.policy.id, e.policy.name, e.policy.defaultVersionId⟩

/-- What is queued and logged is no matter. -/
theorem PolicyConfig.Realized.quiet {c : PolicyConfig} {a : Account} {s : PolicyStatus}
    {e : PolicyEntry} {v : DocumentVersion} (h : c.Realized a s e v) : c.Realized a.quiet s e v :=
  ⟨h.found, h.stands, h.default, h.document, h.status⟩

namespace PolicyHandler

variable {h : PolicyHandler} {cancelled : Bool} {cs : List (IamCall τ)}
  {report : Report PolicyStatus}

/-! ## How an application may go -/

/-- What is reported once the versions of a policy were gone through. -/
def updated (h : PolicyHandler) (status : PolicyStatus) (o : VersionOutcome) :
    Report PolicyStatus :=
  let status := { status with versionId := o.versionId.getD status.versionId }
  .settle status o.fault (updateDetails status o) h.classify

theorem updated_status (h : PolicyHandler) (status : PolicyStatus) (o : VersionOutcome) :
    (h.updated status o).status = { status with versionId := o.versionId.getD status.versionId } :=
  Report.settle_status ..

/-- How an application may go: whether a cancellation has arrived, the calls that are made, the
report and the state that is left. The rules tell the calls that find or create the policy, and
those about its versions as calls on its history. -/
inductive Applied (u : Unreliable serves (admits truthful) τ) (h : PolicyHandler) (t : τ) :
    Bool → List (IamCall τ) → Report PolicyStatus → τ → Prop where
  | unread {cancelled cancelled' : Bool} {fs : List (IamCall τ)} {f : Fault} {t' : τ}
    (find : Asked h.config.name (.findPolicy h.config.name h.config.path) cancelled fs (.error f)
      cancelled')
    (course : u.Course t fs t') : Applied u h t cancelled fs (h.fail h.status f) t'
  | uncreated {cancelled cancelled' cancelled'' : Bool} {fs ns : List (IamCall τ)} {f : Fault}
    {t' : τ}
    (find : Asked h.config.name (.findPolicy h.config.name h.config.path) cancelled fs (.ok none)
      cancelled')
    (create : Asked h.config.name (.createPolicy h.draft) cancelled' ns (.error f) cancelled'')
    (course : u.Course t (fs ++ ns) t') :
    Applied u h t cancelled (fs ++ ns) (h.fail h.status f) t'
  | created {cancelled cancelled' cancelled'' : Bool} {fs ns : List (IamCall τ)} {policy : Policy}
    {t' : τ}
    (find : Asked h.config.name (.findPolicy h.config.name h.config.path) cancelled fs (.ok none)
      cancelled')
    (create : Asked h.config.name (.createPolicy h.draft) cancelled' ns (.ok policy) cancelled'')
    (course : u.Course t (fs ++ ns) t') (details : String) :
    Applied u h t cancelled (fs ++ ns) (.success (h.status.identify policy) details) t'
  | updated {cancelled cancelled' : Bool} {fs ws : List (IamCall τ)} {vs : List (VersionCall τ)}
    {policy : Policy} {o : VersionOutcome} {m t' : τ}
    (find : Asked h.config.name (.findPolicy h.config.name h.config.path) cancelled fs
      (.ok (some policy)) cancelled')
    (course : u.Course t fs m)
    (reconciled : Version.Reconciled policy.arn h.config.document h.versionBound cancelled' vs o)
    (course' : (versions u policy.arn).Course m vs t')
    (adapted : ∀ c ∈ ws, c.request.OnVersions policy.arn) :
    Applied u h t cancelled (fs ++ ws) (h.updated (h.status.identify policy) o) t'

theorem run_update (provider : Provider IamRequest IamRequest.Answer τ) (h : PolicyHandler)
    (status : PolicyStatus) (r : Run τ) :
    let x := (Version.reconcile status.arn h.config.document h.versionBound).run
      (versionsOf provider status.arn) r
    (h.update status).run provider r = (h.updated status x.1, x.2) := by
  unfold update
  rw [Pass.run_map, Pass.run_adapt (realizes_policyVersions provider status.arn)]
  rfl

theorem onVersions_update (provider : Provider IamRequest IamRequest.Answer τ) (h : PolicyHandler)
    (status : PolicyStatus) (r : Run τ) :
    ∀ c ∈ (h.update status).calls provider r, c.request.OnVersions status.arn := by
  unfold update
  rw [Pass.calls_map]
  exact onVersions_policyVersions provider status.arn _ r

/-- An application goes as the rules say. -/
theorem applied (u : Unreliable serves (admits truthful) τ) (h : PolicyHandler) (r : Run τ) :
    Applied u h r.state r.cancelled (h.apply.calls u.provider r) (h.apply.run u.provider r).1
      (h.apply.run u.provider r).2.state := by
  unfold apply
  obtain ⟨fs, answer, r', hfind, hcourse, hrun, hcalls⟩ := u.exists_asked h.config.name
    (.findPolicy h.config.name h.config.path) _ r
  rw [hrun, hcalls]
  rcases answer with f | _ | policy
  · rw [Pass.calls_done, List.append_nil]
    exact .unread hfind hcourse
  · unfold create
    obtain ⟨ns, answer, r'', hcreate, hcourse', hrun, hcalls⟩ := u.exists_asked h.config.name
      (.createPolicy h.draft) _ r'
    rw [hrun, hcalls]
    rcases answer with f | policy
    · rw [Pass.calls_done, List.append_nil]
      exact .uncreated hfind hcreate (hcourse.append hcourse')
    · rw [Pass.calls_done, List.append_nil]
      exact .created hfind hcreate (hcourse.append hcourse') _
  · dsimp only
    rw [run_update]
    exact .updated hfind hcourse
      (Version.reconciled (versionsOf u.provider policy.arn) policy.arn h.config.document
        h.versionBound r')
      ((versions u policy.arn).course_calls _ r')
      (onVersions_update u.provider h (h.status.identify policy) r')

/-! ## Convergence -/

/-- A policy that was created is found by its name and path. -/
theorem findPolicy_of_createPolicy {a a' : Account} {policy : Policy} (hwell : a'.WellFormed)
    (heffect : Effect (.createPolicy h.draft) a policy a') :
    a'.findPolicy h.config.name h.config.path = some policy := by
  obtain ⟨-, -, rfl, rfl⟩ := heffect
  exact hwell.findPolicy_eq_some_iff.mpr ⟨_, Account.find?_putPolicy _ _ _, rfl, rfl, rfl⟩

theorem realized_of_createPolicy {a a' : Account} {policy : Policy} (hwell : a'.WellFormed)
    (heffect : Effect (.createPolicy h.draft) a policy a') :
    ∃ e v, h.config.Realized a' (h.status.identify policy) e v := by
  have hfound := findPolicy_of_createPolicy hwell heffect
  obtain ⟨-, hdocument, rfl, rfl⟩ := heffect
  have hstands := Account.find?_putPolicy a.issued (a.policyOf h.draft).arn
    ⟨a.policyOf h.draft, [⟨"v1", some h.config.document, true, a.now⟩], 2⟩
  refine ⟨⟨a.policyOf h.draft, _, _⟩, _, hfound, hstands, rfl, ?_, rfl⟩
  exact documentsEqual_self hdocument

/-- A policy that was looked up by name and path is found by them as long as it stays. -/
theorem findPolicy_of_holds {a a' : Account} {p : Policy} {e : PolicyEntry} {name path : String}
    (hwell : a.WellFormed) (hwell' : a'.WellFormed) (hfound : a.findPolicy name path = some p)
    (he : a'.policies.find? p.arn = some e)
    (hpolicy : e.policy = { p with defaultVersionId := e.policy.defaultVersionId }) :
    a'.findPolicy name path = some e.policy := by
  obtain ⟨-, -, -, rfl, rfl⟩ := hwell.findPolicy_eq_some_iff.mp hfound
  have hname : e.policy.name = p.name := by rw [hpolicy]
  have hpath : e.policy.path = p.path := by rw [hpolicy]
  have hkey := (hwell' p.arn e he).key
  rw [hname, hpath] at hkey
  refine hwell'.findPolicy_eq_some_iff.mpr ⟨e, ?_, rfl, hname, hpath⟩
  rw [hkey]
  exact he

theorem entry_of_findPolicy {a : Account} {p : Policy} {name path : String} (hwell : a.WellFormed)
    (hfound : a.findPolicy name path = some p) :
    ∃ e, a.policies.find? p.arn = some e ∧ e.policy = p := by
  obtain ⟨e, he, rfl, -, -⟩ := hwell.findPolicy_eq_some_iff.mp hfound
  rw [← (hwell _ e he).named] at he
  exact ⟨e, he, rfl⟩

theorem holds_of_findPolicy {a : Account} {p : Policy} {name path : String} (hwell : a.WellFormed)
    (hfound : a.findPolicy name path = some p) : a.Holds p.arn p := by
  obtain ⟨e, he, rfl⟩ := entry_of_findPolicy hwell hfound
  exact ⟨e, he, rfl⟩

/-- Convergence is reported of a policy that stands as it is configured. -/
theorem Applied.realized (happlied : Applied u h t cancelled cs report t')
    (hwell : (u.live t).WellFormed) (hphase : report.phase = .converged) :
    ∃ e v, h.config.Realized (u.live t') report.status e v := by
  cases happlied with
  | unread => exact absurd hphase (Report.ofFault_phase_ne _ _ _)
  | uncreated => exact absurd hphase (Report.ofFault_phase_ne _ _ _)
  | created find create course details =>
    obtain ⟨m, hfinds, hcreates⟩ := course.split
    obtain ⟨-, hkept⟩ := effect_of_asked hfinds find
    have heffect := effect_of_asked hcreates create
    rw [hkept] at heffect
    exact realized_of_createPolicy (hwell.of_effect heffect) heffect
  | @updated _ _ _ _ policy o m _ find course reconciled course' =>
    obtain ⟨hfound, hkept⟩ := effect_of_asked course find
    rw [← hkept] at hwell hfound
    have hnone : o.fault = none := (Report.settle_phase_eq_iff ..).mp hphase
    have hbefore := And.intro hwell (holds_of_findPolicy hwell hfound.symm)
    obtain ⟨hwell', e, he, hpolicy⟩ := Account.stays_of_course course' hbefore
    obtain ⟨e', v, he', hid, hdefault, hdocument⟩ :=
      Account.default_of_reconciled reconciled course' hbefore hnone
    cases he.symm.trans he'
    have harn : e.policy.arn = policy.arn := by rw [hpolicy]
    refine ⟨e, v, ?_, ?_, hdefault, hdocument, ?_⟩
    · exact findPolicy_of_holds hwell hwell' hfound.symm he hpolicy
    · rw [harn]
      exact he
    · rw [updated_status, hid, hpolicy]
      rfl

end PolicyHandler

end IamConvergence
