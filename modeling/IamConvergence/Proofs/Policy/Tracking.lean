/-
What the status tells of a policy after an application of which calls failed without effect or were
cancelled. The id of the default version comes from the look-up, from the default document or from
the version that was created, depending on how far the application got; each time it is the id of
the version that is the default by then.

Only a creation of a version moves the default of a policy, and it comes last; so whatever stops an
application before, the default is still the one that was read.
-/
import IamConvergence.Proofs.Policy.Apply

namespace IamConvergence

open Version (Evicting Reconciled)

namespace Account

variable {a a' : Account} {arn : String} {p : Policy} {truthful : List String} {τ : Type}

/-! ## The default version of a policy -/

/-- A policy stands under a resource name just as it is told. -/
def Shows (a : Account) (arn : String) (p : Policy) : Prop :=
  ∃ e, a.policies.find? arn = some e ∧ e.policy = p

theorem Shows.of_id {id : String} (hshows : a.Shows arn p) (hid : id = p.defaultVersionId) :
    a.Shows arn { p with defaultVersionId := id } := by
  rw [hid]
  exact hshows

theorem Shows.of_create {text id : String} (hshows : a.Shows arn p)
    (h : versionEffect arn (.create text) a = .ok (id, a')) :
    a'.Shows arn { p with defaultVersionId := id } := by
  obtain ⟨e, he, rfl⟩ := hshows
  obtain ⟨v, rfl, e', he', -, -, hv, rfl⟩ := effect_of_create h
  cases he.symm.trans he'
  refine ⟨e.push v, find?_putPolicy _ arn _, ?_⟩
  have hdefault : (e.push v).policy.defaultVersionId = v.id :=
    e.push_defaultVersionId (by rw [hv])
  rw [e.push_policy, hdefault]

/-- Other requests about the versions of a policy leave it as it is. -/
theorem Shows.of_versionEffect {q : VersionRequest} {answer : q.Answer} (hshows : a.Shows arn p)
    (hq : ∀ text, q ≠ .create text) (h : versionEffect arn q a = .ok (answer, a')) :
    a'.Shows arn p := by
  cases q with
  | getDefault =>
    obtain ⟨-, -, -, rfl⟩ := effect_of_getDefault h
    exact hshows
  | list =>
    have hlist : Effect (.listVersions arn) a answer a' := effect_eq_ok_iff.mp h
    obtain ⟨-, rfl⟩ := hlist
    exact hshows
  | create text => exact absurd rfl (hq text)
  | delete id =>
    obtain ⟨e, he, rfl⟩ := hshows
    have hdelete : Effect (.deleteVersion arn id) a answer a' := effect_eq_ok_iff.mp h
    obtain ⟨e', he', v, -, -, rfl⟩ := hdelete
    cases he.symm.trans he'
    exact ⟨_, find?_putPolicy a arn _, rfl⟩

variable {u : Unreliable serves (admits truthful) τ} {t t' : τ} {vs : List (VersionCall τ)}
  {desired current : String} {bound : Nat} {cancelled : Bool} {o : VersionOutcome}

theorem Shows.of_explains {c : VersionCall τ} (hshows : (u.live c.before).Shows arn p)
    (hq : ∀ text, c.request ≠ .create text) (h : (versions u arn).Explains c) :
    (u.live c.after).Shows arn p := by
  rcases Disturbed.eq_or_effect h with hkept | ⟨answer, heffect⟩
  · have hlive : u.live c.after = u.live c.before := hkept
    rw [hlive]
    exact hshows
  · exact hshows.of_versionEffect hq heffect

/-- However room is made, the outcome tells the version that is the default in the end, unless a
call was given up after its effect. -/
theorem Shows.of_evicting {history : List DocumentVersion} {evicted : List String}
    (h : Evicting arn desired p.defaultVersionId bound cancelled history evicted vs o)
    (hcourse : (versions u arn).Course t vs t')
    (hkept : ∀ c ∈ vs, c.reply.isAbandoned = true → ¬(versions u arn).Effective c)
    (hshows : (u.live t).Shows arn p) :
    ∃ id, o.versionId = some id ∧ (u.live t').Shows arn { p with defaultVersionId := id } := by
  -- on the rules: until the creation the policy stays as it is
  induction h generalizing t with
  | stopped | crowded =>
    obtain rfl := hcourse.lead
    exact ⟨p.defaultVersionId, rfl, hshows⟩
  | created evicted reply s s' hroom =>
    obtain ⟨rfl, hcall, rfl, -⟩ := hcourse.uncons
    cases hanswer : reply.answer arn with
    | ok id => exact ⟨id, rfl, hshows.of_create (Disturbed.effect_of_ok hcall hanswer)⟩
    | error f =>
      have hlive : u.live t' = u.live s :=
        Unreliable.Explains.live_eq_of_error hcall hanswer (hkept _ List.mem_cons_self)
      refine ⟨p.defaultVersionId, rfl, ?_⟩
      rw [hlive]
      exact hshows
  | kept evicted reply s s' hfull candidate answer =>
    obtain ⟨rfl, hcall, rfl, -⟩ := hcourse.uncons
    exact ⟨p.defaultVersionId, rfl, hshows.of_explains nofun hcall⟩
  | deleted reply s s' hfull candidate answer rest ih =>
    obtain ⟨rfl, hcall, hrest⟩ := hcourse.uncons
    exact ih hrest (fun c hc => hkept c (List.mem_cons_of_mem _ hc))
      (hshows.of_explains nofun hcall)

/-- The default version that is read is the one that the policy shows. -/
theorem Shows.of_getDefault {get : Reply DocumentVersion} {s s' : τ}
    (hcourse : (versions u arn).Course t (⟨arn, .getDefault, get, s, s'⟩ :: vs) t')
    (hshows : (u.live t).Shows arn p) :
    (versions u arn).Course s' vs t' ∧ (u.live s').Shows arn p ∧
      ∀ v, get.answer arn = .ok v → v.id = p.defaultVersionId := by
  obtain ⟨rfl, hcall, hrest⟩ := hcourse.uncons
  refine ⟨hrest, hshows.of_explains nofun hcall, fun v hanswer => ?_⟩
  obtain ⟨e, he, rfl⟩ := hshows
  obtain ⟨e', he', hv, -⟩ := effect_of_getDefault (Disturbed.effect_of_ok hcall hanswer)
  cases he.symm.trans he'
  simpa using List.find?_some hv

/-- A pass over the versions of a policy tells the version that is the default in the end, or no
version, and then the default is the one that the policy had. -/
theorem Shows.of_reconciled (h : Reconciled arn desired bound cancelled vs o)
    (hcourse : (versions u arn).Course t vs t')
    (hkept : ∀ c ∈ vs, c.reply.isAbandoned = true → ¬(versions u arn).Effective c)
    (hshows : (u.live t).Shows arn p) :
    (u.live t').Shows arn
      { p with defaultVersionId := o.versionId.getD p.defaultVersionId } := by
  -- by where the pass stopped: before the default was read, before room is made, or later
  cases h with
  | skipped =>
    obtain rfl := hcourse.lead
    exact hshows
  | unread get s s' answer =>
    obtain ⟨hrest, hshows', -⟩ := Shows.of_getDefault hcourse hshows
    obtain rfl := hrest.lead
    exact hshows'
  | unchanged get s s' answer | stopped get s s' answer =>
    obtain ⟨hrest, hshows', hread⟩ := Shows.of_getDefault hcourse hshows
    obtain rfl := hrest.lead
    exact hshows'.of_id (hread _ answer)
  | unlisted get s s' answer =>
    obtain ⟨hrest, hshows', hread⟩ := Shows.of_getDefault hcourse hshows
    obtain ⟨rfl, hlist, rfl, -⟩ := hrest.uncons
    exact (hshows'.of_explains nofun hlist).of_id (hread _ answer)
  | listed get s s' answer heq cancels list l l' listed rest =>
    obtain ⟨hrest, hshows', hread⟩ := Shows.of_getDefault hcourse hshows
    obtain ⟨rfl, hlist, hevicts⟩ := hrest.uncons
    rw [hread _ answer] at rest
    obtain ⟨id, hid, hshows''⟩ := Shows.of_evicting rest hevicts
      (fun c hc => hkept c (List.mem_cons_of_mem _ (List.mem_cons_of_mem _ hc)))
      (hshows'.of_explains nofun hlist)
    rw [hid]
    exact hshows''

end Account

/-! ## Applications -/

namespace PolicyHandler

open Account (serves admits effect_of_asked live_eq_of_asked versions versions_kept)
open Pass (Asked)

variable {τ : Type} {truthful : List String} {u : Unreliable serves (admits truthful) τ}
  {h : PolicyHandler} {t t' : τ} {cs ws : List (IamCall τ)} {policy : Policy}
  {report : Report PolicyStatus}

/-- The policy that some calls of a handler found, or created. -/
def Identifies (h : PolicyHandler) (cs : List (IamCall τ)) (policy : Policy) : Prop :=
  Call.Answered cs (.findPolicy h.config.name h.config.path) (.ok (some policy)) ∨
    Call.Answered cs (.createPolicy h.draft) (.ok policy)

/-- The status tells a policy that was found or created as it stands now, and is the prior one
otherwise. -/
structure Tracks (u : Unreliable serves (admits truthful) τ) (h : PolicyHandler)
    (cs : List (IamCall τ)) (report : Report PolicyStatus) (t' : τ) : Prop where
  live : ∀ policy, Identifies h cs policy → ∃ e, (u.live t').policies.find? policy.arn = some e ∧
    (u.live t').findPolicy h.config.name h.config.path = some e.policy ∧
    report.status = ⟨e.policy.arn, e.policy.id, e.policy.name, e.policy.defaultVersionId⟩
  prior : (∀ policy, ¬Identifies h cs policy) → report.status = h.status

section

variable {cancelled cancelled' : Bool}

theorem identifies_append {ds : List (IamCall τ)} :
    Identifies h (cs ++ ds) policy ↔ Identifies h cs policy ∨ Identifies h ds policy := by
  unfold Identifies
  rw [Call.answered_append, Call.answered_append]
  tauto

theorem eq_of_find {answer : Except Fault (Option Policy)}
    (hfind : Asked h.config.name (IamRequest.findPolicy h.config.name h.config.path) cancelled cs answer
      cancelled') (hpolicy : Identifies h cs policy) : .ok (some policy) = answer := by
  rcases hpolicy with hfound | hcreated
  · exact hfind.answer_eq hfound
  · exact absurd hcreated (hfind.not_answered (by nofun) _)

theorem eq_of_create {answer : Except Fault Policy}
    (hcreate : Asked h.config.name (IamRequest.createPolicy h.draft) cancelled cs answer cancelled')
    (hpolicy : Identifies h cs policy) : .ok policy = answer := by
  rcases hpolicy with hfound | hcreated
  · exact absurd hfound (hcreate.not_answered (by nofun) _)
  · exact hcreate.answer_eq hcreated

/-- The calls about the versions of a policy identify none. -/
theorem not_identifies_of_onVersions {arn : String} (hws : ∀ c ∈ ws, c.request.OnVersions arn) :
    ¬Identifies h ws policy := by
  rintro (hfound | hcreated)
  · exact not_answered_of_onVersions hws id _ hfound
  · exact not_answered_of_onVersions hws id _ hcreated

end

/-- Nothing was found or created. -/
theorem Tracks.of_prior (hnone : ∀ policy, ¬Identifies h cs policy)
    (hstatus : report.status = h.status) : Tracks u h cs report t' :=
  ⟨fun policy hpolicy => absurd hpolicy (hnone policy), fun _ => hstatus⟩

/-- A policy was found or created, and nothing else. -/
theorem Tracks.of_live {e : PolicyEntry} (hpolicy : Identifies h cs policy)
    (honly : ∀ policy', Identifies h cs policy' → policy' = policy)
    (he : (u.live t').policies.find? policy.arn = some e)
    (hfound : (u.live t').findPolicy h.config.name h.config.path = some e.policy)
    (hstatus : report.status =
      ⟨e.policy.arn, e.policy.id, e.policy.name, e.policy.defaultVersionId⟩) :
    Tracks u h cs report t' := by
  refine ⟨fun policy' hpolicy' => ?_, fun hnone => absurd hpolicy (hnone policy)⟩
  rw [honly policy' hpolicy']
  exact ⟨e, he, hfound, hstatus⟩

theorem tracks_create {r : Run τ} (hwell : (u.live r.state).WellFormed) {fs : List (IamCall τ)}
    (hfs : ∀ policy, ¬Identifies h fs policy) :
    Tracks u h (fs ++ h.create.calls u.provider r) (h.create.run u.provider r).1
      (h.create.run u.provider r).2.state := by
  unfold create
  obtain ⟨ns, answer, r', hcreate, hcourse, hrun, hcalls⟩ := u.exists_asked h.config.name
    (.createPolicy h.draft) _ r
  rw [hrun, hcalls]
  have honly : ∀ policy, Identifies h (fs ++ ns) policy → .ok policy = answer := fun policy hpolicy =>
    eq_of_create hcreate ((identifies_append.mp hpolicy).resolve_left (hfs policy))
  cases answer with
  | error f =>
    rw [Pass.calls_done, List.append_nil]
    exact .of_prior (fun policy hpolicy => nomatch honly policy hpolicy) rfl
  | ok policy =>
    rw [Pass.calls_done, List.append_nil]
    have heffect := effect_of_asked hcourse hcreate
    have hcreated : Identifies h (fs ++ ns) policy :=
      identifies_append.mpr (.inr (.inr hcreate.answered))
    have hfound := findPolicy_of_createPolicy (hwell.of_effect heffect) heffect
    obtain ⟨e, he, rfl⟩ := entry_of_findPolicy (hwell.of_effect heffect) hfound
    refine .of_live hcreated (fun policy' hpolicy' => ?_) he hfound rfl
    cases honly policy' hpolicy'
    rfl

theorem tracks_update {r : Run τ} (hwell : (u.live r.state).WellFormed)
    (hfound : (u.live r.state).findPolicy h.config.name h.config.path = some policy)
    {fs : List (IamCall τ)} (hpolicy : Identifies h fs policy)
    (honly : ∀ policy', Identifies h fs policy' → policy' = policy)
    (hkept : ∀ c ∈ (h.update (h.status.identify policy)).calls u.provider r,
      c.reply.isAbandoned = true → ¬u.Effective c) :
    Tracks u h (fs ++ (h.update (h.status.identify policy)).calls u.provider r)
      ((h.update (h.status.identify policy)).run u.provider r).1
      ((h.update (h.status.identify policy)).run u.provider r).2.state := by
  let pass := Version.reconcile policy.arn h.config.document h.versionBound
  have hcalls : (h.update (h.status.identify policy)).calls u.provider r =
      (pass.adapt (policyVersions policy.arn)).calls u.provider r := Pass.calls_map ..
  rw [hcalls] at hkept
  have hcourse := (versions u policy.arn).course_calls pass r
  have hentry := entry_of_findPolicy hwell hfound
  -- the policy that was found stays, up to the default version, which the outcome tells
  obtain ⟨e, he, hpolicy'⟩ := Account.Shows.of_reconciled (Version.reconciled _ _ _ _ r) hcourse
    (versions_kept hkept) hentry
  obtain ⟨hwell', -⟩ := Account.stays_of_course hcourse
    (And.intro hwell (holds_of_findPolicy hwell hfound))
  have honVersions := onVersions_update u.provider h (h.status.identify policy) r
  rw [run_update]
  refine .of_live (identifies_append.mpr (.inl hpolicy)) (fun policy' hpolicy' => ?_) he ?_ ?_
  · exact honly policy'
      ((identifies_append.mp hpolicy').resolve_right (not_identifies_of_onVersions honVersions))
  · exact findPolicy_of_holds hwell hwell' hfound he (by rw [hpolicy'])
  · rw [updated_status, hpolicy']
    rfl

/-- However its calls are disturbed, unless one is given up after its effect. -/
theorem tracks_apply {r : Run τ} (hwell : (u.live r.state).WellFormed)
    (hkept : ∀ c ∈ h.apply.calls u.provider r, c.reply.isAbandoned = true → ¬u.Effective c) :
    Tracks u h (h.apply.calls u.provider r) (h.apply.run u.provider r).1
      (h.apply.run u.provider r).2.state := by
  unfold apply at hkept ⊢
  obtain ⟨fs, answer, r', hfind, hcourse, hrun, hcalls⟩ := u.exists_asked h.config.name
    (.findPolicy h.config.name h.config.path) _ r
  rw [hcalls] at hkept
  rw [hrun, hcalls]
  rw [← live_eq_of_asked hcourse hfind rfl] at hwell
  rcases answer with f | _ | policy
  · rw [Pass.calls_done, List.append_nil]
    exact .of_prior (fun policy hpolicy => nomatch eq_of_find hfind hpolicy) rfl
  · exact tracks_create hwell fun policy hpolicy => nomatch eq_of_find hfind hpolicy
  · obtain ⟨hfound, hsame⟩ := effect_of_asked hcourse hfind
    rw [← hsame] at hfound
    refine tracks_update hwell hfound.symm (.inl hfind.answered) (fun policy' hpolicy' => ?_)
      fun c hc => hkept c (List.mem_append_right _ hc)
    cases eq_of_find hfind hpolicy'
    rfl

/-- From any reachable account, with any status and any bound: the status follows the policy that was
found or created, whether or not the application converges. -/
theorem apply_tracks_policy (u : Unreliable serves (admits truthful) τ) (h : PolicyHandler)
    (cancelled : Bool) {t : τ} (hreachable : (u.live t).Reachable)
    (hkept : ∀ c ∈ (Pass.episode u.provider apply h cancelled t).calls,
      c.reply.isAbandoned = true → ¬u.Effective c) :
    Tracks u h (Pass.episode u.provider apply h cancelled t).calls
      (Pass.episode u.provider apply h cancelled t).result
      (Pass.episode u.provider apply h cancelled t).after :=
  tracks_apply hreachable.wellFormed hkept

/-- A policy with two versions under a bound of two. The eviction is throttled, and the status tells
the default version; or it succeeds and the cancellation ends the creation before its effect, and
the status tells it still; and with the look-up lost the status stays as it was. -/
theorem apply_tracks_policy_throttled :
    let arn := "arn:aws:iam::123456789012:policy/read"
    let h : PolicyHandler :=
      ⟨⟨"read", "[]", "", "/", .empty⟩, { versionId := "v1" }, Fault.defaultClass, 2⟩
    let a := (Account.perform (.createVersion arn "1" true)
      (Account.perform (.createPolicy { h.draft with document := "0" }) {}).2).2
    let throttled : Fault := .provider arn "DeletePolicyVersion" "Throttling: Rate exceeded" true
    let read : List Disturbance := [.none false, .none false, .none false, .none false]
    let u := Account.interrupted []
    let t (ds : List Disturbance) : { a : Account // a.Truthful [] } × List Disturbance :=
      (⟨a, by decide +kernel⟩, ds)
    let e (ds : List Disturbance) := Pass.episode u.provider apply h false (t ds)
    let evicting := e (read ++ [.fault throttled false])
    let creating := e (read ++ [.none false, .lost])
    let unread := e [.lost]
    a.Reachable ∧
      (evicting.result.phase = .retryableFailure ∧ evicting.result.status.versionId = "v2" ∧
        Tracks u h evicting.calls evicting.result evicting.after) ∧
      (creating.result.phase = .retryableFailure ∧ creating.result.status.versionId = "v2" ∧
        Tracks u h creating.calls creating.result creating.after) ∧
      unread.result.status = h.status ∧ Tracks u h unread.calls unread.result unread.after := by
  intro arn h a throttled read u t e evicting creating unread
  have hreachable : a.Reachable := ((Account.Reachable.empty _).performed _).performed _
  have hlive : ∀ ds, (u.live (t ds)).Reachable := by
    intro ds
    simp only [u, t, Account.interrupted]
    exact hreachable.quiet
  have htracks : ∀ ds, (∀ c ∈ (e ds).calls, c.reply.isAbandoned = true → ¬u.Effective c) →
      Tracks u h (e ds).calls (e ds).result (e ds).after := fun ds =>
    apply_tracks_policy u h false (hlive ds)
  refine ⟨hreachable, ⟨by decide +kernel, by decide +kernel, htracks _ ?_⟩,
    ⟨by decide +kernel, by decide +kernel, htracks _ ?_⟩, by decide +kernel, htracks _ ?_⟩
  · decide +kernel
  · decide +kernel
  · decide +kernel

end PolicyHandler

end IamConvergence
