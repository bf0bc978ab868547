/-
A pass over the versions of a policy of an account whose calls are disturbed. Whatever it does, the
policy keeps its name and place; and if it ends without a fault, the default version is the desired
one and has the id that the pass reports.
-/
import IamConvergence.Proofs.Account.Adapters
import IamConvergence.Proofs.Account.WellFormed
import IamConvergence.Proofs.Document.Equality
import IamConvergence.Proofs.Version.Trace

namespace IamConvergence.Account

variable {a a' : Account} {arn : String} {e : PolicyEntry} {truthful : List String} {τ : Type}

/-! ## One call -/

theorem effect_of_getDefault {v : DocumentVersion}
    (h : versionEffect arn .getDefault a = .ok (v, a')) :
    ∃ e, a.policies.find? arn = some e ∧
      e.versions.find? (·.id == e.policy.defaultVersionId) = some v ∧ a' = a := by
  cases hfind : a.policies.find? arn with
  | none =>
    simp only [versionEffect, hfind] at h
    cases h
  | some e =>
    simp only [versionEffect, hfind] at h
    have hget : Effect (.getVersion arn e.policy.defaultVersionId) a v a' := effect_eq_ok_iff.mp h
    obtain ⟨⟨e', he', hv⟩, hkept⟩ := hget
    cases hfind.symm.trans he'
    exact ⟨e, rfl, hv, hkept⟩

theorem effect_of_create {content id : String}
    (h : versionEffect arn (.create content) a = .ok (id, a')) :
    ∃ v, v.id = id ∧ Effect (.createVersion arn content true) a v a' := by
  have hmap : (a.effect (.createVersion arn content true)).map (fun x => (x.1.id, x.2)) =
      .ok (id, a') := h
  cases hcreate : a.effect (.createVersion arn content true) with
  | error f =>
    rw [hcreate] at hmap
    cases hmap
  | ok x =>
    rw [hcreate] at hmap
    cases hmap
    exact ⟨x.1, rfl, effect_eq_ok_iff.mp hcreate⟩

/-- What is done about versions is done by a request. -/
theorem exists_effect {q : VersionRequest} {answer : q.Answer}
    (h : versionEffect arn q a = .ok (answer, a')) : ∃ q' answer', Effect q' a answer' a' := by
  cases q with
  | getDefault =>
    obtain ⟨e, he, hv, hkept⟩ := effect_of_getDefault h
    exact ⟨.getVersion arn e.policy.defaultVersionId, _, ⟨e, he, hv⟩, hkept⟩
  | list => exact ⟨.listVersions arn, _, effect_eq_ok_iff.mp h⟩
  | create content =>
    obtain ⟨v, -, hcreate⟩ := effect_of_create h
    exact ⟨.createVersion arn content true, v, hcreate⟩
  | delete id => exact ⟨.deleteVersion arn id, (), effect_eq_ok_iff.mp h⟩

/-! ## What stays -/

/-- The policy of a place, up to its default version. -/
def Holds (a : Account) (arn : String) (p : Policy) : Prop :=
  ∃ e, a.policies.find? arn = some e ∧
    e.policy = { p with defaultVersionId := e.policy.defaultVersionId }

theorem holds_of_versionEffect {p : Policy} {q : VersionRequest} {answer : q.Answer}
    (h : versionEffect arn q a = .ok (answer, a')) (hholds : a.Holds arn p) : a'.Holds arn p := by
  obtain ⟨e, he, hpolicy⟩ := hholds
  cases q with
  | getDefault =>
    obtain ⟨-, -, -, rfl⟩ := effect_of_getDefault h
    exact ⟨e, he, hpolicy⟩
  | list =>
    have hlist : Effect (.listVersions arn) a answer a' := effect_eq_ok_iff.mp h
    obtain ⟨-, rfl⟩ := hlist
    exact ⟨e, he, hpolicy⟩
  | create content =>
    obtain ⟨v, -, e', he', -, -, -, rfl⟩ := effect_of_create h
    cases he.symm.trans he'
    refine ⟨e.push v, find?_putPolicy _ arn _, ?_⟩
    rw [e.push_policy, hpolicy]
  | delete id =>
    have hdelete : Effect (.deleteVersion arn id) a answer a' := effect_eq_ok_iff.mp h
    obtain ⟨e', he', v, -, -, rfl⟩ := hdelete
    cases he.symm.trans he'
    exact ⟨_, find?_putPolicy a arn _, hpolicy⟩

/-! ## A whole pass -/

section

variable {u : Unreliable serves (admits truthful) τ} {t t' : τ} {cs : List (VersionCall τ)}
  {desired : String} {bound : Nat} {cancelled : Bool} {o : VersionOutcome} {p : Policy}

/-- A well-formed account with a policy in a place stays one. -/
theorem stays_of_explains {c : VersionCall τ} (h : (versions u arn).Explains c)
    (hbefore : (u.live c.before).WellFormed ∧ (u.live c.before).Holds arn p) :
    (u.live c.after).WellFormed ∧ (u.live c.after).Holds arn p := by
  obtain ⟨hwell, hholds⟩ := hbefore
  rcases Disturbed.eq_or_effect h with hkept | ⟨answer, heffect⟩
  · have hkept' : u.live c.after = u.live c.before := hkept
    rw [hkept']
    exact ⟨hwell, hholds⟩
  · obtain ⟨q', answer', heffect'⟩ := exists_effect heffect
    exact ⟨hwell.of_effect heffect', holds_of_versionEffect heffect hholds⟩

theorem stays_of_course (h : (versions u arn).Course t cs t')
    (hbefore : (u.live t).WellFormed ∧ (u.live t).Holds arn p) :
    (u.live t').WellFormed ∧ (u.live t').Holds arn p :=
  h.lead.invariant (I := fun s => (u.live s).WellFormed ∧ (u.live s).Holds arn p)
    (fun c hc => stays_of_explains (h.explained c hc)) hbefore

/-- A pass without a fault leaves the desired version as the default one. -/
theorem default_of_reconciled (h : Version.Reconciled arn desired bound cancelled cs o)
    (hcourse : (versions u arn).Course t cs t')
    (hbefore : (u.live t).WellFormed ∧ (u.live t).Holds arn p) (hnone : o.fault = none) :
    ∃ e v, (u.live t').policies.find? arn = some e ∧
      o.versionId = some e.policy.defaultVersionId ∧
      e.versions.find? (·.id == e.policy.defaultVersionId) = some v ∧
      documentsEqual (v.content.getD "") desired = true := by
  rcases h.of_fault_eq_none hnone with
    ⟨get, s, s', v, rfl, hanswer, hsame, hid⟩ | ⟨id, hid, reply, s, s', hlast, hanswer⟩
  · -- the default version was the desired one
    obtain ⟨rfl, rfl⟩ := hcourse.lead
    have hcall := hcourse.explained _ List.mem_cons_self
    obtain ⟨e, he, hv, hkept⟩ := effect_of_getDefault (Disturbed.effect_of_ok hcall hanswer)
    have hvid : v.id = e.policy.defaultVersionId := by simpa using List.find?_some hv
    have hlive : u.live t' = u.live s := hkept
    refine ⟨e, v, ?_, by rw [hid, hvid], hv, hsame⟩
    rw [hlive]
    exact he
  · -- it was created last, in an account that had stayed well-formed
    obtain rfl := hcourse.lead.eq_after hlast
    have hmem := List.mem_of_getLast? hlast
    have hcall := hcourse.explained _ hmem
    obtain ⟨⟨hwell, -⟩, -⟩ := hcourse.lead.through
      (I := fun s => (u.live s).WellFormed ∧ (u.live s).Holds arn p)
      (fun c hc => stays_of_explains (hcourse.explained c hc)) hbefore _ hmem
    obtain ⟨v, hvid, e, he, -, hdocument, hv, hafter⟩ :=
      effect_of_create (Disturbed.effect_of_ok hcall hanswer)
    have hlive : u.live t' = _ := hafter
    have hdefault : (e.push v).policy.defaultVersionId = v.id :=
      e.push_defaultVersionId (by rw [hv])
    have hfound := (hwell arn e he).numbered.find?_push (v := v) (by rw [hv]; rfl)
    refine ⟨e.push v, v, ?_, ?_, ?_, ?_⟩
    · rw [hlive]
      exact find?_putPolicy _ arn _
    · rw [hid, hdefault, hvid]
    · rw [hdefault]
      exact hfound
    · rw [hv]
      exact documentsEqual_self hdocument

end

/-! ## Calls given up after their effect -/

/-- If no call on an account was given up after its effect, then no call about the versions of a policy
was. -/
theorem versions_kept {u : Unreliable serves (admits truthful) τ} {α : Type}
    {p : Pass VersionRequest VersionRequest.Answer α} {r : Run τ}
    (hkept : ∀ c ∈ (p.adapt (policyVersions arn)).calls u.provider r,
      c.reply.isAbandoned = true → ¬u.Effective c) :
    ∀ c ∈ p.calls (versionsOf u.provider arn) r,
      c.reply.isAbandoned = true → ¬(versions u arn).Effective c := by
  refine Pass.forall_calls_of_adapt (realizes_policyVersions u.provider arn)
    (fun guarded resource q r hmade hadapted habandoned => ?_) p r hkept
  have hcall : ∀ {q' : IamRequest} {next : Except Fault q'.Answer → IamPass (Except Fault q.Answer)},
      policyVersions arn guarded resource q = .call guarded resource q' next →
        (u.provider q' r.state).1.isAbandoned = true →
          u.live (u.provider q' r.state).2 = u.live r.state := by
    intro q' next hpass habandoned'
    rw [hpass, Pass.calls_call_made u.provider resource q' next hmade] at hadapted
    exact Classical.not_not.mp (hadapted _ List.mem_cons_self habandoned')
  refine Classical.not_not.mpr ?_
  cases q with
  | getDefault =>
    -- two calls, but they only read
    rcases (disturbed_getDefault u arn r.state).eq_or_effect with hsame | ⟨v, heffect⟩
    · exact hsame
    · obtain ⟨-, -, -, hsame⟩ := effect_of_getDefault heffect
      exact hsame
  | list => exact hcall rfl habandoned
  | create content => exact hcall rfl ((Reply.isAbandoned_map _ _).symm.trans habandoned)
  | delete id => exact hcall rfl habandoned

end IamConvergence.Account
