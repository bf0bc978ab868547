/-
The deletion of a policy of a reachable account, however its calls are disturbed. It asks for the
versions that are not the default, one by one, and for the policy only once the default version is
all that is left; so wherever it stops, the policy is gone or its default version is as it was.

The induction over the versions is carried by what is left of the policy: besides the default
version just versions that are still to be deleted, of which none is the default.
-/
import IamConvergence.Proofs.Policy.Convergence
import IamConvergence.Proofs.Account.Atomicity
import IamConvergence.Proofs.Role.Healing

namespace IamConvergence

open DocumentVersion (bare mem_others others)

/-! ## Policies with fewer versions -/

/-- A policy entry of which versions other than the default have been deleted. -/
structure PolicyEntry.Pruned (e e' : PolicyEntry) : Prop where
  policy : e'.policy = e.policy
  default : e'.versions.filter (·.isDefault) = e.versions.filter (·.isDefault)
  fewer : e'.versions.Sublist e.versions

namespace PolicyEntry.Pruned

variable {e e' e'' : PolicyEntry}

theorem refl (e : PolicyEntry) : e.Pruned e := ⟨rfl, rfl, .refl _⟩

theorem trans (h : e.Pruned e') (h' : e'.Pruned e'') : e.Pruned e'' :=
  ⟨h'.policy.trans h.policy, h'.default.trans h.default, h'.fewer.trans h.fewer⟩

end PolicyEntry.Pruned

namespace Account

variable {a a' a'' : Account} {arn id resource : String} {ids truthful : List String}
  {f : Fault} {e : PolicyEntry}

/-- What stands under a resource name stood there, if with more versions. -/
def Prunes (a a' : Account) (arn : String) : Prop :=
  ∀ e', a'.policies.find? arn = some e' → ∃ e, a.policies.find? arn = some e ∧ e.Pruned e'

namespace Prunes

theorem refl (a : Account) (arn : String) : a.Prunes a arn := fun e he => ⟨e, he, .refl e⟩

theorem trans (h : a.Prunes a' arn) (h' : a'.Prunes a'' arn) : a.Prunes a'' arn := by
  intro e'' he''
  obtain ⟨e', he', hpruned'⟩ := h' e'' he''
  obtain ⟨e, he, hpruned⟩ := h e' he'
  exact ⟨e, he, hpruned.trans hpruned'⟩

theorem of_absent (habsent : a'.policies.find? arn = none) : a.Prunes a' arn := by
  intro e' he'
  cases habsent.symm.trans he'

end Prunes

/-! ## One call -/

/-- The versions of a policy are not found only if it is not there. -/
theorem absent_of_listVersions (h : a.effect (.listVersions arn) = .error f) :
    a.policies.find? arn = none := by
  cases he : a.policies.find? arn with
  | none => rfl
  | some e =>
    have hlist : Effect (.listVersions arn) a (e.versions.map bare) a := ⟨⟨e, he, rfl⟩, rfl⟩
    cases (effect_eq_ok_iff.mpr hlist).symm.trans h

/-- A version is not found only if the policy has none with its id. -/
theorem fresh_of_deleteVersion (h : a.effect (.deleteVersion arn id) = .error f)
    (hnotFound : f.isNotFound = true) (he : a.policies.find? arn = some e) :
    VersionStore.Fresh id e.versions := by
  cases hfind : e.versions.find? (·.id == id) with
  | none =>
    intro v hv hid
    exact List.find?_eq_none.mp hfind v hv (beq_iff_eq.mpr hid)
  | some v =>
    have hrefused := map_eq_error_iff.mp h
    simp only [deleteVersion, policyEntry_eq_ok_iff.mpr he, ok_bind, hfind] at hrefused
    split at hrefused
    · cases hrefused
      cases hnotFound
    · cases hrefused

/-- A version that is deleted is not the default, and it is the only one with its id. -/
theorem without_of_deleteVersion {answer : Unit} (hdated : a.Dated)
    (h : Effect (.deleteVersion arn id) a answer a') :
    ∃ e, a.policies.find? arn = some e ∧ (∃ v ∈ others e.versions, v.id = id) ∧
      a' = a.putPolicy arn { e with versions := Version.without id e.versions } := by
  obtain ⟨e, he, v, hv, hnot, rfl⟩ := h
  have hid : v.id = id := by simpa using List.find?_some hv
  refine ⟨e, he, ⟨v, mem_others.mpr ⟨List.mem_of_find?_eq_some hv, hnot⟩, hid⟩, ?_⟩
  rw [eraseP_eq_without (hdated arn e he).orderly.sound.distinct]

/-! ## What is left of a policy -/

/-- The fault of a policy that has more than one version. -/
def severalVersions (arn : String) : Fault :=
  .refusal arn "DeletePolicy"
    ("DeleteConflict: This policy has more than one version. " ++
      "Before you delete a policy, you must delete the policy's versions.")

/-- Nothing but the deletion of such a policy is refused for that. -/
theorem several_of_effect {q : IamRequest} (h : a.effect q = .error (severalVersions arn)) :
    q = .deletePolicy arn ∧ ∃ e, a.policies.find? arn = some e ∧ 1 < e.versions.length := by
  have hoperation : q.operation = "DeletePolicy" := (Refusal.of_effect h).operation_eq
  cases q with
  | deletePolicy arn' =>
    have hrefused := map_eq_error_iff.mp h
    cases he : a.policies.find? arn' with
    | none =>
      simp [deletePolicy, policyEntry_of_none he, error_bind, noPolicy, severalVersions,
        Fault.refusal] at hrefused
    | some e =>
      simp only [deletePolicy, policyEntry_eq_ok_iff.mpr he, ok_bind] at hrefused
      split at hrefused
      · rename_i hseveral
        obtain rfl : arn' = arn := (Fault.provider.inj (Except.error.inj hrefused)).1
        exact ⟨rfl, e, he, hseveral⟩
      · split at hrefused
        · simp [severalVersions, Fault.refusal] at hrefused
        · cases hrefused
  | _ => exact absurd hoperation (by simp [IamRequest.operation])

/-- The fault of a policy that is attached to a role. -/
def stillAttached (arn : String) : Fault :=
  .refusal arn "DeletePolicy" "DeleteConflict: Cannot delete a policy attached to entities."

theorem effect_deletePolicy_of_attached {role : String} (he : a.policies.find? arn = some e)
    (hone : e.versions.length = 1) (hattached : a.Attached role arn) :
    a.effect (.deletePolicy arn) = .error (stillAttached arn) := by
  refine map_eq_error_iff.mpr ?_
  simp only [deletePolicy, policyEntry_eq_ok_iff.mpr he, ok_bind]
  rw [if_neg (by omega), if_pos hattached.in_use]
  rfl

/-- Besides the default version a policy has just versions that are still to be deleted, if it is
there at all. -/
structure Clearing (a : Account) (arn : String) (ids : List String) : Prop where
  wellFormed : a.WellFormed
  dated : a.Dated
  rest : ∀ e, a.policies.find? arn = some e → ∀ v ∈ others e.versions, v.id ∈ ids
  spared : ∀ e, a.policies.find? arn = some e → e.policy.defaultVersionId ∉ ids

namespace Clearing

theorem of_absent (hwell : a.WellFormed) (hdated : a.Dated) (habsent : a.policies.find? arn = none)
    (ids : List String) : a.Clearing arn ids := by
  refine ⟨hwell, hdated, fun e he => ?_, fun e he => ?_⟩
  · cases habsent.symm.trans he
  · cases habsent.symm.trans he

/-- To begin with, the listed versions that are not the default. -/
theorem of_listVersions {versions : List DocumentVersion} (hwell : a.WellFormed) (hdated : a.Dated)
    (h : Effect (.listVersions arn) a versions a') :
    a.Clearing arn ((others versions).map (·.id)) := by
  obtain ⟨⟨e, he, hlisted⟩, -⟩ := h
  have hids : (others versions).map (·.id) = (others e.versions).map (·.id) := by
    have hbare : versions = e.versions.map bare := hlisted
    rw [hbare, DocumentVersion.others_map_bare, List.map_map]
    rfl
  rw [hids]
  refine ⟨hwell, hdated, fun e' he' v hv => ?_, fun e' he' hmem => ?_⟩
  · cases he.symm.trans he'
    exact List.mem_map_of_mem hv
  · cases he.symm.trans he'
    obtain ⟨v, hv, hid⟩ := List.mem_map.mp hmem
    exact (hdated arn e he).ne_default hv hid

/-- A version of an id that no version has need not be deleted. -/
theorem of_fresh (h : a.Clearing arn (id :: ids))
    (hfresh : ∀ e, a.policies.find? arn = some e → VersionStore.Fresh id e.versions) :
    a.Clearing arn ids := by
  refine ⟨h.wellFormed, h.dated, fun e he v hv => ?_, fun e he hmem => ?_⟩
  · exact (List.mem_cons.mp (h.rest e he v hv)).resolve_left (hfresh e he v (mem_others.mp hv).1)
  · exact h.spared e he (List.mem_cons_of_mem _ hmem)

theorem of_deleteVersion {answer : Unit} (h : a.Clearing arn (id :: ids))
    (heffect : Effect (.deleteVersion arn id) a answer a') : a'.Clearing arn ids := by
  have hwell := h.wellFormed.of_effect heffect
  have hdated := h.dated.of_effect h.wellFormed heffect
  obtain ⟨e, he, -, rfl⟩ := without_of_deleteVersion h.dated heffect
  refine ⟨hwell, hdated, fun e' he' v hv => ?_, fun e' he' hmem => ?_⟩
  · cases (find?_putPolicy a arn _).symm.trans he'
    obtain ⟨hmem, hnot⟩ := mem_others.mp hv
    obtain ⟨hmem, hne⟩ := VersionStore.mem_without.mp hmem
    exact (List.mem_cons.mp (h.rest e he v (mem_others.mpr ⟨hmem, hnot⟩))).resolve_left hne
  · cases (find?_putPolicy a arn _).symm.trans he'
    exact h.spared e he (List.mem_cons_of_mem _ hmem)

/-- Once the deletion of a version counts, the others are still to be deleted. -/
theorem deleteVersion {reply : Reply Unit} (h : a.Clearing arn (id :: ids))
    (hcall : Disturbed serves (admits truthful) (.deleteVersion arn id) a reply a')
    (htruthful : "DeletePolicyVersion" ∈ truthful)
    (hcounts : removalFault? (reply.answer resource) = none) : a'.Clearing arn ids := by
  rcases effect_or_notFound hcall htruthful hcounts with
    ⟨answer, heffect⟩ | ⟨f, hrefused, hnotFound, rfl⟩
  · exact h.of_deleteVersion heffect
  · exact h.of_fresh fun e he => fresh_of_deleteVersion hrefused hnotFound he

/-- A policy of which no other versions are left has one version. -/
theorem length_eq (h : a.Clearing arn []) (he : a.policies.find? arn = some e) :
    e.versions.length = 1 := by
  have hnone : others e.versions = [] :=
    List.eq_nil_iff_forall_not_mem.mpr fun v hv => nomatch h.rest e he v hv
  rw [(h.dated arn e he).orderly.length_eq, hnone]
  rfl

end Clearing

/-- A deletion of a version, answered or not, leaves the default version. -/
theorem prunes_of_deleteVersion {reply : Reply Unit} (hdated : a.Dated)
    (hcall : Disturbed serves (admits truthful) (.deleteVersion arn id) a reply a') :
    a.Prunes a' arn := by
  rcases eq_or_effect hcall with rfl | ⟨answer, heffect⟩
  · exact .refl a' arn
  · obtain ⟨e, he, ⟨v, hv, rfl⟩, rfl⟩ := without_of_deleteVersion hdated heffect
    intro e' he'
    cases (find?_putPolicy a arn _).symm.trans he'
    exact ⟨e, he, rfl, (hdated arn e he).orderly.default_without hv, List.filter_sublist⟩

theorem absent_of_effect {answer : Unit} (heffect : Effect (.deletePolicy arn) a answer a') :
    a'.policies.find? arn = none := by
  obtain ⟨e, -, -, -, rfl⟩ := heffect
  exact Table.find?_erase_self a.policies arn

/-- A deletion of a policy, answered or not, leaves it as it was or not at all. -/
theorem prunes_of_deletePolicy {reply : Reply Unit}
    (hcall : Disturbed serves (admits truthful) (.deletePolicy arn) a reply a') :
    a.Prunes a' arn := by
  rcases eq_or_effect hcall with rfl | ⟨answer, heffect⟩
  · exact .refl a' arn
  · exact .of_absent (absent_of_effect heffect)

/-- Once the deletion of a policy counts, the policy is gone. -/
theorem absent_of_counts {reply : Reply Unit}
    (hcall : Disturbed serves (admits truthful) (.deletePolicy arn) a reply a')
    (htruthful : "DeletePolicy" ∈ truthful)
    (hcounts : removalFault? (reply.answer resource) = none) : a'.policies.find? arn = none := by
  rcases effect_or_notFound hcall htruthful hcounts with
    ⟨answer, heffect⟩ | ⟨f, hrefused, hnotFound, rfl⟩
  · exact absent_of_effect heffect
  · exact absent_of_deletePolicy hrefused hnotFound

end Account

/-! ## Deletions -/

namespace PolicyHandler

open Account (serves admits Effect effect_of_asked live_eq_of_asked Clearing Prunes undisturbed)

variable {τ : Type} {truthful : List String} {u : Unreliable serves (admits truthful) τ}
  {t t' : τ} {h : PolicyHandler} {cs ds : List (IamCall τ)} {report : Report PolicyStatus}

/-- A call that deletes a version spares the default one, and a call that deletes a policy finds it
with one version. -/
structure Careful (u : Unreliable serves (admits truthful) τ) (c : IamCall τ) : Prop where
  version : ∀ arn id e, c.request = .deleteVersion arn id →
    (u.live c.before).policies.find? arn = some e → id ≠ e.policy.defaultVersionId
  policy : ∀ arn e, c.request = .deletePolicy arn →
    (u.live c.before).policies.find? arn = some e → e.versions.length = 1

theorem Careful.of_reads {c : IamCall τ} (hc : c.request.reads = true) : Careful u c := by
  constructor
  · intro arn id e hrequest
    rw [hrequest] at hc
    cases hc
  · intro arn e hrequest
    rw [hrequest] at hc
    cases hc

/-- What some calls of a deletion do: they are careful, what is left of the policy was there before,
and if convergence is reported, the policy is gone. -/
structure Cleared (u : Unreliable serves (admits truthful) τ) (h : PolicyHandler) (t : τ)
    (cs : List (IamCall τ)) (report : Report PolicyStatus) (t' : τ) : Prop where
  careful : ∀ c ∈ cs, Careful u c
  prunes : (u.live t).Prunes (u.live t') h.status.arn
  gone : report.phase = .converged → (u.live t').policies.find? h.status.arn = none

namespace Cleared

/-- After some more calls that only pruned the policy. -/
theorem append {m : τ} (hcareful : ∀ c ∈ cs, Careful u c)
    (hprunes : (u.live t).Prunes (u.live m) h.status.arn) (hcleared : Cleared u h m ds report t') :
    Cleared u h t (cs ++ ds) report t' :=
  ⟨fun c hc => (List.mem_append.mp hc).elim (hcareful c) (hcleared.careful c),
    hprunes.trans hcleared.prunes, hcleared.gone⟩

end Cleared

/-- A step clears the policy from where a run has got to. -/
def Clears (u : Unreliable serves (admits truthful) τ) (h : PolicyHandler) (step : PolicyStep)
    (r : Run τ) : Prop :=
  Cleared u h r.state (step.calls u.provider r) (step.run u.provider r).1
    (step.run u.provider r).2.state

theorem clears_fail (u : Unreliable serves (admits truthful) τ) (h : PolicyHandler)
    (status : PolicyStatus) (f : Fault) (r : Run τ) : Clears u h (.done (h.fail status f)) r := by
  refine ⟨Pass.forall_calls_done _ r, .refl _ _, fun hphase => ?_⟩
  exact absurd hphase (Report.ofFault_phase_ne _ _ _)

theorem clears_success (status : PolicyStatus) (details : String) {r : Run τ}
    (hgone : (u.live r.state).policies.find? h.status.arn = none) :
    Clears u h (.done (.success status details)) r :=
  ⟨Pass.forall_calls_done _ r, .refl _ _, fun _ => hgone⟩

/-- A step clears the policy if its first call is careful and prunes it, and what it goes on with
clears it from there. -/
theorem clears_ask {resource : String} {q : IamRequest}
    {next : Except Fault q.Answer → PolicyStep} {r : Run τ}
    (hcareful : ∀ c : IamCall τ, c.request = q → c.before = r.state → Careful u c)
    (hnext : ∀ reply r', Disturbed serves (admits truthful) q (u.live r.state) reply
      (u.live r'.state) → (u.live r.state).Prunes (u.live r'.state) h.status.arn ∧
        Clears u h (next (reply.answer resource)) r') :
    Clears u h (.ask resource q next) r := by
  obtain ⟨cs, answer, r', hasked, hcourse, hrun, hcalls⟩ := u.exists_asked resource q next r
  obtain ⟨reply, hcall, rfl⟩ := hcourse.exists_disturbed hasked
  obtain ⟨hprunes, hclears⟩ := hnext reply r' hcall
  unfold Clears
  rw [hrun, hcalls]
  exact .append (fun c hc => hcareful c (hasked.request_eq c hc)
    (hasked.before_eq hcourse.lead c hc)) hprunes hclears

/-- To read is careful and prunes nothing. -/
theorem clears_ask_of_reads {resource : String} {q : IamRequest}
    {next : Except Fault q.Answer → PolicyStep} {r : Run τ} (hq : q.reads = true)
    (hnext : ∀ reply r', Disturbed serves (admits truthful) q (u.live r.state) reply
      (u.live r'.state) → u.live r'.state = u.live r.state →
        Clears u h (next (reply.answer resource)) r') :
    Clears u h (.ask resource q next) r := by
  refine clears_ask (fun c hc _ => .of_reads (by rw [hc, hq])) fun reply r' hcall => ?_
  have hkept := Account.eq_of_reads hcall hq
  refine ⟨?_, hnext reply r' hcall hkept⟩
  rw [hkept]
  exact .refl _ _

section

variable {u : Unreliable serves
  (admits ["ListPolicyVersions", "DeletePolicyVersion", "DeletePolicy"]) τ}

theorem clears_deleteLast {r : Run τ} (hclearing : (u.live r.state).Clearing h.status.arn []) :
    Clears u h h.deleteLast r := by
  refine clears_ask (fun c hrequest hbefore => ?_) fun reply r' hcall => ?_
  · constructor
    · intro arn id e hc
      cases hrequest.symm.trans hc
    · intro arn e hc he
      cases hrequest.symm.trans hc
      rw [hbefore] at he
      exact hclearing.length_eq he
  · refine ⟨Account.prunes_of_deletePolicy hcall, ?_⟩
    cases hcounts : removalFault? (reply.answer h.status.arn) with
    | some f => exact clears_fail u h _ f r'
    | none => exact clears_success _ _ (Account.absent_of_counts hcall (by decide) hcounts)

theorem clears_deleteVersions : ∀ {ids : List String} {r : Run τ},
    (u.live r.state).Clearing h.status.arn ids → Clears u h (h.deleteVersions ids) r
  | [], _, hclearing => clears_deleteLast hclearing
  | id :: ids, r, hclearing => by
    refine clears_ask (fun c hrequest hbefore => ?_) fun reply r' hcall => ?_
    · constructor
      · intro arn id' e hc he hid
        cases hrequest.symm.trans hc
        rw [hbefore] at he
        exact hclearing.spared e he (hid ▸ List.mem_cons_self)
      · intro arn e hc
        cases hrequest.symm.trans hc
    · refine ⟨Account.prunes_of_deleteVersion hclearing.dated hcall, ?_⟩
      cases hcounts : removalFault? (reply.answer h.status.arn) with
      | some f => exact clears_fail u h _ f r'
      | none => exact clears_deleteVersions (hclearing.deleteVersion hcall (by decide) hcounts)

theorem clears_deleteExisting {r : Run τ} (hwell : (u.live r.state).WellFormed)
    (hdated : (u.live r.state).Dated) : Clears u h h.deleteExisting r := by
  refine clears_ask_of_reads rfl fun reply r' hcall hkept => ?_
  rw [← hkept] at hwell hdated
  cases hanswer : reply.answer h.status.arn with
  | ok versions =>
    have hlist := Account.effect_of_answer hcall hanswer
    rw [← hkept] at hlist
    exact clears_deleteVersions (.of_listVersions hwell hdated hlist)
  | error f =>
    dsimp only
    cases hnotFound : f.isNotFound with
    | false => exact clears_fail u h _ f r'
    | true =>
      obtain ⟨hrefused, -⟩ := Account.refused_of_notFound hcall List.mem_cons_self hanswer hnotFound
      refine clears_deleteLast (.of_absent hwell hdated ?_ [])
      rw [hkept]
      exact Account.absent_of_listVersions hrefused

theorem clears_delete {r : Run τ} (hwell : (u.live r.state).WellFormed)
    (hdated : (u.live r.state).Dated) : Clears u h h.delete r := by
  unfold delete lookUp
  split
  · rename_i hempty
    refine clears_success _ _ (Option.eq_none_iff_forall_ne_some.mpr fun e he => ?_)
    exact hwell.arn_ne_empty he (String.isEmpty_iff.mp hempty)
  · refine clears_ask_of_reads rfl fun reply r' hcall hkept => ?_
    rcases hanswer : reply.answer h.status.arn with f | _ | policy
    · exact clears_fail u h _ f r'
    · obtain ⟨hget, -⟩ := Account.effect_of_answer hcall hanswer
      refine clears_success _ _ ?_
      rw [hkept]
      exact Option.map_eq_none_iff.mp hget.symm
    · rw [← hkept] at hwell hdated
      exact clears_deleteExisting hwell hdated

end

/-! ## Undisturbed deletions -/

variable {a : Account} {e : PolicyEntry}

/-- Undisturbed, just the default version is left before the policy itself is deleted. -/
theorem proceeds_deleteVersions : ∀ {rest : List DocumentVersion} {a : Account} {e : PolicyEntry},
    a.WellFormed → a.Dated → a.policies.find? h.status.arn = some e → others e.versions = rest →
      Proceeds (h.deleteVersions (rest.map (·.id))) a h.deleteLast
        (a.putPolicy h.status.arn { e with versions := e.versions.filter (·.isDefault) })
  | [], a, e, _, _, he, hrest => by
    have hdefault : e.versions.filter (·.isDefault) = e.versions := by
      refine List.filter_eq_self.mpr fun v hv => ?_
      by_contra hnot
      have hmem := mem_others.mpr ⟨hv, Bool.eq_false_iff.mpr hnot⟩
      rw [hrest] at hmem
      cases hmem
    have hsame : a.putPolicy h.status.arn e = a := by
      unfold Account.putPolicy
      rw [Table.insert_of_find? he]
    rw [hdefault, hsame]
    exact .refl _ _
  | v :: rest, a, e, hwell, hdated, he, hrest => by
    have horderly := (hdated _ e he).orderly
    have hv : v ∈ others e.versions := by
      rw [hrest]
      exact List.mem_cons_self
    have hdelete := Account.effect_deleteVersion hdated he hv
    have hproceeds := proceeds_deleteVersions (hwell.of_effect hdelete)
      (hdated.of_effect hwell hdelete) (Account.find?_putPolicy a _ _)
      (horderly.others_without hrest)
    have hafter : (a.putPolicy h.status.arn
        { e with versions := Version.without v.id e.versions }).putPolicy h.status.arn
          { e with versions := (Version.without v.id e.versions).filter (·.isDefault) } =
        a.putPolicy h.status.arn { e with versions := e.versions.filter (·.isDefault) } := by
      unfold Account.putPolicy
      rw [Table.insert_insert, horderly.default_without hv]
    rw [← hafter]
    exact .served hdelete hproceeds

/-- An undisturbed deletion gets rid of a policy that no role has attached, and otherwise of every
version but the default. -/
theorem proceeds_delete (hwell : a.WellFormed) (hdated : a.Dated)
    (he : a.policies.find? h.status.arn = some e) :
    let a₁ := a.putPolicy h.status.arn { e with versions := e.versions.filter (·.isDefault) }
    ((∃ role, a.Attached role h.status.arn) ∧
        Proceeds h.delete a (.done (h.fail h.status (Account.stillAttached h.status.arn))) a₁) ∨
      (¬∃ role, a.Attached role h.status.arn) ∧
        Proceeds h.delete a (.done (.success h.status s!"Deleting policy {h.status.name}"))
          { a₁ with policies := a₁.policies.erase h.status.arn } := by
  intro a₁
  have hget : Effect (.getPolicy h.status.arn) a (some e.policy) a := ⟨by rw [he]; rfl, rfl⟩
  have hlist : Effect (.listVersions h.status.arn) a (e.versions.map bare) a := ⟨⟨e, he, rfl⟩, rfl⟩
  have hids : (others (e.versions.map bare)).map (·.id) = (others e.versions).map (·.id) := by
    rw [DocumentVersion.others_map_bare, List.map_map]
    rfl
  have hemptied : Proceeds h.delete a h.deleteLast a₁ := by
    unfold delete lookUp
    rw [if_neg (by simpa using hwell.arn_ne_empty he)]
    refine .served hget (.served hlist ?_)
    show Proceeds (h.deleteVersions ((others (e.versions.map bare)).map (·.id))) a _ _
    rw [hids]
    exact proceeds_deleteVersions hwell hdated he rfl
  have he₁ : a₁.policies.find? h.status.arn =
      some { e with versions := e.versions.filter (·.isDefault) } := Account.find?_putPolicy a _ _
  have hone : (e.versions.filter (·.isDefault)).length = 1 := by
    obtain ⟨d, hd⟩ := (hdated _ e he).orderly.sound.exists_default
    rw [hd]
    rfl
  by_cases hattached : ∃ role, a.Attached role h.status.arn
  · refine .inl ⟨hattached, hemptied.trans ?_⟩
    obtain ⟨role, hrole⟩ := hattached
    exact .refused (Account.effect_deletePolicy_of_attached he₁ hone hrole) (.refl _ _)
  · refine .inr ⟨hattached, hemptied.trans ?_⟩
    have hdelete : Effect (.deletePolicy h.status.arn) a₁ ()
        { a₁ with policies := a₁.policies.erase h.status.arn } :=
      ⟨_, he₁, by rw [hone]; omega, mt Account.in_use_iff.mp hattached, rfl⟩
    exact .served hdelete (.refl _ _)

/-- A policy that is not there is found to be gone, if there is a resource name to look it up by. -/
theorem proceeds_delete_of_absent (habsent : a.policies.find? h.status.arn = none) :
    ∃ details, Proceeds h.delete a (.done (.success h.status details)) a := by
  unfold delete lookUp
  split
  · exact ⟨_, .refl _ _⟩
  · have hget : Effect (.getPolicy h.status.arn) a none a := ⟨by rw [habsent]; rfl, rfl⟩
    exact ⟨_, .served hget (.refl _ _)⟩

/-- How a deletion ends that nothing disturbs. It converges unless the policy is there and a role has
it attached; then it fails for good, and of the policy just the default version is left. -/
structure Complete (h : PolicyHandler) (a a' : Account) (report : Report PolicyStatus) : Prop where
  converged_iff : report.phase = .converged ↔ h.status.arn = "" ∨
    a.policies.find? h.status.arn = none ∨ ∀ role, ¬a.Attached role h.status.arn
  stopped : report.phase ≠ .converged →
    (h.classify = Fault.defaultClass → report.phase = .permanentFailure) ∧
      ∃ e, a.policies.find? h.status.arn = some e ∧
        a'.quiet = (a.putPolicy h.status.arn
          { e with versions := e.versions.filter (·.isDefault) }).quiet

theorem complete_of_converged {a' : Account} {report : Report PolicyStatus}
    (hphase : report.phase = .converged)
    (hreason : h.status.arn = "" ∨ a.policies.find? h.status.arn = none ∨
      ∀ role, ¬a.Attached role h.status.arn) : Complete h a a' report :=
  ⟨iff_of_true hphase hreason, fun hnot => absurd hphase hnot⟩

theorem complete_delete (hreachable : a.Reachable) (hfailures : a.failures = []) :
    let e := Pass.episode undisturbed delete h false a
    Complete h a e.after e.result := by
  intro d
  cases he : a.policies.find? h.status.arn with
  | none =>
    obtain ⟨details, hproceeds⟩ := proceeds_delete_of_absent he
    obtain ⟨hresult, -⟩ := hproceeds.episode hfailures
    refine complete_of_converged ?_ (.inr (.inl he))
    rw [hresult]
    rfl
  | some e =>
    rcases proceeds_delete hreachable.wellFormed hreachable.dated he with
      ⟨hattached, hproceeds⟩ | ⟨hnone, hproceeds⟩
    · obtain ⟨hresult, hquiet⟩ := hproceeds.episode hfailures
      have hnot : d.result.phase ≠ .converged := by
        rw [hresult]
        exact Report.ofFault_phase_ne _ _ _
      refine ⟨iff_of_false hnot ?_, fun _ => ⟨fun hclass => ?_, e, he, hquiet⟩⟩
      · rintro (harn | hnone | hnone)
        · exact hreachable.wellFormed.arn_ne_empty he harn
        · cases he.symm.trans hnone
        · obtain ⟨role, hrole⟩ := hattached
          exact hnone role hrole
      · rw [hresult, fail, hclass]
        rfl
    · obtain ⟨hresult, -⟩ := hproceeds.episode hfailures
      refine complete_of_converged ?_ (.inr (.inr (not_exists.mp hnone)))
      rw [hresult]
      rfl

/-! ## Deletions -/

/-- A disturbed deletion never asks to delete a default version, nor is it refused to delete a policy
for its other versions. The policy, if it is still there, has the default version that it had, and
once convergence is reported, it is gone. -/
structure Safe (u : Unreliable serves (admits truthful) τ)
    (e : Episode PolicyHandler IamRequest IamRequest.Answer (Report PolicyStatus) τ) : Prop where
  spared : ∀ c ∈ e.calls, ∀ arn id entry, c.request = .deleteVersion arn id →
    (u.live c.before).policies.find? arn = some entry → id ≠ entry.policy.defaultVersionId
  unrefused : ∀ c ∈ e.calls, ∀ arn,
    (u.live c.before).effect c.request ≠ .error (Account.severalVersions arn)
  kept : ∀ entry', (u.live e.after).policies.find? e.input.status.arn = some entry' →
    ∃ entry, (u.live e.before).policies.find? e.input.status.arn = some entry ∧
      entry.Pruned entry'
  gone : e.result.phase = .converged →
    e.input.status.arn = "" ∨ (u.live e.after).policies.find? e.input.status.arn = none

theorem Cleared.safe {cancelled : Bool}
    (hcleared : Clears u h h.delete ⟨cancelled, t⟩) :
    Safe u (Pass.episode u.provider delete h cancelled t) := by
  refine ⟨fun c hc => (hcleared.careful c hc).version, fun c hc arn hrefused => ?_,
    hcleared.prunes, fun hphase => .inr (hcleared.gone hphase)⟩
  obtain ⟨hrequest, e, he, hseveral⟩ := Account.several_of_effect hrefused
  rw [(hcleared.careful c hc).policy arn e hrequest he] at hseveral
  omega

/-- From any reachable account and with any status, unless a target is made up not to be found. And
undisturbed a deletion converges if and only if no role has the policy attached. -/
theorem delete_spares_default
    (u : Unreliable serves
      (admits ["ListPolicyVersions", "DeletePolicyVersion", "DeletePolicy"]) τ)
    (h : PolicyHandler) :
    (∀ cancelled t, (u.live t).Reachable →
        Safe u (Pass.episode u.provider delete h cancelled t)) ∧
      ∀ a : Account, a.Reachable → a.failures = [] →
        Complete h a (Pass.episode undisturbed delete h false a).after
          (Pass.episode undisturbed delete h false a).result := by
  constructor
  · intro cancelled t hreachable
    exact Cleared.safe (clears_delete hreachable.wellFormed hreachable.dated)
  · intro a hreachable hfailures
    exact complete_delete hreachable hfailures

/-- A policy with three versions that is attached to a role: a deletion of which the second call for
a version is throttled leaves that version and the default one; an undisturbed deletion leaves just
the default version. -/
theorem delete_spares_default_attached :
    let arn := "arn:aws:iam::123456789012:policy/read"
    let h : PolicyHandler :=
      ⟨⟨"read", "[]", "", "/", .empty⟩, { arn := arn }, Fault.defaultClass, 5⟩
    let role : RoleHandler := ⟨.plain "app" [], {}, Fault.defaultClass⟩
    let a := (Account.perform (.attach "app" arn)
      (Account.perform (.createRole role.draft)
        (Account.perform (.createVersion arn "2" false)
          (Account.perform (.createVersion arn "1" true)
            (Account.perform (.createPolicy h.draft) {}).2).2).2).2).2
    let throttled : Fault := .provider arn "DeletePolicyVersion" "Throttling: Rate exceeded" true
    let u := Account.interrupted ["ListPolicyVersions", "DeletePolicyVersion", "DeletePolicy"]
    let t := (⟨a, by decide +kernel⟩,
      [.none false, .none false, .none false, .fault throttled false])
    let e := Pass.episode u.provider delete h false t
    let e' := Pass.episode undisturbed delete h false a
    let ids (a : Account) := (a.policies.find? arn).map fun entry => entry.versions.map (·.id)
    a.Reachable ∧ a.failures = [] ∧ e.result.phase = .retryableFailure ∧
      ids (u.live e.after) = some ["v2", "v3"] ∧ Safe u e ∧
      e'.result.phase = .permanentFailure ∧ ids e'.after = some ["v2"] ∧
      Complete h a e'.after e'.result := by
  intro arn h role a throttled u t e e' ids
  have hreachable : a.Reachable :=
    (((((Account.Reachable.empty _).performed _).performed _).performed _).performed _).performed _
  have hfailures : a.failures = [] := by decide +kernel
  have hlive : (u.live t).Reachable := by
    simp only [u, t, Account.interrupted]
    exact hreachable.quiet
  have hsafe : Safe u e := (delete_spares_default u h).1 false t hlive
  have hcomplete : Complete h a e'.after e'.result :=
    (delete_spares_default u h).2 a hreachable hfailures
  exact ⟨hreachable, hfailures, by decide +kernel, by decide +kernel, hsafe, by decide +kernel,
    by decide +kernel, hcomplete⟩

end PolicyHandler

end IamConvergence
