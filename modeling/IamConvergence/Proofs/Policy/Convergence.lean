/-
Undisturbed applications of a policy of a reachable account. Its history is orderly, so whatever has
to go for a new version may go: it is there, it is not the default, and what is left has room for
one more under the bound and so under the account's limit.
-/
import IamConvergence.Proofs.Account.Histories
import IamConvergence.Proofs.Account.Undisturbed
import IamConvergence.Proofs.Policy.Apply

namespace IamConvergence

open DocumentVersion (bare mem_others others)
open VersionStore (Fresh Renewed Trimmed created)

namespace Account

variable {a a' : Account} {arn desired : String} {bound : Nat} {e : PolicyEntry}

/-! ## Making room -/

/-- Under a bound within the account's limit there is room for a version. -/
theorem proceeds_create (parent current : String) (he : a.policies.find? arn = some e)
    (hroom : e.versions.length < a.versionLimit)
    (hdocument : (Document.parse? desired).isSome = true) (evicted : List String) :
    let v : DocumentVersion := ⟨versionId e.nextVersion, some desired, true, a.now⟩
    ∃ a', a'.policies.find? arn = some (e.push v) ∧
      Proceeds ((Version.create parent desired current evicted).adapt (policyVersions arn)) a
        (.done ⟨some v.id, true, evicted, none⟩) a' := by
  intro v
  have hcreate : Effect (.createVersion arn desired true) a v
      ({ a with tick := a.tick + 1 }.putPolicy arn (e.push v)) :=
    ⟨e, he, Nat.not_le.mpr hroom, hdocument, rfl, rfl⟩
  exact ⟨_, find?_putPolicy _ arn _, .served hcreate (.refl _ _)⟩

/-- The default version is not in the way: what goes is the first of the others. -/
theorem effect_deleteVersion {v : DocumentVersion} (hdated : a.Dated)
    (he : a.policies.find? arn = some e) (hv : v ∈ others e.versions) :
    Effect (.deleteVersion arn v.id) a ()
      (a.putPolicy arn { e with versions := Version.without v.id e.versions }) := by
  have hsound := (hdated arn e he).orderly.sound
  obtain ⟨hmem, hnot⟩ := mem_others.mp hv
  cases hfind : e.versions.find? (·.id == v.id) with
  | none => exact absurd (List.find?_eq_none.mp hfind v hmem) (by simp)
  | some w =>
    have hid : w.id = v.id := by simpa using List.find?_some hfind
    have hsame := hsound.eq_of_id (List.mem_of_find?_eq_some hfind) hmem hid
    refine ⟨e, he, w, hfind, by rw [hsame, hnot], ?_⟩
    rw [eraseP_eq_without hsound.distinct]

/-- Room is made by deleting the first of the other versions until a new one fits. -/
theorem proceeds_evict {a : Account} {e : PolicyEntry} (parent current : String)
    (hleast : 2 ≤ bound) (hdocument : (Document.parse? desired).isSome = true)
    (hwell : a.WellFormed) (hdated : a.Dated) (he : a.policies.find? arn = some e)
    (hlimit : bound ≤ a.versionLimit) (evicted : List String) :
    ∃ kept createdAt evicted' e' a', Trimmed bound e.versions kept ∧
      e'.versions = created desired (versionId e.nextVersion) createdAt kept ∧
      a'.policies.find? arn = some e' ∧
      Proceeds ((Version.evict parent desired current bound (e.versions.map bare) evicted).adapt
        (policyVersions arn)) a
        (.done ⟨some (versionId e.nextVersion), true, evicted', none⟩) a' := by
  have horderly := (hdated arn e he).orderly
  by_cases hroom : e.versions.length < bound
  · obtain ⟨a', he', hproceeds⟩ := proceeds_create parent current he
      (Nat.lt_of_lt_of_le hroom hlimit) hdocument evicted
    rw [Version.evict_of_room evicted (by rwa [List.length_map])]
    exact ⟨_, a.now, evicted, _, a', VersionStore.trimmed_self horderly hroom, rfl, he', hproceeds⟩
  · have hfull := Nat.not_lt.mp hroom
    cases hothers : others e.versions with
    | nil =>
      -- the default alone is within every bound
      have hlength := horderly.length_eq
      rw [hothers, List.length_nil] at hlength
      omega
    | cons v rest =>
      have hv : v ∈ others e.versions := by
        rw [hothers]
        exact List.mem_cons_self
      have hdelete := effect_deleteVersion hdated he hv
      let e₁ : PolicyEntry := { e with versions := Version.without v.id e.versions }
      have hshorter : e₁.versions.length < e.versions.length :=
        Version.length_without_lt (mem_others.mp hv).1
      obtain ⟨kept, createdAt, evicted', e', a', htrimmed, hversions, he', hproceeds⟩ :=
        proceeds_evict (e := e₁) parent current hleast hdocument (hwell.of_effect hdelete)
          (hdated.of_effect hwell hdelete) (find?_putPolicy a arn _) hlimit (evicted ++ [v.id])
      refine ⟨kept, createdAt, evicted', e', a', htrimmed.of_without horderly hothers hfull hleast,
        hversions, he', ?_⟩
      rw [Version.evict_of_candidate evicted (by rwa [List.length_map])
        (horderly.candidate hothers hfull)]
      have hbare : e₁.versions.map bare = Version.without v.id (e.versions.map bare) :=
        VersionStore.Mirrors.map_bare_without v.id e.versions
      rw [hbare] at hproceeds
      exact .served hdelete hproceeds
termination_by e.versions.length

/-! ## A whole pass -/

/-- The default version says what is desired, or it is renewed. -/
theorem proceeds_reconcile (hleast : 2 ≤ bound)
    (hdocument : (Document.parse? desired).isSome = true) (hwell : a.WellFormed) (hdated : a.Dated)
    (he : a.policies.find? arn = some e) (hlimit : bound ≤ a.versionLimit) (parent : String) :
    ∃ o e' a', o.fault = none ∧ a'.policies.find? arn = some e' ∧
      (e' = e ∨ ∃ new default kept, Renewed bound desired e.versions e'.versions new default kept) ∧
      Proceeds ((Version.reconcile parent desired bound).adapt (policyVersions arn)) a (.done o)
        a' := by
  have hentry := hdated arn e he
  obtain ⟨v, hv⟩ : ∃ v, e.versions.find? (·.id == e.policy.defaultVersionId) = some v := by
    obtain ⟨d, hd⟩ := hentry.orderly.sound.exists_default
    have hmem : d ∈ e.versions.filter (·.isDefault) := by
      rw [hd]
      exact List.mem_cons_self
    obtain ⟨hmem, hdefault⟩ := List.mem_filter.mp hmem
    refine Option.isSome_iff_exists.mp (List.find?_isSome.mpr ⟨d, hmem, ?_⟩)
    exact beq_iff_eq.mpr (hentry.default d hmem hdefault)
  have hget : Effect (.getPolicy arn) a (some e.policy) a := ⟨by rw [he]; rfl, rfl⟩
  have hversion : Effect (.getVersion arn e.policy.defaultVersionId) a v a := ⟨⟨e, he, hv⟩, rfl⟩
  cases hsame : documentsEqual (v.content.getD "") desired with
  | true =>
    refine ⟨⟨some v.id, false, [], none⟩, e, a, rfl, he, .inl rfl,
      .served hget (.served hversion ?_)⟩
    show Proceeds (Pass.adapt _ (if documentsEqual (v.content.getD "") desired = true then _ else _))
      _ _ _
    rw [if_pos hsame]
    exact .refl _ _
  | false =>
    have hlist : Effect (.listVersions arn) a (e.versions.map bare) a := ⟨⟨e, he, rfl⟩, rfl⟩
    obtain ⟨kept, createdAt, evicted, e', a', htrimmed, hversions, he', hproceeds⟩ :=
      proceeds_evict parent v.id hleast hdocument hwell hdated he hlimit []
    have hfresh : Fresh (versionId e.nextVersion) e.versions := (hwell arn e he).numbered.fresh
    have hrenewed : ∃ default, Renewed bound desired e.versions e'.versions
        ⟨versionId e.nextVersion, some desired, true, createdAt⟩ default (others kept) := by
      rw [hversions]
      exact htrimmed.renewed hentry.orderly hleast hfresh
    obtain ⟨default, hrenewed⟩ := hrenewed
    refine ⟨⟨some (versionId e.nextVersion), true, evicted, none⟩, e', a', rfl, he',
      .inr ⟨_, default, _, hrenewed⟩, .served hget (.served hversion ?_)⟩
    show Proceeds (Pass.adapt _ (if documentsEqual (v.content.getD "") desired = true then _ else _))
      _ _ _
    rw [if_neg (by rw [hsame]; exact Bool.false_ne_true)]
    exact .served hlist hproceeds

end Account

/-- A resolved configuration has a document that can be read. -/
theorem PolicyConfig.document_of_resolve {raw : Value} {c : PolicyConfig}
    (h : PolicyConfig.resolve raw = .ok c) : (Document.parse? c.document).isSome = true := by
  unfold resolve at h
  obtain ⟨c', -, h⟩ := bind_eq_ok_iff.mp h
  obtain ⟨_, hvalid, h⟩ := bind_eq_ok_iff.mp h
  cases h
  unfold validate at hvalid
  rw [ite_error_eq_ok_iff, ite_error_eq_ok_iff, ite_error_eq_ok_iff] at hvalid
  show (Document.parse? c'.document).isSome = true
  cases hparse : Document.parse? c'.document with
  | none =>
    rw [hparse] at hvalid
    exact absurd rfl hvalid.2.2.1
  | some value => rfl

/-- No policy stands where the configured one would with another path or name. -/
def PolicyConfig.Unclaimed (c : PolicyConfig) (a : Account) : Prop :=
  ∀ e, a.policies.find? (a.policyArn c.path c.name) = some e →
    e.policy.path = c.path ∧ e.policy.name = c.name

instance (c : PolicyConfig) (a : Account) : Decidable (c.Unclaimed a) :=
  decidable_of_iff ((a.policies.find? (a.policyArn c.path c.name)).all fun e =>
      e.policy.path = c.path ∧ e.policy.name = c.name) (by
    unfold PolicyConfig.Unclaimed
    cases a.policies.find? (a.policyArn c.path c.name) <;> simp)

namespace PolicyHandler

open Account (Effect undisturbed)

variable {h : PolicyHandler} {a : Account}

theorem proceeds_apply (hwell : a.WellFormed) (hdated : a.Dated)
    (hdocument : (Document.parse? h.config.document).isSome = true) (hleast : 2 ≤ h.versionBound)
    (hlimit : h.versionBound ≤ a.versionLimit) (hplace : h.config.Unclaimed a) :
    ∃ report e' a', report.phase = .converged ∧
      a'.policies.find? (a.policyArn h.config.path h.config.name) = some e' ∧
      (∀ e, a.policies.find? (a.policyArn h.config.path h.config.name) = some e →
        e' = e ∨ ∃ new default kept,
          Renewed h.versionBound h.config.document e.versions e'.versions new default kept) ∧
      Proceeds h.apply a (.done report) a' := by
  unfold apply
  cases he : a.policies.find? (a.policyArn h.config.path h.config.name) with
  | none =>
    have hnone : a.findPolicy h.config.name h.config.path = none := by
      refine Option.eq_none_iff_forall_ne_some.mpr fun p hp => ?_
      obtain ⟨e, he', -⟩ := hwell.findPolicy_eq_some_iff.mp hp
      cases he.symm.trans he'
    have hfind : Effect (.findPolicy h.config.name h.config.path) a none a := ⟨hnone.symm, rfl⟩
    have hcreate : Effect (.createPolicy h.draft) a (a.policyOf h.draft) _ :=
      ⟨he, hdocument, rfl, rfl⟩
    refine ⟨_, _, _, ?_, Account.find?_putPolicy _ _ _, nofun,
      .served hfind (.served hcreate (.refl _ _))⟩
    rfl
  | some e =>
    obtain ⟨hpath, hname⟩ := hplace e he
    have hfound : a.findPolicy h.config.name h.config.path = some e.policy :=
      hwell.findPolicy_eq_some_iff.mpr ⟨e, he, rfl, hname, hpath⟩
    have hfind : Effect (.findPolicy h.config.name h.config.path) a (some e.policy) a :=
      ⟨hfound.symm, rfl⟩
    have harn : a.policyArn h.config.path h.config.name = e.policy.arn := (hwell _ e he).named.symm
    rw [harn] at he ⊢
    obtain ⟨o, e', a', hnone, he', hkept, hproceeds⟩ := Account.proceeds_reconcile hleast hdocument
      hwell hdated he hlimit e.policy.arn
    refine ⟨h.updated (h.status.identify e.policy) o, e', a', ?_, he', ?_, .served hfind ?_⟩
    · exact (Report.settle_phase_eq_iff ..).mpr hnone
    · rintro old ⟨⟩
      exact hkept
    · exact hproceeds.map _

/-- From any reachable account and with any status an application converges, if the bound leaves
room beside the default version and is within the account's limit. A policy that was there stays as
it is or gets a new version, next to the previous default and the newest others that fit. -/
theorem converged_apply (h : PolicyHandler) {raw : Value}
    (hconfig : PolicyConfig.resolve raw = .ok h.config) (hreachable : a.Reachable)
    (hfailures : a.failures = []) (hleast : 2 ≤ h.versionBound)
    (hlimit : h.versionBound ≤ a.versionLimit) (hplace : h.config.Unclaimed a) :
    let e := Pass.episode undisturbed apply h false a
    e.result.phase = .converged ∧
      ∃ entry v, h.config.Realized e.after e.result.status entry v ∧
        ∀ old, a.policies.find? entry.policy.arn = some old →
          entry = old ∨ ∃ new default kept, Renewed h.versionBound h.config.document old.versions
            entry.versions new default kept := by
  intro e
  obtain ⟨report, e', a', hphase, he', hkept, hproceeds⟩ := proceeds_apply hreachable.wellFormed
    hreachable.dated (PolicyConfig.document_of_resolve hconfig) hleast hlimit hplace
  obtain ⟨hresult, hquiet⟩ := hproceeds.episode hfailures
  have hconverged : e.result.phase = .converged := by rw [hresult]; exact hphase
  obtain ⟨entry, v, hrealized⟩ := (applied Account.alone h ⟨false, a⟩).realized
    hreachable.quiet.wellFormed hconverged
  refine ⟨hconverged, entry, v, ⟨hrealized.found, hrealized.stands, hrealized.default,
    hrealized.document, hrealized.status⟩, fun old hold => ?_⟩
  -- the policy that is found is the one in the configured place
  have hwell : e.after.WellFormed := (hreachable.run h.apply (r := ⟨false, a⟩)).wellFormed
  have haccount : e.after.accountId = a.accountId :=
    (congrArg Account.accountId hquiet).trans hproceeds.accountId
  have harn : entry.policy.arn = a.policyArn h.config.path h.config.name := by
    obtain ⟨e₂, he₂, hpolicy, -, -⟩ := hwell.findPolicy_eq_some_iff.mp hrealized.found
    rw [← hpolicy, (hwell _ e₂ he₂).named]
    exact Account.policyArn_of_accountId haccount _ _
  have hstands := hrealized.stands
  rw [harn] at hstands hold
  have hpolicies : e.after.quiet.policies = a'.quiet.policies := congrArg Account.policies hquiet
  have hsame : e.after.policies.find? (a.policyArn h.config.path h.config.name) = some e' :=
    (congrArg (Table.find? · _) hpolicies).trans he'
  cases hstands.symm.trans hsame
  exact hkept old hold

/-- Under a tightened bound the history is trimmed to the new version and the previous default. -/
theorem converged_apply_trimmed :
    let raw : Value := .ofMembers [("policyName", .text "read"), ("policyDocument", .text "[]")]
    let h : PolicyHandler := ⟨⟨"read", "[]", "", "/", .empty⟩, {}, Fault.defaultClass, 2⟩
    let arn := "arn:aws:iam::123456789012:policy/read"
    let a := (Account.perform (.createVersion arn "2" false)
      (Account.perform (.createVersion arn "1" true)
        (Account.perform (.createPolicy { h.draft with document := "0" }) {}).2).2).2
    let e := Pass.episode undisturbed apply h false a
    PolicyConfig.resolve raw = .ok h.config ∧ a.Reachable ∧ a.failures = [] ∧
      h.config.Unclaimed a ∧ e.result.phase = .converged ∧
      (e.after.policies.find? arn).map (fun entry => entry.versions.map (·.id)) =
        some ["v2", "v4"] ∧
      ∃ entry v, h.config.Realized e.after e.result.status entry v ∧
        ∀ old, a.policies.find? entry.policy.arn = some old →
          entry = old ∨ ∃ new default kept, Renewed h.versionBound h.config.document old.versions
            entry.versions new default kept := by
  intro raw h arn a e
  have hconfig : PolicyConfig.resolve raw = .ok h.config := rfl
  have hreachable : a.Reachable := (((Account.Reachable.empty _).performed _).performed _).performed _
  have hfailures : a.failures = [] := by decide +kernel
  have hplace : h.config.Unclaimed a := by decide +kernel
  obtain ⟨hphase, hrealized⟩ := converged_apply h hconfig hreachable hfailures (by decide)
    (by decide +kernel) hplace
  exact ⟨hconfig, hreachable, hfailures, hplace, hphase, by decide +kernel, hrealized⟩

end PolicyHandler

end IamConvergence
