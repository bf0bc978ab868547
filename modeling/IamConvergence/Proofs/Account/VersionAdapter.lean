/-
The versions of a policy of a reachable account with nothing queued, by way of the handlers' adapter.
What a call answers and leaves is promised by a contract; and a pass over the adapter runs as one
over a store of versions, as the passes over version histories assume it.
-/
import IamConvergence.Proofs.Account.Identity
import IamConvergence.Proofs.Account.Undisturbed
import IamConvergence.Proofs.Account.VersionRequests

namespace IamConvergence

open DocumentVersion (bare demoted mem_others)
open Version (without)
open VersionStore (Fresh)

namespace Account

variable {a a' : Account} {arn : String} {e : PolicyEntry}

/-! ## Calls of the adapters -/

/-- A reachable account with nothing queued. -/
structure Calm (a : Account) : Prop where
  reachable : a.Reachable
  unqueued : a.failures = []

theorem Calm.perform (h : a.Calm) (q : IamRequest) : (a.perform q).2.Calm :=
  ⟨h.reachable.performed q, perform_failures q h.unqueued⟩

/-- What a call by way of an adapter answers and leaves, undisturbed. -/
def adapted {Q : Type} {A : Q → Type} (adapter : Pass.Adapter Q A IamRequest IamRequest.Answer)
    (guarded : Bool) (resource : String) (q : Q) (a : Account) : Except Fault (A q) × Account :=
  let r := (adapter guarded resource q).run undisturbed ⟨false, a⟩
  (r.1, r.2.state)

theorem adapted_eq {Q : Type} {A : Q → Type}
    {adapter : Pass.Adapter Q A IamRequest IamRequest.Answer} {outer : Provider Q A Account}
    (h : Pass.Realizes adapter undisturbed outer) (guarded : Bool) (resource : String) (q : Q)
    (a : Account) :
    adapted adapter guarded resource q a = ((outer q a).1.answer resource, (outer q a).2) := by
  unfold adapted
  rw [h guarded resource q, Pass.attempt_eq, Bool.and_false]
  rfl

/-- A request of another kind that does what a call does is served as the call is. -/
theorem served_of_serves {Q : Type} {A : Q → Type}
    (effect' : (q : Q) → Account → Except Fault (A q × Account)) (q' : Q) {q : IamRequest}
    {answer : Except Fault q.Answer} (h : serves q a answer a') (g : q.Answer → A q')
    (hok : ∀ x a', a.effect q = .ok (x, a') → effect' q' a = .ok (g x, a'))
    (herror : ∀ f, a.effect q = .error f → effect' q' a = .error f) :
    Service.ofEffect effect' q' a (answer.map g) a' :=
  Service.ofEffect_map g hok herror h

/-- Undisturbed, a request about versions is served. -/
theorem Calm.served (h : a.Calm) (arn : String) (q : VersionRequest) :
    ∃ answer, (versionsOf undisturbed arn q a).1 = .completed answer false ∧
      Service.ofEffect (versionEffect arn) q a.quiet answer
        (versionsOf undisturbed arn q a).2.quiet ∧
      (versionsOf undisturbed arn q a).2.Calm := by
  cases q with
  | getDefault =>
    have hget : Effect (.getPolicy arn) a ((a.policies.find? arn).map (·.policy)) a := ⟨rfl, rfl⟩
    obtain ⟨hanswer, hquiet⟩ := eq_of_serves (serves_perform (.getPolicy arn) h.unqueued) rfl hget
    have hcalm := h.perform (.getPolicy arn)
    cases hfind : a.policies.find? arn with
    | none =>
      rw [hfind] at hanswer
      have hcall : versionsOf undisturbed arn .getDefault a =
          (.completed (.error (.notFound arn "policy does not exist")) false,
            (a.perform (.getPolicy arn)).2) := by
        simp only [versionsOf, Provider.ofStep, hanswer, Option.map_none]
      rw [hcall]
      refine ⟨_, rfl, ⟨?_, hquiet⟩, hcalm⟩
      simp only [versionEffect, quiet_policies, hfind]
    | some e =>
      rw [hfind] at hanswer
      -- the second call finds the account as the first one did
      let second := (a.perform (.getPolicy arn)).2.perform (.getVersion arn e.policy.defaultVersionId)
      have hcall : versionsOf undisturbed arn .getDefault a =
          (.completed second.1 false, second.2) := by
        simp only [versionsOf, Provider.ofStep, hanswer, Option.map_some, Bool.false_or, second]
      have hserved := serves_perform (.getVersion arn e.policy.defaultVersionId) hcalm.unqueued
      rw [hquiet] at hserved
      have hsame := served_of_serves (versionEffect arn) .getDefault hserved id
        (fun x a' heffect => by simp only [versionEffect, quiet_policies, hfind]; exact heffect)
        (fun f heffect => by simp only [versionEffect, quiet_policies, hfind]; exact heffect)
      rw [map_id_eq] at hsame
      rw [hcall]
      exact ⟨_, rfl, hsame, hcalm.perform _⟩
  | list =>
    have hserved := served_of_serves (versionEffect arn) .list
      (serves_perform (.listVersions arn) h.unqueued) id (fun _ _ h => h) (fun _ h => h)
    rw [map_id_eq] at hserved
    exact ⟨_, rfl, hserved, h.perform _⟩
  | create text =>
    refine ⟨_, rfl, served_of_serves (versionEffect arn) (.create text)
      (serves_perform (.createVersion arn text true) h.unqueued) DocumentVersion.id ?_ ?_,
      h.perform _⟩
    · intro v a' heffect
      rw [versionEffect, heffect]
      rfl
    · intro f heffect
      rw [versionEffect, heffect]
      rfl
  | delete version =>
    have hserved := served_of_serves (versionEffect arn) (.delete version)
      (serves_perform (.deleteVersion arn version) h.unqueued) id (fun _ _ h => h) (fun _ h => h)
    rw [map_id_eq] at hserved
    exact ⟨_, rfl, hserved, h.perform _⟩

/-- What a call about versions by way of the adapter answers and leaves. -/
theorem Calm.versioned (h : a.Calm) (guarded : Bool) (resource arn : String) (q : VersionRequest) :
    Versioned a.quiet arn q (adapted (policyVersions arn) guarded resource q a).1
        (adapted (policyVersions arn) guarded resource q a).2.quiet ∧
      (adapted (policyVersions arn) guarded resource q a).2.Calm := by
  obtain ⟨answer, hreply, hserved, hcalm⟩ := h.served arn q
  rw [adapted_eq (realizes_policyVersions undisturbed arn), hreply]
  exact ⟨h.reachable.quiet.versioned hserved, hcalm⟩

/-! ## Versions as a store -/

/-- A pushed default version is the only one. -/
theorem versions_push (e : PolicyEntry) (id text : String) (createdAt : Instant) :
    (e.push ⟨id, some text, true, createdAt⟩).versions =
      VersionStore.created text id createdAt e.versions := rfl

/-- A request about versions goes as one to a store of versions; refusals are faults that the store
may make up. -/
theorem Versioned.disturbed {q : VersionRequest} {answer : Except Fault q.Answer}
    (h : Versioned a arn q answer a') (hreachable : a.Reachable) :
    Disturbed VersionStore.serves VersionStore.admits q (a.history arn) (.completed answer false)
      (a'.history arn) := by
  cases h with
  | @absent q f none notFound =>
    rw [history_of_none none]
    cases q with
    | getDefault => exact .served false ⟨rfl, .inr ⟨(fun v hv => nomatch hv), f, rfl⟩⟩
    | list => exact .failed false trivial
    | create text => exact .failed false trivial
    | delete id => exact .served false (.inr ⟨(fun v hv => nomatch hv), rfl, f, rfl, notFound⟩)
  | @current e v found default =>
    obtain ⟨hmem, hdefault⟩ := List.mem_filter.mp (default ▸ List.mem_singleton_self v)
    rw [history_of_some found]
    exact .served false ⟨rfl, .inl ⟨v, hmem, hdefault, rfl⟩⟩
  | @listed e found =>
    rw [history_of_some found]
    exact .served false ⟨rfl, _, rfl, VersionStore.mirrors_map_bare e.versions⟩
  | @created e text found =>
    rw [history_of_some found, history_putPolicy, versions_push]
    exact .served false ⟨_, _, (hreachable.wellFormed arn e found).numbered.fresh, rfl, rfl⟩
  | refused found notFound => exact .failed false trivial
  | @deleted e v found mem =>
    rw [history_of_some found, history_putPolicy]
    have hthere : ¬Fresh v.id e.versions := fun hfresh => hfresh v (mem_others.mp mem).1 rfl
    exact .served false (.inl ⟨hthere, rfl, rfl⟩)
  | @unknown e id f found fresh notFound =>
    rw [history_of_some found]
    exact .served false (.inr ⟨fresh, rfl, f, rfl, notFound⟩)
  | kept found mem default notFound => exact .failed false fun _ => notFound

theorem Calm.disturbed (h : a.Calm) (arn : String) (q : VersionRequest) :
    Disturbed VersionStore.serves VersionStore.admits q (a.history arn)
        (versionsOf undisturbed arn q a).1 ((versionsOf undisturbed arn q a).2.history arn) ∧
      (versionsOf undisturbed arn q a).2.Calm := by
  obtain ⟨answer, hreply, hserved, hcalm⟩ := h.served arn q
  refine ⟨?_, hcalm⟩
  rw [hreply]
  exact (h.reachable.quiet.versioned hserved).disturbed h.reachable.quiet

/-- The versions of a policy of a reachable account with nothing queued, as a store of versions. -/
def histories (arn : String) :
    Unreliable VersionStore.serves VersionStore.admits { a : Account // a.Calm } where
  provider q a := ((versionsOf undisturbed arn q a.1).1,
    ⟨(versionsOf undisturbed arn q a.1).2, (a.2.disturbed arn q).2⟩)
  live a := a.1.history arn
  disturbed q a := (a.2.disturbed arn q).1

/-- A pass over the adapter runs as one over the store. -/
theorem run_histories {α : Type} (arn : String) (p : Pass VersionRequest VersionRequest.Answer α)
    (cancelled : Bool) (a : { a : Account // a.Calm }) :
    let r := (p.adapt (policyVersions arn)).run undisturbed ⟨cancelled, a.1⟩
    let r' := p.run (histories arn).provider ⟨cancelled, a⟩
    r.1 = r'.1 ∧ r.2.cancelled = r'.2.cancelled ∧ r.2.state = r'.2.state.1 := by
  rw [Pass.run_adapt (realizes_policyVersions undisturbed arn)]
  refine Pass.run_related (R := fun (b : Account) (b' : { a : Account // a.Calm }) => b = b'.1) ?_ p
    rfl
  rintro q _ b rfl
  exact ⟨rfl, rfl⟩

/-! ## The contract -/

/-- What is promised of the versions of a policy: what a request answers and leaves, if `ask` makes
it. -/
structure VersionContract (a : Account) (arn : String)
    (ask : (q : VersionRequest) → Account → Except Fault q.Answer × Account) : Prop where
  missing : (∃ f, (ask .getDefault a).1 = .error f ∧ f.isNotFound = true) ↔
    a.policies.find? arn = none
  /-- The default version with its content is the only one that a listing flags. -/
  current : ∀ e, a.policies.find? arn = some e → ∃ v ∈ e.versions, ∃ listed,
    (ask .getDefault a).1 = .ok v ∧ (ask .list a).1 = .ok listed ∧
      listed.filter (·.isDefault) = [v.bare]
  listed : ∀ e, a.policies.find? arn = some e → (ask .list a).1 = .ok (e.versions.map bare)
  created : ∀ text id, (ask (.create text) a).1 = .ok id → ∃ listed createdAt,
    (ask .list a).1 = .ok listed ∧
      (ask .getDefault (ask (.create text) a).2).1 = .ok ⟨id, some text, true, createdAt⟩ ∧
      (ask .list (ask (.create text) a).2).1 =
        .ok (listed.map demoted ++ [⟨id, none, true, createdAt⟩])
  /-- Of the same policy no version was ever listed under a new id. -/
  fresh : ∀ text id, (ask (.create text) a).1 = .ok id → ∀ (b : Account) (cs : List Command),
    b.Reachable → a = b.after cs →
      (b.policies.find? arn).map (·.policy.id) = (a.policies.find? arn).map (·.policy.id) →
      ∀ listed, (ask .list b).1 = .ok listed → ∀ v ∈ listed, v.id ≠ id
  deleted : ∀ e, a.policies.find? arn = some e → ∀ v ∈ e.versions, v.isDefault = false →
    (ask (.delete v.id) a).1 = .ok () ∧ (ask (.delete v.id) a).2.quiet =
      (a.putPolicy arn { e with versions := without v.id e.versions }).quiet
  unknown : ∀ id, (∃ f, (ask (.delete id) a).1 = .error f ∧ f.isNotFound = true) ↔
    ∀ v ∈ a.history arn, v.id ≠ id
  kept : ∀ v ∈ a.history arn, v.isDefault = true →
    (∃ f, (ask (.delete v.id) a).1 = .error f ∧ f.isNotFound = false) ∧
      (ask (.delete v.id) a).2.quiet = a.quiet
  sound : ∀ e, a.policies.find? arn = some e → VersionStore.Sound (a.history arn)

/-- A new version is listed last, and the only default. -/
theorem listed_created (id text : String) (createdAt : Instant) (vs : List DocumentVersion) :
    (VersionStore.created text id createdAt vs).map bare =
      (vs.map bare).map demoted ++ [⟨id, none, true, createdAt⟩] := by
  rw [VersionStore.created, List.map_append, List.map_map, List.map_map]
  rfl

theorem default_created (id text : String) (createdAt : Instant) (vs : List DocumentVersion) :
    (VersionStore.created text id createdAt vs).filter (·.isDefault) =
      [⟨id, some text, true, createdAt⟩] := by
  have hnone : (vs.map demoted).filter (·.isDefault) = [] := by
    refine List.filter_eq_nil_iff.mpr fun v hv => ?_
    obtain ⟨w, -, rfl⟩ := List.mem_map.mp hv
    exact Bool.false_ne_true
  rw [VersionStore.created, List.filter_append, hnone]
  rfl

/-- A listing that is answered tells the versions that are there. -/
theorem listed_of_adapted {guarded : Bool} {resource : String} {listed : List DocumentVersion}
    (h : (adapted (policyVersions arn) guarded resource .list a).1 = .ok listed) :
    ∃ e, a.policies.find? arn = some e ∧ listed = e.versions.map bare := by
  rw [adapted_eq (realizes_policyVersions undisturbed arn)] at h
  have hanswer : (a.perform (.listVersions arn)).1 = .ok listed := h
  exact (effect_of_perform hanswer).1

section

variable {guarded : Bool} {resource : String}

/-- After a creation the new version is the default, and is listed after the demoted old ones. -/
theorem Calm.created {text id : String} (h : a.Calm)
    (hid : (adapted (policyVersions arn) guarded resource (.create text) a).1 = .ok id) :
    ∃ e, a.policies.find? arn = some e ∧
      let b := (adapted (policyVersions arn) guarded resource (.create text) a).2
      (adapted (policyVersions arn) guarded resource .getDefault b).1 =
          .ok ⟨id, some text, true, a.now⟩ ∧
        (adapted (policyVersions arn) guarded resource .list b).1 =
          .ok ((e.versions.map bare).map demoted ++ [⟨id, none, true, a.now⟩]) := by
  obtain ⟨hcreate, hcalm⟩ := h.versioned guarded resource arn (.create text)
  rw [hid] at hcreate
  obtain ⟨e, he, rfl, hquiet⟩ := hcreate.created_of_ok
  let pushed := e.push ⟨versionId e.nextVersion, some text, true, a.now⟩
  have hfound : (adapted (policyVersions arn) guarded resource
      (.create text) a).2.quiet.policies.find? arn = some pushed := by
    rw [hquiet]
    exact find?_putPolicy _ arn _
  refine ⟨e, he, ?_, ?_⟩
  · obtain ⟨v, hv, hanswer⟩ := (hcalm.versioned guarded resource arn .getDefault).1.of_found hfound
    have hdefault : pushed.versions.filter (·.isDefault) =
        [⟨versionId e.nextVersion, some text, true, a.now⟩] := default_created _ _ _ _
    cases hv.symm.trans hdefault
    exact hanswer
  · rw [(hcalm.versioned guarded resource arn .list).1.listed_of_found hfound]
    exact congrArg Except.ok (listed_created _ _ _ _)

/-- A version of a policy is created under an id that no version of it had before. -/
theorem Calm.fresh {text id : String} {b : Account} {cs : List Command} (h : a.Calm)
    (hid : (adapted (policyVersions arn) guarded resource (.create text) a).1 = .ok id)
    (hb : b.Reachable) (hafter : a = b.after cs) {e₀ : PolicyEntry}
    (he₀ : b.policies.find? arn = some e₀)
    (hsame : (b.policies.find? arn).map (·.policy.id) = (a.policies.find? arn).map (·.policy.id)) :
    ∀ v ∈ e₀.versions, v.id ≠ id := by
  obtain ⟨hcreate, -⟩ := h.versioned guarded resource arn (.create text)
  rw [hid] at hcreate
  obtain ⟨e, he, rfl, -⟩ := hcreate.created_of_ok
  rintro v hv heq
  have hpolicy : some e₀.policy.id = some e.policy.id := by
    rw [he₀, show a.policies.find? arn = some e from he] at hsame
    exact hsame
  obtain ⟨n, hn, hnumber⟩ := (hb.wellFormed arn e₀ he₀).numbered v hv
  -- the id was spare then, as it is now, but was the number of a version
  have hspare : a.SpareVersion (e.policy.id, versionId e.nextVersion) :=
    .inr ⟨arn, e, e.nextVersion, he, Nat.le_refl _, rfl⟩
  rw [hafter] at hspare
  refine hb.identified.not_spareVersion he₀ hn ?_
  rw [← hnumber, heq, Option.some.inj hpolicy]
  exact hspare.of_after

theorem Calm.versionContract (h : a.Calm) (guarded : Bool) (resource arn : String) :
    VersionContract a arn (adapted (policyVersions arn) guarded resource) := by
  have hcall : ∀ q, Versioned a.quiet arn q (adapted (policyVersions arn) guarded resource q a).1
      (adapted (policyVersions arn) guarded resource q a).2.quiet := fun q =>
    (h.versioned guarded resource arn q).1
  have hsound : ∀ {e}, a.policies.find? arn = some e → VersionStore.Sound e.versions := fun {e} he =>
    (h.reachable.dated arn e he).orderly.sound
  refine {
    missing := (hcall .getDefault).getDefault_notFound_iff
    current := fun e he => ?_
    listed := fun e he => (hcall .list).listed_of_found he
    created := fun text id hid => ?_
    fresh := fun text id hid b cs hb hafter hsame listed hlisted v hv => ?_
    deleted := fun e he v hv hnot => (hcall (.delete v.id)).deleted_of_mem (hsound he) he hv hnot rfl
    unknown := fun id => (hcall (.delete id)).delete_notFound_iff
    kept := fun v hv hdefault => ?_
    sound := fun e he => history_of_some he ▸ hsound he }
  · obtain ⟨v, hv, hanswer⟩ := (hcall .getDefault).of_found he
    have hmem : v ∈ e.versions := (List.mem_filter.mp (hv ▸ List.mem_singleton_self v)).1
    refine ⟨v, hmem, _, hanswer, (hcall .list).listed_of_found he, ?_⟩
    rw [List.filter_map]
    exact congrArg (List.map bare) hv
  · obtain ⟨e, he, hdefault, hlist⟩ := h.created hid
    exact ⟨_, _, (hcall .list).listed_of_found he, hdefault, hlist⟩
  · obtain ⟨e₀, he₀, rfl⟩ := listed_of_adapted hlisted
    obtain ⟨w, hw, rfl⟩ := List.mem_map.mp hv
    exact h.fresh hid hb hafter he₀ hsame w hw
  · cases hfind : a.policies.find? arn with
    | none =>
      rw [history_of_none hfind] at hv
      cases hv
    | some e =>
      rw [history_of_some hfind] at hv
      exact (hcall (.delete v.id)).kept_of_default (hsound hfind) hfind hv hdefault rfl

end

end Account

end IamConvergence
