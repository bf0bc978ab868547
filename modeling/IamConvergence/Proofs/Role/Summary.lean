/-
What the summary of a converged deployment tells. It is made from whether the role is new and from
what was attached and detached, so a role is called unchanged just when nothing was written but its
trust policy. Where the trust policy has not drifted, nothing was written then.
-/
import IamConvergence.Proofs.Account.Integrity
import IamConvergence.Proofs.Role.Absence

namespace IamConvergence

open Account (serves admits Effect effect_of_asked)

/-! ## Passes over a membership -/

namespace Attachment

variable {σ : Type} {parent : String} {desired lastKnown : List String} {cancelled : Bool}
  {cs : List (AttachmentCall σ)} {o : AttachmentOutcome}

theorem ne_list_of_mem_moves {gone new : List String} {q : AttachmentRequest}
    (h : q ∈ moves gone new) : q ≠ .list := by
  rcases List.mem_append.mp h with h | h
  all_goals
    obtain ⟨id, -, rfl⟩ := List.mem_map.mp h
    exact nofun

/-- A plan that was carried out changed nothing just when nothing was asked for. -/
theorem Accounting.changed_eq_false_iff {current : IdSet}
    (h : Accounting parent (.ofList desired) current cancelled cs o) (hnone : o.fault = none) :
    o.changed = false ↔ cs = [] := by
  obtain ⟨hall, -⟩ := h.converged.mp hnone
  have hchanged : o.changed = false ↔ o.attachedCount = 0 ∧ o.detachedCount = 0 := by
    simp [AttachmentOutcome.changed]
  rw [hchanged]
  constructor
  · rintro ⟨hattached, hdetached⟩
    obtain ⟨-, hgone, hnew⟩ := h.reached hnone
    have hplan : plan (.ofList desired) current = [] := by
      rw [plan, List.length_eq_zero_iff.mp (hgone.symm.trans hdetached),
        List.length_eq_zero_iff.mp (hnew.symm.trans hattached)]
      rfl
    exact List.map_eq_nil_iff.mp (hall.trans hplan)
  · rintro rfl
    exact ⟨h.attachedCount, h.detachedCount⟩

/-- A pass without a fault changed nothing just when it only listed the members. -/
theorem Reconciled.changed_eq_false_iff
    (h : Reconciled parent desired lastKnown cancelled cs o) (hnone : o.fault = none) :
    o.changed = false ↔ ∀ c ∈ cs, c.request = .list := by
  cases h with
  | unlisted => cases hnone
  | @listed cancelled' cs ds listed o list carried counted =>
    have haccount := carried.accounting counted
    rw [haccount.changed_eq_false_iff hnone]
    constructor
    · rintro rfl c hc
      rw [List.append_nil] at hc
      exact list.request_eq c hc
    · intro hall
      refine List.eq_nil_iff_forall_not_mem.mpr fun c hc => ?_
      have hmem : c.request ∈ plan (.ofList desired) (.ofList listed) :=
        haccount.planned.subset (List.mem_map_of_mem hc)
      exact ne_list_of_mem_moves hmem (hall c (List.mem_append_right _ hc))

/-- What a pass that changed nothing counts is what was listed. -/
theorem Reconciled.of_unchanged (h : Reconciled parent desired lastKnown cancelled cs o)
    (hnone : o.fault = none) (hunchanged : o.changed = false) :
    ∃ listed cancelled', Pass.Asked parent .list cancelled cs (.ok listed) cancelled' ∧
      o.attached = .ofList listed := by
  cases h with
  | unlisted => cases hnone
  | @listed cancelled' cs ds listed o list carried counted =>
    obtain rfl := ((carried.accounting counted).changed_eq_false_iff hnone).mp hunchanged
    refine ⟨listed, cancelled', ?_, congrArg AttachmentOutcome.attached counted⟩
    rwa [List.append_nil]

end Attachment

namespace RoleHandler

/-! ## Texts -/

/-- The summary of a role that is called unchanged. -/
def unchangedSummary (name : String) (n : Nat) : String :=
  s!"Role {name} unchanged with {n} policies"

theorem unchangedSummary_inj {name : String} {m n : Nat}
    (h : unchangedSummary name m = unchangedSummary name n) : m = n := by
  have hlist : (unchangedSummary name m).toList = (unchangedSummary name n).toList :=
    congrArg String.toList h
  exact toDigits_inj (by simpa [unchangedSummary] using hlist)

/-- A new role is not called unchanged. -/
theorem deployDetails_ne_of_created (status : RoleStatus) (o : AttachmentOutcome) (name : String)
    (n : Nat) : deployDetails status true o ≠ unchangedSummary name n := by
  intro h
  have hfirst := congrArg (fun s => s.toList.head?) h
  simp [deployDetails, unchangedSummary, toString] at hfirst

/-- Nor is one to which something was attached or from which something was detached. -/
theorem deployDetails_ne_of_changed (status : RoleStatus) {o : AttachmentOutcome}
    (hchanged : o.changed = true) (name : String) (n : Nat) :
    deployDetails status false o ≠ unchangedSummary name n := by
  intro h
  have hfirst := congrArg (fun s => s.toList.head?) h
  simp [deployDetails, unchangedSummary, hchanged, toString] at hfirst

theorem deployDetails_of_unchanged (status : RoleStatus) {o : AttachmentOutcome}
    (hunchanged : o.changed = false) :
    deployDetails status false o = unchangedSummary status.name o.attached.size := by
  simp [deployDetails, unchangedSummary, hunchanged]

/-! ## What is told apart -/

/-- A role's trust policy is written. -/
def Updating (q : IamRequest) : Prop := q.operation = "UpdateAssumeRolePolicy"

variable {σ : Type}

instance : DecidablePred Updating := fun q =>
  inferInstanceAs (Decidable (q.operation = "UpdateAssumeRolePolicy"))

/-- A deployment calls the role unchanged. -/
def Unchanged (e : Episode RoleHandler IamRequest IamRequest.Answer (Report RoleStatus) σ) : Prop :=
  ∃ n, e.result.details = some (unchangedSummary e.input.config.name n)

/-- A deployment found the role with a trust policy that is not the configured one. -/
def Drifted (e : Episode RoleHandler IamRequest IamRequest.Answer (Report RoleStatus) σ) : Prop :=
  ∃ role, Call.Answered e.calls (.getRole e.input.config.name) (.ok (some role)) ∧
    documentsEqual role.trustPolicy e.input.config.trustDocument = false

/-! ## The attached policies -/

variable {τ : Type} {truthful : List String} {u : Unreliable serves (Account.admits truthful) τ}
  {t t' : τ} {h : RoleHandler} {s : RoleStatus} {created cancelled : Bool} {cs : List (IamCall τ)}
  {report : Report RoleStatus}

theorem reads_onRole_iff {c : AttachmentCall τ} {role : String} :
    (c.onRole role).request.reads = true ↔ c.request = .list := by
  obtain ⟨resource, q, reply, b, b'⟩ := c
  cases q <;> simp [AttachmentCall.onRole, IamRequest.reads]

theorem settled_details (s : RoleStatus) (created : Bool) {o : AttachmentOutcome}
    (hnone : o.fault = none) :
    (h.settled s created o).details = some (deployDetails s created o) := by
  rw [RoleHandler.settled, hnone]
  rfl

/-- An existing role is called unchanged just when its attached policies were only listed. -/
theorem Converging.unchanged_iff (hconverging : Converging h s false cancelled cs report)
    (hphase : report.phase = .converged) :
    (∃ n, report.details = some (unchangedSummary s.name n)) ↔
      ∀ c ∈ cs, c.request.reads = true := by
  cases hconverging with
  | @settled cs o attachments =>
    have hnone : o.fault = none := (Report.settle_phase_eq_iff ..).mp hphase
    rw [settled_details s false hnone, List.forall_mem_map]
    simp only [reads_onRole_iff, ← attachments.changed_eq_false_iff hnone]
    constructor
    · rintro ⟨n, hn⟩
      refine Bool.eq_false_iff.mpr fun hchanged => ?_
      exact deployDetails_ne_of_changed s hchanged s.name n (Option.some.inj hn)
    · intro hunchanged
      exact ⟨_, congrArg some (deployDetails_of_unchanged s hunchanged)⟩

/-- The policies that are told of are attached. -/
theorem Converging.counted (hconverging : Converging h s false cancelled cs report)
    (hcourse : u.Course t cs t') (hphase : report.phase = .converged) {n : Nat}
    (hn : report.details = some (unchangedSummary s.name n)) :
    ∃ e, (u.live t').roles.find? h.config.name = some e ∧ e.attached.size = n := by
  have hreads := (hconverging.unchanged_iff hphase).mp ⟨n, hn⟩
  cases hconverging with
  | @settled cs o attachments =>
    have hnone : o.fault = none := (Report.settle_phase_eq_iff ..).mp hphase
    have hunchanged : o.changed = false := by
      rw [attachments.changed_eq_false_iff hnone]
      exact fun c hc => reads_onRole_iff.mp (hreads _ (List.mem_map_of_mem hc))
    obtain ⟨listed, cancelled', list, hattached⟩ := attachments.of_unchanged hnone hunchanged
    obtain ⟨reply, b, b', rfl, hanswer⟩ := list.of_ok
    obtain ⟨⟨hbefore, rfl⟩, hexplained⟩ := hcourse
    have hlist : Effect (.listAttached h.config.name) (u.live b) listed (u.live t') :=
      Account.effect_of_answer (hexplained _ List.mem_cons_self) hanswer
    obtain ⟨⟨e, he, rfl⟩, hkept⟩ := hlist
    refine ⟨e, by rw [hkept]; exact he, ?_⟩
    rw [settled_details s false hnone, deployDetails_of_unchanged s hunchanged, hattached,
      IdSet.ofList_toList] at hn
    exact unchangedSummary_inj (Option.some.inj hn)

/-- A new role is not called unchanged. -/
theorem Converging.details_ne_of_created (hconverging : Converging h s true cancelled cs report)
    (hphase : report.phase = .converged) (name : String) (n : Nat) :
    report.details ≠ some (unchangedSummary name n) := by
  cases hconverging with
  | @settled cs o attachments =>
    have hnone : o.fault = none := (Report.settle_phase_eq_iff ..).mp hphase
    rw [settled_details s true hnone]
    exact fun hn => deployDetails_ne_of_created s o name n (Option.some.inj hn)

theorem Converging.not_updating (hconverging : Converging h s created cancelled cs report) :
    ∀ c ∈ cs, ¬Updating c.request := by
  cases hconverging with
  | @settled cs o attachments =>
    refine List.forall_mem_map.mpr fun c _ => ?_
    obtain ⟨resource, q, reply, b, b'⟩ := c
    cases q <;> simp [AttachmentCall.onRole, Updating, IamRequest.operation]

/-! ## Deployments -/

/-- The summary of a converged deployment. -/
structure Summed (u : Unreliable serves (Account.admits truthful) τ)
    (e : Episode RoleHandler IamRequest IamRequest.Answer (Report RoleStatus) τ) : Prop where
  /-- A role is called unchanged just when nothing was written but its trust policy. -/
  unchanged_iff : Unchanged e ↔ ∀ c ∈ e.calls, c.request.reads = true ∨ Updating c.request
  /-- That was written just when it was found to have drifted. -/
  updated_iff : (∃ c ∈ e.calls, Updating c.request) ↔ Drifted e
  counted : ∀ n, e.result.details = some (unchangedSummary e.input.config.name n) →
    ∃ entry, (u.live e.after).roles.find? e.input.config.name = some entry ∧
      entry.attached.size = n

section

variable {gs : List (IamCall τ)}

/-- What comes before the attached policies does not matter if it wrote nothing but the trust
policy. -/
theorem Converging.unchanged_iff_append (hconverging : Converging h s false cancelled cs report)
    (hphase : report.phase = .converged)
    (hgs : ∀ c ∈ gs, c.request.reads = true ∨ Updating c.request) :
    (∃ n, report.details = some (unchangedSummary s.name n)) ↔
      ∀ c ∈ gs ++ cs, c.request.reads = true ∨ Updating c.request := by
  rw [hconverging.unchanged_iff hphase, List.forall_mem_append, and_iff_right hgs]
  refine forall₂_congr fun c hc => ?_
  rw [or_iff_left (hconverging.not_updating c hc)]

/-- A role is answered under the name that was looked up. -/
theorem name_of_asked {cancelled' : Bool} {role : Role} (hcourse : u.Course t gs t')
    (hnamed : (u.live t).Named)
    (get : Pass.Asked h.config.name (.getRole h.config.name) cancelled gs (.ok (some role))
      cancelled') : (h.status.identify role).name = h.config.name := by
  obtain ⟨hget, -⟩ := effect_of_asked hcourse get
  obtain ⟨e, he, rfl⟩ := Option.map_eq_some_iff.mp hget.symm
  exact hnamed _ e he

variable {resource : String} {q : IamRequest} {answer : Except Fault q.Answer} {cancelled' : Bool}

theorem reads_of_asked (hasked : Pass.Asked resource q cancelled gs answer cancelled')
    (hq : q.reads = true ∨ Updating q) : ∀ c ∈ gs, c.request.reads = true ∨ Updating c.request :=
  fun c hc => by rwa [hasked.request_eq c hc]

theorem not_updating_of_asked (hasked : Pass.Asked resource q cancelled gs answer cancelled')
    (hq : ¬Updating q) : ∀ c ∈ gs, ¬Updating c.request :=
  fun c hc => by rwa [hasked.request_eq c hc]

end

theorem Deployed.summed (hdeployed : Deployed h cancelled cs report) (hcourse : u.Course t cs t')
    (hnamed : (u.live t).Named) (hphase : report.phase = .converged) :
    Summed u ⟨h, cs, report, t, t'⟩ := by
  cases hdeployed with
  | unread | uncreated | unupdated => exact absurd hphase (h.fail_phase_ne _ _)
  | @created _ _ gs ns ds role _ get create converging =>
    have hnot := converging.details_ne_of_created hphase h.config.name
    have hget := not_updating_of_asked get (by decide : "GetRole" ≠ "UpdateAssumeRolePolicy")
    have hcreate :=
      not_updating_of_asked create (by decide : "CreateRole" ≠ "UpdateAssumeRolePolicy")
    have hnever : ∀ c ∈ gs ++ (ns ++ ds), ¬Updating c.request :=
      List.forall_mem_append.mpr
        ⟨hget, List.forall_mem_append.mpr ⟨hcreate, converging.not_updating⟩⟩
    constructor
    · refine iff_of_false (fun ⟨n, hn⟩ => hnot n hn) fun hall => ?_
      obtain ⟨_, _, _, _, hmem, -⟩ : Call.Answered (gs ++ (ns ++ ds)) (.createRole h.draft)
          (.ok role) :=
        Call.answered_append.mpr (.inr (Call.answered_append.mpr (.inl create.answered)))
      rcases hall _ hmem with hreads | hupdating
      · cases hreads
      · exact hnever _ hmem hupdating
    · refine ⟨fun ⟨c, hc, hupdating⟩ => absurd hupdating (hnever c hc), ?_⟩
      rintro ⟨role', hlooked, -⟩
      cases answer_eq_of_answered get hlooked
        (Call.not_answered_append (create.not_answered (by nofun) _) converging.not_answered)
    · exact fun n hn => absurd hn (hnot n)
  | @kept _ gs ds role _ get same converging =>
    obtain ⟨m, hgets, hcourse⟩ := hcourse.split
    have hname := name_of_asked hgets hnamed get
    have hgs := reads_of_asked get (.inl rfl)
    have hget := not_updating_of_asked get (by decide : "GetRole" ≠ "UpdateAssumeRolePolicy")
    have hnever : ∀ c ∈ gs ++ ds, ¬Updating c.request :=
      List.forall_mem_append.mpr ⟨hget, converging.not_updating⟩
    constructor
    · show (∃ n, _) ↔ _
      rw [← hname]
      exact converging.unchanged_iff_append hphase hgs
    · refine ⟨fun ⟨c, hc, hupdating⟩ => absurd hupdating (hnever c hc), ?_⟩
      rintro ⟨role', hlooked, hdrifted⟩
      cases answer_eq_of_answered get hlooked converging.not_answered
      cases same.symm.trans hdrifted
    · intro n hn
      rw [← hname] at hn
      exact converging.counted hcourse hphase hn
  | @updated _ _ gs ns ds role _ get drifted update converging =>
    obtain ⟨m, hgets, hcourse⟩ := hcourse.split
    obtain ⟨m', -, hcourse⟩ := hcourse.split
    have hname := name_of_asked hgets hnamed get
    have hgs := reads_of_asked get (.inl rfl)
    have hns := reads_of_asked update (.inr rfl)
    obtain ⟨_, _, _, _, hmem, -⟩ : Call.Answered (gs ++ (ns ++ ds))
        (.updateTrustPolicy h.config.name h.config.trustDocument) (.ok ()) :=
      Call.answered_append.mpr (.inr (Call.answered_append.mpr (.inl update.answered)))
    constructor
    · show (∃ n, _) ↔ _
      rw [← hname]
      have hiff := converging.unchanged_iff_append hphase (List.forall_mem_append.mpr ⟨hgs, hns⟩)
      rwa [List.append_assoc] at hiff
    · refine iff_of_true ⟨_, hmem, rfl⟩ ⟨role, ?_, drifted⟩
      exact Call.answered_append.mpr (.inl get.answered)
    · intro n hn
      rw [← hname] at hn
      exact converging.counted hcourse hphase hn

/-- **A converged deployment calls the role unchanged just when it wrote nothing but a drifted trust
policy**, and tells how many policies are attached. Where the trust policy had not drifted, nothing
was written at all. -/
theorem deploy_summed (u : Unreliable serves (Account.admits truthful) τ) (h : RoleHandler)
    (cancelled : Bool) {t : τ} (hreachable : (u.live t).Reachable)
    (hphase : (Pass.episode u.provider deploy h cancelled t).result.phase = .converged) :
    Summed u (Pass.episode u.provider deploy h cancelled t) ∧
      (¬Drifted (Pass.episode u.provider deploy h cancelled t) →
        (Unchanged (Pass.episode u.provider deploy h cancelled t) ↔
          ∀ c ∈ (Pass.episode u.provider deploy h cancelled t).calls, c.request.reads = true)) := by
  have hsummed := (deployed u.provider h ⟨cancelled, t⟩).summed (u.course_calls h.deploy _)
    hreachable.named hphase
  refine ⟨hsummed, fun hsteady => ?_⟩
  refine hsummed.unchanged_iff.trans (forall₂_congr fun c hc => or_iff_left fun hupdating => ?_)
  exact hsteady (hsummed.updated_iff.mp ⟨c, hc, hupdating⟩)

/-- A role with one attached policy is deployed again, and nothing is written. -/
theorem deploy_summed_steady :
    let h : RoleHandler :=
      ⟨.plain "app" ["arn:aws:iam::aws:policy/ReadOnlyAccess"], {}, Fault.defaultClass⟩
    let a := (Account.perform (.attach "app" "arn:aws:iam::aws:policy/ReadOnlyAccess")
      (Account.perform (.createRole h.draft) {}).2).2
    let u := Account.interrupted []
    let t := (⟨a, by decide +kernel⟩, [])
    let e := Pass.episode u.provider deploy h false t
    (u.live t).Reachable ∧ e.result.phase = .converged ∧ Summed u e ∧
      e.result.details = some (unchangedSummary "app" 1) ∧
      ∀ c ∈ e.calls, c.request.reads = true := by
  intro h a u t e
  have hreachable : a.Reachable := ((Account.Reachable.empty _).performed _).performed _
  have hlive : (u.live t).Reachable := by
    simp only [u, t, Account.interrupted]
    exact hreachable.quiet
  have hphase : e.result.phase = .converged := by decide +kernel
  have hdetails : e.result.details = some (unchangedSummary "app" 1) := by decide +kernel
  obtain ⟨hsummed, hiff⟩ := deploy_summed u h false hlive hphase
  have hsteady : ¬Drifted e := by
    rw [← hsummed.updated_iff]
    decide +kernel
  exact ⟨hlive, hphase, hsummed, hdetails, (hiff hsteady).mp ⟨1, hdetails⟩⟩

/-- A role is called unchanged although its trust policy is written. -/
theorem deploy_summed_drifted :
    let h : RoleHandler :=
      ⟨.plain "app" ["arn:aws:iam::aws:policy/ReadOnlyAccess"], {}, Fault.defaultClass⟩
    let a := (Account.perform (.attach "app" "arn:aws:iam::aws:policy/ReadOnlyAccess")
      (Account.perform (.createRole ⟨"app", "[]", "/", "", defaultSessionDuration, .empty⟩) {}).2).2
    let u := Account.interrupted []
    let t := (⟨a, by decide +kernel⟩, [])
    let e := Pass.episode u.provider deploy h false t
    (u.live t).Reachable ∧ e.result.phase = .converged ∧
      e.result.details = some "Role app unchanged with 1 policies" ∧
      ∃ c ∈ e.calls, Updating c.request ∧ u.Effective c := by
  intro h a u t e
  have hreachable : a.Reachable := ((Account.Reachable.empty _).performed _).performed _
  have hlive : (u.live t).Reachable := by
    simp only [u, t, Account.interrupted]
    exact hreachable.quiet
  exact ⟨hlive, by decide +kernel, by decide +kernel, by decide +kernel⟩

end RoleHandler

end IamConvergence
