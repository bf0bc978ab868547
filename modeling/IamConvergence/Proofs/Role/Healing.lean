/-
Undisturbed deployments of a role of a reachable account. Nothing but a configured policy of the
account that does not exist can stop one: what is attached exists, so only what is still to be
attached may be missing, and it is attached in increasing order. Up to there the deployment did
what is configured, and the status tells it.
-/
import IamConvergence.Proofs.Account.Undisturbed
import IamConvergence.Proofs.Role.Deploy

namespace IamConvergence

namespace Account

variable {a a' a₀ : Account} {name arn : String} {e : RoleEntry} {r : Role}
  {o : AttachmentOutcome}

/-! ## Missing policies -/

/-- A resource name of a policy of the account under which there is none. -/
def Missing (a : Account) (arn : String) : Prop :=
  a.ownsPolicy arn = true ∧ a.policies.find? arn = none

instance (a : Account) (arn : String) : Decidable (a.Missing arn) :=
  inferInstanceAs (Decidable (_ ∧ _))

theorem not_missing_iff :
    ¬a.Missing arn ↔ (a.ownsPolicy arn = true → ∃ e, a.policies.find? arn = some e) := by
  rw [Missing, not_and, ← ne_eq, Option.ne_none_iff_exists']

theorem missing_of_putPolicy {e : PolicyEntry} {arn' : String}
    (h : (a.putPolicy arn e).Missing arn') : a.Missing arn' := by
  obtain ⟨howns, hnone⟩ := h
  refine ⟨howns, ?_⟩
  by_cases hsame : arn' = arn
  · rw [hsame] at hnone
    have hfound : (a.putPolicy arn e).policies.find? arn = some e :=
      Table.find?_insert_self a.policies arn e
    cases hfound.symm.trans hnone
  · exact (Table.find?_insert_of_ne a.policies e hsame).symm.trans hnone

/-- What is attached to a role is in use. -/
theorem Attached.in_use (h : a.Attached name arn) :
    a.roles.values.any (arn ∈ ·.attached) = true := by
  obtain ⟨e, he, hmem⟩ := h
  exact List.any_eq_true.mpr ⟨e, Table.mem_values_iff.mpr ⟨name, he⟩, decide_eq_true hmem⟩

theorem in_use_iff :
    a.roles.values.any (arn ∈ ·.attached) = true ↔ ∃ role, a.Attached role arn := by
  constructor
  · intro hany
    obtain ⟨e, he, hmem⟩ := List.any_eq_true.mp hany
    obtain ⟨role, hrole⟩ := Table.mem_values_iff.mp he
    exact ⟨role, e, hrole, of_decide_eq_true hmem⟩
  · rintro ⟨role, hattached⟩
    exact hattached.in_use

/-- Every policy of the account that is attached exists. -/
def Backed (a : Account) : Prop := ∀ role arn, a.Attached role arn → ¬a.Missing arn

namespace Backed

theorem of_subset (h : a.Backed) (hattached : ∀ role arn, a'.Attached role arn → a.Attached role arn)
    (hmissing : ∀ arn, a'.Missing arn → a.Missing arn) : a'.Backed :=
  fun role arn hmem hnone => h role arn (hattached role arn hmem) (hmissing arn hnone)

/-- Another entry may stand under a role's name if what is attached to it was, or exists. -/
theorem putRole (h : a.Backed)
    (hentry : ∀ arn ∈ e.attached, a.Attached name arn ∨ ¬a.Missing arn) :
    (a.putRole name e).Backed := by
  rintro role arn ⟨e', he', hmem⟩ hmissing
  rcases Table.find?_insert_eq_some_iff.mp he' with ⟨rfl, rfl⟩ | ⟨-, he'⟩
  · rcases hentry arn hmem with hattached | hnot
    · exact h role arn hattached hmissing
    · exact hnot hmissing
  · exact h role arn ⟨e', he', hmem⟩ hmissing

theorem of_effect {q : IamRequest} {answer : q.Answer} (h : a.Backed)
    (heffect : Effect q a answer a') : a'.Backed := by
  cases q with
  | getRole | listAttached | findPolicy | getPolicy | getVersion | listVersions =>
    obtain ⟨-, rfl⟩ := heffect
    exact h
  | createRole d =>
    obtain ⟨-, -, -, rfl⟩ := heffect
    refine putRole (h.of_subset (fun _ _ hmem => hmem) fun _ hnone => hnone) fun arn hmem => ?_
    exact absurd hmem (IdSet.not_mem_empty arn)
  | updateTrustPolicy =>
    obtain ⟨-, e, he, rfl⟩ := heffect
    exact h.putRole fun arn hmem => .inl ⟨e, he, hmem⟩
  | deleteRole =>
    obtain ⟨e, -, -, rfl⟩ := heffect
    refine h.of_subset ?_ fun _ hnone => hnone
    rintro role arn ⟨e', he', hmem⟩
    exact ⟨e', Table.find?_of_find?_erase he', hmem⟩
  | attach role arn =>
    obtain ⟨hexists, e, he, rfl⟩ := heffect
    refine h.putRole fun arn' hmem => ?_
    rcases IdSet.mem_insert.mp hmem with rfl | hmem
    · exact .inr (not_missing_iff.mpr hexists)
    · exact .inl ⟨e, he, hmem⟩
  | detach =>
    obtain ⟨e, he, -, rfl⟩ := heffect
    exact h.putRole fun arn' hmem => .inl ⟨e, he, (IdSet.mem_erase.mp hmem).1⟩
  | createPolicy =>
    obtain ⟨-, -, -, rfl⟩ := heffect
    exact h.of_subset (fun _ _ hmem => hmem) fun _ hnone => missing_of_putPolicy hnone
  | deletePolicy arn =>
    obtain ⟨e, -, -, hunused, rfl⟩ := heffect
    intro role arn' hattached ⟨howns, hnone⟩
    have hused : a.Attached role arn' := hattached
    by_cases hsame : arn' = arn
    · -- a policy that is attached is not deleted
      subst hsame
      exact hunused hused.in_use
    · exact h role arn' hused
        ⟨howns, (Table.find?_erase_of_ne a.policies hsame).symm.trans hnone⟩
  | createVersion =>
    obtain ⟨e, -, -, -, -, rfl⟩ := heffect
    exact h.of_subset (fun _ _ hmem => hmem) fun _ hnone => missing_of_putPolicy hnone
  | deleteVersion =>
    obtain ⟨e, -, v, -, -, rfl⟩ := heffect
    exact h.of_subset (fun _ _ hmem => hmem) fun _ hnone => missing_of_putPolicy hnone

end Backed

theorem Reachable.backed (h : Reachable a) : a.Backed := by
  refine h.invariant (I := Backed) ?_ ?_ fun heffect h => h.of_effect heffect
  · rintro versionLimit role arn ⟨e, he, -⟩
    cases he
  · intro a b hquiet h
    have hattached : ∀ role arn, b.quiet.Attached role arn → a.quiet.Attached role arn := by
      rw [hquiet]
      exact fun _ _ hmem => hmem
    have hmissing : ∀ arn, b.quiet.Missing arn → a.quiet.Missing arn := by
      rw [hquiet]
      exact fun _ hnone => hnone
    exact h.of_subset hattached hmissing

/-! ## Attaching and detaching, undisturbed -/

/-- A role to which just the counted members are attached, in an account with the policies that
there were. -/
structure Tracks (a₀ a : Account) (name : String) (r : Role) (o : AttachmentOutcome) : Prop where
  found : a.roles.find? name = some ⟨r, o.attached⟩
  policies : a.policies = a₀.policies
  accountId : a.accountId = a₀.accountId

namespace Tracks

theorem missing_iff (h : Tracks a₀ a name r o) : a.Missing arn ↔ a₀.Missing arn := by
  unfold Missing ownsPolicy
  rw [h.policies, h.accountId]

/-- A request is granted unless it detaches what is not attached or attaches what is missing. -/
theorem granted (h : Tracks a₀ a name r o) (q : AttachmentRequest)
    (hgone : ∀ arn, q.detached? = some arn → arn ∈ o.attached)
    (hnew : ∀ arn, q.attached? = some arn → ¬a₀.Missing arn) :
    ∃ answer a', attachmentEffect name q a = .ok (answer, a') ∧
      Tracks a₀ a' name r (o.settle q) := by
  cases q with
  | list =>
    have hlist : Effect (.listAttached name) a o.attached.toList a := ⟨⟨_, h.found, rfl⟩, rfl⟩
    exact ⟨_, a, effect_eq_ok_iff.mpr hlist, h⟩
  | attach arn =>
    have hexists := not_missing_iff.mp (mt h.missing_iff.mp (hnew arn rfl))
    have hattach : Effect (.attach name arn) a ()
        (a.putRole name ⟨r, o.attached.insert arn⟩) := ⟨hexists, _, h.found, rfl⟩
    exact ⟨(), _, effect_eq_ok_iff.mpr hattach, find?_putRole a name _, h.policies, h.accountId⟩
  | detach arn =>
    have hdetach : Effect (.detach name arn) a ()
        (a.putRole name ⟨r, o.attached.erase arn⟩) := ⟨_, h.found, hgone arn rfl, rfl⟩
    exact ⟨(), _, effect_eq_ok_iff.mpr hdetach, find?_putRole a name _, h.policies, h.accountId⟩

/-- What is missing is not attached. -/
theorem refused (h : Tracks a₀ a name r o) (hmissing : a₀.Missing arn) :
    ∃ message, a.effect (.attach name arn) = .error (.notFound arn message) := by
  obtain ⟨howns, hnone⟩ := h.missing_iff.mpr hmissing
  simp only [effect, attach, howns, if_true, policyEntry, hnone]
  exact ⟨_, rfl⟩

/-- A plan is carried out as far as its requests are granted. -/
theorem proceeds (parent : String) (rest : List AttachmentRequest) :
    ∀ {qs : List AttachmentRequest} {a : Account} {o : AttachmentOutcome}, Tracks a₀ a name r o →
      (qs.filterMap (·.detached?)).Nodup →
      (∀ arn ∈ qs.filterMap (·.detached?), arn ∈ o.attached) →
      (∀ arn ∈ qs.filterMap (·.attached?), ¬a₀.Missing arn) →
      ∃ a', Tracks a₀ a' name r (qs.foldl .settle o) ∧
        Proceeds ((Attachment.carryOut parent (qs ++ rest) o).adapt (roleAttachments name)) a
          ((Attachment.carryOut parent rest (qs.foldl .settle o)).adapt (roleAttachments name)) a'
  | [], a, o, h, _, _, _ => ⟨a, h, .refl _ _⟩
  | q :: qs, a, o, h, honce, hgone, hnew => by
    obtain ⟨answer, a', heffect, htracks⟩ := h.granted q
      (fun arn hq => hgone arn (List.mem_filterMap.mpr ⟨q, List.mem_cons_self, hq⟩))
      (fun arn hq => hnew arn (List.mem_filterMap.mpr ⟨q, List.mem_cons_self, hq⟩))
    have honce' : (qs.filterMap (·.detached?)).Nodup :=
      honce.sublist ((List.sublist_cons_self q qs).filterMap _)
    have hgone' : ∀ arn ∈ qs.filterMap (·.detached?), arn ∈ (o.settle q).attached := by
      intro arn harn
      refine (o.mem_settle q arn).mpr (.inl ⟨hgone arn ?_, ?_⟩)
      · exact ((List.sublist_cons_self q qs).filterMap _).subset harn
      · -- what is detached later was not detached here
        intro hq
        rw [List.filterMap_cons_some hq] at honce
        exact (List.nodup_cons.mp honce).1 harn
    obtain ⟨a'', htracks', hrest⟩ := proceeds parent rest htracks honce' hgone' fun arn harn =>
      hnew arn (((List.sublist_cons_self q qs).filterMap _).subset harn)
    refine ⟨a'', htracks', ?_⟩
    cases q with
    | list | attach id | detach id => exact .served (effect_eq_ok_iff.mp heffect) hrest

end Tracks

/-! ## A whole pass -/

/-- A policy that is missing among some resource names, and the first such one. -/
structure FirstMissing (a : Account) (arns : List String) (arn : String) : Prop where
  mem : arn ∈ arns
  missing : a.Missing arn
  least : ∀ arn' ∈ arns, a.Missing arn' → ¬arn' < arn

/-- How an undisturbed pass over attached policies ends: they are the desired ones, or the first
desired one that is missing stopped the attaching after those before it. -/
inductive Ended (a : Account) (desired current : IdSet) (o : AttachmentOutcome) : Prop where
  | reached (fault : o.fault = none) (exist : ∀ arn ∈ desired, ¬a.Missing arn)
    (attached : ∀ arn, arn ∈ o.attached ↔ arn ∈ desired)
  | stopped {missing message : String} (fault : o.fault = some (.notFound missing message))
    (first : a.FirstMissing desired.toList missing)
    (attached : ∀ arn, arn ∈ o.attached ↔ arn ∈ desired ∧ (arn < missing ∨ arn ∈ current))

namespace Tracks

open Attachment (moves plan carryOut)

/-- What is detached and attached before the rest of a plan. -/
theorem proceeds_moves (h : Tracks a₀ a name r o) (parent : String) (desired : IdSet)
    (rest : List AttachmentRequest) {new : List String} (hnew : ∀ arn ∈ new, ¬a₀.Missing arn) :
    let gone := (o.attached.diff desired).toList
    let o' := (moves gone new).foldl .settle o
    (∀ arn, arn ∈ o'.attached ↔ (arn ∈ o.attached ∧ arn ∈ desired) ∨ arn ∈ new) ∧
      ∃ a', Tracks a₀ a' name r o' ∧
        Proceeds ((carryOut parent (moves gone new ++ rest) o).adapt (roleAttachments name)) a
          ((carryOut parent rest o').adapt (roleAttachments name)) a' := by
  intro gone o'
  constructor
  · intro arn
    rw [(Attachment.foldl_settle_moves gone new o).1 arn, IdSet.mem_toList, IdSet.mem_diff]
    grind
  · refine h.proceeds parent rest ?_ ?_ ?_
    · rw [Attachment.detached?_moves]
      exact IdSet.nodup _
    · rw [Attachment.detached?_moves]
      exact fun arn harn => (IdSet.mem_diff.mp harn).1
    · rw [Attachment.attached?_moves]
      exact hnew

theorem proceeds_plan (h : Tracks a₀ a name r o) (hfault : o.fault = none)
    (hbacked : ∀ arn ∈ o.attached, ¬a₀.Missing arn) (parent : String) (desired : IdSet) :
    ∃ a' o', Tracks a₀ a' name r o' ∧ Ended a₀ desired o.attached o' ∧
      Proceeds ((carryOut parent (plan desired o.attached) o).adapt (roleAttachments name)) a
        (.done o') a' := by
  cases hfind : (desired.diff o.attached).toList.find? (fun arn => a₀.Missing arn) with
  | none =>
    have hnew : ∀ arn ∈ (desired.diff o.attached).toList, ¬a₀.Missing arn := fun arn harn => by
      simpa using List.find?_eq_none.mp hfind arn harn
    obtain ⟨hattached, a', htracks, hproceeds⟩ := h.proceeds_moves parent desired [] hnew
    rw [List.append_nil] at hproceeds
    refine ⟨a', _, htracks, .reached ?_ ?_ ?_, hproceeds⟩
    · rw [AttachmentOutcome.foldl_settle_fault, hfault]
    · intro arn harn
      by_cases hmem : arn ∈ o.attached
      · exact hbacked arn hmem
      · exact hnew arn (IdSet.mem_diff.mpr ⟨harn, hmem⟩)
    · intro arn
      rw [hattached arn, IdSet.mem_toList, IdSet.mem_diff]
      grind
  | some missing =>
    obtain ⟨hmissing, before, after, hnew, hbefore⟩ := List.find?_eq_some_iff_append.mp hfind
    replace hmissing : a₀.Missing missing := of_decide_eq_true hmissing
    replace hbefore : ∀ arn ∈ before, ¬a₀.Missing arn := by simpa using hbefore
    -- what is still to be attached before the missing one
    have hmem : ∀ arn, arn ∈ before ↔ (arn ∈ desired ∧ arn ∉ o.attached) ∧ arn < missing := by
      have hsorted := (desired.diff o.attached).ordered
      rw [hnew] at hsorted
      intro arn
      rw [IdSet.mem_before_iff hsorted, ← hnew, IdSet.mem_toList, IdSet.mem_diff]
    have hmissing' : missing ∈ desired ∧ missing ∉ o.attached := by
      rw [← IdSet.mem_diff, ← IdSet.mem_toList, hnew]
      exact List.mem_append_right _ List.mem_cons_self
    obtain ⟨hattached, a', htracks, hproceeds⟩ := h.proceeds_moves parent desired
      (.attach missing :: after.map .attach) hbefore
    obtain ⟨message, hrefused⟩ := htracks.refused hmissing
    have hplan : plan desired o.attached = moves (o.attached.diff desired).toList before ++
        (.attach missing :: after.map .attach) := by simp [plan, moves, hnew]
    let reached := (moves (o.attached.diff desired).toList before).foldl .settle o
    refine ⟨a', reached.failed (.notFound missing message), ?_,
      .stopped rfl ⟨hmissing'.1, hmissing, ?_⟩ ?_, ?_⟩
    · exact ⟨htracks.found, htracks.policies, htracks.accountId⟩
    · intro arn harn hnone hlt
      by_cases hold : arn ∈ o.attached
      · exact hbacked arn hold hnone
      · exact hbefore arn ((hmem arn).mpr ⟨⟨harn, hold⟩, hlt⟩) hnone
    · intro arn
      show arn ∈ reached.attached ↔ _
      rw [hattached arn, hmem arn]
      grind
    · rw [hplan]
      exact hproceeds.trans (.refused hrefused (.refl _ _))

end Tracks

end Account

namespace RoleHandler

open Account (Backed Effect Ended FirstMissing Tracks undisturbed)

variable {h : RoleHandler} {a a' a₀ : Account} {r : Role} {attached : IdSet}

/-! ## Deployments -/

theorem proceeds_attachments (htracks : Tracks a₀ a h.config.name r (.unchanged attached none))
    (hbacked : ∀ arn ∈ attached, ¬a₀.Missing arn) (desired : List String) (status : RoleStatus) :
    ∃ a' o, Tracks a₀ a' h.config.name r o ∧ Ended a₀ (.ofList desired) attached o ∧
      Proceeds (h.attachments desired status) a (.done o) a' := by
  obtain ⟨a', o, htracks', hended, hproceeds⟩ := htracks.proceeds_plan rfl hbacked h.config.name
    (.ofList desired)
  refine ⟨a', o, htracks', hended, ?_⟩
  have hlist : Effect (.listAttached h.config.name) a attached.toList a :=
    ⟨⟨_, htracks.found, rfl⟩, rfl⟩
  rw [attachments, Attachment.reconcile_eq]
  refine .served hlist ?_
  show Proceeds (Pass.adapt _ (Attachment.carryOut _ (Attachment.plan _ (.ofList attached.toList))
    (.unchanged (.ofList attached.toList) none))) a _ a'
  rw [IdSet.ofList_toList]
  exact hproceeds

theorem proceeds_converge (htracks : Tracks a₀ a h.config.name r (.unchanged attached none))
    (hbacked : ∀ arn ∈ attached, ¬a₀.Missing arn) (status : RoleStatus) (created : Bool) :
    ∃ a' o, Tracks a₀ a' h.config.name r o ∧
      Ended a₀ (.ofList h.config.managedPolicies) attached o ∧
      Proceeds (h.converge status created) a (.done (h.settled status created o)) a' := by
  obtain ⟨a', o, htracks', hended, hproceeds⟩ := proceeds_attachments htracks hbacked
    h.config.managedPolicies status
  exact ⟨a', o, htracks', hended, hproceeds.map _⟩

/-- A deployment goes on to the policies that were attached before. -/
theorem proceeds_deploy (h : RoleHandler) (a : Account)
    (hdocument : (Document.parse? h.config.trustDocument).isSome = true) :
    ∃ a' status created r attached, Tracks a a' h.config.name r (.unchanged attached none) ∧
      (∀ arn, arn ∈ attached ↔ a.Attached h.config.name arn) ∧
      Proceeds h.deploy a (h.converge status created) a' := by
  unfold deploy lookUp
  cases he : a.roles.find? h.config.name with
  | none =>
    have hget : Effect (.getRole h.config.name) a none a := ⟨by rw [he]; rfl, rfl⟩
    have hcreate : Effect (.createRole h.draft) a (a.roleOf h.draft)
        (a.issued.putRole h.config.name ⟨a.roleOf h.draft, .empty⟩) := ⟨he, hdocument, rfl, rfl⟩
    refine ⟨_, { h.status.identify (a.roleOf h.draft) with attached := [] }, true, a.roleOf h.draft,
      .empty, ⟨Account.find?_putRole a.issued h.config.name _, rfl, rfl⟩, ?_,
      .served hget (.served hcreate (.refl _ _))⟩
    intro arn
    constructor
    · exact fun hmem => absurd hmem (IdSet.not_mem_empty arn)
    · rintro ⟨e, he', -⟩
      cases he.symm.trans he'
  | some e =>
    have hget : Effect (.getRole h.config.name) a (some e.role) a := ⟨by rw [he]; rfl, rfl⟩
    have hattached : ∀ arn, arn ∈ e.attached ↔ a.Attached h.config.name arn :=
      fun _ => (Account.attached_iff he).symm
    by_cases hsame : documentsEqual e.role.trustPolicy h.config.trustDocument = true
    · refine ⟨a, h.status.identify e.role, false, e.role, e.attached, ⟨he, rfl, rfl⟩, hattached,
        .served hget ?_⟩
      dsimp only
      rw [if_pos hsame]
      exact .refl _ _
    · let updated : Role := { e.role with trustPolicy := h.config.trustDocument }
      have hupdate : Effect (.updateTrustPolicy h.config.name h.config.trustDocument) a ()
          (a.putRole h.config.name { e with role := updated }) := ⟨hdocument, e, he, rfl⟩
      refine ⟨_, h.status.identify e.role, false, updated, e.attached,
        ⟨Account.find?_putRole a h.config.name _, rfl, rfl⟩, hattached, .served hget ?_⟩
      dsimp only
      rw [if_neg hsame]
      exact .served hupdate (.refl _ _)

/-- What a deployment leaves when nothing but missing policies can stop it. It converges if none of
the configured ones is missing. Otherwise it reports the first one that is; what is not configured
was detached, and of what is configured the later ones are attached only if they were before. Either
way the status tells the attached policies. -/
structure Healed (h : RoleHandler) (a a' : Account) (report : Report RoleStatus) : Prop where
  converged_iff : report.phase = .converged ↔ ∀ arn ∈ h.config.managedPolicies, ¬a.Missing arn
  reached : report.phase = .converged →
    ∀ arn, a'.Attached h.config.name arn ↔ arn ∈ h.config.managedPolicies
  stopped : report.phase ≠ .converged →
    ∃ missing message, a.FirstMissing h.config.managedPolicies missing ∧
      report.fault = some (.notFound missing message) ∧
      (h.classify = Fault.defaultClass → report.phase = .permanentFailure) ∧
      ∀ arn, a'.Attached h.config.name arn ↔ arn ∈ h.config.managedPolicies ∧
        (arn < missing ∨ a.Attached h.config.name arn)
  told : ∃ e, a'.roles.find? h.config.name = some e ∧ report.status.attached = e.attached.toList

theorem healed_of_ended {o : AttachmentOutcome} {status : RoleStatus} {created : Bool}
    (hended : Ended a (.ofList h.config.managedPolicies) attached o)
    (hattached : ∀ arn, arn ∈ attached ↔ a.Attached h.config.name arn)
    (hfound : a'.roles.find? h.config.name = some ⟨r, o.attached⟩) :
    Healed h a a' (h.settled status created o) := by
  have htold : (h.settled status created o).status.attached = o.attached.toList := by
    rw [settled_status]
  have hphase : (h.settled status created o).phase = .converged ↔ o.fault = none :=
    Report.settle_phase_eq_iff ..
  cases hended with
  | reached fault exist members =>
    refine ⟨?_, fun _ arn => ?_, fun hnot => absurd (hphase.mpr fault) hnot, _, hfound, htold⟩
    · exact iff_of_true (hphase.mpr fault) fun arn harn => exist arn (IdSet.mem_ofList.mpr harn)
    · rw [Account.attached_iff hfound, members arn, IdSet.mem_ofList]
  | @stopped missing message fault first members =>
    have hmem := IdSet.mem_ofList.mp first.mem
    have hnot : ¬(h.settled status created o).phase = .converged := by
      rw [hphase, fault]
      exact Option.some_ne_none _
    refine ⟨?_, fun hconverged => absurd hconverged hnot, fun _ => ?_, _, hfound, htold⟩
    · exact iff_of_false hnot fun hexist => hexist missing hmem first.missing
    · refine ⟨missing, message, ⟨hmem, first.missing, ?_⟩, ?_, ?_, fun arn => ?_⟩
      · exact fun arn harn => first.least arn (IdSet.mem_ofList.mpr harn)
      · rw [settled, fault]
        rfl
      · intro hclass
        rw [settled, fault, hclass]
        rfl
      · rw [Account.attached_iff hfound, members arn, IdSet.mem_ofList, hattached arn]

/-- From any reachable account, with any status. -/
theorem healed_deploy (h : RoleHandler) (hreachable : a.Reachable) (hfailures : a.failures = [])
    (hdocument : (Document.parse? h.config.trustDocument).isSome = true) :
    let e := Pass.episode undisturbed deploy h false a
    Healed h a e.after e.result := by
  intro e
  obtain ⟨a₁, status, created, r, attached, htracks, hattached, hdeploy⟩ :=
    proceeds_deploy h a hdocument
  have hbacked : ∀ arn ∈ attached, ¬a.Missing arn := fun arn harn =>
    hreachable.backed h.config.name arn ((hattached arn).mp harn)
  obtain ⟨a₂, o, htracks', hended, hconverge⟩ := proceeds_converge htracks hbacked status created
  obtain ⟨hresult, hquiet⟩ := (hdeploy.trans hconverge).episode hfailures
  have hroles : e.after.quiet.roles = a₂.quiet.roles := congrArg Account.roles hquiet
  have hfound : e.after.roles.find? h.config.name = some ⟨r, o.attached⟩ :=
    (congrArg (Table.find? · _) hroles).trans htracks'.found
  rw [hresult]
  exact healed_of_ended hended hattached hfound

/-- A configured policy is missing: the stale policy is detached, and of the configured ones only
the one that is attached stays so. -/
theorem healed_deploy_missing :
    let h : RoleHandler := ⟨.plain "app" ["arn:aws:iam::aws:policy/ReadOnlyAccess",
      "arn:aws:iam::aws:policy/SecurityAudit", "arn:aws:iam::123456789012:policy/gone"], {},
      Fault.defaultClass⟩
    let a := (Account.perform (.attach "app" "arn:aws:iam::aws:policy/Stale")
      (Account.perform (.attach "app" "arn:aws:iam::aws:policy/ReadOnlyAccess")
        (Account.perform (.createRole h.draft) {}).2).2).2
    let e := Pass.episode undisturbed deploy h false a
    a.Reachable ∧ a.failures = [] ∧ e.result.phase = .permanentFailure ∧
      e.result.status.attached = ["arn:aws:iam::aws:policy/ReadOnlyAccess"] ∧
      Healed h a e.after e.result := by
  intro h a e
  have hreachable : a.Reachable := (((Account.Reachable.empty _).performed _).performed _).performed _
  have hfailures : a.failures = [] := by decide +kernel
  exact ⟨hreachable, hfailures, by decide +kernel, by decide +kernel,
    healed_deploy h hreachable hfailures (by decide +kernel)⟩

end RoleHandler

end IamConvergence
