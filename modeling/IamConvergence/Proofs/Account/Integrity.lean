/-
Roles and policies of an account refer to each other. A policy of the account that is attached to a
role exists, and a role stands under its own name: no request can break that, since attaching looks
for the policy, a policy is deleted only if no role has it, and a role only if it has none.

So it is in every account that calls lead to, also in the middle of a handler's pass, whatever
disturbs the pass.
-/
import IamConvergence.Proofs.Account.Frame
import IamConvergence.Proofs.Account.Identity
import IamConvergence.Proofs.Role.Healing

namespace IamConvergence.Account

variable {a a' : Account} {q : IamRequest} {name : String} {e : RoleEntry} {τ : Type}

/-! ## What every role has -/

/-- Every role has a property, which may be about the name that it stands under. -/
def EveryRole (P : String → Role → Prop) (a : Account) : Prop :=
  ∀ name e, a.roles.find? name = some e → P name e.role

/-- A property that roles have when they are created, and keep when they get another trust policy. -/
structure Lasting (P : String → Role → Prop) : Prop where
  created : ∀ (a : Account) (d : RoleDraft), P d.name (a.roleOf d)
  updated : ∀ name r document, P name r → P name { r with trustPolicy := document }

namespace EveryRole

variable {P : String → Role → Prop}

theorem of_subset (h : a.EveryRole P)
    (hsub : ∀ name e, a'.roles.find? name = some e → a.roles.find? name = some e) :
    a'.EveryRole P :=
  fun name e he => h name e (hsub name e he)

theorem putRole (h : a.EveryRole P) (hrole : P name e.role) : (a.putRole name e).EveryRole P := by
  intro name' e' he'
  rcases Table.find?_insert_eq_some_iff.mp he' with ⟨rfl, rfl⟩ | ⟨-, he'⟩
  · exact hrole
  · exact h name' e' he'

theorem of_effect {answer : q.Answer} (hP : Lasting P) (h : a.EveryRole P)
    (heffect : Effect q a answer a') : a'.EveryRole P := by
  cases q with
  | getRole | listAttached | findPolicy | getPolicy | getVersion | listVersions =>
    obtain ⟨-, rfl⟩ := heffect
    exact h
  | createRole d =>
    obtain ⟨-, -, rfl, rfl⟩ := heffect
    exact putRole (h.of_subset fun _ _ he => he) (hP.created a d)
  | updateTrustPolicy =>
    obtain ⟨-, e, he, rfl⟩ := heffect
    exact h.putRole (hP.updated _ _ _ (h _ e he))
  | attach =>
    obtain ⟨-, e, he, rfl⟩ := heffect
    exact h.putRole (h _ e he)
  | deleteRole =>
    obtain ⟨e, -, -, rfl⟩ := heffect
    exact h.of_subset fun _ _ he => Table.find?_of_find?_erase he
  | detach =>
    obtain ⟨e, he, -, rfl⟩ := heffect
    exact h.putRole (h _ e he)
  | createPolicy =>
    obtain ⟨-, -, -, rfl⟩ := heffect
    exact h.of_subset fun _ _ he => he
  | deletePolicy =>
    obtain ⟨e, -, -, -, rfl⟩ := heffect
    exact h.of_subset fun _ _ he => he
  | createVersion =>
    obtain ⟨e, -, -, -, -, rfl⟩ := heffect
    exact h.of_subset fun _ _ he => he
  | deleteVersion =>
    obtain ⟨e, -, v, -, -, rfl⟩ := heffect
    exact h.of_subset fun _ _ he => he

/-- Disturbed calls take it from no role. -/
theorem of_course {truthful : List String} {u : Unreliable serves (admits truthful) τ} {t t' : τ}
    {cs : List (IamCall τ)} (hP : Lasting P) (h : (u.live t).EveryRole P)
    (hcourse : u.Course t cs t') : (u.live t').EveryRole P :=
  relates_course (R := fun a a' => a.EveryRole P → a'.EveryRole P) hcourse (fun _ h => h)
    (fun h h' hbefore => h' (h hbefore)) (fun _ _ _ _ _ heffect h => h.of_effect hP heffect) h

end EveryRole

theorem Reachable.everyRole {P : String → Role → Prop} (h : a.Reachable) (hP : Lasting P) :
    a.EveryRole P := by
  refine h.invariant (I := EveryRole P) (fun _ _ _ he => (nomatch he)) (fun a b hquiet h => ?_)
    fun heffect h => h.of_effect hP heffect
  have hroles : b.quiet.roles = a.quiet.roles := by rw [hquiet]
  exact h.of_subset fun name e he => hroles ▸ he

/-- Every role stands under its own name. -/
def Named (a : Account) : Prop := ∀ name e, a.roles.find? name = some e → e.role.name = name

theorem Reachable.named (h : a.Reachable) : a.Named :=
  h.everyRole (P := fun name r => r.name = name) ⟨fun _ _ => rfl, fun _ _ _ h => h⟩

theorem roleArn_ne_empty (a : Account) (path name : String) : a.roleArn path name ≠ "" := by
  delta roleArn
  simp only [ne_eq, String.append_eq_empty_iff, and_assoc, not_and]
  exact fun hservice => absurd hservice (by decide)

theorem lasting_arn : Lasting fun _ r => r.arn ≠ "" :=
  ⟨fun a d => a.roleArn_ne_empty d.path d.name, fun _ _ _ h => h⟩

/-! ## Referential integrity -/

/-- Every role stands under its own name, and what is attached to it and has a resource name of a
policy of the account exists. -/
structure Integral (a : Account) : Prop where
  named : ∀ name e, a.roles.find? name = some e → e.role.name = name
  backed : ∀ name e, a.roles.find? name = some e → ∀ arn ∈ e.attached, a.ownsPolicy arn = true →
    ∃ p, a.policies.find? arn = some p

theorem Reachable.integral (h : a.Reachable) : a.Integral where
  named := h.named
  backed name e he arn hmem := not_missing_iff.mp (h.backed name arn ⟨e, he, hmem⟩)

/-- What goes away was not in use: of the policies one that no role had, of the roles one that had no
policy. -/
structure Unused (a a' : Account) : Prop where
  policies : ∀ arn p, a.policies.find? arn = some p → a'.policies.find? arn = none →
    ∀ name, ¬a.Attached name arn
  roles : ∀ name e, a.roles.find? name = some e → a'.roles.find? name = none →
    ∀ arn, ¬a.Attached name arn

namespace Unused

/-- Nothing goes away if everything is still found. -/
theorem of_find?
    (hpolicies : ∀ arn p, a.policies.find? arn = some p → ∃ p', a'.policies.find? arn = some p')
    (hroles : ∀ name e, a.roles.find? name = some e → ∃ e', a'.roles.find? name = some e') :
    Unused a a' := by
  constructor
  · intro arn p hp hnone
    obtain ⟨p', hp'⟩ := hpolicies arn p hp
    cases hp'.symm.trans hnone
  · intro name e he hnone
    obtain ⟨e', he'⟩ := hroles name e he
    cases he'.symm.trans hnone

theorem of_quiet (h : a'.quiet = a.quiet) : Unused a a' := by
  have hpolicies : a'.quiet.policies = a.quiet.policies := by rw [h]
  have hroles : a'.quiet.roles = a.quiet.roles := by rw [h]
  exact of_find? (fun arn p hp => ⟨p, hpolicies ▸ hp⟩) fun name e he => ⟨e, hroles ▸ he⟩

theorem of_effect {answer : q.Answer} (heffect : Effect q a answer a') : Unused a a' := by
  cases q with
  | getRole | listAttached | findPolicy | getPolicy | getVersion | listVersions =>
    obtain ⟨-, rfl⟩ := heffect
    exact of_quiet rfl
  | createRole =>
    obtain ⟨-, -, -, rfl⟩ := heffect
    exact of_find? (fun _ p hp => ⟨p, hp⟩) fun _ _ he => Table.exists_find?_insert he
  | updateTrustPolicy | attach =>
    obtain ⟨-, e, -, rfl⟩ := heffect
    exact of_find? (fun _ p hp => ⟨p, hp⟩) fun _ _ he => Table.exists_find?_insert he
  | deleteRole name =>
    obtain ⟨e, he, hempty, rfl⟩ := heffect
    refine ⟨fun arn p hp hnone => (nomatch hp.symm.trans hnone), fun name' e' he' hnone => ?_⟩
    by_cases hname : name' = name
    · subst hname
      rintro arn ⟨e'', he'', hmem⟩
      cases he.symm.trans he''
      rw [← IdSet.mem_toList, List.isEmpty_iff.mp hempty] at hmem
      cases hmem
    · cases he'.symm.trans ((Table.find?_erase_of_ne a.roles hname).symm.trans hnone)
  | detach =>
    obtain ⟨e, -, -, rfl⟩ := heffect
    exact of_find? (fun _ p hp => ⟨p, hp⟩) fun _ _ he => Table.exists_find?_insert he
  | createPolicy =>
    obtain ⟨-, -, -, rfl⟩ := heffect
    exact of_find? (fun _ _ hp => Table.exists_find?_insert hp) fun _ e he => ⟨e, he⟩
  | deletePolicy arn =>
    obtain ⟨e, -, -, hunused, rfl⟩ := heffect
    refine ⟨fun arn' p hp hnone => ?_, fun name e' he' hnone => (nomatch he'.symm.trans hnone)⟩
    by_cases harn : arn' = arn
    · subst harn
      exact fun name hattached => hunused hattached.in_use
    · cases hp.symm.trans ((Table.find?_erase_of_ne a.policies harn).symm.trans hnone)
  | createVersion =>
    obtain ⟨e, -, -, -, -, rfl⟩ := heffect
    exact of_find? (fun _ _ hp => Table.exists_find?_insert hp) fun _ e he => ⟨e, he⟩
  | deleteVersion =>
    obtain ⟨e, -, v, -, -, rfl⟩ := heffect
    exact of_find? (fun _ _ hp => Table.exists_find?_insert hp) fun _ e he => ⟨e, he⟩

theorem obey (a : Account) (c : Command) : Unused a (a.obey c) := by
  cases obeyed a c with
  | idle hquiet => exact of_quiet hquiet
  | served effect =>
    have h := of_effect effect
    exact ⟨h.policies, h.roles⟩

end Unused

/-! ## Passes -/

/-- An account as a service, with what is queued and logged. -/
abbrev performs : Service IamRequest IamRequest.Answer Account :=
  fun q a answer a' => a.perform q = (answer, a')

/-- Whatever disturbs a call, the account is left alone or obeys. -/
theorem eq_or_obey {admits : IamRequest → Account → Fault → Prop} {reply : Reply q.Answer}
    (h : Disturbed performs admits q a reply a') : a' = a ∨ a' = a.obey (.call q) := by
  cases h with
  | served cancelled h => exact .inr (congrArg Prod.snd h).symm
  | failed | lost => exact .inl rfl
  | unacknowledged h => exact .inr (congrArg Prod.snd h).symm

section

variable {α : Type} {admits : IamRequest → Account → Fault → Prop} {u : Unreliable performs admits τ}

/-- Disturbed calls lead from reachable accounts to reachable ones. -/
theorem Reachable.of_explains {c : Call IamRequest IamRequest.Answer τ} (hcall : u.Explains c)
    (h : (u.live c.before).Reachable) : (u.live c.after).Reachable := by
  rcases eq_or_obey hcall with hkept | hobeyed
  · rwa [hkept]
  · rw [hobeyed]
    exact h.obey _

/-- A disturbed call takes away only what is not in use. -/
theorem Unused.of_explains {c : Call IamRequest IamRequest.Answer τ} (hcall : u.Explains c) :
    Unused (u.live c.before) (u.live c.after) := by
  rcases eq_or_obey hcall with hkept | hobeyed
  · exact .of_quiet (congrArg quiet hkept)
  · rw [hobeyed]
    exact .obey _ _

/-- A pass over a reachable account goes through reachable accounts and leaves one. -/
theorem Reachable.through (p : IamPass α) {r : Run τ} (h : (u.live r.state).Reachable) :
    (∀ c ∈ p.calls u.provider r, (u.live c.before).Reachable ∧ (u.live c.after).Reachable) ∧
      (u.live (p.run u.provider r).2.state).Reachable := by
  have hcourse := u.course_calls p r
  have keep : ∀ c ∈ p.calls u.provider r,
      (u.live c.before).Reachable → (u.live c.after).Reachable :=
    fun c hc => .of_explains (hcourse.explained c hc)
  exact ⟨hcourse.lead.through (I := fun t => (u.live t).Reachable) keep h,
    hcourse.lead.invariant (I := fun t => (u.live t).Reachable) keep h⟩

end

/-- In an account to which calls lead, every role stands under its own name, and what is attached to
it and is a policy of the account exists. So it stays, whatever is done next; and no policy goes
away that a role has, and no role that has a policy. That holds of all calls of a handler's pass,
whatever faults are made up, wherever it is cancelled and whichever of its calls are given up, with
or without effect; and the account that it leaves is one to which calls lead. -/
theorem Reachable.references_kept (h : a.Reachable) :
    a.Integral ∧ (∀ c, (a.obey c).Integral ∧ Unused a (a.obey c)) ∧
    ∀ {α τ : Type} (u : Unreliable performs (fun _ _ _ => True) τ) (p : IamPass α) (r : Run τ),
      u.live r.state = a →
      (∀ c ∈ p.calls u.provider r, (u.live c.before).Integral ∧ (u.live c.after).Integral ∧
        Unused (u.live c.before) (u.live c.after)) ∧
      (u.live (p.run u.provider r).2.state).Reachable := by
  refine ⟨h.integral, fun c => ⟨(h.obey c).integral, .obey a c⟩, fun u p r hr => ?_⟩
  obtain ⟨hthrough, hend⟩ := Reachable.through (u := u) p (r := r) (hr ▸ h)
  refine ⟨fun c hc => ?_, hend⟩
  obtain ⟨hbefore, hafter⟩ := hthrough c hc
  exact ⟨hbefore.integral, hafter.integral, .of_explains (u.explains_calls p r c hc)⟩

/-- A policy of the account is attached to a role, and deleting the role is given up when the policy
has been detached: the policy is not deleted before, and the role is left without it. -/
theorem Reachable.references_kept_deleting :
    let arn := "arn:aws:iam::123456789012:policy/reader"
    let h : RoleHandler := ⟨.plain "app" [arn], {}, Fault.defaultClass⟩
    let a := ({} : Account).after [.call (.createPolicy ⟨"reader", "\x7b\x7d", "/", "", .empty⟩),
      .call (.createRole h.draft), .call (.attach "app" arn)]
    let u : Unreliable performs (fun _ _ _ => True) (Account × List Disturbance) :=
      .ofSchedule performs _ (fun q a => a.perform q) fun _ _ => rfl
    let r : Run (Account × List Disturbance) :=
      ⟨false, a, [.none false, .none false, .unacknowledged]⟩
    let a' := u.live (h.delete.run u.provider r).2.state
    a.Attached "app" arn ∧ a.Integral ∧ Unused a (a.obey (.call (.deletePolicy arn))) ∧
      a'.Reachable ∧ (a'.roles.find? "app").map (·.attached) = some .empty := by
  intro arn h a u r a'
  have hreachable : a.Reachable := (Reachable.empty _).after _
  obtain ⟨hintegral, hnext, hpasses⟩ := hreachable.references_kept
  have hattached : a.Attached "app" arn := by
    have hused : (a.roles.find? "app").any (arn ∈ ·.attached) = true := by decide +kernel
    obtain ⟨e, he, hmem⟩ := (Option.any_eq_true _ _).mp hused
    exact ⟨e, he, of_decide_eq_true hmem⟩
  exact ⟨hattached, hintegral, (hnext _).2, (hpasses u h.delete r rfl).2, by decide +kernel⟩

end IamConvergence.Account
