/-
A pass over the policies attached to a role of an account whose calls are disturbed. It leaves the
role itself alone; and if no fault is made up that denies an attached policy, the members that it
counts are the attached ones, unless its last call was given up after its effect.
-/
import IamConvergence.Proofs.Account.Adapters
import IamConvergence.Proofs.Attachment.Accounting

namespace IamConvergence.Account

open AttachmentCall (tolerated)

variable {a a' : Account} {role arn : String} {e : RoleEntry} {truthful : List String} {τ : Type}

/-! ## Roles -/

/-- A policy is attached to a role. -/
def Attached (a : Account) (role arn : String) : Prop :=
  ∃ e, a.roles.find? role = some e ∧ arn ∈ e.attached

theorem attached_iff (h : a.roles.find? role = some e) :
    a.Attached role arn ↔ arn ∈ e.attached := by
  constructor
  · rintro ⟨e', he', hmem⟩
    cases h.symm.trans he'
    exact hmem
  · intro hmem
    exact ⟨e, h, hmem⟩

/-! ## One call -/

/-- What attaching and detaching do to the role. -/
theorem find?_of_attachmentEffect {q : AttachmentRequest} {answer : q.Answer}
    (h : attachmentEffect role q a = .ok (answer, a')) :
    ∃ e e', a.roles.find? role = some e ∧ a'.roles.find? role = some e' ∧ e'.role = e.role ∧
      ∀ x, x ∈ e'.attached ↔ (x ∈ e.attached ∧ q.detached? ≠ some x) ∨ q.attached? = some x := by
  cases q with
  | list =>
    have hlist : Effect (.listAttached role) a answer a' := effect_eq_ok_iff.mp h
    obtain ⟨⟨e, he, -⟩, rfl⟩ := hlist
    refine ⟨e, e, he, he, rfl, fun x => ?_⟩
    simp [AttachmentRequest.detached?, AttachmentRequest.attached?]
  | attach arn =>
    have hattach : Effect (.attach role arn) a answer a' := effect_eq_ok_iff.mp h
    obtain ⟨-, e, he, rfl⟩ := hattach
    refine ⟨e, _, he, find?_putRole a role _, rfl, fun x => ?_⟩
    show x ∈ e.attached.insert arn ↔ _
    rw [IdSet.mem_insert]
    simp [AttachmentRequest.detached?, AttachmentRequest.attached?, or_comm, eq_comm]
  | detach arn =>
    have hdetach : Effect (.detach role arn) a answer a' := effect_eq_ok_iff.mp h
    obtain ⟨e, he, -, rfl⟩ := hdetach
    refine ⟨e, _, he, find?_putRole a role _, rfl, fun x => ?_⟩
    show x ∈ e.attached.erase arn ↔ _
    rw [IdSet.mem_erase]
    simp [AttachmentRequest.detached?, AttachmentRequest.attached?, eq_comm]

section

variable {admits : AttachmentRequest → Account → Fault → Prop} {q : AttachmentRequest}
  {reply : Reply q.Answer} {resource : String}

/-- The role itself stays. -/
theorem role_of_disturbed (h : Disturbed (.ofEffect (attachmentEffect role)) admits q a reply a')
    (he : a.roles.find? role = some e) :
    ∃ e', a'.roles.find? role = some e' ∧ e'.role = e.role := by
  rcases h.eq_or_effect with rfl | ⟨answer, heffect⟩
  · exact ⟨e, he, rfl⟩
  · obtain ⟨e₁, e₂, he₁, he₂, hrole, -⟩ := find?_of_attachmentEffect heffect
    cases he.symm.trans he₁
    exact ⟨e₂, he₂, hrole⟩

/-- A call that counts has done to the members what it asks for. -/
theorem attached_of_tolerates
    (h : Disturbed (.ofEffect (attachmentEffect role))
      (fun q => Account.admits truthful (q.onRole role)) q a reply a')
    (htruthful : "DetachRolePolicy" ∈ truthful) (ht : q.tolerates (reply.answer resource) = true) :
    ∀ x, a'.Attached role x ↔
      (a.Attached role x ∧ q.detached? ≠ some x) ∨ q.attached? = some x := by
  intro x
  cases hanswer : reply.answer resource with
  | ok answer =>
    obtain ⟨e, e', he, he', -, hmem⟩ := find?_of_attachmentEffect (h.effect_of_ok hanswer)
    rw [attached_iff he, attached_iff he', hmem x]
  | error f =>
    rw [hanswer] at ht
    cases q with
    | list => cases ht
    | attach arn => cases ht
    | detach arn =>
      -- what is said not to be attached is not
      have hnotFound : f.isNotFound = true := ht
      have hnot : ¬a.Attached role arn ∧ a' = a := by
        rcases h.cause_of_error hanswer with ⟨heffect, hkept⟩ | ⟨hadmits, hkept⟩ | ⟨rfl, -⟩
        · refine ⟨?_, hkept⟩
          rintro ⟨e, he, hmem⟩
          have hdone : Effect (.detach role arn) a ()
              (a.putRole role { e with attached := e.attached.erase arn }) := ⟨e, he, hmem, rfl⟩
          cases Eq.trans (Eq.symm (effect_eq_ok_iff.mpr hdone)) heffect
        · rw [hadmits htruthful] at hnotFound
          cases hnotFound
        · cases hnotFound
      obtain ⟨hnot, rfl⟩ := hnot
      simp only [AttachmentRequest.detached?, AttachmentRequest.attached?]
      grind

/-- A call that does not count did nothing, or was given up after its effect. -/
theorem eq_of_not_tolerates (h : Disturbed (.ofEffect (attachmentEffect role)) admits q a reply a')
    (ht : q.tolerates (reply.answer resource) = false) : a' = a ∨ reply.isAbandoned = true := by
  obtain ⟨f, hf⟩ := AttachmentRequest.error_of_not_tolerates ht
  rcases h.cause_of_error hf with ⟨-, hkept⟩ | ⟨-, hkept⟩ | ⟨-, habandoned⟩
  · exact .inl hkept
  · exact .inl hkept
  · exact .inr habandoned

end

/-! ## A whole pass -/

section

variable {u : Unreliable serves (admits truthful) τ} {t t' : τ} {cs : List (AttachmentCall τ)}
  {parent : String} {desired lastKnown : List String} {cancelled : Bool} {o : AttachmentOutcome}

/-- A call that does not count did nothing unless it was given up after its effect. -/
theorem live_eq_of_not_tolerated {c : AttachmentCall τ} (h : u.Explains (c.onRole role))
    (ht : tolerated c = false)
    (hkept : (c.onRole role).reply.isAbandoned = true → ¬u.Effective (c.onRole role)) :
    u.live c.after = u.live c.before := by
  rcases eq_of_not_tolerates (disturbed_of_onRole h) ht with hsame | habandoned
  · exact hsame
  · rw [onRole_isAbandoned, Unreliable.Effective, onRole_before, onRole_after] at hkept
    exact Classical.not_not.mp (hkept habandoned)

/-- Nor did any such call, if none was given up after its effect. -/
theorem live_eq_of_kept (hcourse : u.Course t (cs.map (AttachmentCall.onRole role)) t')
    (hkept : ∀ c ∈ cs.map (AttachmentCall.onRole role), c.reply.isAbandoned = true →
      ¬u.Effective c) :
    ∀ c ∈ cs, tolerated c = false → u.live c.after = u.live c.before := by
  intro c hc ht
  have hmem := List.mem_map_of_mem (f := AttachmentCall.onRole role) hc
  exact live_eq_of_not_tolerated (hcourse.explained _ hmem) ht (hkept _ hmem)

theorem role_of_course (h : u.Course t (cs.map (AttachmentCall.onRole role)) t')
    (he : (u.live t).roles.find? role = some e) :
    ∃ e', (u.live t').roles.find? role = some e' ∧ e'.role = e.role := by
  have hlead := lead_onRole.mp h.lead
  refine hlead.invariant (I := fun s => ∃ e', (u.live s).roles.find? role = some e' ∧
    e'.role = e.role) ?_ ⟨e, he, rfl⟩
  rintro c hc ⟨e₁, he₁, hrole₁⟩
  have hcall := disturbed_of_onRole (h.explained _ (List.mem_map_of_mem hc))
  obtain ⟨e₂, he₂, hrole₂⟩ := role_of_disturbed hcall he₁
  exact ⟨e₂, he₂, hrole₂.trans hrole₁⟩

/-- The counted members are the attached ones once the listing was answered, unless a call that does
not count took effect. -/
theorem attached_of_reconciled
    (h : Attachment.Reconciled parent desired lastKnown cancelled cs o)
    (hcourse : u.Course t (cs.map (AttachmentCall.onRole role)) t')
    (htruthful : "DetachRolePolicy" ∈ truthful)
    (hlisted : ∃ listed, Call.Answered cs .list (.ok listed))
    (hkept : ∀ c ∈ cs, tolerated c = false → u.live c.after = u.live c.before) :
    ∃ e, (u.live t').roles.find? role = some e ∧ o.attached = e.attached := by
  cases h with
  | unlisted list =>
    obtain ⟨listed, hlisted⟩ := hlisted
    cases list.answer_eq hlisted
  | @listed _ cs ds listed _ list carried counted =>
    obtain ⟨reply, s, s', rfl, hanswer⟩ := list.of_ok
    rw [List.map_append] at hcourse
    obtain ⟨m, ⟨⟨rfl, rfl⟩, hexplained⟩, hrest⟩ := hcourse.split
    have hlist : Effect (.listAttached role) (u.live s) listed (u.live m) :=
      effect_of_answer (hexplained _ List.mem_cons_self) hanswer
    obtain ⟨⟨e, he, rfl⟩, hsame⟩ := hlist
    rw [← hsame] at he
    obtain ⟨e', he', -⟩ := role_of_course hrest he
    refine ⟨e', he', IdSet.ext_mem fun x => ?_⟩
    rw [← attached_iff he', counted]
    refine carried.members (P := fun s => (u.live s).Attached role) (lead_onRole.mp hrest.lead)
      ?_ ?_ ?_ x
    · intro c hc ht
      have hcall := disturbed_of_onRole (hrest.explained _ (List.mem_map_of_mem hc))
      exact attached_of_tolerates hcall htruthful ht
    · intro c hc ht x
      rw [hkept c (List.mem_append_right _ hc) ht]
    · intro x
      rw [attached_iff he]
      exact IdSet.mem_ofList

end

end IamConvergence.Account
