/-
The deletion of a role of an account whose calls are disturbed, if nothing is made up not to be
found. The role is deleted only after its attached policies were all detached, so that its deletion
is never refused for them. Wherever the deletion stops once it could list the attached policies, it
reports those that are still attached.
-/
import IamConvergence.Proofs.Account.Atomicity
import IamConvergence.Proofs.Role.Healing

namespace IamConvergence

namespace Account

variable {a : Account} {name : String} {q : IamRequest} {f : Fault}

/-! ## Refusals -/

/-- The fault of a role to which something is attached. -/
def undetached (name : String) : Fault :=
  .refusal name "DeleteRole" "DeleteConflict: Cannot delete entity, must detach all policies first."

theorem effect_deleteRole_of_attached {e : RoleEntry} (he : a.roles.find? name = some e)
    (hattached : e.attached.isEmpty = false) :
    a.effect (.deleteRole name) = .error (undetached name) := by
  simp only [effect, deleteRole, roleEntry_eq_ok_iff.mpr he, ok_bind, hattached]
  rfl

theorem effect_deleteRole_of_detached {e : RoleEntry} (he : a.roles.find? name = some e)
    (hdetached : e.attached.isEmpty = true) :
    a.effect (.deleteRole name) = .ok ((), { a with roles := a.roles.erase name }) :=
  effect_eq_ok_iff.mpr ⟨e, he, hdetached, rfl⟩

/-- Nothing but the deletion of such a role is refused for that. -/
theorem undetached_of_effect (h : a.effect q = .error (undetached name)) :
    q = .deleteRole name ∧ ∃ e, a.roles.find? name = some e ∧ e.attached.isEmpty = false := by
  have hoperation : q.operation = "DeleteRole" := (Refusal.of_effect h).operation_eq
  cases q with
  | deleteRole name' =>
    cases he : a.roles.find? name' with
    | none => cases (effect_of_no_role he).2.2.symm.trans h
    | some e =>
      cases hattached : e.attached.isEmpty with
      | true => cases (effect_deleteRole_of_detached he hattached).symm.trans h
      | false =>
        have hsame := (effect_deleteRole_of_attached he hattached).symm.trans h
        obtain rfl : name' = name := (Fault.provider.inj (Except.error.inj hsame)).1
        exact ⟨rfl, e, he, hattached⟩
  | _ => exact absurd hoperation (by simp [IamRequest.operation])

/-- Deleting a role does not find it only if it is not there. -/
theorem absent_of_deleteRole (h : a.effect (.deleteRole name) = .error f)
    (hnotFound : f.isNotFound = true) : a.roles.find? name = none := by
  cases he : a.roles.find? name with
  | none => rfl
  | some e =>
    cases hattached : e.attached.isEmpty with
    | true => cases (effect_deleteRole_of_detached he hattached).symm.trans h
    | false =>
      cases (effect_deleteRole_of_attached he hattached).symm.trans h
      cases hnotFound

/-- The policies attached to a role, of which there are none if it is not there. -/
def attachedTo (a : Account) (name : String) : List String :=
  (a.roles.find? name).elim [] (·.attached.toList)

end Account

namespace RoleHandler

open Account (serves admits Effect Ended Tracks attachedTo effect_of_asked undisturbed)

variable {τ : Type} {truthful : List String} {u : Unreliable serves (admits truthful) τ} {t t' : τ}
  {h : RoleHandler} {cancelled : Bool} {cs : List (IamCall τ)} {report : Report RoleStatus}

/-! ## Disturbed deletions -/

/-- Once everything is detached, the role is there with nothing attached. -/
theorem exists_bare {ds : List (AttachmentCall τ)} {o : AttachmentOutcome}
    (attachments : Attachment.Reconciled h.config.name [] h.status.attached cancelled ds o)
    (converged : o.fault = none)
    (hcourse : u.Course t (ds.map (AttachmentCall.onRole h.config.name)) t')
    (htruthful : "DetachRolePolicy" ∈ truthful) :
    o.attached.toList = [] ∧
      ∃ e, (u.live t').roles.find? h.config.name = some e ∧ e.attached.isEmpty = true := by
  obtain ⟨hlisted, hall⟩ := attachments.of_fault_eq_none converged
  have hnone := attachments.reached converged
  obtain ⟨e, he, hattached⟩ := Account.attached_of_reconciled attachments hcourse htruthful hlisted
    fun c hc ht => absurd (hall c hc) (by rw [ht]; exact Bool.false_ne_true)
  refine ⟨by rw [hnone]; rfl, e, he, ?_⟩
  rw [← hattached, hnone]
  rfl

/-- A role is deleted only when nothing is attached to it. -/
theorem Deleted.bare (hdeleted : Deleted h cancelled cs report) (hcourse : u.Course t cs t')
    (htruthful : "DetachRolePolicy" ∈ truthful) {c : IamCall τ} (hc : c ∈ cs) {name : String}
    {e : RoleEntry} (hrequest : c.request = .deleteRole name)
    (he : (u.live c.before).roles.find? name = some e) : e.attached.isEmpty = true := by
  -- neither the look-up nor a call about the attached policies deletes the role
  have hlook : ∀ {gs : List (IamCall τ)} {cancelled cancelled' : Bool} {answer},
      Pass.Asked h.config.name (.getRole h.config.name) cancelled gs answer cancelled' → c ∉ gs :=
    fun get hmem => nomatch (get.request_eq c hmem).symm.trans hrequest
  have hdetach : ∀ {ds : List (AttachmentCall τ)},
      c ∉ ds.map (AttachmentCall.onRole h.config.name) := by
    rintro ds hmem
    obtain ⟨⟨resource, q, reply, s, s'⟩, -, rfl⟩ := List.mem_map.mp hmem
    cases q <;> cases hrequest
  cases hdeleted with
  | unread get | absent get => exact absurd hc (hlook get)
  | undetached get attachments fault =>
    exact ((List.mem_append.mp hc).elim (hlook get) hdetach).elim
  | undeleted get attachments converged delete _ | deleted get attachments converged delete _ =>
    obtain ⟨m, -, hcourse⟩ := hcourse.split
    obtain ⟨m', hdetaches, hdeletes⟩ := hcourse.split
    have hmem := (List.mem_append.mp hc).resolve_left (hlook get)
    replace hmem := (List.mem_append.mp hmem).resolve_left hdetach
    obtain ⟨-, e', he', hbare⟩ := exists_bare attachments converged hdetaches htruthful
    cases (delete.request_eq c hmem).symm.trans hrequest
    rw [delete.before_eq hdeletes.lead c hmem, he'] at he
    cases he
    exact hbare

/-- A role of which the deletion converges is gone. -/
theorem Deleted.gone (hdeleted : Deleted h cancelled cs report) (hcourse : u.Course t cs t')
    (htruthful : "DeleteRole" ∈ truthful) (hphase : report.phase = .converged) :
    (u.live t').roles.find? h.config.name = none := by
  cases hdeleted with
  | unread get => exact absurd hphase (h.fail_phase_ne _ _)
  | undetached get attachments fault => exact absurd hphase (h.fail_phase_ne _ _)
  | undeleted get attachments converged delete fault => exact absurd hphase (h.fail_phase_ne _ _)
  | absent get =>
    obtain ⟨hget, hkept⟩ := effect_of_asked hcourse get
    rw [hkept]
    exact Option.map_eq_none_iff.mp hget.symm
  | deleted get attachments converged delete gone =>
    obtain ⟨m, -, hcourse⟩ := hcourse.split
    obtain ⟨m', -, hcourse⟩ := hcourse.split
    obtain ⟨reply, hcall, rfl⟩ := hcourse.exists_disturbed delete
    rcases Account.effect_or_notFound hcall htruthful gone with
      ⟨answer, e, -, -, hafter⟩ | ⟨f, hrefused, hnotFound, hkept⟩
    · rw [hafter]
      exact Table.find?_erase_self _ _
    · rw [hkept]
      exact Account.absent_of_deleteRole hrefused hnotFound

/-- Once they were listed, the status tells the policies that are still attached. -/
theorem Deleted.told (hdeleted : Deleted h cancelled cs report) (hcourse : u.Course t cs t')
    (htruthful : "DetachRolePolicy" ∈ truthful) (htruthful' : "DeleteRole" ∈ truthful)
    (hlisted : Listed cs h.config.name)
    (hkept : ∀ c ∈ cs, c.reply.isAbandoned = true → ¬u.Effective c) :
    report.status.attached = attachedTo (u.live t') h.config.name := by
  have hgone := hdeleted.gone hcourse htruthful'
  cases hdeleted with
  | unread get | absent get => exact absurd hlisted (not_listed_of_asked get nofun)
  | undetached get attachments fault =>
    obtain ⟨m, -, hdetaches⟩ := hcourse.split
    have hlisted' := (listed_append.mp hlisted).resolve_left (not_listed_of_asked get nofun)
    obtain ⟨e, he, hattached⟩ := Account.attached_of_reconciled attachments hdetaches htruthful
      (listed_onRole.mp hlisted') (Account.live_eq_of_kept hdetaches fun c hc =>
        hkept c (List.mem_append_right _ hc))
    unfold attachedTo
    rw [he]
    exact congrArg IdSet.toList hattached
  | @undeleted _ _ _ _ _ _ _ _ answer _ get attachments converged delete fault =>
    obtain ⟨m, -, hcourse⟩ := hcourse.split
    obtain ⟨m', hdetaches, hdeletes⟩ := hcourse.split
    obtain ⟨hnone, e, he, hbare⟩ := exists_bare attachments converged hdetaches htruthful
    cases answer with
    | ok answer => cases fault
    | error f =>
      -- the role was left with nothing attached
      have hsame := hdeletes.live_eq_of_error delete fun c hc =>
        hkept c (List.mem_append_right _ (List.mem_append_right _ hc))
      unfold attachedTo
      rw [hsame, he]
      exact hnone.trans (List.isEmpty_iff.mp hbare).symm
  | deleted get attachments converged delete gone =>
    obtain ⟨m, -, hcourse⟩ := hcourse.split
    obtain ⟨m', hdetaches, -⟩ := hcourse.split
    unfold attachedTo
    rw [hgone rfl]
    exact (exists_bare attachments converged hdetaches htruthful).1

/-- A disturbed deletion deletes the role only when nothing is attached to it, so that it is not
refused for that. Once convergence is reported, the role is gone; and if the attached policies could
be listed and no call was given up after its effect, those that are still attached are reported,
whatever the outcome. -/
structure Thorough (u : Unreliable serves (admits truthful) τ)
    (e : Episode RoleHandler IamRequest IamRequest.Answer (Report RoleStatus) τ) : Prop where
  bare : ∀ c ∈ e.calls, ∀ name entry, c.request = .deleteRole name →
    (u.live c.before).roles.find? name = some entry → entry.attached.isEmpty = true
  unrefused : ∀ c ∈ e.calls, ∀ name,
    (u.live c.before).effect c.request ≠ .error (Account.undetached name)
  gone : e.result.phase = .converged →
    (u.live e.after).roles.find? e.input.config.name = none
  told : Listed e.calls e.input.config.name →
    (∀ c ∈ e.calls, c.reply.isAbandoned = true → ¬u.Effective c) →
    e.result.status.attached = attachedTo (u.live e.after) e.input.config.name

theorem thorough_delete (u : Unreliable serves (admits truthful) τ)
    (hdetach : "DetachRolePolicy" ∈ truthful) (hdelete : "DeleteRole" ∈ truthful)
    (h : RoleHandler) (cancelled : Bool) (t : τ) :
    Thorough u (Pass.episode u.provider delete h cancelled t) := by
  have hdeleted := deleted u.provider h ⟨cancelled, t⟩
  have hcourse := u.course_calls h.delete ⟨cancelled, t⟩
  refine ⟨fun c hc name e => hdeleted.bare hcourse hdetach hc, fun c hc name hrefused => ?_,
    hdeleted.gone hcourse hdelete, hdeleted.told hcourse hdetach hdelete⟩
  obtain ⟨hrequest, e, he, hattached⟩ := Account.undetached_of_effect hrefused
  rw [hdeleted.bare hcourse hdetach hc hrequest he] at hattached
  cases hattached

/-! ## Undisturbed deletions -/

variable {a : Account}

/-- Nothing is missing that would have to be attached, so that everything is detached. -/
theorem eq_nil_of_ended {a₀ : Account} {current : IdSet} {o : AttachmentOutcome}
    (hended : Ended a₀ (.ofList []) current o) : o.fault = none ∧ o.attached.toList = [] := by
  cases hended with
  | reached fault exist members =>
    refine ⟨fault, List.eq_nil_iff_forall_not_mem.mpr fun arn harn => ?_⟩
    exact IdSet.not_mem_empty arn ((members arn).mp harn)
  | stopped fault first => cases first.mem

theorem proceeds_delete (h : RoleHandler) (hbacked : a.Backed) :
    ∃ a' details, a'.roles.find? h.config.name = none ∧
      Proceeds h.delete a (.done (.success { h.status with attached := [] } details)) a' := by
  unfold delete lookUp
  cases he : a.roles.find? h.config.name with
  | none =>
    have hget : Effect (.getRole h.config.name) a none a := ⟨by rw [he]; rfl, rfl⟩
    exact ⟨a, _, he, .served hget (.refl _ _)⟩
  | some e =>
    have hget : Effect (.getRole h.config.name) a (some e.role) a := ⟨by rw [he]; rfl, rfl⟩
    have htracks : Tracks a a h.config.name e.role (.unchanged e.attached none) := ⟨he, rfl, rfl⟩
    obtain ⟨a₁, o, htracks', hended, hproceeds⟩ := proceeds_attachments htracks
      (fun arn harn => hbacked _ _ ⟨e, he, harn⟩) [] h.status
    obtain ⟨hfault, hnone⟩ := eq_nil_of_ended hended
    have hdelete : Effect (.deleteRole h.config.name) a₁ ()
        { a₁ with roles := a₁.roles.erase h.config.name } :=
      ⟨_, htracks'.found, List.isEmpty_iff.mpr hnone, rfl⟩
    refine ⟨{ a₁ with roles := a₁.roles.erase h.config.name }, s!"Deleted role {h.config.name}",
      Table.find?_erase_self a₁.roles _, .served hget ((hproceeds.bind _).trans ?_)⟩
    simp only [Pass.bind, hfault]
    rw [← hnone]
    exact .served hdelete (.refl _ _)

/-- A deletion that ran to its end: it converged, nothing is attached any more, and the role is
gone. -/
structure Finished (e : Episode RoleHandler IamRequest IamRequest.Answer (Report RoleStatus) Account) :
    Prop where
  converged : e.result.phase = .converged
  told : e.result.status.attached = []
  gone : e.after.roles.find? e.input.config.name = none

/-- With any status and of a role with any attached policies, unless a target is made up not to be
found. And undisturbed a deletion of a role of a reachable account always runs to its end. -/
theorem delete_detaches_first (u : Unreliable serves (admits ["DetachRolePolicy", "DeleteRole"]) τ)
    (h : RoleHandler) :
    (∀ cancelled t, Thorough u (Pass.episode u.provider delete h cancelled t)) ∧
      ∀ a : Account, a.Reachable → a.failures = [] →
        Finished (Pass.episode undisturbed delete h false a) := by
  constructor
  · intro cancelled t
    exact thorough_delete u List.mem_cons_self (by simp) h cancelled t
  · intro a hreachable hfailures
    obtain ⟨a', details, hgone, hproceeds⟩ := proceeds_delete h hreachable.backed
    obtain ⟨hresult, hquiet⟩ := hproceeds.episode hfailures
    constructor
    · rw [hresult]
      rfl
    · rw [hresult]
      rfl
    · exact (congrArg (fun b => b.roles.find? h.config.name) hquiet).trans hgone

/-- Two policies are attached, of which the status knows neither. A throttled detaching leaves the
second one, which is reported; and undisturbed both are detached. -/
theorem delete_detaches_first_throttled :
    let h : RoleHandler := ⟨.plain "app" [], { attached := ["arn:aws:iam::aws:policy/Stale"] },
      Fault.defaultClass⟩
    let a := (Account.perform (.attach "app" "arn:aws:iam::aws:policy/SecurityAudit")
      (Account.perform (.attach "app" "arn:aws:iam::aws:policy/ReadOnlyAccess")
        (Account.perform (.createRole h.draft) {}).2).2).2
    let throttled : Fault := .provider "app" "DetachRolePolicy" "Throttling: Rate exceeded" true
    let u := Account.interrupted ["DetachRolePolicy", "DeleteRole"]
    let t := (⟨a, by decide +kernel⟩,
      [.none false, .none false, .none false, .fault throttled false])
    let e := Pass.episode u.provider delete h false t
    a.Reachable ∧ a.failures = [] ∧ Listed e.calls e.input.config.name ∧
      (∀ c ∈ e.calls, c.reply.isAbandoned = true → ¬u.Effective c) ∧
      e.result.status.attached = attachedTo (u.live e.after) e.input.config.name ∧
      attachedTo (u.live e.after) "app" = ["arn:aws:iam::aws:policy/SecurityAudit"] ∧
      Finished (Pass.episode undisturbed delete h false a) := by
  intro h a throttled u t e
  have hdelete := delete_detaches_first u h
  have hthorough : Thorough u e := hdelete.1 false t
  have hreachable : a.Reachable :=
    (((Account.Reachable.empty _).performed _).performed _).performed _
  have hfailures : a.failures = [] := by decide +kernel
  have hlisted : Listed e.calls e.input.config.name := by decide +kernel
  have hkept : ∀ c ∈ e.calls, c.reply.isAbandoned = true → ¬u.Effective c := by decide +kernel
  exact ⟨hreachable, hfailures, hlisted, hkept, hthorough.told hlisted hkept, by decide +kernel,
    hdelete.2 a hreachable hfailures⟩

end RoleHandler

end IamConvergence
