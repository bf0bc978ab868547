/-
What stands in an account after any commands from the empty one. Every policy stands under the name
that its path and name make; its versions keep within the limit, are readable, numbered below the
next one and ordered by their age, and just the one that the policy names is the default. Every trust
policy is readable. And of all the ids that were issued on the way, no two are the same.
-/
import IamConvergence.Proofs.Account.Histories
import IamConvergence.Proofs.Account.Identity

namespace IamConvergence

open DocumentVersion (Aged)

variable {limit : Nat} {e : PolicyEntry} {v : DocumentVersion}

/-! ## Bounds and texts -/

/-- The version has its text, which is a document. -/
def DocumentVersion.Readable (v : DocumentVersion) : Prop :=
  ∃ text, v.content = some text ∧ (Document.parse? text).isSome = true

namespace PolicyEntry

/-- The versions of a policy keep within a limit and are readable. -/
structure Kept (limit : Nat) (e : PolicyEntry) : Prop where
  bounded : e.versions.length ≤ max limit 1
  readable : ∀ v ∈ e.versions, v.Readable

theorem length_push (e : PolicyEntry) (v : DocumentVersion) :
    (e.push v).versions.length = e.versions.length + 1 := by
  unfold push
  split <;> simp

theorem Kept.push (h : e.Kept limit) (hroom : e.versions.length < limit) (hv : v.Readable) :
    (e.push v).Kept limit := by
  constructor
  · rw [length_push]
    exact Nat.le_trans hroom (Nat.le_max_left limit 1)
  · intro w hw
    unfold PolicyEntry.push at hw
    split at hw
    · rcases List.mem_append.mp hw with hold | hnew
      · obtain ⟨w', hw', rfl⟩ := List.mem_map.mp hold
        exact h.readable w' hw'
      · exact List.mem_singleton.mp hnew ▸ hv
    · rcases List.mem_append.mp hw with hold | hnew
      · exact h.readable w hold
      · exact List.mem_singleton.mp hnew ▸ hv

theorem Kept.eraseP (h : e.Kept limit) (p : DocumentVersion → Bool) :
    ({ e with versions := e.versions.eraseP p } : PolicyEntry).Kept limit :=
  ⟨Nat.le_trans (List.length_eraseP_le) h.bounded,
    fun v hv => h.readable v (List.mem_of_mem_eraseP hv)⟩

end PolicyEntry

namespace Account

variable {a a' : Account} {arn name : String} {r : RoleEntry}

/-- The versions of every policy keep within the account's limit and are readable, and so is every
trust policy. -/
structure Kept (a : Account) : Prop where
  policies : ∀ arn e, a.policies.find? arn = some e → e.Kept a.versionLimit
  roles : ∀ name r, a.roles.find? name = some r →
    (Document.parse? r.role.trustPolicy).isSome = true

namespace Kept

theorem putPolicy (h : a.Kept) (he : e.Kept a.versionLimit) : (a.putPolicy arn e).Kept := by
  refine ⟨fun arn' e' he' => ?_, h.roles⟩
  rcases Table.find?_insert_eq_some_iff.mp he' with ⟨-, rfl⟩ | ⟨-, he'⟩
  · exact he
  · exact h.policies arn' e' he'

theorem putRole (h : a.Kept) (hr : (Document.parse? r.role.trustPolicy).isSome = true) :
    (a.putRole name r).Kept := by
  refine ⟨h.policies, fun name' r' hr' => ?_⟩
  rcases Table.find?_insert_eq_some_iff.mp hr' with ⟨-, rfl⟩ | ⟨-, hr'⟩
  · exact hr
  · exact h.roles name' r' hr'

theorem of_effect {q : IamRequest} {answer : q.Answer} (h : a.Kept)
    (heffect : Effect q a answer a') : a'.Kept := by
  cases q with
  | getRole | listAttached | findPolicy | getPolicy | getVersion | listVersions =>
    obtain ⟨-, rfl⟩ := heffect
    exact h
  | createRole =>
    obtain ⟨-, hdocument, rfl, rfl⟩ := heffect
    have hissued : a.issued.Kept := ⟨h.policies, h.roles⟩
    exact hissued.putRole hdocument
  | updateTrustPolicy =>
    obtain ⟨hdocument, r, -, rfl⟩ := heffect
    exact h.putRole hdocument
  | deleteRole =>
    obtain ⟨r, -, -, rfl⟩ := heffect
    exact ⟨h.policies, fun name r hr => h.roles name r (Table.find?_of_find?_erase hr)⟩
  | attach name =>
    obtain ⟨-, r, hr, rfl⟩ := heffect
    exact h.putRole (h.roles name r hr)
  | detach name =>
    obtain ⟨r, hr, -, rfl⟩ := heffect
    exact h.putRole (h.roles name r hr)
  | createPolicy d =>
    obtain ⟨-, hdocument, rfl, rfl⟩ := heffect
    have hissued : a.issued.Kept := ⟨h.policies, h.roles⟩
    refine hissued.putPolicy ⟨Nat.le_max_right _ 1, fun v hv => ?_⟩
    obtain rfl := List.mem_singleton.mp hv
    exact ⟨d.document, rfl, hdocument⟩
  | deletePolicy =>
    obtain ⟨e, -, -, -, rfl⟩ := heffect
    exact ⟨fun arn e he => h.policies arn e (Table.find?_of_find?_erase he), h.roles⟩
  | createVersion arn document asDefault =>
    obtain ⟨e, he, hroom, hdocument, rfl, rfl⟩ := heffect
    have hlater : Kept { a with tick := a.tick + 1 } := ⟨h.policies, h.roles⟩
    exact hlater.putPolicy
      ((h.policies arn e he).push (Nat.lt_of_not_le hroom) ⟨document, rfl, hdocument⟩)
  | deleteVersion arn version =>
    obtain ⟨e, he, v, -, -, rfl⟩ := heffect
    exact h.putPolicy ((h.policies arn e he).eraseP _)

end Kept

theorem Reachable.kept (h : a.Reachable) : a.Kept := by
  refine h.invariant ?_ ?_ fun heffect h => h.of_effect heffect
  · intro versionLimit
    constructor
    · exact fun _ _ he => nomatch he
    · exact fun _ _ hr => nomatch hr
  · intro a b hquiet h
    have hlimit : b.quiet.versionLimit = a.quiet.versionLimit := by rw [hquiet]
    have hpolicies : b.quiet.policies = a.quiet.policies := by rw [hquiet]
    have hroles : b.quiet.roles = a.quiet.roles := by rw [hquiet]
    constructor
    · intro arn e he
      show e.Kept b.quiet.versionLimit
      rw [hlimit]
      exact h.policies arn e (hpolicies ▸ he)
    · exact fun name r hr => h.roles name r (hroles ▸ hr)

end Account

/-! ## The whole account -/

/-- What holds of a policy and its versions. -/
structure PolicyEntry.Consistent (limit : Nat) (e : PolicyEntry) : Prop where
  nonempty : e.versions ≠ []
  bounded : e.versions.length ≤ max limit 1
  distinct : (e.versions.map (·.id)).Nodup
  numbered : ∀ v ∈ e.versions, ∃ n < e.nextVersion, v.id = versionId n
  aged : Aged e.versions
  default : ∃ v, e.versions.filter (·.isDefault) = [v] ∧ v.id = e.policy.defaultVersionId
  readable : ∀ v ∈ e.versions, v.Readable

namespace Account

variable {a : Account}

/-- What holds of the policies and roles of an account with a limit on versions. -/
structure Consistent (limit : Nat) (a : Account) : Prop where
  placed : ∀ arn e, a.policies.find? arn = some e →
    arn = a.policyArn e.policy.path e.policy.name ∧ e.policy.arn = arn
  versions : ∀ arn e, a.policies.find? arn = some e → e.Consistent limit
  trusted : ∀ name r, a.roles.find? name = some r →
    (Document.parse? r.role.trustPolicy).isSome = true

theorem Reachable.consistent (h : a.Reachable) : a.Consistent a.versionLimit := by
  constructor
  · intro arn e he
    have hstands := h.wellFormed arn e he
    exact ⟨hstands.key.symm, hstands.named⟩
  · intro arn e he
    have hdated := h.dated arn e he
    have hkept := h.kept.policies arn e he
    obtain ⟨d, hd⟩ := hdated.orderly.sound.exists_default
    have hmem : d ∈ e.versions.filter (·.isDefault) := hd ▸ List.mem_singleton_self d
    obtain ⟨hmem, hdefault⟩ := List.mem_filter.mp hmem
    exact {
      nonempty := List.ne_nil_of_mem hmem
      bounded := hkept.bounded
      distinct := hdated.orderly.sound.distinct
      numbered := (h.wellFormed arn e he).numbered
      aged := hdated.orderly.aged
      default := ⟨d, hd, hdated.default d hmem hdefault⟩
      readable := hkept.readable }
  · exact h.kept.roles

/-- No command changes the limit. -/
theorem versionLimit_after (cs : List Command) (a : Account) :
    (a.after cs).versionLimit = a.versionLimit := by
  induction cs generalizing a with
  | nil => rfl
  | cons c cs ih =>
    refine (ih (a.obey c)).trans ?_
    cases obeyed a c with
    | idle hquiet nothing =>
      show (a.obey c).quiet.versionLimit = _
      rw [hquiet]
      rfl
    | served effect issued => exact effect.unaffected.versionLimit

/-- No id of a role or a policy is issued twice, nor one of a version of the same policy. -/
theorem Reachable.issued_nodup (h : a.Reachable) (cs : List Command) :
    (issuedBy newId a cs).Nodup ∧ (issuedBy newVersion a cs).Nodup := by
  constructor
  · refine (nodup_issuedBy (P := SpareId) (fun _ _ => Iff.rfl) ?_ Effect.spareId ?_ cs a h).1
    · intro a q answer
      cases q <;> rfl
    · exact fun _ heffect hnew => heffect.spareId_used hnew
  · refine (nodup_issuedBy (P := SpareVersion) (fun _ _ => Iff.rfl) ?_ Effect.spareVersion ?_ cs a
      h).1
    · intro a q answer
      cases q <;> rfl
    · exact fun h heffect hnew => heffect.spareVersion_used h.identified hnew

/-- After any commands from the empty account, everything in it is consistent; and it has the ids
that were issued, of which no two are the same. -/
theorem consistent_after (limit : Nat) (cs : List Command) :
    let empty : Account := { versionLimit := limit }
    let a := empty.after cs
    a.Consistent limit ∧ (issuedBy newId empty cs).Nodup ∧ a.ids ⊆ issuedBy newId empty cs ∧
      (issuedBy newVersion empty cs).Nodup ∧ a.versionIds ⊆ issuedBy newVersion empty cs := by
  intro empty a
  have hempty : empty.Reachable := .empty limit
  obtain ⟨hids, hversions⟩ := hempty.issued_nodup cs
  refine ⟨?_, hids, fun id hid => ?_, hversions, fun x hx => ?_⟩
  · have hconsistent := (hempty.after cs).consistent
    rwa [versionLimit_after cs empty] at hconsistent
  · have hcome : HasId empty id ∨ id ∈ issuedBy newId empty cs :=
      mem_issuedBy (P := HasId) (fun _ _ => Iff.rfl) (fun _ q _ => by cases q <;> rfl)
        Effect.hasId cs empty id (mem_ids.mp hid)
    -- nothing is there at first
    rcases hcome with (⟨name, r, hr, -⟩ | ⟨arn, e, he, -⟩) | hissued
    · cases hr
    · cases he
    · exact hissued
  · have hcome : HasVersion empty x ∨ x ∈ issuedBy newVersion empty cs :=
      mem_issuedBy (P := HasVersion) (fun _ _ => Iff.rfl) (fun _ q _ => by cases q <;> rfl)
        Effect.hasVersion cs empty x (mem_versionIds.mp hx)
    rcases hcome with ⟨arn, e, v, he, -⟩ | hissued
    · cases he
    · exact hissued

end Account

end IamConvergence
