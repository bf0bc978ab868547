/-
The ids that an account issues. Roles and policies are numbered by one counter, which only grows, so
no id is issued twice; and the versions of a policy are numbered by a counter of its own, which stays
with the policy's id.

What is issued later is what an account still has to give away (`SpareId`, `SpareVersion`). A change
of the account never adds to it, and takes away what it issues; so along a history nothing is issued
twice.
-/
import IamConvergence.Proofs.Account.WellFormed
import IamConvergence.Text.Hexadecimal

namespace IamConvergence

/-! ## Numbers of roles and policies -/

namespace Account

/-- The number that hexadecimal digits stand for. -/
def numberOf (cs : List Char) : Nat := cs.foldl (fun n c => 16 * n + (hexValue? c).getD 0) 0

theorem hexValue?_digitChar : ∀ d < 16, hexValue? (Nat.digitChar d).toUpper = some d := by decide

theorem numberOf_toDigits (n : Nat) : numberOf ((Nat.toDigits 16 n).map Char.toUpper) = n := by
  induction n using Nat.strongRecOn with
  | ind n ih =>
    rw [Nat.toDigits_eq_if (by decide : 1 < 16)]
    split
    · rename_i hn
      show 16 * 0 + (hexValue? (Nat.digitChar n).toUpper).getD 0 = n
      rw [hexValue?_digitChar n hn, Option.getD_some, Nat.mul_zero, Nat.zero_add]
    · rename_i hn
      have hlast := hexValue?_digitChar (n % 16) (Nat.mod_lt n (by decide))
      have hinit := ih (n / 16) (Nat.div_lt_self (by omega) (by decide))
      rw [numberOf] at hinit
      rw [numberOf, List.map_append, List.foldl_append, hinit, List.map_singleton, List.foldl_cons,
        hlast, List.foldl_nil]
      exact Nat.div_add_mod n 16

theorem numberOf_zeros (k : Nat) (cs : List Char) :
    numberOf (List.replicate k '0' ++ cs) = numberOf cs := by
  have hzeros : numberOf (List.replicate k '0') = 0 := by
    induction k with
    | zero => rfl
    | succ k ih => exact ih
  rw [numberOf] at hzeros
  rw [numberOf, List.foldl_append, hzeros]
  rfl

theorem numberOf_hexId (n : Nat) : numberOf (hexId n).toList = n := by
  rw [hexId, String.toList_ofList, numberOf_zeros, numberOf_toDigits]

/-- Ids with kinds of one length have the numbers from which they are made. -/
theorem eq_of_id_eq {kind kind' : String} {m n : Nat} (hkind : kind.length = kind'.length)
    (h : kind ++ hexId m = kind' ++ hexId n) : m = n := by
  have hlist : kind.toList ++ (hexId m).toList = kind'.toList ++ (hexId n).toList := by
    rw [← String.toList_append, h, String.toList_append]
  have hrest : (hexId m).toList = (hexId n).toList := (List.append_inj hlist hkind).2
  rw [← numberOf_hexId m, hrest, numberOf_hexId]

/-! ## Commands -/

/-- What may be done with an account: a call, queueing a failure, or clearing the log. -/
inductive Command where
  | call (q : IamRequest)
  | queue (operation : String) (f : Fault)
  | clear

/-- The account after a command. -/
def obey (a : Account) : Command → Account
  | .call q => (a.perform q).2
  | .queue operation f => a.failNext operation f
  | .clear => a.clearCalls

/-- The account after some commands. -/
def after (a : Account) (cs : List Command) : Account := cs.foldl obey a

variable {a a' : Account} {arn policy version : String} {e e' : PolicyEntry} {c : Command}

theorem Reachable.obey (h : a.Reachable) (c : Command) : (a.obey c).Reachable := by
  cases c with
  | call q => exact h.performed q
  | queue operation f => exact h.queued operation f
  | clear => exact h.cleared

theorem Reachable.after (h : a.Reachable) (cs : List Command) : (a.after cs).Reachable := by
  induction cs generalizing a with
  | nil => exact h
  | cons c cs ih => exact ih (h.obey c)

/-! ## What a history issues -/

/-- What a request issues that finds an account and is answered in a way. -/
abbrev Issue (β : Type) : Type := Account → (q : IamRequest) → q.Answer → Option β

section

variable {β : Type} (issue : Issue β)

/-- What a command issues. -/
def issued? (a : Account) : Command → Option β
  | .call q => (a.perform q).1.toOption.bind (issue a q)
  | .queue _ _ | .clear => none

/-- What the commands of a history issue, in order. -/
def issuedBy (a : Account) : List Command → List β
  | [] => []
  | c :: cs => (issued? issue a c).toList ++ issuedBy (a.obey c) cs

end

/-- A command changes only what is queued and logged, and issues nothing, or it is a call that takes
effect. -/
inductive Obeyed (a : Account) (c : Command) : Prop where
  | idle (quiet : (a.obey c).quiet = a.quiet)
    (nothing : ∀ {β : Type} (issue : Issue β), issued? issue a c = none)
  | served {q : IamRequest} {answer : q.Answer}
    (effect : Effect q a.quiet answer (a.obey c).quiet)
    (issued : ∀ {β : Type} (issue : Issue β), issued? issue a c = issue a q answer)

theorem obeyed (a : Account) (c : Command) : Obeyed a c := by
  cases c with
  | call q =>
    cases hanswer : (a.perform q).1 with
    | ok answer =>
      exact .served (effect_of_perform hanswer) fun issue => by rw [issued?, hanswer]; rfl
    | error f =>
      exact .idle (quiet_of_perform_error hanswer) fun issue => by rw [issued?, hanswer]; rfl
  | queue operation f => exact .idle rfl fun _ => rfl
  | clear => exact .idle rfl fun _ => rfl

section

variable {β : Type} {issue : Issue β} {P : Account → β → Prop}

/-- What no effect brings about was there before. -/
theorem of_obey (quiet : ∀ a x, P a.quiet x ↔ P a x)
    (shrink : ∀ {q : IamRequest} {answer : q.Answer} {a a' : Account} {x : β},
      Effect q a answer a' → P a' x → P a x) {x : β} (h : P (a.obey c) x) : P a x := by
  cases obeyed a c with
  | idle hquiet nothing =>
    rw [← quiet, ← hquiet, quiet]
    exact h
  | served effect issued => exact (quiet a x).mp (shrink effect ((quiet _ x).mpr h))

/-- If what is spare never grows and loses what is issued, then nothing is issued twice. -/
theorem nodup_issuedBy (quiet : ∀ a x, P a.quiet x ↔ P a x)
    (issue_quiet : ∀ a q answer, issue a.quiet q answer = issue a q answer)
    (shrink : ∀ {q : IamRequest} {answer : q.Answer} {a a' : Account} {x : β},
      Effect q a answer a' → P a' x → P a x)
    (used : ∀ {q : IamRequest} {answer : q.Answer} {a a' : Account} {x : β}, a.Reachable →
      Effect q a answer a' → issue a q answer = some x → P a x ∧ ¬P a' x) :
    ∀ (cs : List Command) (a : Account), a.Reachable →
      (issuedBy issue a cs).Nodup ∧ ∀ x ∈ issuedBy issue a cs, P a x
  | [], _, _ => ⟨List.nodup_nil, fun _ hx => nomatch hx⟩
  | c :: cs, a, ha => by
    obtain ⟨hrest, hspare⟩ :=
      nodup_issuedBy quiet issue_quiet shrink used cs (a.obey c) (ha.obey c)
    have hspare' : ∀ x ∈ issuedBy issue (a.obey c) cs, P a x := fun x hx =>
      of_obey quiet shrink (hspare x hx)
    rw [issuedBy]
    cases obeyed a c with
    | idle hquiet nothing =>
      rw [nothing]
      exact ⟨hrest, hspare'⟩
    | @served q answer effect issued =>
      rw [issued]
      cases hissue : issue a q answer with
      | none => exact ⟨hrest, hspare'⟩
      | some x =>
        obtain ⟨hx, hgone⟩ := used ha.quiet effect ((issue_quiet a q answer).trans hissue)
        refine ⟨List.nodup_cons.mpr ⟨fun hmem => ?_, hrest⟩, fun y hy => ?_⟩
        · exact hgone ((quiet _ x).mpr (hspare x hmem))
        · rcases List.mem_cons.mp hy with rfl | hy
          · exact (quiet a y).mp hx
          · exact hspare' y hy

/-- If only what is issued comes to be there, then all that is there was there before or was
issued. -/
theorem mem_issuedBy (quiet : ∀ a x, P a.quiet x ↔ P a x)
    (issue_quiet : ∀ a q answer, issue a.quiet q answer = issue a q answer)
    (come : ∀ {q : IamRequest} {answer : q.Answer} {a a' : Account} {x : β},
      Effect q a answer a' → P a' x → P a x ∨ issue a q answer = some x) :
    ∀ (cs : List Command) (a : Account) (x : β), P (a.after cs) x → P a x ∨ x ∈ issuedBy issue a cs
  | [], _, _, hx => .inl hx
  | c :: cs, a, x, hx => by
    rw [issuedBy]
    rcases mem_issuedBy quiet issue_quiet come cs (a.obey c) x hx with hthere | hmem
    · cases obeyed a c with
      | idle hquiet nothing =>
        rw [← quiet, hquiet, quiet] at hthere
        exact .inl hthere
      | @served q answer effect issued =>
        rcases come effect ((quiet _ x).mpr hthere) with hthere | hissue
        · exact .inl ((quiet a x).mp hthere)
        · rw [issued, ← issue_quiet, hissue]
          exact .inr List.mem_cons_self
    · exact .inr (List.mem_append_right _ hmem)

end

/-! ## Ids of roles and policies -/

/-- The ids of the roles and the policies. -/
def ids (a : Account) : List String :=
  a.roles.values.map (·.role.id) ++ a.policies.values.map (·.policy.id)

/-- A role or a policy has an id. -/
def HasId (a : Account) (id : String) : Prop :=
  (∃ name e, a.roles.find? name = some e ∧ e.role.id = id) ∨
    ∃ arn e, a.policies.find? arn = some e ∧ e.policy.id = id

theorem mem_ids {id : String} : id ∈ a.ids ↔ a.HasId id := by
  rw [ids, List.mem_append, List.mem_map, List.mem_map]
  simp only [Table.mem_values_iff]
  constructor
  · rintro (⟨e, ⟨name, he⟩, hid⟩ | ⟨e, ⟨arn, he⟩, hid⟩)
    · exact .inl ⟨name, e, he, hid⟩
    · exact .inr ⟨arn, e, he, hid⟩
  · rintro (⟨name, e, he, hid⟩ | ⟨arn, e, he, hid⟩)
    · exact .inl ⟨e, ⟨name, he⟩, hid⟩
    · exact .inr ⟨e, ⟨arn, he⟩, hid⟩

/-- The ids of the roles and the policies that are created. -/
def newId : Issue String
  | _, .createRole _, role => some role.id
  | _, .createPolicy _, policy => some policy.id
  | _, _, _ => none

/-- An id that a role or a policy may still get. -/
def SpareId (a : Account) (id : String) : Prop :=
  ∃ kind n, kind.length = 4 ∧ a.lastId < n ∧ id = kind ++ hexId n

theorem Effect.lastId_le {q : IamRequest} {answer : q.Answer} (h : Effect q a answer a') :
    a.lastId ≤ a'.lastId := by
  cases q with
  | getRole | listAttached | findPolicy | getPolicy | getVersion | listVersions =>
    obtain ⟨-, rfl⟩ := h
    exact Nat.le_refl _
  | createRole | createPolicy =>
    obtain ⟨-, -, -, rfl⟩ := h
    exact Nat.le_succ _
  | updateTrustPolicy | attach =>
    obtain ⟨-, e, -, rfl⟩ := h
    exact Nat.le_refl _
  | deleteRole | detach =>
    obtain ⟨e, -, -, rfl⟩ := h
    exact Nat.le_refl _
  | deletePolicy =>
    obtain ⟨e, -, -, -, rfl⟩ := h
    exact Nat.le_refl _
  | createVersion =>
    obtain ⟨e, -, -, -, -, rfl⟩ := h
    exact Nat.le_refl _
  | deleteVersion =>
    obtain ⟨e, -, v, -, -, rfl⟩ := h
    exact Nat.le_refl _

theorem Effect.spareId {q : IamRequest} {answer : q.Answer} {id : String}
    (h : Effect q a answer a') (hspare : a'.SpareId id) : a.SpareId id := by
  obtain ⟨kind, n, hkind, hn, hid⟩ := hspare
  exact ⟨kind, n, hkind, Nat.lt_of_le_of_lt h.lastId_le hn, hid⟩

/-- The id with the next number was spare, and is not when the number is given away. -/
theorem spareId_used {kind : String} (hkind : kind.length = 4) (hlast : a'.lastId = a.lastId + 1) :
    a.SpareId (kind ++ hexId (a.lastId + 1)) ∧ ¬a'.SpareId (kind ++ hexId (a.lastId + 1)) := by
  refine ⟨⟨kind, a.lastId + 1, hkind, Nat.lt_succ_self _, rfl⟩, ?_⟩
  rintro ⟨kind', n, hkind', hn, heq⟩
  have := eq_of_id_eq (hkind.trans hkind'.symm) heq
  omega

theorem Effect.spareId_used {q : IamRequest} {answer : q.Answer} {id : String}
    (h : Effect q a answer a') (hnew : newId a q answer = some id) :
    a.SpareId id ∧ ¬a'.SpareId id := by
  cases q with
  | createRole | createPolicy =>
    obtain ⟨-, -, rfl, rfl⟩ := h
    cases hnew
    exact Account.spareId_used rfl rfl
  | _ => cases hnew

theorem HasId.of_putRole {name id : String} {r r' : RoleEntry} (h : (a.putRole name r').HasId id)
    (hr : a.roles.find? name = some r) (hid : r'.role.id = r.role.id) : a.HasId id := by
  rcases h with ⟨name', r'', hr'', hid'⟩ | hpolicy
  · rcases Table.find?_insert_eq_some_iff.mp hr'' with ⟨rfl, rfl⟩ | ⟨-, hr''⟩
    · exact .inl ⟨name', r, hr, hid.symm.trans hid'⟩
    · exact .inl ⟨name', r'', hr'', hid'⟩
  · exact .inr hpolicy

theorem HasId.of_putPolicy {id : String} (h : (a.putPolicy arn e').HasId id)
    (he : a.policies.find? arn = some e) (hid : e'.policy.id = e.policy.id) : a.HasId id := by
  rcases h with hrole | ⟨arn', e'', he'', hid'⟩
  · exact .inl hrole
  · rcases Table.find?_insert_eq_some_iff.mp he'' with ⟨rfl, rfl⟩ | ⟨-, he''⟩
    · exact .inr ⟨arn', e, he, hid.symm.trans hid'⟩
    · exact .inr ⟨arn', e'', he'', hid'⟩

/-- Only by being created a role or a policy comes to be there. -/
theorem Effect.hasId {q : IamRequest} {answer : q.Answer} {id : String}
    (h : Effect q a answer a') (hid : a'.HasId id) : a.HasId id ∨ newId a q answer = some id := by
  cases q with
  | getRole | listAttached | findPolicy | getPolicy | getVersion | listVersions =>
    obtain ⟨-, rfl⟩ := h
    exact .inl hid
  | createRole d =>
    obtain ⟨-, -, rfl, rfl⟩ := h
    rcases hid with ⟨name, r, hr, hid⟩ | hpolicy
    · rcases Table.find?_insert_eq_some_iff.mp hr with ⟨rfl, rfl⟩ | ⟨-, hr⟩
      · exact .inr (congrArg some hid)
      · exact .inl (.inl ⟨name, r, hr, hid⟩)
    · exact .inl (.inr hpolicy)
  | updateTrustPolicy | attach =>
    obtain ⟨-, r, hr, rfl⟩ := h
    exact .inl (hid.of_putRole hr rfl)
  | deleteRole =>
    obtain ⟨r, -, -, rfl⟩ := h
    rcases hid with ⟨name, r, hr, hid⟩ | hpolicy
    · exact .inl (.inl ⟨name, r, Table.find?_of_find?_erase hr, hid⟩)
    · exact .inl (.inr hpolicy)
  | detach =>
    obtain ⟨r, hr, -, rfl⟩ := h
    exact .inl (hid.of_putRole hr rfl)
  | createPolicy d =>
    obtain ⟨-, -, rfl, rfl⟩ := h
    rcases hid with hrole | ⟨arn, e, he, hid⟩
    · exact .inl (.inl hrole)
    · rcases Table.find?_insert_eq_some_iff.mp he with ⟨rfl, rfl⟩ | ⟨-, he⟩
      · exact .inr (congrArg some hid)
      · exact .inl (.inr ⟨arn, e, he, hid⟩)
  | deletePolicy =>
    obtain ⟨e, -, -, -, rfl⟩ := h
    rcases hid with hrole | ⟨arn, e, he, hid⟩
    · exact .inl (.inl hrole)
    · exact .inl (.inr ⟨arn, e, Table.find?_of_find?_erase he, hid⟩)
  | createVersion =>
    obtain ⟨e, he, -, -, rfl, rfl⟩ := h
    refine .inl (HasId.of_putPolicy (a := a) hid he ?_)
    rw [e.push_policy]
  | deleteVersion =>
    obtain ⟨e, he, v, -, -, rfl⟩ := h
    exact .inl (hid.of_putPolicy he rfl)

/-! ## Ids of versions -/

/-- The ids of policies and of their versions, together. -/
def versionIds (a : Account) : List (String × String) :=
  a.policies.values.flatMap fun e => e.versions.map fun v => (e.policy.id, v.id)

/-- A policy has a version: their ids. -/
def HasVersion (a : Account) (x : String × String) : Prop :=
  ∃ arn e v, a.policies.find? arn = some e ∧ v ∈ e.versions ∧ (e.policy.id, v.id) = x

theorem mem_versionIds {x : String × String} : x ∈ a.versionIds ↔ a.HasVersion x := by
  rw [versionIds, List.mem_flatMap]
  simp only [Table.mem_values_iff, List.mem_map]
  constructor
  · rintro ⟨e, ⟨arn, he⟩, v, hv, hx⟩
    exact ⟨arn, e, v, he, hv, hx⟩
  · rintro ⟨arn, e, v, he, hv, hx⟩
    exact ⟨e, ⟨arn, he⟩, v, hv, hx⟩

/-- The ids of the versions that are created, with those of their policies. -/
def newVersion : Issue (String × String)
  | _, .createPolicy _, policy => some (policy.id, policy.defaultVersionId)
  | a, .createVersion arn _ _, v => (a.policies.find? arn).map fun e => (e.policy.id, v.id)
  | _, _, _ => none

/-- An id that a version may still get: that of any version of a policy that is created later, or
one whose number is still ahead of a policy's. -/
def SpareVersion (a : Account) (x : String × String) : Prop :=
  (∃ n, a.lastId < n ∧ x.1 = "ANPA" ++ hexId n) ∨
    ∃ arn e n, a.policies.find? arn = some e ∧ e.nextVersion ≤ n ∧ x = (e.policy.id, versionId n)

/-- The policies of an account have different ids, with numbers that are given away. -/
structure Identified (a : Account) : Prop where
  numbered : ∀ arn e, a.policies.find? arn = some e →
    ∃ n ≤ a.lastId, e.policy.id = "ANPA" ++ hexId n
  apart : ∀ arn arn' e e', a.policies.find? arn = some e → a.policies.find? arn' = some e' →
    e.policy.id = e'.policy.id → arn = arn'

namespace Identified

theorem of_subset (h : a.Identified) (hlast : a.lastId ≤ a'.lastId)
    (hsub : ∀ arn e, a'.policies.find? arn = some e → a.policies.find? arn = some e) :
    a'.Identified := by
  constructor
  · intro arn e he
    obtain ⟨n, hn, hid⟩ := h.numbered arn e (hsub arn e he)
    exact ⟨n, Nat.le_trans hn hlast, hid⟩
  · intro arn arn' e e' he he'
    exact h.apart arn arn' e e' (hsub arn e he) (hsub arn' e' he')

/-- A policy that is not there yet may get an id that no policy has. -/
theorem putPolicy (h : a.Identified)
    (hnumber : ∃ n ≤ a.lastId, e.policy.id = "ANPA" ++ hexId n)
    (hapart : ∀ arn' e', a.policies.find? arn' = some e' → e'.policy.id = e.policy.id →
      arn' = arn) : (a.putPolicy arn e).Identified := by
  constructor
  · intro arn' e' he'
    rcases Table.find?_insert_eq_some_iff.mp he' with ⟨-, rfl⟩ | ⟨-, he'⟩
    · exact hnumber
    · exact h.numbered arn' e' he'
  · intro arn₁ arn₂ e₁ e₂ he₁ he₂ hid
    rcases Table.find?_insert_eq_some_iff.mp he₁ with ⟨rfl, rfl⟩ | ⟨-, he₁'⟩ <;>
      rcases Table.find?_insert_eq_some_iff.mp he₂ with ⟨rfl, rfl⟩ | ⟨-, he₂'⟩
    · rfl
    · exact (hapart arn₂ e₂ he₂' hid.symm).symm
    · exact hapart arn₁ e₁ he₁' hid
    · exact h.apart arn₁ arn₂ e₁ e₂ he₁' he₂' hid

/-- A policy may change if it keeps its id. -/
theorem replace (h : a.Identified) (he : a.policies.find? arn = some e)
    (hid : e'.policy.id = e.policy.id) : (a.putPolicy arn e').Identified := by
  refine h.putPolicy ?_ fun arn' e'' he'' hsame => ?_
  · rw [hid]
    exact h.numbered arn e he
  · exact h.apart arn' arn e'' e he'' he (hsame.trans hid)

theorem of_effect {q : IamRequest} {answer : q.Answer} (h : a.Identified)
    (heffect : Effect q a answer a') : a'.Identified := by
  cases q with
  | getRole | listAttached | findPolicy | getPolicy | getVersion | listVersions =>
    obtain ⟨-, rfl⟩ := heffect
    exact h
  | createRole =>
    obtain ⟨-, -, -, rfl⟩ := heffect
    exact h.of_subset (Nat.le_succ _) fun _ _ he => he
  | updateTrustPolicy | attach =>
    obtain ⟨-, r, -, rfl⟩ := heffect
    exact h.of_subset (Nat.le_refl _) fun _ _ he => he
  | deleteRole | detach =>
    obtain ⟨r, -, -, rfl⟩ := heffect
    exact h.of_subset (Nat.le_refl _) fun _ _ he => he
  | createPolicy d =>
    obtain ⟨-, -, rfl, rfl⟩ := heffect
    have hissued : a.issued.Identified := h.of_subset (Nat.le_succ _) fun _ _ he => he
    refine hissued.putPolicy ⟨a.lastId + 1, Nat.le_refl _, rfl⟩ fun arn' e' he' hid => ?_
    obtain ⟨n, hn, hid'⟩ := h.numbered arn' e' he'
    have := eq_of_id_eq rfl (hid'.symm.trans hid)
    omega
  | deletePolicy =>
    obtain ⟨e, -, -, -, rfl⟩ := heffect
    exact h.of_subset (Nat.le_refl _) fun _ _ he => Table.find?_of_find?_erase he
  | createVersion =>
    obtain ⟨e, he, -, -, rfl, rfl⟩ := heffect
    refine replace (a := { a with tick := a.tick + 1 })
      (h.of_subset (Nat.le_refl _) fun _ _ he => he) he ?_
    rw [e.push_policy]
  | deleteVersion =>
    obtain ⟨e, he, v, -, -, rfl⟩ := heffect
    exact h.replace he rfl

end Identified

theorem Reachable.identified (h : a.Reachable) : a.Identified := by
  refine h.invariant ?_ ?_ fun heffect h => h.of_effect heffect
  · intro versionLimit
    constructor
    · exact fun _ _ he => nomatch he
    · exact fun _ _ _ _ he => nomatch he
  · intro a b hquiet h
    have hlast : b.quiet.lastId = a.quiet.lastId := by rw [hquiet]
    have hpolicies : b.quiet.policies = a.quiet.policies := by rw [hquiet]
    exact h.of_subset (Nat.le_of_eq hlast.symm) fun arn e he => hpolicies ▸ he

theorem SpareVersion.of_putPolicy {x : String × String} (h : (a.putPolicy arn e').SpareVersion x)
    (he : a.policies.find? arn = some e) (hid : e'.policy.id = e.policy.id)
    (hnext : e.nextVersion ≤ e'.nextVersion) : a.SpareVersion x := by
  rcases h with hlater | ⟨arn', e'', n, he'', hn, rfl⟩
  · exact .inl hlater
  · rcases Table.find?_insert_eq_some_iff.mp he'' with ⟨rfl, rfl⟩ | ⟨-, he''⟩
    · exact .inr ⟨arn', e, n, he, Nat.le_trans hnext hn, by rw [hid]⟩
    · exact .inr ⟨arn', e'', n, he'', hn, rfl⟩

/-- What is spare for versions never grows. -/
theorem Effect.spareVersion {q : IamRequest} {answer : q.Answer} {x : String × String}
    (h : Effect q a answer a') (hspare : a'.SpareVersion x) : a.SpareVersion x := by
  cases q with
  | getRole | listAttached | findPolicy | getPolicy | getVersion | listVersions =>
    obtain ⟨-, rfl⟩ := h
    exact hspare
  | createRole =>
    obtain ⟨-, -, -, rfl⟩ := h
    rcases hspare with ⟨n, hn, hx⟩ | hpolicy
    · exact .inl ⟨n, Nat.lt_of_succ_lt hn, hx⟩
    · exact .inr hpolicy
  | updateTrustPolicy | attach =>
    obtain ⟨-, r, -, rfl⟩ := h
    exact hspare
  | deleteRole | detach =>
    obtain ⟨r, -, -, rfl⟩ := h
    exact hspare
  | createPolicy d =>
    obtain ⟨-, -, rfl, rfl⟩ := h
    rcases hspare with ⟨n, hn, hx⟩ | ⟨arn, e, n, he, hn, rfl⟩
    · exact .inl ⟨n, Nat.lt_of_succ_lt hn, hx⟩
    · rcases Table.find?_insert_eq_some_iff.mp he with ⟨-, rfl⟩ | ⟨-, he⟩
      · exact .inl ⟨a.lastId + 1, Nat.lt_succ_self _, rfl⟩
      · exact .inr ⟨arn, e, n, he, hn, rfl⟩
  | deletePolicy =>
    obtain ⟨e, -, -, -, rfl⟩ := h
    rcases hspare with hlater | ⟨arn, e, n, he, hrest⟩
    · exact .inl hlater
    · exact .inr ⟨arn, e, n, Table.find?_of_find?_erase he, hrest⟩
  | createVersion =>
    obtain ⟨e, he, -, -, rfl, rfl⟩ := h
    refine SpareVersion.of_putPolicy (a := a) hspare he ?_ ?_
    · rw [e.push_policy]
    · rw [e.push_nextVersion]
      exact Nat.le_succ _
  | deleteVersion =>
    obtain ⟨e, he, v, -, -, rfl⟩ := h
    exact hspare.of_putPolicy he rfl (Nat.le_refl _)

/-- What is spare for versions after some commands was spare before them. -/
theorem SpareVersion.of_after {x : String × String} :
    ∀ {cs : List Command} {a : Account}, (a.after cs).SpareVersion x → a.SpareVersion x
  | [], _, h => h
  | _ :: _, _, h =>
    of_obey (P := SpareVersion) (fun _ _ => Iff.rfl) Effect.spareVersion (SpareVersion.of_after h)

/-- The numbers below a policy's next one are not spare. -/
theorem Identified.not_spareVersion {n : Nat} (h : a.Identified)
    (he : a.policies.find? arn = some e) (hn : n < e.nextVersion) :
    ¬a.SpareVersion (e.policy.id, versionId n) := by
  rintro (⟨m, hm, hid⟩ | ⟨arn', e', m, he', hm, heq⟩)
  · obtain ⟨m', hm', hid'⟩ := h.numbered arn e he
    have := eq_of_id_eq rfl (hid'.symm.trans hid)
    omega
  · have hid : e.policy.id = e'.policy.id := congrArg Prod.fst heq
    have hversion : versionId n = versionId m := congrArg Prod.snd heq
    obtain rfl := h.apart arn arn' e e' he he' hid
    cases he.symm.trans he'
    have := versionId_inj hversion
    omega

theorem Effect.spareVersion_used {q : IamRequest} {answer : q.Answer} {x : String × String}
    (h : Effect q a answer a') (hidentified : a.Identified)
    (hnew : newVersion a q answer = some x) : a.SpareVersion x ∧ ¬a'.SpareVersion x := by
  have hafter := hidentified.of_effect h
  cases q with
  | createPolicy d =>
    obtain ⟨-, -, rfl, rfl⟩ := h
    cases hnew
    refine ⟨.inl ⟨a.lastId + 1, Nat.lt_succ_self _, rfl⟩, ?_⟩
    exact hafter.not_spareVersion (find?_putPolicy _ _ _) (Nat.lt_succ_self 1)
  | createVersion arn document asDefault =>
    obtain ⟨e, he, -, -, rfl, rfl⟩ := h
    rw [newVersion, he] at hnew
    cases hnew
    refine ⟨.inr ⟨arn, e, e.nextVersion, he, Nat.le_refl _, rfl⟩, ?_⟩
    let pushed := e.push ⟨versionId e.nextVersion, some document, asDefault, a.now⟩
    have hid : pushed.policy.id = e.policy.id := by
      show (e.push _).policy.id = _
      rw [e.push_policy]
    have hnext : pushed.nextVersion = e.nextVersion + 1 := e.push_nextVersion _
    have hnot :=
      hafter.not_spareVersion (n := e.nextVersion) (find?_putPolicy _ arn pushed) (by omega)
    rwa [hid] at hnot
  | _ => cases hnew

theorem HasVersion.of_putPolicy {x : String × String} (h : (a.putPolicy arn e').HasVersion x)
    (he : a.policies.find? arn = some e) (hid : e'.policy.id = e.policy.id) :
    a.HasVersion x ∨
      ∃ v ∈ e'.versions, (∀ w ∈ e.versions, w.id ≠ v.id) ∧ (e.policy.id, v.id) = x := by
  obtain ⟨arn', e'', v, he'', hv, rfl⟩ := h
  rcases Table.find?_insert_eq_some_iff.mp he'' with ⟨rfl, rfl⟩ | ⟨-, he''⟩
  · by_cases hold : ∃ w ∈ e.versions, w.id = v.id
    · obtain ⟨w, hw, hvw⟩ := hold
      exact .inl ⟨arn', e, w, he, hw, by rw [hid, hvw]⟩
    · exact .inr ⟨v, hv, fun w hw heq => hold ⟨w, hw, heq⟩, by rw [hid]⟩
  · exact .inl ⟨arn', e'', v, he'', hv, rfl⟩

/-- Only by being created a version comes to be there. -/
theorem Effect.hasVersion {q : IamRequest} {answer : q.Answer} {x : String × String}
    (h : Effect q a answer a') (hx : a'.HasVersion x) :
    a.HasVersion x ∨ newVersion a q answer = some x := by
  cases q with
  | getRole | listAttached | findPolicy | getPolicy | getVersion | listVersions =>
    obtain ⟨-, rfl⟩ := h
    exact .inl hx
  | createRole =>
    obtain ⟨-, -, -, rfl⟩ := h
    exact .inl hx
  | updateTrustPolicy | attach =>
    obtain ⟨-, r, -, rfl⟩ := h
    exact .inl hx
  | deleteRole | detach =>
    obtain ⟨r, -, -, rfl⟩ := h
    exact .inl hx
  | createPolicy d =>
    obtain ⟨-, -, rfl, rfl⟩ := h
    obtain ⟨arn, e, v, he, hv, rfl⟩ := hx
    rcases Table.find?_insert_eq_some_iff.mp he with ⟨rfl, rfl⟩ | ⟨-, he⟩
    · obtain rfl := List.mem_singleton.mp hv
      exact .inr rfl
    · exact .inl ⟨arn, e, v, he, hv, rfl⟩
  | deletePolicy =>
    obtain ⟨e, -, -, -, rfl⟩ := h
    obtain ⟨arn, e, v, he, hrest⟩ := hx
    exact .inl ⟨arn, e, v, Table.find?_of_find?_erase he, hrest⟩
  | createVersion arn document asDefault =>
    obtain ⟨e, he, -, -, rfl, rfl⟩ := h
    rcases HasVersion.of_putPolicy (a := a) hx he (by rw [e.push_policy]) with
      hthere | ⟨v, hv, hnew, rfl⟩
    · exact .inl hthere
    · rcases PolicyEntry.mem_push hv with rfl | ⟨w, hw, heq⟩
      · right
        rw [newVersion, he]
        rfl
      · exact absurd heq.symm (hnew w hw)
  | deleteVersion =>
    obtain ⟨e, he, v, -, -, rfl⟩ := h
    rcases hx.of_putPolicy he rfl with hthere | ⟨w, hw, hnew, -⟩
    · exact .inl hthere
    · exact absurd rfl (hnew w (List.mem_of_mem_eraseP hw))

end Account

end IamConvergence
