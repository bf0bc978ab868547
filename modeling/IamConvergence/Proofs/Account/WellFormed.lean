/-
What holds of every reachable account: a policy stands under the resource name that its path and
name make, and its versions are numbered below the next one. So a policy is found by path and name
where it stands, and a new version has an id of its own.
-/
import IamConvergence.Proofs.Account.Service

namespace IamConvergence

/-! ## Numbers of versions -/

/-- The id of the version with a number. -/
def versionId (n : Nat) : String := s!"v{n}"

theorem toDigits_inj {m n : Nat} (h : Nat.toDigits 10 m = Nat.toDigits 10 n) : m = n := by
  rw [← Nat.ofDigitChars_ten_toDigits (n := m), h, Nat.ofDigitChars_ten_toDigits]

theorem versionId_inj {m n : Nat} (h : versionId m = versionId n) : m = n := by
  have hlist : (versionId m).toList = (versionId n).toList := congrArg String.toList h
  exact toDigits_inj (by simpa [versionId] using hlist)

namespace PolicyEntry

/-- The versions are numbered, each below the next one. -/
def Numbered (e : PolicyEntry) : Prop := ∀ v ∈ e.versions, ∃ n < e.nextVersion, v.id = versionId n

variable {e : PolicyEntry} {v : DocumentVersion}

theorem push_nextVersion (e : PolicyEntry) (v : DocumentVersion) :
    (e.push v).nextVersion = e.nextVersion + 1 := by
  unfold push
  split <;> rfl

/-- Of the policy only the default version may be another one. -/
theorem push_policy (e : PolicyEntry) (v : DocumentVersion) :
    (e.push v).policy =
      { e.policy with defaultVersionId := (e.push v).policy.defaultVersionId } := by
  unfold push
  split <;> rfl

theorem push_defaultVersionId (e : PolicyEntry) (hv : v.isDefault = true) :
    (e.push v).policy.defaultVersionId = v.id := by
  unfold push
  rw [if_pos hv]

/-- Every version but the pushed one was there, as the default or not. -/
theorem mem_push {w : DocumentVersion} (h : w ∈ (e.push v).versions) :
    w = v ∨ ∃ w' ∈ e.versions, w.id = w'.id := by
  unfold push at h
  split at h
  · rcases List.mem_append.mp h with hold | hnew
    · obtain ⟨w', hw', rfl⟩ := List.mem_map.mp hold
      exact .inr ⟨w', hw', rfl⟩
    · exact .inl (List.mem_singleton.mp hnew)
  · rcases List.mem_append.mp h with hold | hnew
    · exact .inr ⟨w, hold, rfl⟩
    · exact .inl (List.mem_singleton.mp hnew)

theorem Numbered.push (h : e.Numbered) (hv : v.id = versionId e.nextVersion) :
    (e.push v).Numbered := by
  intro w hw
  rw [push_nextVersion]
  rcases mem_push hw with rfl | ⟨w', hw', hid⟩
  · exact ⟨e.nextVersion, Nat.lt_succ_self _, hv⟩
  · obtain ⟨n, hn, hid'⟩ := h w' hw'
    exact ⟨n, Nat.lt_succ_of_lt hn, hid.trans hid'⟩

/-- A pushed version is found under its number. -/
theorem Numbered.find?_push (h : e.Numbered) (hv : v.id = versionId e.nextVersion) :
    (e.push v).versions.find? (·.id == v.id) = some v := by
  have hother : ∀ w ∈ e.versions, ¬(w.id == v.id) = true := by
    intro w hw heq
    obtain ⟨n, hn, hid⟩ := h w hw
    have hnumber : versionId n = versionId e.nextVersion := by
      rw [← hid, ← hv]
      exact beq_iff_eq.mp heq
    have := versionId_inj hnumber
    omega
  unfold PolicyEntry.push
  split
  · rw [List.find?_append, List.find?_eq_none.mpr]
    · simp
    · intro w hw
      obtain ⟨w', hw', rfl⟩ := List.mem_map.mp hw
      exact hother w' hw'
  · rw [List.find?_append, List.find?_eq_none.mpr hother]
    simp

end PolicyEntry

/-! ## Accounts -/

namespace Account

/-- What holds of a policy under a resource name. -/
structure Stands (a : Account) (arn : String) (e : PolicyEntry) : Prop where
  named : e.policy.arn = arn
  key : a.policyArn e.policy.path e.policy.name = arn
  numbered : e.Numbered

/-- Every policy stands under its own resource name. -/
def WellFormed (a : Account) : Prop := ∀ arn e, a.policies.find? arn = some e → a.Stands arn e

variable {a a' : Account} {arn : String} {e : PolicyEntry}

theorem policyArn_of_accountId (ha : a'.accountId = a.accountId) (path name : String) :
    a'.policyArn path name = a.policyArn path name :=
  congrArg (fun id => s!"arn:aws:iam::{id}:policy{path}{name}") ha

theorem policyArn_ne_empty (a : Account) (path name : String) : a.policyArn path name ≠ "" := by
  delta policyArn
  simp only [ne_eq, String.append_eq_empty_iff, and_assoc, not_and]
  exact fun hservice => absurd hservice (by decide)

theorem Stands.of_accountId (h : a.Stands arn e) (ha : a'.accountId = a.accountId) :
    a'.Stands arn e :=
  ⟨h.named, (policyArn_of_accountId ha _ _).trans h.key, h.numbered⟩

namespace WellFormed

/-- Only what stands in the account matters. -/
theorem of_subset (h : a.WellFormed) (ha : a'.accountId = a.accountId)
    (hsub : ∀ arn e, a'.policies.find? arn = some e → a.policies.find? arn = some e) :
    a'.WellFormed :=
  fun arn e he => (h arn e (hsub arn e he)).of_accountId ha

theorem putPolicy (h : a.WellFormed) (hstands : a.Stands arn e) :
    (a.putPolicy arn e).WellFormed := by
  intro arn' e' he'
  rcases Table.find?_insert_eq_some_iff.mp he' with ⟨rfl, rfl⟩ | ⟨-, he'⟩
  · exact hstands.of_accountId rfl
  · exact (h arn' e' he').of_accountId rfl

theorem of_effect {q : IamRequest} {answer : q.Answer} (h : a.WellFormed)
    (heffect : Effect q a answer a') : a'.WellFormed := by
  cases q with
  | getRole | listAttached | findPolicy | getPolicy | getVersion | listVersions =>
    obtain ⟨-, rfl⟩ := heffect
    exact h
  | createRole =>
    obtain ⟨-, -, -, rfl⟩ := heffect
    exact h.of_subset rfl fun _ _ he => he
  | updateTrustPolicy | attach =>
    obtain ⟨-, e, -, rfl⟩ := heffect
    exact h.of_subset rfl fun _ _ he => he
  | deleteRole | detach =>
    obtain ⟨e, -, -, rfl⟩ := heffect
    exact h.of_subset rfl fun _ _ he => he
  | createPolicy d =>
    obtain ⟨-, -, rfl, rfl⟩ := heffect
    refine putPolicy (h.of_subset rfl fun _ _ he => he) ⟨rfl, rfl, ?_⟩
    -- the first version has the first number
    intro v hv
    obtain rfl := List.mem_singleton.mp hv
    exact ⟨1, Nat.lt_succ_self 1, rfl⟩
  | deletePolicy arn =>
    obtain ⟨e, -, -, -, rfl⟩ := heffect
    exact h.of_subset rfl fun _ _ he => Table.find?_of_find?_erase he
  | createVersion arn document asDefault =>
    obtain ⟨e, he, -, -, rfl, rfl⟩ := heffect
    have hstands := h arn e he
    refine putPolicy (h.of_subset rfl fun _ _ he => he) ?_
    constructor
    · rw [e.push_policy]
      exact hstands.named
    · rw [e.push_policy]
      exact hstands.key
    · exact hstands.numbered.push rfl
  | deleteVersion arn version =>
    obtain ⟨e, he, v, -, -, rfl⟩ := heffect
    have hstands := h arn e he
    refine putPolicy h ⟨hstands.named, hstands.key, ?_⟩
    intro v hv
    exact hstands.numbered v (List.mem_of_mem_eraseP hv)

/-- No policy stands under the empty resource name. -/
theorem arn_ne_empty (h : a.WellFormed) (he : a.policies.find? arn = some e) :
    arn ≠ "" := by
  rw [← (h arn e he).key]
  exact policyArn_ne_empty a _ _

/-- A policy is found by its path and name where it stands. -/
theorem findPolicy_eq_some_iff (h : a.WellFormed) {name path : String} {p : Policy} :
    a.findPolicy name path = some p ↔
      ∃ e, a.policies.find? (a.policyArn path name) = some e ∧ e.policy = p ∧ p.name = name ∧
        p.path = path := by
  -- whatever has the name and the path stands in the same place
  have hplace : ∀ q ∈ a.policies.values.map (·.policy), (q.name == name && q.path == path) = true →
      ∃ e, a.policies.find? (a.policyArn path name) = some e ∧ e.policy = q ∧ q.name = name ∧
        q.path = path := by
    intro q hq hboth
    obtain ⟨e, he, rfl⟩ := List.mem_map.mp hq
    obtain ⟨arn, harn⟩ := Table.mem_values_iff.mp he
    obtain ⟨hname, hpath⟩ := Bool.and_eq_true_iff.mp hboth
    have hkey := (h arn e harn).key
    rw [beq_iff_eq.mp hname, beq_iff_eq.mp hpath] at hkey
    exact ⟨e, hkey ▸ harn, rfl, beq_iff_eq.mp hname, beq_iff_eq.mp hpath⟩
  unfold findPolicy
  constructor
  · intro hfind
    have hboth := List.find?_some hfind
    exact hplace p (List.mem_of_find?_eq_some hfind) hboth
  · rintro ⟨e, he, rfl, hname, hpath⟩
    cases hfind : (a.policies.values.map (·.policy)).find?
        fun q => q.name == name && q.path == path with
    | none =>
      have hnone := List.find?_eq_none.mp hfind e.policy
        (List.mem_map_of_mem (Table.mem_values_iff.mpr ⟨_, he⟩))
      rw [hname, hpath] at hnone
      simp at hnone
    | some q =>
      have hboth := List.find?_some hfind
      obtain ⟨e', he', rfl, -, -⟩ := hplace q (List.mem_of_find?_eq_some hfind) hboth
      cases he.symm.trans he'
      rfl

end WellFormed

/-- Calls lead from well-formed accounts to well-formed ones. -/
theorem WellFormed.of_course {τ : Type} {truthful : List String}
    {u : Unreliable serves (admits truthful) τ} {t t' : τ}
    {cs : List (Call IamRequest IamRequest.Answer τ)} (hwell : (u.live t).WellFormed)
    (hcourse : u.Course t cs t') :
    (u.live t').WellFormed ∧ (u.live t').accountId = (u.live t).accountId := by
  refine hcourse.lead.invariant (I := fun s => (u.live s).WellFormed ∧
    (u.live s).accountId = (u.live t).accountId) (fun c hc ⟨hwell, haccount⟩ => ?_) ⟨hwell, rfl⟩
  rcases eq_or_effect (hcourse.explained c hc) with hkept | ⟨answer, heffect⟩
  · rw [hkept]
    exact ⟨hwell, haccount⟩
  · exact ⟨hwell.of_effect heffect, heffect.unaffected.accountId.trans haccount⟩

theorem WellFormed.of_quiet {b : Account} (hquiet : a.quiet = b.quiet) (h : a.WellFormed) :
    b.WellFormed := by
  have haccount : b.quiet.accountId = a.quiet.accountId := by rw [hquiet]
  have hpolicies : b.quiet.policies = a.quiet.policies := by rw [hquiet]
  exact h.of_subset haccount fun arn e he => hpolicies ▸ he

theorem WellFormed.quiet (h : a.WellFormed) : a.quiet.WellFormed :=
  h.of_subset rfl fun _ _ he => he

theorem wellFormed_empty (versionLimit : Nat) :
    WellFormed { versionLimit := versionLimit } := fun _ _ he => nomatch he

theorem Reachable.wellFormed (h : Reachable a) : a.WellFormed :=
  h.invariant wellFormed_empty (fun _ _ => WellFormed.of_quiet) fun heffect h => h.of_effect heffect

end Account

end IamConvergence
