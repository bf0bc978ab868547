/-
What requests leave alone. Those about one role leave every other role and every policy; those about
one policy leave every role and every other policy. Calls that keep to one role, or to one policy,
leave the same, however they are disturbed.
-/
import IamConvergence.Proofs.Account.Adapters

namespace IamConvergence

namespace IamRequest

/-- A request is about a role. -/
def OnRole (name : String) : IamRequest → Prop
  | .getRole name' | .updateTrustPolicy name' _ | .deleteRole name' | .listAttached name'
  | .attach name' _ | .detach name' _ => name' = name
  | .createRole d => d.name = name
  | _ => False

/-- A request is about the policy under a resource name. -/
def OnPolicy (arn : String) : IamRequest → Prop
  | .deletePolicy arn' => arn' = arn
  | q => q.OnVersions arn

theorem OnVersions.onPolicy {arn : String} {q : IamRequest} (h : q.OnVersions arn) :
    q.OnPolicy arn := by
  cases q with
  | deletePolicy => exact absurd h id
  | _ => exact h

end IamRequest

namespace Account

variable {a a' a'' : Account} {name arn : String} {q : IamRequest} {answer : q.Answer}

/-! ## One role -/

/-- At most one role is other than it was, and no policy. -/
structure OnlyRole (name : String) (a a' : Account) : Prop where
  others : ∀ name', name' ≠ name → a'.roles.find? name' = a.roles.find? name'
  policies : a'.policies = a.policies
  accountId : a'.accountId = a.accountId

namespace OnlyRole

theorem refl (name : String) (a : Account) : OnlyRole name a a := ⟨fun _ _ => rfl, rfl, rfl⟩

theorem trans (h : OnlyRole name a a') (h' : OnlyRole name a' a'') : OnlyRole name a a'' :=
  ⟨fun name' hne => (h'.others name' hne).trans (h.others name' hne),
    h'.policies.trans h.policies, h'.accountId.trans h.accountId⟩

theorem putRole (a : Account) (name : String) (e : RoleEntry) :
    OnlyRole name a (a.putRole name e) :=
  ⟨fun _ hne => Table.find?_insert_of_ne a.roles e hne, rfl, rfl⟩

theorem of_effect (hq : q.OnRole name) (h : Effect q a answer a') : OnlyRole name a a' := by
  cases q with
  | getRole | listAttached =>
    obtain ⟨-, rfl⟩ := h
    exact .refl name _
  | createRole d =>
    obtain ⟨-, -, -, rfl⟩ := h
    obtain rfl : d.name = name := hq
    exact ⟨(putRole a.issued d.name _).others, rfl, rfl⟩
  | updateTrustPolicy | attach =>
    obtain ⟨-, e, -, rfl⟩ := h
    obtain rfl := hq
    exact putRole a _ _
  | deleteRole =>
    obtain ⟨e, -, -, rfl⟩ := h
    obtain rfl := hq
    exact ⟨fun _ hne => Table.find?_erase_of_ne a.roles hne, rfl, rfl⟩
  | detach =>
    obtain ⟨e, -, -, rfl⟩ := h
    obtain rfl := hq
    exact putRole a _ _
  | _ => exact absurd hq id

end OnlyRole

/-! ## One policy -/

/-- At most one policy is other than it was, and no role. -/
structure OnlyPolicy (arn : String) (a a' : Account) : Prop where
  others : ∀ arn', arn' ≠ arn → a'.policies.find? arn' = a.policies.find? arn'
  roles : a'.roles = a.roles

namespace OnlyPolicy

theorem refl (arn : String) (a : Account) : OnlyPolicy arn a a := ⟨fun _ _ => rfl, rfl⟩

theorem trans (h : OnlyPolicy arn a a') (h' : OnlyPolicy arn a' a'') : OnlyPolicy arn a a'' :=
  ⟨fun arn' hne => (h'.others arn' hne).trans (h.others arn' hne), h'.roles.trans h.roles⟩

theorem putPolicy (a : Account) (arn : String) (e : PolicyEntry) :
    OnlyPolicy arn a (a.putPolicy arn e) :=
  ⟨fun _ hne => Table.find?_insert_of_ne a.policies e hne, rfl⟩

theorem of_createPolicy {d : PolicyDraft} {policy : Policy}
    (h : Effect (.createPolicy d) a policy a') : OnlyPolicy policy.arn a a' := by
  obtain ⟨-, -, -, rfl⟩ := h
  exact ⟨(putPolicy a.issued policy.arn _).others, rfl⟩

theorem of_effect (hq : q.OnPolicy arn) (h : Effect q a answer a') : OnlyPolicy arn a a' := by
  cases q with
  | getPolicy | getVersion | listVersions =>
    obtain ⟨-, rfl⟩ := h
    exact .refl arn _
  | deletePolicy =>
    obtain ⟨e, -, -, -, rfl⟩ := h
    obtain rfl := hq
    exact ⟨fun _ hne => Table.find?_erase_of_ne a.policies hne, rfl⟩
  | createVersion =>
    obtain ⟨e, -, -, -, -, rfl⟩ := h
    obtain rfl := hq
    exact ⟨(putPolicy a _ _).others, rfl⟩
  | deleteVersion =>
    obtain ⟨e, -, v, -, -, rfl⟩ := h
    obtain rfl := hq
    exact putPolicy a _ _
  | _ => exact absurd hq id

end OnlyPolicy

/-! ## Courses of calls -/

section

variable {τ : Type} {truthful : List String} {u : Unreliable serves (admits truthful) τ} {t t' : τ}
  {cs : List (IamCall τ)}

/-- A reflexive and transitive relation that the effect of every call satisfies holds of the accounts
that the calls lead from and to. -/
theorem relates_course {R : Account → Account → Prop} (hcourse : u.Course t cs t')
    (refl : ∀ a, R a a) (trans : ∀ {a b c}, R a b → R b c → R a c)
    (effect : ∀ c ∈ cs, ∀ {a a' : Account} {answer : c.request.Answer},
      Effect c.request a answer a' → R a a') : R (u.live t) (u.live t') := by
  refine hcourse.lead.invariant (I := fun s => R (u.live t) (u.live s)) (fun c hc hbefore => ?_)
    (refl _)
  rcases eq_or_effect (hcourse.explained c hc) with hsame | ⟨answer, heffect⟩
  · rw [hsame]
    exact hbefore
  · exact trans hbefore (effect c hc heffect)

theorem OnlyRole.of_course (hcourse : u.Course t cs t') (hcs : ∀ c ∈ cs, c.request.OnRole name) :
    OnlyRole name (u.live t) (u.live t') :=
  relates_course hcourse (.refl name) .trans fun c hc => .of_effect (hcs c hc)

theorem OnlyPolicy.of_course (hcourse : u.Course t cs t')
    (hcs : ∀ c ∈ cs, c.request.OnPolicy arn) : OnlyPolicy arn (u.live t) (u.live t') :=
  relates_course hcourse (.refl arn) .trans fun c hc => .of_effect (hcs c hc)

end

end Account

end IamConvergence
