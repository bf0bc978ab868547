/-
An account as a service. Which failures are queued and which calls are logged is no matter of the
service: apart from that, a call answers a queued failure and changes nothing, or it does what the
request asks for. So an account whose calls are interrupted is an unreliable provider.

Reachable is what calls, queued failures and clearing the log lead to.
-/
import IamConvergence.Proofs.Account.Operations
import IamConvergence.Proofs.Pass.Service

namespace IamConvergence.Account

variable {a a' : Account}

/-! ## What is queued and logged -/

/-- The account without what is queued and logged. -/
def quiet (a : Account) : Account := { a with failures := [], calls := [] }

section

variable (a : Account)

@[simp] theorem quiet_roles : a.quiet.roles = a.roles := rfl

@[simp] theorem quiet_policies : a.quiet.policies = a.policies := rfl

@[simp] theorem quiet_versionLimit : a.quiet.versionLimit = a.versionLimit := rfl

@[simp] theorem roleEntry_quiet (name : String) : a.quiet.roleEntry name = a.roleEntry name := rfl

@[simp] theorem policyEntry_quiet (arn : String) :
    a.quiet.policyEntry arn = a.policyEntry arn := rfl

@[simp] theorem ownsPolicy_quiet (arn : String) : a.quiet.ownsPolicy arn = a.ownsPolicy arn := rfl

@[simp] theorem policyArn_quiet (path name : String) :
    a.quiet.policyArn path name = a.policyArn path name := rfl

end

theorem roles_of_quiet (h : a'.quiet = a.quiet) : a'.roles = a.roles := by
  rw [← quiet_roles, h, quiet_roles]

/-- What is queued and logged does not matter to a request. -/
theorem effect_quiet (a : Account) (q : IamRequest) :
    a.quiet.effect q = (a.effect q).map fun x => (x.1, x.2.quiet) := by
  cases q with
  | getRole name => rfl
  | createRole d =>
    cases h : a.roles.contains d.name with
    | true => simp only [effect, createRole, quiet_roles, h, if_true]; rfl
    | false =>
      simp only [effect, createRole, quiet_roles, h, Bool.false_eq_true, if_false]
      cases checkDocument d.name "CreateRole" d.trustPolicy <;> rfl
  | updateTrustPolicy name document =>
    simp only [effect, updateTrustPolicy, roleEntry_quiet]
    cases checkDocument name "UpdateAssumeRolePolicy" document <;> cases a.roleEntry name <;> rfl
  | deleteRole name =>
    simp only [effect, deleteRole, roleEntry_quiet]
    cases a.roleEntry name with
    | error f => rfl
    | ok e => cases h : e.attached.isEmpty <;> simp [h, bind, Except.bind, Except.map, quiet]
  | listAttached name =>
    simp only [effect, roleEntry_quiet]
    cases a.roleEntry name <;> rfl
  | attach name arn =>
    cases h : a.ownsPolicy arn <;>
      simp only [effect, attach, roleEntry_quiet, policyEntry_quiet, ownsPolicy_quiet, h, if_true,
        Bool.false_eq_true, if_false] <;>
      cases a.policyEntry arn <;> cases a.roleEntry name <;> rfl
  | detach name arn =>
    simp only [effect, detach, roleEntry_quiet]
    cases a.roleEntry name with
    | error f => rfl
    | ok e => by_cases h : arn ∈ e.attached <;> simp [h, bind, Except.bind, Except.map, quiet]
  | findPolicy name path => rfl
  | getPolicy arn => rfl
  | createPolicy d =>
    cases h : a.policies.contains (a.policyArn d.path d.name) with
    | true => simp only [effect, createPolicy, quiet_policies, policyArn_quiet, h, if_true]; rfl
    | false =>
      simp only [effect, createPolicy, quiet_policies, policyArn_quiet, h, Bool.false_eq_true,
        if_false]
      cases checkDocument (a.policyArn d.path d.name) "CreatePolicy" d.document <;> rfl
  | deletePolicy arn =>
    simp only [effect, deletePolicy, policyEntry_quiet, quiet_roles]
    cases a.policyEntry arn with
    | error f => rfl
    | ok e =>
      by_cases hlen : 1 < e.versions.length <;>
        by_cases hused : a.roles.values.any (arn ∈ ·.attached) = true <;>
        simp only [bind, Except.bind, hlen, hused, if_true, Bool.false_eq_true, if_false] <;> rfl
  | getVersion arn version =>
    simp only [effect, getVersion, policyEntry_quiet]
    cases a.policyEntry arn with
    | error f => rfl
    | ok e =>
      simp only [bind, Except.bind]
      split <;> rfl
  | listVersions arn =>
    simp only [effect, listVersions, policyEntry_quiet]
    cases a.policyEntry arn <;> rfl
  | createVersion arn document asDefault =>
    simp only [effect, createVersion, policyEntry_quiet, quiet_versionLimit]
    cases a.policyEntry arn with
    | error f => rfl
    | ok e =>
      by_cases hfull : a.versionLimit ≤ e.versions.length <;>
        simp only [bind, Except.bind, hfull, if_true, if_false]
      · rfl
      · cases checkDocument arn "CreatePolicyVersion" document <;> rfl
  | deleteVersion arn version =>
    simp only [effect, deleteVersion, policyEntry_quiet]
    cases a.policyEntry arn with
    | error f => rfl
    | ok e =>
      simp only [bind, Except.bind]
      split
      · rfl
      · split <;> rfl

/-! ## Calls -/

theorem takeFailure_sublist (operation : String) :
    ∀ failures : List (String × Fault), (takeFailure operation failures).2.Sublist failures
  | [] => .slnil
  | (op, f) :: rest => by
    unfold takeFailure
    split
    · exact (List.Sublist.refl rest).cons (op, f)
    · exact (takeFailure_sublist operation rest).cons_cons (op, f)

theorem mem_of_takeFailure {operation : String} {f : Fault} :
    ∀ {failures : List (String × Fault)}, (takeFailure operation failures).1 = some f →
      (operation, f) ∈ failures
  | (op, g) :: rest, h => by
    unfold takeFailure at h
    split at h
    · rename_i hop
      cases h
      rw [hop]
      exact List.mem_cons_self
    · exact List.mem_cons_of_mem _ (mem_of_takeFailure h)

theorem enter_quiet (a : Account) (operation : String) :
    (a.enter operation).2.quiet = a.quiet := rfl

theorem enter_failures_sublist (a : Account) (operation : String) :
    (a.enter operation).2.failures.Sublist a.failures :=
  takeFailure_sublist operation a.failures

theorem mem_of_enter {operation : String} {f : Fault} (h : (a.enter operation).1 = some f) :
    (operation, f) ∈ a.failures :=
  mem_of_takeFailure h

/-- An account as a service. -/
abbrev serves : Service IamRequest IamRequest.Answer Account := .ofEffect fun q a => a.effect q

section

variable {τ : Type} {admits : IamRequest → Account → Fault → Prop} {q : IamRequest}
  {reply : Reply q.Answer} {resource : String}

theorem effect_of_answer (h : Disturbed serves admits q a reply a') {answer : q.Answer}
    (hok : reply.answer resource = .ok answer) : Effect q a answer a' :=
  effect_eq_ok_iff.mp (h.effect_of_ok hok)

theorem eq_or_effect (h : Disturbed serves admits q a reply a') :
    a' = a ∨ ∃ answer, Effect q a answer a' := by
  rcases h.eq_or_effect with hkept | ⟨answer, heffect⟩
  · exact .inl hkept
  · exact .inr ⟨answer, effect_eq_ok_iff.mp heffect⟩

theorem eq_of_reads (h : Disturbed serves admits q a reply a') (hq : q.reads = true) : a' = a := by
  rcases eq_or_effect h with hkept | ⟨answer, heffect⟩
  · exact hkept
  · exact heffect.eq_of_reads hq

/-- A guarded call that is answered with success took effect. -/
theorem effect_of_asked {u : Unreliable serves admits τ} {t t' : τ} {cancelled cancelled' : Bool}
    {cs : List (Call IamRequest IamRequest.Answer τ)} {answer : q.Answer}
    (hcourse : u.Course t cs t')
    (hasked : Pass.Asked resource q cancelled cs (.ok answer) cancelled') :
    Effect q (u.live t) answer (u.live t') := by
  obtain ⟨reply, s, s', rfl, hanswer⟩ := hasked.of_ok
  obtain ⟨rfl, rfl⟩ := hcourse.lead
  exact effect_of_answer (hcourse.explained _ List.mem_cons_self) hanswer

/-- A guarded call that only reads leaves the account, whatever it is answered. -/
theorem live_eq_of_asked {u : Unreliable serves admits τ} {t t' : τ} {cancelled cancelled' : Bool}
    {cs : List (Call IamRequest IamRequest.Answer τ)} {answer : Except Fault q.Answer}
    (hcourse : u.Course t cs t')
    (hasked : Pass.Asked resource q cancelled cs answer cancelled') (hq : q.reads = true) :
    u.live t' = u.live t := by
  cases hasked with
  | skipped =>
    obtain rfl := hcourse.lead
    rfl
  | made reply s s' =>
    obtain ⟨rfl, rfl⟩ := hcourse.lead
    exact eq_of_reads (hcourse.explained _ List.mem_cons_self) hq

end

/-- A call answers a queued failure, or it is served. -/
theorem perform_cases (q : IamRequest) (a : Account) :
    (∃ f, (q.operation, f) ∈ a.failures ∧ (a.perform q).1 = .error f ∧
        (a.perform q).2.quiet = a.quiet) ∨
      serves q a.quiet (a.perform q).1 (a.perform q).2.quiet := by
  have hquiet := enter_quiet a q.operation
  unfold perform
  cases hentered : a.enter q.operation with
  | mk found b =>
    rw [hentered] at hquiet
    cases found with
    | some f => exact .inl ⟨f, mem_of_enter (by rw [hentered]), rfl, hquiet⟩
    | none =>
      right
      have heffect := effect_quiet b q
      rw [hquiet] at heffect
      show Service.ofEffect (fun q a => a.effect q) q a.quiet _ _
      dsimp only
      cases h : b.effect q with
      | error f =>
        rw [h] at heffect
        exact ⟨heffect, hquiet⟩
      | ok x =>
        rw [h] at heffect
        exact heffect

/-- A request that is served and not refused is answered with what it does. -/
theorem eq_of_serves {b b' : Account} {q : IamRequest} {answer : q.Answer}
    {served : Except Fault q.Answer} (hserved : serves q b.quiet served b')
    (hquiet : b.quiet = a.quiet) (h : Effect q a answer a') :
    served = .ok answer ∧ b' = a'.quiet := by
  have heffect : serves q b.quiet (.ok answer) a'.quiet := by
    show b.quiet.effect q = _
    rw [hquiet, effect_quiet, effect_eq_ok_iff.mpr h]
    rfl
  exact Service.ofEffect_unique hserved heffect

/-- A request that is served and refused is answered with the refusal. -/
theorem eq_of_serves_refusal {b b' : Account} {q : IamRequest} {f : Fault}
    {served : Except Fault q.Answer} (hserved : serves q b.quiet served b')
    (hquiet : b.quiet = a.quiet) (h : a.effect q = .error f) :
    served = .error f ∧ b' = a.quiet := by
  have hrefused : serves q b.quiet (.error f) a.quiet := by
    refine ⟨?_, hquiet.symm⟩
    show b.quiet.effect q = _
    rw [hquiet, effect_quiet, h]
    rfl
  exact Service.ofEffect_unique hserved hrefused

/-- A call that is answered with success took effect. -/
theorem effect_of_perform {q : IamRequest} {answer : q.Answer}
    (h : (a.perform q).1 = .ok answer) : Effect q a.quiet answer (a.perform q).2.quiet := by
  rcases perform_cases q a with ⟨f, -, hf, -⟩ | hserved
  · cases hf.symm.trans h
  · rw [h] at hserved
    exact effect_eq_ok_iff.mp hserved

/-- A call that is answered with a fault changed nothing. -/
theorem quiet_of_perform_error {q : IamRequest} {f : Fault} (h : (a.perform q).1 = .error f) :
    (a.perform q).2.quiet = a.quiet := by
  rcases perform_cases q a with ⟨f', -, -, hkept⟩ | hserved
  · exact hkept
  · rw [h] at hserved
    exact hserved.2

/-- A call queues nothing. -/
theorem perform_failures_sublist (q : IamRequest) (a : Account) :
    (a.perform q).2.failures.Sublist a.failures := by
  have hrest := enter_failures_sublist a q.operation
  unfold perform
  cases hentered : a.enter q.operation with
  | mk found b =>
    rw [hentered] at hrest
    cases found with
    | some f => exact hrest
    | none =>
      dsimp only
      cases h : b.effect q with
      | error f => exact hrest
      | ok x =>
        have hkept := (effect_eq_ok_iff.mp h).unaffected.failures
        show x.2.failures.Sublist a.failures
        rw [hkept]
        exact hrest

/-! ## Disturbances -/

/-- Any fault may be made up, but some operations are never said not to find their target. -/
def admits (truthful : List String) (q : IamRequest) (_ : Account) (f : Fault) : Prop :=
  q.operation ∈ truthful → f.isNotFound = false

instance (truthful : List String) : ∀ q a f, Decidable (admits truthful q a f) :=
  fun q _ f => inferInstanceAs (Decidable (q.operation ∈ truthful → f.isNotFound = false))

/-- Of some operations no queued failure says that the target is not found. -/
def Truthful (truthful : List String) (a : Account) : Prop :=
  ∀ e ∈ a.failures, e.1 ∈ truthful → e.2.isNotFound = false

instance (truthful : List String) (a : Account) : Decidable (a.Truthful truthful) :=
  inferInstanceAs (Decidable (∀ e ∈ a.failures, e.1 ∈ truthful → e.2.isNotFound = false))

variable {truthful : List String}

/-- That the target of some operations is not found is said only by the account itself. -/
theorem refused_of_notFound {q : IamRequest} {reply : Reply q.Answer} {resource : String}
    {f : Fault} (h : Disturbed serves (admits truthful) q a reply a') (hq : q.operation ∈ truthful)
    (herror : reply.answer resource = .error f) (hnotFound : f.isNotFound = true) :
    a.effect q = .error f ∧ a' = a := by
  rcases h.cause_of_error herror with hrefused | ⟨hadmits, -⟩ | ⟨rfl, -⟩
  · exact hrefused
  · rw [hadmits hq] at hnotFound
    cases hnotFound
  · cases hnotFound

/-- A removal that counts took effect, or its target was not there. -/
theorem effect_or_notFound {q : IamRequest} {reply : Reply q.Answer} {resource : String}
    (h : Disturbed serves (admits truthful) q a reply a') (hq : q.operation ∈ truthful)
    (hcounts : removalFault? (reply.answer resource) = none) :
    (∃ answer, Effect q a answer a') ∨
      ∃ f, a.effect q = .error f ∧ f.isNotFound = true ∧ a' = a := by
  cases hanswer : reply.answer resource with
  | ok answer => exact .inl ⟨answer, effect_of_answer h hanswer⟩
  | error f =>
    have hnotFound : f.isNotFound = true := by
      by_contra hnot
      rw [hanswer, removalFault?, if_neg hnot] at hcounts
      cases hcounts
    obtain ⟨hrefused, hkept⟩ := refused_of_notFound h hq hanswer hnotFound
    exact .inr ⟨f, hrefused, hnotFound, hkept⟩

theorem Truthful.perform (h : a.Truthful truthful) (q : IamRequest) :
    (a.perform q).2.Truthful truthful :=
  fun e he => h e ((perform_failures_sublist q a).subset he)

theorem Truthful.disturbed (h : a.Truthful truthful) (q : IamRequest) (cancelled : Bool) :
    Disturbed serves (admits truthful) q a.quiet (.completed (a.perform q).1 cancelled)
      (a.perform q).2.quiet := by
  rcases perform_cases q a with ⟨f, hf, hanswer, hkept⟩ | hserved
  · rw [hanswer, hkept]
    exact .failed cancelled (h _ hf)
  · exact .served cancelled hserved

theorem disturbed_abandoned (truthful : List String) (q : IamRequest) (a : Account) :
    Disturbed serves (admits truthful) q a.quiet .abandoned (a.perform q).2.quiet := by
  rcases perform_cases q a with ⟨f, -, -, hkept⟩ | hserved
  · rw [hkept]
    exact .lost
  · exact .unacknowledged hserved

/-- An account with its queued failures, of which the calls are interrupted as a schedule says. -/
def interrupted (truthful : List String) : Unreliable serves (admits truthful)
    ({ a : Account // a.Truthful truthful } × List Disturbance) where
  provider := .scheduled (fun q a => ((a.1.perform q).1, ⟨(a.1.perform q).2, a.2.perform q⟩))
    fun q a f => admits truthful q a f
  live t := t.1.1.quiet
  disturbed := by
    rintro q ⟨a, _ | ⟨d | ⟨f, cancelled⟩ | _ | _, ds⟩⟩
    · exact a.2.disturbed q false
    · exact a.2.disturbed q d
    · by_cases hf : admits truthful q a f
      · simp only [Provider.scheduled, if_pos hf]
        exact .failed cancelled hf
      · simp only [Provider.scheduled, if_neg hf]
        exact a.2.disturbed q cancelled
    · exact .lost
    · exact disturbed_abandoned truthful q a

/-! ## Reachable accounts -/

/-- The accounts to which calls lead, whatever failures are queued on the way. -/
inductive Reachable : Account → Prop where
  | empty (versionLimit : Nat) : Reachable { versionLimit := versionLimit }
  | performed {a : Account} (q : IamRequest) (h : Reachable a) : Reachable (a.perform q).2
  | queued {a : Account} (operation : String) (f : Fault) (h : Reachable a) :
    Reachable (a.failNext operation f)
  | cleared {a : Account} (h : Reachable a) : Reachable a.clearCalls

theorem clearCalls_eq_quiet (h : a.failures = []) : a.clearCalls = a.quiet := by
  unfold clearCalls quiet
  rw [h]

/-- Whatever was queued and logged might as well not have been. -/
theorem Reachable.quiet (h : Reachable a) : Reachable a.quiet := by
  induction h with
  | empty versionLimit => exact .empty versionLimit
  | @performed a q h ih =>
    rcases perform_cases q a with ⟨f, -, -, hkept⟩ | hserved
    · rw [hkept]
      exact ih
    · -- the same call, with nothing queued
      rcases perform_cases q a.quiet with ⟨f, hf, -⟩ | hserved'
      · cases hf
      · have hsame : (a.perform q).2.quiet = (a.quiet.perform q).2.quiet :=
          (Service.ofEffect_unique hserved hserved').2
        have hfailures : (a.quiet.perform q).2.failures = [] :=
          List.sublist_nil.mp (perform_failures_sublist q a.quiet)
        rw [hsame, ← clearCalls_eq_quiet hfailures]
        exact (ih.performed q).cleared
  | queued operation f h ih => exact ih
  | cleared h ih => exact ih

/-- What holds of an empty account, whatever is queued and logged, and what every effect keeps, holds
of every reachable account. -/
theorem Reachable.invariant {I : Account → Prop}
    (empty : ∀ versionLimit, I { versionLimit := versionLimit })
    (congr : ∀ a b : Account, a.quiet = b.quiet → I a → I b)
    (keep : ∀ {q : IamRequest} {a a' : Account} {answer : q.Answer},
      Effect q a answer a' → I a → I a') (h : Reachable a) : I a := by
  induction h with
  | empty versionLimit => exact empty versionLimit
  | @performed a q h ih =>
    have hquiet : I a.quiet := congr a _ rfl ih
    refine congr (a.perform q).2.quiet _ rfl ?_
    rcases perform_cases q a with ⟨f, -, -, hkept⟩ | hserved
    · rw [hkept]
      exact hquiet
    · have hcall : Disturbed serves (fun _ _ _ => True) q a.quiet
          (.completed (a.perform q).1 false) (a.perform q).2.quiet := .served false hserved
      rcases eq_or_effect hcall with hkept | ⟨answer, heffect⟩
      · rw [hkept]
        exact hquiet
      · exact keep heffect hquiet
  | @queued a operation f h ih => exact congr a _ rfl ih
  | @cleared a h ih => exact congr a _ rfl ih

end IamConvergence.Account
