/-
A call that fails leaves the account as it was. It has taken the first failure that was queued for
its operation, or nothing was queued and the account refuses the request; and it is logged. That a
refusal comes before any change is seen on the calls as they are made, step by step.

The failures queued for an operation are a queue: along a history, what was queued before and on the
way is what the operation's calls were answered with, in order, and what is still queued.
-/
import IamConvergence.Proofs.Account.Identity
import IamConvergence.Proofs.Account.Stepwise

namespace IamConvergence.Account

variable {a a' : Account} {q : IamRequest} {f : Fault} {operation : String}

/-! ## What is queued for an operation -/

/-- The failures for an operation among some. -/
def failuresOf (operation : String) (failures : List (String × Fault)) : List Fault :=
  (failures.filter (·.1 = operation)).map (·.2)

/-- The failures queued for an operation, the next one first. -/
def pending (a : Account) (operation : String) : List Fault := failuresOf operation a.failures

theorem failuresOf_append (failures others : List (String × Fault)) :
    failuresOf operation (failures ++ others) =
      failuresOf operation failures ++ failuresOf operation others := by
  simp [failuresOf]

theorem failuresOf_eq_nil {failures : List (String × Fault)}
    (h : ∀ e ∈ failures, e.1 ≠ operation) : failuresOf operation failures = [] := by
  simpa [failuresOf, List.filter_eq_nil_iff] using fun op f hmem => h (op, f) hmem

/-- The failure that is taken is the first one for the operation, and the others stay in order. -/
theorem takeFailure_eq_some {failures others : List (String × Fault)}
    (h : takeFailure operation failures = (some f, others)) :
    ∃ before after, failures = before ++ (operation, f) :: after ∧
      (∀ e ∈ before, e.1 ≠ operation) ∧ others = before ++ after := by
  induction failures generalizing others with
  | nil => cases h
  | cons e rest ih =>
    obtain ⟨op, g⟩ := e
    rw [takeFailure] at h
    split at h
    · rename_i hop
      cases h
      exact ⟨[], rest, by rw [hop]; rfl, fun _ hmem => (nomatch hmem), rfl⟩
    · rename_i hop
      obtain ⟨hfound, rfl⟩ := Prod.mk.inj h
      obtain ⟨before, after, hrest, hbefore, hothers⟩ := ih (Prod.ext hfound rfl)
      exact ⟨(op, g) :: before, after, congrArg ((op, g) :: ·) hrest,
        List.forall_mem_cons.mpr ⟨hop, hbefore⟩, congrArg ((op, g) :: ·) hothers⟩

/-- Nothing is taken if nothing is queued for the operation. -/
theorem takeFailure_eq_none {failures others : List (String × Fault)}
    (h : takeFailure operation failures = (none, others)) :
    (∀ e ∈ failures, e.1 ≠ operation) ∧ others = failures := by
  induction failures generalizing others with
  | nil =>
    cases h
    exact ⟨fun _ hmem => (nomatch hmem), rfl⟩
  | cons e rest ih =>
    obtain ⟨op, g⟩ := e
    rw [takeFailure] at h
    split at h
    · cases h
    · rename_i hop
      obtain ⟨hfound, rfl⟩ := Prod.mk.inj h
      obtain ⟨hnone, hothers⟩ := ih (Prod.ext hfound rfl)
      exact ⟨List.forall_mem_cons.mpr ⟨hop, hnone⟩, congrArg ((op, g) :: ·) hothers⟩

theorem takeFailure_fst (operation : String) (failures : List (String × Fault)) :
    (takeFailure operation failures).1 = (failuresOf operation failures).head? := by
  rcases h : takeFailure operation failures with ⟨_ | f, others⟩
  · rw [failuresOf_eq_nil (takeFailure_eq_none h).1]
    rfl
  · obtain ⟨before, after, rfl, hbefore, -⟩ := takeFailure_eq_some h
    rw [failuresOf_append, failuresOf_eq_nil hbefore]
    simp [failuresOf]

/-- Of what is queued for the operation the first failure is taken. -/
theorem failuresOf_takeFailure (operation : String) (failures : List (String × Fault)) :
    failuresOf operation (takeFailure operation failures).2 =
      (failuresOf operation failures).tail := by
  rcases h : takeFailure operation failures with ⟨_ | f, others⟩
  · obtain ⟨hnone, rfl⟩ := takeFailure_eq_none h
    rw [failuresOf_eq_nil hnone]
    rfl
  · obtain ⟨before, after, rfl, hbefore, rfl⟩ := takeFailure_eq_some h
    rw [failuresOf_append, failuresOf_append, failuresOf_eq_nil hbefore]
    simp [failuresOf]

/-- Of what is queued for other operations nothing is taken. -/
theorem failuresOf_takeFailure_of_ne {other : String} (hne : other ≠ operation)
    (failures : List (String × Fault)) :
    failuresOf other (takeFailure operation failures).2 = failuresOf other failures := by
  rcases h : takeFailure operation failures with ⟨_ | f, others⟩
  · rw [(takeFailure_eq_none h).2]
  · obtain ⟨before, after, rfl, -, rfl⟩ := takeFailure_eq_some h
    rw [failuresOf_append, failuresOf_append]
    simp [failuresOf, hne.symm]

/-! ## Refusals -/

/-- The faults with which a request is refused. They give the reason, and unless something is missing
they name the operation. -/
inductive Refusal (operation : String) : Fault → Prop where
  | missing {resource message : String} (text : String) (h : message = "NoSuchEntity: " ++ text) :
    Refusal operation (.notFound resource message)
  | refused {resource message : String} (code text : String)
    (reason : code ∈ ["EntityAlreadyExists", "MalformedPolicyDocument", "LimitExceeded",
      "DeleteConflict"])
    (h : message = code ++ ": " ++ text) :
    Refusal operation (.refusal resource operation message)

namespace Refusal

theorem of_roleEntry {name : String} (h : a.roleEntry name = .error f) : Refusal operation f := by
  unfold roleEntry at h
  split at h
  · cases h
  · cases h
    refine .missing ("The role with name " ++ name ++ " cannot be found.") ?_
    simp [toString, ← String.append_assoc]

theorem of_policyEntry {arn : String} (h : a.policyEntry arn = .error f) :
    Refusal operation f := by
  unfold policyEntry at h
  split at h
  · cases h
  · cases h
    refine .missing ("Policy " ++ arn ++ " does not exist or is not attachable.") ?_
    simp [toString, ← String.append_assoc]

theorem of_checkDocument {resource document : String}
    (h : checkDocument resource operation document = .error f) : Refusal operation f := by
  unfold checkDocument at h
  split at h
  · cases h
    exact .refused "MalformedPolicyDocument" "Syntax errors in policy." (by simp) (by simp)
  · cases h

/-- A refusal names the operation that was asked for. -/
theorem operation_eq {resource operation' message : String}
    (h : Refusal operation (.refusal resource operation' message)) : operation = operation' := by
  generalize hf : Fault.refusal resource operation' message = f at h
  cases h with
  | missing => cases hf
  | refused => exact (Fault.provider.inj hf).2.1.symm

theorem noVersion (arn version : String) : Refusal operation (Account.noVersion arn version) := by
  refine .missing ("Policy version " ++ version ++ " does not exist.") ?_
  simp [toString, ← String.append_assoc]

/-- Whatever an account refuses, it says why. -/
theorem of_effect (h : a.effect q = .error f) : Refusal q.operation f := by
  cases q with
  | getRole | findPolicy | getPolicy => cases h
  | createRole d =>
    simp only [effect, createRole, error_bind] at h
    split at h
    · cases h
      refine .refused "EntityAlreadyExists" ("Role with name " ++ d.name ++ " already exists.")
        (by simp) ?_
      simp [toString, ← String.append_assoc]
    · rcases bind_eq_error_iff.mp h with h | ⟨_, _, h⟩
      · exact of_checkDocument h
      · cases h
  | updateTrustPolicy name document =>
    rcases bind_eq_error_iff.mp (map_eq_error_iff.mp h) with h | ⟨_, _, h⟩
    · exact of_checkDocument h
    · rcases bind_eq_error_iff.mp h with h | ⟨_, _, h⟩
      · exact of_roleEntry h
      · cases h
  | deleteRole name =>
    rcases bind_eq_error_iff.mp (map_eq_error_iff.mp h) with h | ⟨e, _, h⟩
    · exact of_roleEntry h
    · split at h
      · cases h
      · cases h
        exact .refused "DeleteConflict" "Cannot delete entity, must detach all policies first."
          (by simp) (by simp)
  | listAttached name => exact of_roleEntry (map_eq_error_iff.mp h)
  | attach name arn =>
    have h := map_eq_error_iff.mp h
    simp only [attach] at h
    split at h
    · rcases bind_eq_error_iff.mp h with h | ⟨_, _, h⟩
      · exact of_policyEntry (map_eq_error_iff.mp h)
      · rcases bind_eq_error_iff.mp h with h | ⟨_, _, h⟩
        · exact of_roleEntry h
        · cases h
    · rcases bind_eq_error_iff.mp h with h | ⟨_, _, h⟩
      · exact of_roleEntry h
      · cases h
  | detach name arn =>
    rcases bind_eq_error_iff.mp (map_eq_error_iff.mp h) with h | ⟨e, _, h⟩
    · exact of_roleEntry h
    · split at h
      · cases h
      · cases h
        refine .missing ("Policy " ++ arn ++ " was not found.") ?_
        simp [toString, ← String.append_assoc]
  | createPolicy d =>
    simp only [effect, createPolicy, error_bind] at h
    split at h
    · cases h
      refine .refused "EntityAlreadyExists" ("A policy called " ++ d.name ++ " already exists.")
        (by simp) ?_
      simp [toString, ← String.append_assoc]
    · rcases bind_eq_error_iff.mp h with h | ⟨_, _, h⟩
      · exact of_checkDocument h
      · cases h
  | deletePolicy arn =>
    rcases bind_eq_error_iff.mp (map_eq_error_iff.mp h) with h | ⟨e, _, h⟩
    · exact of_policyEntry h
    · split at h
      · cases h
        exact .refused "DeleteConflict" ("This policy has more than one version. " ++
          "Before you delete a policy, you must delete the policy's versions.") (by simp) rfl
      · split at h
        · cases h
          exact .refused "DeleteConflict" "Cannot delete a policy attached to entities." (by simp)
            (by simp)
        · cases h
  | getVersion arn version =>
    rcases bind_eq_error_iff.mp (map_eq_error_iff.mp h) with h | ⟨e, _, h⟩
    · exact of_policyEntry h
    · split at h
      · cases h
      · cases h
        exact noVersion arn version
  | listVersions arn =>
    rcases bind_eq_error_iff.mp (map_eq_error_iff.mp h) with h | ⟨e, _, h⟩
    · exact of_policyEntry h
    · cases h
  | createVersion arn document asDefault =>
    simp only [effect, createVersion, error_bind] at h
    rcases bind_eq_error_iff.mp h with h | ⟨e, _, h⟩
    · exact of_policyEntry h
    · split at h
      · cases h
        refine .refused "LimitExceeded"
          ("Cannot exceed quota for PolicyVersionsPerPolicy: " ++ toString a.versionLimit)
          (by simp) ?_
        simp [toString, ← String.append_assoc]
      · rcases bind_eq_error_iff.mp h with h | ⟨_, _, h⟩
        · exact of_checkDocument h
        · cases h
  | deleteVersion arn version =>
    rcases bind_eq_error_iff.mp (map_eq_error_iff.mp h) with h | ⟨e, _, h⟩
    · exact of_policyEntry h
    · split at h
      · cases h
        exact noVersion arn version
      · split at h
        · cases h
          exact .refused "DeleteConflict" "Cannot delete the default version of a policy." (by simp)
            (by simp)
        · cases h

end Refusal

/-- What is queued and logged does not matter to a refusal. -/
theorem effect_eq_error_congr (h : a'.quiet = a.quiet) :
    a'.effect q = .error f ↔ a.effect q = .error f := by
  have heffect := effect_quiet a' q
  rw [h, effect_quiet] at heffect
  rw [← map_eq_error_iff, ← heffect, map_eq_error_iff]

/-! ## Calls that fail -/

/-- How a call fails. It takes the first failure that is queued for its operation; or none is
queued, and the request is refused. Nothing else happens, but that the call is logged. -/
inductive Failed (a : Account) (q : IamRequest) (f : Fault) : Account → Prop where
  | queued {before after : List (String × Fault)}
    (failures : a.failures = before ++ (q.operation, f) :: after)
    (first : ∀ e ∈ before, e.1 ≠ q.operation) :
    Failed a q f { a with failures := before ++ after, calls := a.calls ++ [q.operation] }
  | refused (idle : a.pending q.operation = []) (effect : a.effect q = .error f)
    (reason : Refusal q.operation f) :
    Failed a q f { a with calls := a.calls ++ [q.operation] }

theorem failed_of_perform (h : (a.perform q).1 = .error f) : Failed a q f (a.perform q).2 := by
  unfold perform enter at h ⊢
  rcases htaken : takeFailure q.operation a.failures with ⟨_ | f', others⟩
  · obtain ⟨hnone, rfl⟩ := takeFailure_eq_none htaken
    simp only [htaken] at h ⊢
    cases heffect : effect { a with calls := a.calls ++ [q.operation] } q with
    | ok x =>
      simp only [heffect] at h
      cases h
    | error f' =>
      simp only [heffect] at h ⊢
      cases h
      have hquiet : quiet { a with calls := a.calls ++ [q.operation] } = a.quiet := rfl
      have hrefused : a.effect q = .error f := (effect_eq_error_congr hquiet).mp heffect
      exact .refused (failuresOf_eq_nil hnone) hrefused (.of_effect hrefused)
  · obtain ⟨before, after, hfailures, hbefore, rfl⟩ := takeFailure_eq_some htaken
    simp only [htaken] at h ⊢
    cases h
    exact .queued hfailures hbefore

theorem failures_perform (q : IamRequest) (a : Account) :
    (a.perform q).2.failures = (takeFailure q.operation a.failures).2 := by
  unfold perform
  rcases hentered : a.enter q.operation with ⟨_ | f, b⟩
  · have hb : b.failures = (takeFailure q.operation a.failures).2 :=
      congrArg (fun x => x.2.failures) hentered.symm
    dsimp only
    cases heffect : b.effect q with
    | ok x => exact (effect_eq_ok_iff.mp heffect).unaffected.failures.trans hb
    | error f => exact hb
  · exact congrArg (fun x => x.2.failures) hentered.symm

/-- A call is answered with the failure that is queued for its operation, and takes it. -/
theorem perform_of_pending {rest : List Fault} (h : a.pending q.operation = f :: rest) :
    (a.perform q).1 = .error f ∧ (a.perform q).2.pending q.operation = rest := by
  constructor
  · have htaken : (takeFailure q.operation a.failures).1 = some f := by
      rw [takeFailure_fst, ← pending, h, List.head?_cons]
    unfold perform enter
    simp only [htaken]
  · rw [pending, failures_perform, failuresOf_takeFailure, ← pending, h, List.tail_cons]

theorem pending_perform_of_ne (h : operation ≠ q.operation) :
    (a.perform q).2.pending operation = a.pending operation := by
  rw [pending, failures_perform, failuresOf_takeFailure_of_ne h, pending]

/-! ## Histories -/

/-- The failures that a command queues for an operation. -/
def Command.queues (operation : String) : Command → List Fault
  | .queue other f => if other = operation then [f] else []
  | .call _ | .clear => []

/-- The faults with which a command answers a call of an operation that something is queued for. -/
def taken (operation : String) (a : Account) : Command → List Fault
  | .call q =>
    if q.operation = operation ∧ a.pending operation ≠ [] then
      match (a.perform q).1 with
      | .ok _ => []
      | .error f => [f]
    else []
  | .queue _ _ | .clear => []

/-- The faults that the calls of an operation take along a history, in order. -/
def takenBy (operation : String) (a : Account) : List Command → List Fault
  | [] => []
  | c :: cs => taken operation a c ++ takenBy operation (a.obey c) cs

/-- What is queued before a command or by it is taken by it or is queued after it. -/
theorem taken_append_pending (operation : String) (a : Account) (c : Command) :
    taken operation a c ++ (a.obey c).pending operation =
      a.pending operation ++ c.queues operation := by
  cases c with
  | call q =>
    simp only [taken, obey, Command.queues, List.append_nil]
    by_cases hop : operation = q.operation
    · subst hop
      cases hpending : a.pending q.operation with
      | nil =>
        have hstill : (a.perform q).2.pending q.operation = [] := by
          rw [pending, failures_perform, failuresOf_takeFailure, ← pending, hpending]
          rfl
        simp [hstill]
      | cons f rest =>
        obtain ⟨hanswer, hrest⟩ := perform_of_pending hpending
        simp [hanswer, hrest]
    · rw [if_neg fun h => hop h.1.symm, List.nil_append, pending_perform_of_ne hop]
  | queue other f =>
    show [] ++ failuresOf operation (a.failures ++ [(other, f)]) = _
    rw [List.nil_append, failuresOf_append]
    by_cases hop : other = operation <;> simp [failuresOf, pending, Command.queues, hop]
  | clear => exact (List.append_nil _).symm

theorem takenBy_append_pending (operation : String) (a : Account) (cs : List Command) :
    takenBy operation a cs ++ (a.after cs).pending operation =
      a.pending operation ++ cs.flatMap (·.queues operation) := by
  induction cs generalizing a with
  | nil => exact (List.append_nil _).symm
  | cons c cs ih =>
    have hrest : takenBy operation (a.obey c) cs ++ (a.after (c :: cs)).pending operation =
        (a.obey c).pending operation ++ cs.flatMap (·.queues operation) := ih (a.obey c)
    rw [takenBy, List.append_assoc, hrest, ← List.append_assoc, taken_append_pending,
      List.append_assoc, List.flatMap_cons]

/-- A call whose steps end in a fault leaves the account as it was, but for the call log and the
failure that it may have taken. A failure that is queued for an operation is the answer to one call
of it: calls of other operations leave the queue alone, and along a history its calls take the
failures in the order in which they were queued. -/
theorem failing_calls_are_atomic (a : Account) :
    (∀ q, stepwise q a = a.perform q) ∧
    (∀ q f, (stepwise q a).1 = .error f → Failed a q f (stepwise q a).2) ∧
    (∀ q f rest, a.pending q.operation = f :: rest →
      (stepwise q a).1 = .error f ∧ (stepwise q a).2.pending q.operation = rest) ∧
    (∀ q operation, operation ≠ q.operation →
      (stepwise q a).2.pending operation = a.pending operation) ∧
    ∀ operation cs, takenBy operation a cs ++ (a.after cs).pending operation =
      a.pending operation ++ cs.flatMap (·.queues operation) := by
  refine ⟨fun q => stepwise_eq q a, ?_⟩
  simp only [stepwise_eq]
  exact ⟨fun _ _ h => failed_of_perform h, fun _ _ _ h => perform_of_pending h,
    fun _ _ h => pending_perform_of_ne h, fun operation => takenBy_append_pending operation a⟩

/-- In an empty account, two failures are queued for looking a role up and one for deleting it. The
look-up takes the first of the two; deleting takes its own, and then the role is missing. -/
theorem failing_calls_are_atomic_throttled :
    let throttled (text : String) : Fault := .provider "app" "GetRole" text true
    let a : Account := ((({} : Account).failNext "GetRole" (throttled "first")).failNext
      "DeleteRole" (throttled "other")).failNext "GetRole" (throttled "second")
    Failed a (.getRole "app") (throttled "first") (stepwise (.getRole "app") a).2 ∧
      (stepwise (.getRole "app") a).2.pending "GetRole" = [throttled "second"] ∧
      (stepwise (.getRole "app") a).2.pending "DeleteRole" = [throttled "other"] ∧
      Failed {} (.deleteRole "app") (noRole "app") (stepwise (.deleteRole "app") {}).2 :=
  let throttled (text : String) : Fault := .provider "app" "GetRole" text true
  let a : Account := ((({} : Account).failNext "GetRole" (throttled "first")).failNext
    "DeleteRole" (throttled "other")).failNext "GetRole" (throttled "second")
  have h := failing_calls_are_atomic a
  ⟨h.2.1 (.getRole "app") (throttled "first") rfl,
    (h.2.2.1 (.getRole "app") (throttled "first") [throttled "second"] rfl).2,
    h.2.2.2.1 (.getRole "app") "DeleteRole" (by decide),
    (failing_calls_are_atomic {}).2.1 (.deleteRole "app") (noRole "app") rfl⟩

end IamConvergence.Account
