/-
Cancelled steps. A cancellation cuts a step that changes the account short: the calls it makes are
the first ones that the step makes uncancelled, up to the call during which the cancellation
arrived. Only where that call finds the policy of which the content is compared, the content is
still looked up. If nothing is left to call and the last call completes, the report is as it would
have been; otherwise it says that the step was cancelled, which is worth trying again.
-/
import IamConvergence.Proofs.Account.Undisturbed
import IamConvergence.Proofs.Discipline
import IamConvergence.Proofs.Pass.Cancellation

namespace IamConvergence

open Account (undisturbed)

variable {ι κ : Type} {k : Nat} {cancelled : Bool} {ds : List Disturbance}

/-- The provider of an account whose calls may be cancelled, but answer only what the account does. -/
abbrev Account.cancellable : Provider IamRequest IamRequest.Answer (Account × List Disturbance) :=
  .cancellable Account.perform

/-- The `k`-th of some requests looks a policy up, and the next one the content of a version of it. -/
def ContentAfter (k : Nat) (requests : List IamRequest) : Prop :=
  ∃ j arn version, k = j + 1 ∧ requests[j]? = some (.getPolicy arn) ∧
    requests[j + 1]? = some (.getVersion arn version)

theorem IamRequest.joins_iff {q q' : IamRequest} : joins (some q) q' = true ↔
    ∃ arn version, q = .getPolicy arn ∧ q' = .getVersion arn version := by
  constructor
  · intro h
    cases q' with
    | getVersion arn version =>
      cases q with
      | getPolicy arn' =>
        obtain rfl : arn = arn' := eq_of_beq h
        exact ⟨arn, version, rfl, rfl⟩
      | _ => cases h
    | _ => cases h
  · rintro ⟨arn, version, rfl, rfl⟩
    exact beq_self_eq_true arn

theorem joinsAt_none_iff_contentAfter {gone : Bool} {requests : List IamRequest} :
    (IamRequest.discipline gone).JoinsAt none requests k ↔ ContentAfter k requests := by
  rw [Discipline.joinsAt_none_iff]
  constructor
  · rintro ⟨j, q, q', hk, hq, hq', hjoins⟩
    obtain ⟨arn, version, rfl, rfl⟩ := IamRequest.joins_iff.mp hjoins
    exact ⟨j, arn, version, hk, hq, hq'⟩
  · rintro ⟨j, arn, version, hk, hq, hq'⟩
    exact ⟨j, _, _, hk, hq, hq', IamRequest.joins_iff.mpr ⟨arn, version, rfl, rfl⟩⟩

/-- What is left of a step when a cancellation arrives during its `k`-th call. -/
structure CancelledAt (k : Nat) (classify : Classifier)
    (whole : Episode ι IamRequest IamRequest.Answer (Report κ) Account)
    (cut : Episode ι IamRequest IamRequest.Answer (Report κ) (Account × List Disturbance)) :
    Prop where
  starts : cut.calls.map (·.request) <+: whole.calls.map (·.request)
  length : cut.calls.length = min k whole.calls.length ∨
    cut.calls.length = k + 1 ∧ ContentAfter k (whole.calls.map (·.request))
  /-- The content is still looked up, unless the call for the policy is given up. -/
  content : ContentAfter k (whole.calls.map (·.request)) →
    cut.calls.length = k + 1 ∨ cut.calls.length = k ∧ lastAbandoned cut.calls = true
  /-- Nothing is changed once the cancellation has arrived. -/
  reads : ∀ c ∈ cut.calls.drop k, ∃ arn version, c.request = .getVersion arn version
  same : lastAbandoned cut.calls = false → cut.calls.length = whole.calls.length →
    cut.result = whole.result
  carries : lastAbandoned cut.calls = true ∨ cut.calls.length < whole.calls.length →
    ∃ resource, cut.result.Carries (.cancelled resource) classify
  retryable : lastAbandoned cut.calls = true ∨ cut.calls.length < whole.calls.length →
    classify = Fault.defaultClass → cut.result.phase = .retryableFailure

/-- After the `k`-th call, at most the content is still looked up. -/
theorem getVersion_of_mem_drop {σ : Type} {cs : List (Call IamRequest IamRequest.Answer σ)}
    {requests : List IamRequest} (hstarts : cs.map (·.request) <+: requests)
    (hlength : cs.length = min k requests.length ∨
      cs.length = k + 1 ∧ ContentAfter k requests) :
    ∀ c ∈ cs.drop k, ∃ arn version, c.request = .getVersion arn version := by
  intro c hc
  obtain ⟨i, hi⟩ := List.mem_iff_getElem?.mp hc
  rw [List.getElem?_drop] at hi
  have hlt : k + i < cs.length := (List.getElem?_eq_some_iff.mp hi).1
  rcases hlength with hlength | ⟨hlength, j, arn, version, rfl, -, hrequest⟩
  · omega
  · obtain rfl : i = 0 := by omega
    obtain ⟨rest, rfl⟩ := hstarts
    have hmapped : (cs.map (·.request))[j + 1]? = some c.request := by
      rw [List.getElem?_map]
      exact congrArg (Option.map _) hi
    rw [List.getElem?_append_left (by simpa using hlt), hmapped] at hrequest
    exact ⟨arn, version, Option.some.inj hrequest⟩

/-- A disciplined step is cut short by a cancellation. -/
theorem Disciplined.cancelledAt {gone : Bool} {classify : Classifier}
    {excuses : List IamExchange → Fault → Prop} {step : ι → IamPass (Report κ)} {input : ι}
    (h : Disciplined gone classify excuses (step input) []) (hfires : Fires k cancelled ds)
    (a : Account) :
    CancelledAt k classify (Pass.episode undisturbed step input false a)
      (Pass.episode Account.cancellable step input cancelled (a, ds)) := by
  have hcut : Pass.CutShort (IamRequest.discipline gone) _ Account.perform (step input) none k
      ⟨cancelled, a, ds⟩ := h.cutShort hfires a
  have hlength := hcut.length
  have hjoined := hcut.joined
  have hsame := hcut.same
  have hcancelled := hcut.cancelled
  rw [joinsAt_none_iff_contentAfter] at hlength hjoined
  have hreads := getVersion_of_mem_drop hcut.starts hlength
  rw [List.length_map] at hlength hsame hcancelled
  constructor
  · exact hcut.starts
  · exact hlength
  · exact hjoined
  · exact hreads
  · exact fun hlast hlength => hsame hlength hlast
  · exact fun hshort => hcancelled hshort.symm
  · intro hshort hclassify
    obtain ⟨resource, hcarries⟩ := hcancelled hshort.symm
    rw [hclassify] at hcarries
    exact hcarries.phase

/-- Whatever an account holds and has queued, and wherever a cancellation arrives, it cuts the steps
short that create, update or delete. -/
theorem cancelled_steps (hfires : Fires k cancelled ds) (a : Account) :
    (∀ h : RoleHandler,
      CancelledAt k h.classify (Pass.episode undisturbed RoleHandler.deploy h false a)
        (Pass.episode Account.cancellable RoleHandler.deploy h cancelled (a, ds)) ∧
      CancelledAt k h.classify (Pass.episode undisturbed RoleHandler.delete h false a)
        (Pass.episode Account.cancellable RoleHandler.delete h cancelled (a, ds))) ∧
    ∀ h : PolicyHandler,
      CancelledAt k h.classify (Pass.episode undisturbed PolicyHandler.apply h false a)
        (Pass.episode Account.cancellable PolicyHandler.apply h cancelled (a, ds)) ∧
      CancelledAt k h.classify (Pass.episode undisturbed PolicyHandler.delete h false a)
        (Pass.episode Account.cancellable PolicyHandler.delete h cancelled (a, ds)) :=
  ⟨fun h => ⟨h.disciplined_deploy.cancelledAt hfires a, h.disciplined_delete.cancelledAt hfires a⟩,
    fun h => ⟨h.disciplined_apply.cancelledAt hfires a, h.disciplined_delete.cancelledAt hfires a⟩⟩

/-- A cancellation arrives while the policy is found of which the document has drifted: its content
is still looked up, but nothing is changed. -/
theorem cancelled_steps_looked_up :
    let h : PolicyHandler := ⟨⟨"read", "1", "", "/", .empty⟩, {}, Fault.defaultClass, 5⟩
    let arn := "arn:aws:iam::123456789012:policy/read"
    let a := (Account.perform (.createPolicy { h.draft with document := "0" }) {}).2
    let ds : List Disturbance := [.none false, .none true]
    let whole := Pass.episode undisturbed PolicyHandler.apply h false a
    let cut := Pass.episode Account.cancellable PolicyHandler.apply h false (a, ds)
    Fires 2 false ds ∧ CancelledAt 2 h.classify whole cut ∧ whole.calls.length = 5 ∧
      cut.calls.map (·.request) = [.findPolicy "read" "/", .getPolicy arn, .getVersion arn "v1"] ∧
      whole.result.phase = .converged ∧ cut.result.phase = .retryableFailure := by
  intro h arn a ds whole cut
  have hfires : Fires 2 false ds := .later rfl (.during [] rfl)
  have hcancelled : CancelledAt 2 h.classify whole cut := ((cancelled_steps hfires a).2 h).1
  have hlength : whole.calls.length = 5 := by decide +kernel
  have hrequests : cut.calls.map (·.request) =
      [.findPolicy "read" "/", .getPolicy arn, .getVersion arn "v1"] := by decide +kernel
  have hshort : cut.calls.length < whole.calls.length := by
    have hthree : cut.calls.length = 3 := by decide +kernel
    rw [hthree, hlength]
    decide
  have hphase : whole.result.phase = .converged := by decide +kernel
  have hretryable : cut.result.phase = .retryableFailure := hcancelled.retryable (.inr hshort) rfl
  exact ⟨hfires, hcancelled, hlength, hrequests, hphase, hretryable⟩

end IamConvergence
