/-
Adapted passes. A provider realizes an adapter over another provider when it does with every request
what the adapter's pass does over the other one. An adapted pass then leaves what the pass itself
leaves against that provider; and where each request becomes one call, the calls are the same up to
their requests.

Two providers whose states are related, and stay so while they give the same replies, run every pass
alike.
-/
import IamConvergence.Proofs.Pass.Trace

namespace IamConvergence.Pass

variable {Q Q' : Type} {A : Q → Type} {A' : Q' → Type} {α σ : Type}
  {adapter : Adapter Q A Q' A'} {inner : Provider Q' A' σ} {outer : Provider Q A σ}

/-! ## One call -/

section

variable (provider : Provider Q A σ) (guarded : Bool) (resource : String) (q : Q) (r : Run σ)

theorem attempt_eq : attempt provider guarded resource q r =
    if guarded && r.cancelled then (.error (.cancelled resource), r)
    else ((provider q r.state).1.answer resource, made provider q r) := by
  cases h : guarded && r.cancelled with
  | true => simp only [attempt, h, if_true]
  | false =>
    rw [attempt_made provider resource q h]
    rfl

theorem run_call_done :
    (call guarded resource q done).run provider r = attempt provider guarded resource q r := rfl

end

/-! ## Adapted passes -/

/-- The outer provider does with every request what the adapter's pass does over the inner one. -/
def Realizes (adapter : Adapter Q A Q' A') (inner : Provider Q' A' σ) (outer : Provider Q A σ) :
    Prop :=
  ∀ guarded resource q r, (adapter guarded resource q).run inner r =
    attempt outer guarded resource q r

/-- An adapted pass leaves what the pass leaves. -/
theorem run_adapt (h : Realizes adapter inner outer) (p : Pass Q A α) (r : Run σ) :
    (p.adapt adapter).run inner r = p.run outer r := by
  induction p generalizing r with
  | done a => rfl
  | call guarded resource request next ih =>
    show ((adapter guarded resource request).bind fun answer => (next answer).adapt adapter).run
      inner r = _
    rw [run_bind, h guarded resource request r, ih]
    rfl

theorem forall_calls_done {provider : Provider Q A σ} {P : Call Q A σ → Prop} (a : α)
    (r : Run σ) : ∀ c ∈ (done a : Pass Q A α).calls provider r, P c := by
  rw [calls_done]
  exact fun _ hc => absurd hc List.not_mem_nil

theorem forall_calls_call {provider : Provider Q A σ} {P : Call Q A σ → Prop} {guarded : Bool}
    {resource : String} {q : Q} {next : Except Fault (A q) → Pass Q A α}
    (first : ∀ reply s s', P ⟨resource, q, reply, s, s'⟩)
    (rest : ∀ answer r, ∀ c ∈ (next answer).calls provider r, P c) (r : Run σ) :
    ∀ c ∈ (call guarded resource q next).calls provider r, P c := by
  cases hmade : guarded && r.cancelled with
  | true =>
    simp only [calls, attempt, hmade, if_true]
    exact rest _ r
  | false =>
    rw [calls_call_made provider resource q next hmade]
    intro c hc
    rcases List.mem_cons.mp hc with rfl | hc
    · exact first _ _ _
    · exact rest _ _ c hc

/-- What all calls of an adapter's passes have in common, the calls of an adapted pass have. -/
theorem forall_calls_adapt {P : Call Q' A' σ → Prop}
    (h : ∀ guarded resource q r, ∀ c ∈ (adapter guarded resource q).calls inner r, P c)
    (p : Pass Q A α) (r : Run σ) : ∀ c ∈ (p.adapt adapter).calls inner r, P c := by
  induction p generalizing r with
  | done a => exact nofun
  | call guarded resource request next ih =>
    show ∀ c ∈ ((adapter guarded resource request).bind fun answer =>
      (next answer).adapt adapter).calls inner r, P c
    rw [calls_bind]
    intro c hc
    rcases List.mem_append.mp hc with hc | hc
    · exact h guarded resource request r c hc
    · exact ih _ _ c hc

/-- What a call of the pass owes to the calls that an adapter makes of it, the calls of the pass owe to
those of the adapted one. -/
theorem forall_calls_of_adapt {P : Call Q A σ → Prop} {P' : Call Q' A' σ → Prop}
    (h : Realizes adapter inner outer)
    (lift : ∀ guarded resource q r, (guarded && r.cancelled) = false →
      (∀ d ∈ (adapter guarded resource q).calls inner r, P' d) →
        P (callOn outer resource q r.state))
    (p : Pass Q A α) (r : Run σ) (hadapted : ∀ d ∈ (p.adapt adapter).calls inner r, P' d) :
    ∀ c ∈ p.calls outer r, P c := by
  induction p generalizing r with
  | done a => exact nofun
  | call guarded resource request next ih =>
    have hbind : (((call guarded resource request next).adapt adapter).calls inner r) =
        (adapter guarded resource request).calls inner r ++
          ((next (attempt outer guarded resource request r).1).adapt adapter).calls inner
            (attempt outer guarded resource request r).2 := by
      rw [← h guarded resource request r]
      exact calls_bind inner _ _ r
    rw [hbind] at hadapted
    have hrest := ih _ _ fun d hd => hadapted d (List.mem_append_right _ hd)
    cases hmade : guarded && r.cancelled with
    | true =>
      -- nothing is called, and the pass goes on from the same state
      simpa only [calls, hmade, if_true] using hrest
    | false =>
      intro c hc
      rw [calls_call_made outer resource request next hmade] at hc
      rcases List.mem_cons.mp hc with rfl | hc
      · exact lift guarded resource request r hmade fun d hd =>
          hadapted d (List.mem_append_left _ hd)
      · rw [attempt_made outer resource request hmade] at hrest
        exact hrest c hc

/-- Each request becomes one call, of another name. -/
def Renames (adapter : Adapter Q A Q' A') (inner : Provider Q' A' σ) (outer : Provider Q A σ)
    (rename : Call Q A σ → Call Q' A' σ) : Prop :=
  ∀ guarded resource q r, (adapter guarded resource q).calls inner r =
    if guarded && r.cancelled then [] else [rename (callOn outer resource q r.state)]

/-- The calls of an adapted pass are those of the pass under their other names. -/
theorem calls_adapt {rename : Call Q A σ → Call Q' A' σ} (h : Realizes adapter inner outer)
    (hcalls : Renames adapter inner outer rename) (p : Pass Q A α) (r : Run σ) :
    (p.adapt adapter).calls inner r = (p.calls outer r).map rename := by
  induction p generalizing r with
  | done a => rfl
  | call guarded resource request next ih =>
    show ((adapter guarded resource request).bind fun answer => (next answer).adapt adapter).calls
      inner r = _
    rw [calls_bind, hcalls, h guarded resource request r, ih]
    cases hmade : guarded && r.cancelled with
    | true => simp only [calls, hmade, if_true, List.nil_append]
    | false =>
      simp only [calls, hmade, Bool.false_eq_true, if_false, List.map_cons, List.singleton_append]

/-! ## Related providers -/

/-- If two providers give the same replies in related states and leave related ones, every pass runs
alike against them. -/
theorem run_related {σ' : Type} {provider : Provider Q A σ} {provider' : Provider Q A σ'}
    {R : σ → σ' → Prop} (step : ∀ q s s', R s s' →
      (provider q s).1 = (provider' q s').1 ∧ R (provider q s).2 (provider' q s').2)
    (p : Pass Q A α) {cancelled : Bool} {s : σ} {s' : σ'} (h : R s s') :
    (p.run provider ⟨cancelled, s⟩).1 = (p.run provider' ⟨cancelled, s'⟩).1 ∧
      (p.run provider ⟨cancelled, s⟩).2.cancelled = (p.run provider' ⟨cancelled, s'⟩).2.cancelled ∧
      R (p.run provider ⟨cancelled, s⟩).2.state (p.run provider' ⟨cancelled, s'⟩).2.state := by
  induction p generalizing cancelled s s' with
  | done a => exact ⟨rfl, rfl, h⟩
  | call guarded resource request next ih =>
    obtain ⟨hreply, hrest⟩ := step request s s' h
    cases hmade : guarded && cancelled with
    | true =>
      simp only [run, attempt, hmade, if_true]
      exact ih _ h
    | false =>
      rw [run_call_made provider resource request next hmade,
        run_call_made provider' resource request next hmade]
      simp only [made, hreply]
      exact ih _ hrest

/-- A pass runs alike against two providers that do the same with the requests that it makes. -/
theorem run_congr {provider provider' : Provider Q A σ} (p : Pass Q A α) (r : Run σ)
    (h : ∀ c ∈ p.calls provider r, ∀ s, provider' c.request s = provider c.request s) :
    p.run provider' r = p.run provider r ∧ p.calls provider' r = p.calls provider r := by
  induction p generalizing r with
  | done a => exact ⟨rfl, rfl⟩
  | call guarded resource request next ih =>
    cases hmade : guarded && r.cancelled with
    | true =>
      simp only [calls, run, attempt, hmade, if_true] at h ⊢
      exact ih _ r h
    | false =>
      rw [calls_call_made provider resource request next hmade] at h
      obtain ⟨hrequest, hrest⟩ := List.forall_mem_cons.mp h
      obtain ⟨hrun, hcalls⟩ := ih _ _ hrest
      rw [run_call_made provider resource request next hmade,
        run_call_made provider' resource request next hmade,
        calls_call_made provider resource request next hmade,
        calls_call_made provider' resource request next hmade]
      simp only [made, callOn, hrequest r.state]
      exact ⟨hrun, congrArg _ hcalls⟩

end IamConvergence.Pass
