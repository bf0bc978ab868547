/-
Passes that only look. Undisturbed and with nothing queued, a request that reads is answered and
leaves nothing but its name in the log, so what a pass is told does not depend on what it asked
before.
-/
import IamConvergence.Proofs.Account.Undisturbed

namespace IamConvergence

namespace Account

variable {a : Account} {q : IamRequest} {answer : q.Answer}

/-- The account with another log. -/
def withCalls (a : Account) (calls : List String) : Account := { a with calls := calls }

theorem Effect.withCalls (h : Effect q a answer a) (hq : q.reads = true) (calls : List String) :
    Effect q (a.withCalls calls) answer (a.withCalls calls) := by
  cases q with
  | getRole | listAttached | findPolicy | getPolicy | getVersion | listVersions => exact ⟨h.1, rfl⟩
  | _ => cases hq

theorem perform_of_reads (hfailures : a.failures = []) (hq : q.reads = true)
    (h : Effect q a answer a) (calls : List String) :
    (a.withCalls calls).perform q = (.ok answer, a.withCalls (calls ++ [q.operation])) := by
  have henter : (a.withCalls calls).enter q.operation =
      (none, a.withCalls (calls ++ [q.operation])) := by
    unfold enter withCalls
    rw [hfailures, takeFailure]
  unfold perform
  rw [henter]
  dsimp only
  rw [effect_eq_ok_iff.mpr (h.withCalls hq _)]

end Account

/-- From an account and with any log, a pass asks just some requests and gives a result. -/
structure Looks {α : Type} (p : IamPass α) (a : Account) (qs : List IamRequest) (x : α) : Prop where
  run : ∀ calls, p.run Account.undisturbed ⟨false, a.withCalls calls⟩ =
    (x, ⟨false, a.withCalls (calls ++ qs.map (·.operation))⟩)
  requests : ∀ calls,
    (p.calls Account.undisturbed ⟨false, a.withCalls calls⟩).map (·.request) = qs

namespace Looks

variable {α β : Type} {p : IamPass α} {a : Account} {qs : List IamRequest} {x : α}

theorem done (a : Account) (x : α) : Looks (.done x) a [] x := by
  constructor
  · intro calls
    rw [List.map_nil, List.append_nil, Pass.run_done]
  · intro calls
    rfl

/-- A request that can be read, and a pass that looks on with the answer. -/
theorem call {guarded : Bool} {resource : String} {q : IamRequest} {answer : q.Answer}
    {next : Except Fault q.Answer → IamPass α} (hfailures : a.failures = []) (hq : q.reads = true)
    (heffect : Account.Effect q a answer a) (h : Looks (next (.ok answer)) a qs x) :
    Looks (.call guarded resource q next) a (q :: qs) x := by
  constructor
  · intro calls
    rw [Pass.run_call_ofStep (Account.perform_of_reads hfailures hq heffect calls), h.run,
      List.append_assoc]
    rfl
  · intro calls
    rw [Pass.calls_call_ofStep (Account.perform_of_reads hfailures hq heffect calls),
      List.map_cons, h.requests]

theorem ite_pos {p' : IamPass α} {c : Prop} [Decidable c] (hc : c) (h : Looks p a qs x) :
    Looks (if c then p else p') a qs x := by
  rwa [if_pos hc]

theorem ite_neg {p' : IamPass α} {c : Prop} [Decidable c] (hc : ¬c) (h : Looks p' a qs x) :
    Looks (if c then p else p') a qs x := by
  rwa [if_neg hc]

theorem map (f : α → β) (h : Looks p a qs x) : Looks (p.map f) a qs (f x) := by
  constructor
  · intro calls
    rw [Pass.run_map, h.run]
  · intro calls
    rw [Pass.calls_map, h.requests]

theorem result {ι : Type} {pass : ι → IamPass α} {input : ι} (h : Looks (pass input) a qs x) :
    (Pass.episode Account.undisturbed pass input false a).result = x :=
  congrArg Prod.fst (h.run a.calls)

end Looks

end IamConvergence
