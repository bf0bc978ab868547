/-
Accounts whose calls are not disturbed. With nothing queued every call is answered with what the
request does or with its refusal, so where a pass gets to is told request by request, apart from
the log.
-/
import IamConvergence.Proofs.Account.Service
import IamConvergence.Proofs.Pass.Adapter

namespace IamConvergence

variable {α β : Type}

/-- The provider of an account whose calls are not disturbed. -/
abbrev Account.undisturbed : Provider IamRequest IamRequest.Answer Account :=
  .ofStep Account.perform

namespace Account

variable {a a' : Account} {q : IamRequest}

/-- An account on its own is an unreliable provider, of which only queued failures disturb the
calls. -/
def alone : Unreliable serves (admits []) Account where
  provider := undisturbed
  live := quiet
  disturbed q a := by
    have htruthful : a.Truthful [] := fun _ _ hmem => nomatch hmem
    exact htruthful.disturbed q false

/-- With nothing queued a call is served. -/
theorem serves_perform (q : IamRequest) (hfailures : a.failures = []) :
    serves q a.quiet (a.perform q).1 (a.perform q).2.quiet := by
  rcases perform_cases q a with ⟨f, hf, -⟩ | hserved
  · rw [hfailures] at hf
    cases hf
  · exact hserved

theorem perform_failures (q : IamRequest) (hfailures : a.failures = []) :
    (a.perform q).2.failures = [] := by
  have hsub := perform_failures_sublist q a
  rw [hfailures] at hsub
  exact List.sublist_nil.mp hsub

/-- With nothing queued a request is answered and takes effect, unless it is refused. -/
theorem perform_of_effect {b : Account} {answer : q.Answer} (hfailures : b.failures = [])
    (hquiet : b.quiet = a.quiet) (h : Effect q a answer a') :
    (b.perform q).1 = .ok answer ∧ (b.perform q).2.quiet = a'.quiet :=
  eq_of_serves (serves_perform q hfailures) hquiet h

theorem perform_of_refusal {b : Account} {f : Fault} (hfailures : b.failures = [])
    (hquiet : b.quiet = a.quiet) (h : a.effect q = .error f) :
    (b.perform q).1 = .error f ∧ (b.perform q).2.quiet = a.quiet :=
  eq_of_serves_refusal (serves_perform q hfailures) hquiet h

/-- With nothing queued a call is answered with what the request does. -/
theorem answer_perform (hfailures : a.failures = []) (q : IamRequest) :
    (a.perform q).1 = (a.effect q).map Prod.fst := by
  cases h : a.effect q with
  | ok x => exact (perform_of_effect hfailures rfl (effect_eq_ok_iff.mp h)).1
  | error f => exact (perform_of_refusal hfailures rfl h).1

theorem answer_eq_ok_iff (hfailures : a.failures = []) {answer : q.Answer} :
    (a.perform q).1 = .ok answer ↔ ∃ a', Effect q a answer a' := by
  rw [answer_perform hfailures]
  constructor
  · intro h
    cases heffect : a.effect q with
    | ok x =>
      rw [heffect] at h
      cases h
      exact ⟨x.2, effect_eq_ok_iff.mp heffect⟩
    | error f =>
      rw [heffect] at h
      cases h
  · rintro ⟨a', heffect⟩
    rw [effect_eq_ok_iff.mpr heffect]
    rfl

theorem answer_eq_error_iff (hfailures : a.failures = []) {f : Fault} :
    (a.perform q).1 = .error f ↔ a.effect q = .error f := by
  rw [answer_perform hfailures]
  cases a.effect q with
  | ok x => exact ⟨nofun, nofun⟩
  | error g => exact ⟨fun h => by cases h; rfl, fun h => by cases h; rfl⟩

/-- An account with nothing queued, of which the calls are cancelled as a schedule says. No fault is
made up. -/
def unfailing : Unreliable serves (fun _ _ _ => False)
    ({ a : Account // a.failures = [] } × List Disturbance) where
  provider := .scheduled (fun q a => ((a.1.perform q).1, ⟨(a.1.perform q).2, perform_failures q a.2⟩))
    fun _ _ _ => False
  live t := t.1.1.quiet
  disturbed := by
    rintro q ⟨a, _ | ⟨cancelled | ⟨f, cancelled⟩ | _ | _, ds⟩⟩
    · exact .served false (serves_perform q a.2)
    · exact .served cancelled (serves_perform q a.2)
    · exact .served cancelled (serves_perform q a.2)
    · exact .lost
    · exact .unacknowledged (serves_perform q a.2)

end Account

/-- An account whose calls are not disturbed is one whose calls an empty schedule interrupts. -/
theorem Account.run_undisturbed {truthful : List String} {a : Account} (h : a.Truthful truthful)
    (p : IamPass α) (cancelled : Bool) :
    let x := p.run (interrupted truthful).provider ⟨cancelled, ⟨a, h⟩, []⟩
    p.run undisturbed ⟨cancelled, a⟩ = (x.1, ⟨x.2.cancelled, x.2.state.1.1⟩) := by
  intro x
  obtain ⟨hresult, hcancelled, hstate, -⟩ :
      (p.run undisturbed ⟨cancelled, a⟩).1 = x.1 ∧
        (p.run undisturbed ⟨cancelled, a⟩).2.cancelled = x.2.cancelled ∧
        (p.run undisturbed ⟨cancelled, a⟩).2.state = x.2.state.1.1 ∧ x.2.state.2 = [] := by
    refine Pass.run_related
      (R := fun (b : Account) (t : { b : Account // b.Truthful truthful } × List Disturbance) =>
        b = t.1.1 ∧ t.2 = []) ?_ p ⟨rfl, rfl⟩
    rintro q _ ⟨b, _⟩ ⟨rfl, rfl⟩
    exact ⟨rfl, rfl, rfl⟩
  rw [← hresult, ← hcancelled, ← hstate]

/-- What every call keeps, a pass keeps. -/
theorem Account.run_invariant {I : Account → Prop} (keep : ∀ q a, I a → I (a.perform q).2)
    (p : IamPass α) : ∀ {r : Run Account}, I r.state → I (p.run Account.undisturbed r).2.state := by
  induction p with
  | done x => exact fun h => h
  | call guarded resource q next ih =>
    intro r h
    cases hmade : guarded && r.cancelled with
    | true =>
      simp only [Pass.run, Pass.attempt, hmade, if_true]
      exact ih _ h
    | false =>
      rw [Pass.run_call_made _ _ _ _ hmade]
      exact ih _ (keep q r.state h)

/-- Passes lead from reachable accounts to reachable ones. -/
theorem Account.Reachable.run (p : IamPass α) {r : Run Account} (h : r.state.Reachable) :
    (p.run Account.undisturbed r).2.state.Reachable :=
  Account.run_invariant (fun q _ h => h.performed q) p h

/-- They queue nothing. -/
theorem Account.failures_run (p : IamPass α) {r : Run Account} (h : r.state.failures = []) :
    (p.run Account.undisturbed r).2.state.failures = [] :=
  Account.run_invariant (I := fun a => a.failures = []) (fun q _ h => Account.perform_failures q h) p h

/-! ## Where a pass gets to -/

/-- From an account, undisturbed and with nothing queued, a pass gets to another pass from another
account. -/
inductive Proceeds : IamPass α → Account → IamPass α → Account → Prop where
  | refl (p : IamPass α) (a : Account) : Proceeds p a p a
  | served {guarded : Bool} {resource : String} {q : IamRequest} {answer : q.Answer}
    {next : Except Fault q.Answer → IamPass α} {p : IamPass α} {a a' a'' : Account}
    (effect : Account.Effect q a answer a') (rest : Proceeds (next (.ok answer)) a' p a'') :
    Proceeds (.call guarded resource q next) a p a''
  | refused {guarded : Bool} {resource : String} {q : IamRequest} {f : Fault}
    {next : Except Fault q.Answer → IamPass α} {p : IamPass α} {a a' : Account}
    (refusal : a.effect q = .error f) (rest : Proceeds (next (.error f)) a p a') :
    Proceeds (.call guarded resource q next) a p a'

namespace Proceeds

variable {p p' p'' : IamPass α} {a a' a'' : Account} {x : α}

theorem trans (h : Proceeds p a p' a') (h' : Proceeds p' a' p'' a'') : Proceeds p a p'' a'' := by
  induction h with
  | refl => exact h'
  | served effect _ ih => exact .served effect (ih h')
  | refused refusal _ ih => exact .refused refusal (ih h')

theorem bind (f : α → IamPass β) (h : Proceeds p a p' a') :
    Proceeds (p.bind f) a (p'.bind f) a' := by
  induction h with
  | refl => exact .refl _ _
  | served effect _ ih => exact .served effect ih
  | refused refusal _ ih => exact .refused refusal ih

theorem map (f : α → β) (h : Proceeds p a p' a') : Proceeds (p.map f) a (p'.map f) a' :=
  h.bind _

theorem accountId (h : Proceeds p a p' a') : a'.accountId = a.accountId := by
  induction h with
  | refl => rfl
  | served effect _ ih => exact ih.trans effect.unaffected.accountId
  | refused _ _ ih => exact ih

/-- The two passes run alike, each from its own account. -/
theorem run_eq (h : Proceeds p a p' a') : ∀ {b : Account}, b.failures = [] → b.quiet = a.quiet →
    ∃ b', b'.failures = [] ∧ b'.quiet = a'.quiet ∧
      p.run Account.undisturbed ⟨false, b⟩ = p'.run Account.undisturbed ⟨false, b'⟩ := by
  induction h with
  | refl => exact fun hfailures hquiet => ⟨_, hfailures, hquiet, rfl⟩
  | @served guarded resource q answer next p a a' a'' effect _ ih =>
    intro b hfailures hquiet
    obtain ⟨hanswer, hafter⟩ := Account.perform_of_effect hfailures hquiet effect
    obtain ⟨b', hfailures', hquiet', hrun⟩ := ih (Account.perform_failures q hfailures) hafter
    refine ⟨b', hfailures', hquiet', ?_⟩
    rw [Pass.run_call_ofStep (Prod.ext hanswer rfl), hrun]
  | @refused guarded resource q f next p a a' refusal _ ih =>
    intro b hfailures hquiet
    obtain ⟨hanswer, hafter⟩ := Account.perform_of_refusal hfailures hquiet refusal
    obtain ⟨b', hfailures', hquiet', hrun⟩ := ih (Account.perform_failures q hfailures) hafter
    refine ⟨b', hfailures', hquiet', ?_⟩
    rw [Pass.run_call_ofStep (Prod.ext hanswer rfl), hrun]

/-- What an undisturbed pass leaves. -/
theorem episode {ι : Type} {pass : ι → IamPass α} {input : ι} (h : Proceeds (pass input) a (.done x) a')
    (hfailures : a.failures = []) :
    let e := Pass.episode Account.undisturbed pass input false a
    e.result = x ∧ e.after.quiet = a'.quiet := by
  obtain ⟨b', -, hquiet, hrun⟩ := h.run_eq hfailures rfl
  simp only [Pass.episode, hrun, Pass.run_done]
  exact ⟨trivial, hquiet⟩

end Proceeds

end IamConvergence
