/-
Disciplined passes that are cancelled. A cancellation cuts the calls of a pass short: those that it
makes are the first ones of the uncancelled pass, up to the call during which the cancellation
arrived and the one that belongs to it. A call that completes counts; so the pass ends as the
uncancelled one does if nothing is left to call, and is cancelled otherwise.
-/
import IamConvergence.Proofs.Pass.Discipline
import IamConvergence.Proofs.Pass.Service

namespace IamConvergence

variable {Q : Type} {A : Q → Type} {α σ τ : Type}

/-! ## When a cancellation arrives -/

/-- Whether a cancellation arrives during a call. -/
def Disturbance.cancels : Disturbance → Bool
  | .none cancelled | .fault _ cancelled => cancelled
  | .lost | .unacknowledged => true

/-- A cancellation arrives during the `k`-th call of a run, or before the first one if `k` is zero:
whether it has arrived at the start, and the schedule. What the schedule says of later calls is
free. -/
inductive Fires : Nat → Bool → List Disturbance → Prop where
  | before (ds : List Disturbance) : Fires 0 true ds
  | during {d : Disturbance} (ds : List Disturbance) (h : d.cancels = true) :
    Fires 1 false (d :: ds)
  | later {k : Nat} {d : Disturbance} {ds : List Disturbance} (h : d.cancels = false)
    (rest : Fires (k + 1) false ds) : Fires (k + 2) false (d :: ds)

/-- A provider that answers what a step answers, if a call is not given up: a fault is never made
up. -/
def Provider.cancellable (step : (q : Q) → σ → Except Fault (A q) × σ) :
    Provider Q A (σ × List Disturbance) :=
  .scheduled step fun _ _ _ => False

section

variable (step : (q : Q) → σ → Except Fault (A q) × σ) (q : Q) (s : σ)

/-- A scheduled call completes as the step does, or is given up on a cancellation. -/
theorem Provider.cancellable_cases (d : Disturbance) (ds : List Disturbance) :
    cancellable step q (s, d :: ds) = (.completed (step q s).1 d.cancels, (step q s).2, ds) ∨
      d.cancels = true ∧ (cancellable step q (s, d :: ds)).1 = .abandoned := by
  cases d with
  | none cancelled => exact .inl rfl
  | fault f cancelled =>
    simp only [cancellable, scheduled, if_false]
    exact .inl rfl
  | lost => exact .inr ⟨rfl, rfl⟩
  | unacknowledged => exact .inr ⟨rfl, rfl⟩

theorem Provider.cancellable_completes_or (ds : List Disturbance) :
    (∃ cancelled ds', cancellable step q (s, ds) =
      (.completed (step q s).1 cancelled, (step q s).2, ds')) ∨
      (cancellable step q (s, ds)).1 = .abandoned := by
  cases ds with
  | nil => exact .inl ⟨_, _, rfl⟩
  | cons d ds =>
    rcases cancellable_cases step q s d ds with h | ⟨-, h⟩
    · exact .inl ⟨_, _, h⟩
    · exact .inr h

end

/-! ## Runs that are cut short -/

/-- Whether the last of some calls was given up. -/
def lastAbandoned (cs : List (Call Q A σ)) : Bool := cs.getLast?.any (·.reply.isAbandoned)

@[simp] theorem lastAbandoned_singleton (c : Call Q A σ) :
    lastAbandoned [c] = c.reply.isAbandoned := rfl

theorem lastAbandoned_cons {c : Call Q A σ} {cs : List (Call Q A σ)}
    (h : c.reply.isAbandoned = false) : lastAbandoned (c :: cs) = lastAbandoned cs := by
  cases cs with
  | nil => exact h
  | cons => rfl

/-- After `k` of some requests comes one that belongs to the one before it; `last` is the one before
all of them. -/
def Discipline.JoinsAt (d : Discipline Q) : Option Q → List Q → Nat → Prop
  | _, [], _ => False
  | last, q :: _, 0 => d.joins last q = true
  | _, q :: qs, k + 1 => d.JoinsAt (some q) qs k

namespace Discipline

variable {d : Discipline Q}

theorem not_joinsAt_of_joins {last : Option Q} {q : Q} (h : d.joins last q = true) :
    ∀ {qs : List Q}, ¬d.JoinsAt (some q) qs 0
  | [], hjoins => hjoins
  | q' :: _, hjoins => by
    rw [JoinsAt, d.apart last q q' h] at hjoins
    cases hjoins

theorem joinsAt_succ_iff : ∀ (last : Option Q) (qs : List Q) (k : Nat), d.JoinsAt last qs (k + 1) ↔
    ∃ q q', qs[k]? = some q ∧ qs[k + 1]? = some q' ∧ d.joins (some q) q' = true
  | _, [], _ => by simp [JoinsAt]
  | _, [_], k => by cases k <;> simp [JoinsAt]
  | _, _ :: _ :: _, 0 => by simp [JoinsAt]
  | _, q :: q' :: qs, k + 1 => joinsAt_succ_iff (some q) (q' :: qs) k

/-- What belongs to the one before is not the first. -/
theorem joinsAt_none_iff {qs : List Q} {k : Nat} : d.JoinsAt none qs k ↔
    ∃ j q q', k = j + 1 ∧ qs[j]? = some q ∧ qs[j + 1]? = some q' ∧ d.joins (some q) q' = true := by
  cases k with
  | zero =>
    cases qs with
    | nil => simp [JoinsAt]
    | cons q qs => simp [JoinsAt, d.first]
  | succ k =>
    rw [joinsAt_succ_iff]
    constructor
    · rintro ⟨q, q', hmem⟩
      exact ⟨k, q, q', rfl, hmem⟩
    · rintro ⟨j, q, q', hk, hmem⟩
      obtain rfl := Nat.succ.inj hk
      exact ⟨q, q', hmem⟩

end Discipline

/-- What is left of a run that would make some requests and come to a result, when a cancellation
arrives during the `k`-th call: the calls that are made, and what they come to. -/
structure Cut (d : Discipline Q) (ends : Fault → α → Prop) (last : Option Q) (k : Nat)
    (requests : List Q) (result : α) (cs : List (Call Q A τ)) (x : α) : Prop where
  starts : cs.map (·.request) <+: requests
  length : cs.length = min k requests.length ∨ cs.length = k + 1 ∧ d.JoinsAt last requests k
  /-- What belongs to the call is still called, unless the call is given up. -/
  joined : d.JoinsAt last requests k →
    cs.length = k + 1 ∨ cs.length = k ∧ lastAbandoned cs = true
  same : cs.length = requests.length → lastAbandoned cs = false → x = result
  cancelled : cs.length < requests.length ∨ lastAbandoned cs = true →
    ∃ resource, ends (.cancelled resource) x

namespace Cut

variable {d : Discipline Q} {ends : Fault → α → Prop} {last : Option Q} {k : Nat} {q : Q}
  {requests : List Q} {result x : α} {c : Call Q A τ} {cs : List (Call Q A τ)}

/-- Nothing would be called. -/
theorem nil : Cut d ends last k ([] : List Q) x ([] : List (Call Q A τ)) x where
  starts := List.prefix_rfl
  length := .inl (Nat.min_zero k).symm
  joined h := h.elim
  same _ _ := rfl
  cancelled h := h.elim (fun h => absurd h (Nat.lt_irrefl 0)) nofun

/-- The first call is not made any more. -/
theorem skipped (hapart : d.joins last q = false) {resource : String}
    (h : ends (.cancelled resource) x) :
    Cut d ends last 0 (q :: requests) result ([] : List (Call Q A τ)) x where
  starts := List.nil_prefix
  length := .inl (Nat.zero_min _).symm
  joined hjoins := by rw [Discipline.JoinsAt, hapart] at hjoins; cases hjoins
  same := nofun
  cancelled _ := ⟨resource, h⟩

/-- The first call ends both runs. -/
theorem ended (hcompleted : c.reply.isAbandoned = false)
    (hk : 0 < k ∨ d.joins last c.request = true) : Cut d ends last k [c.request] x [c] x where
  starts := List.prefix_rfl
  length := by
    cases k with
    | zero => exact .inr ⟨rfl, hk.resolve_left (Nat.lt_irrefl 0)⟩
    | succ k => exact .inl (Nat.min_eq_right (Nat.le_add_left 1 k)).symm
  joined hjoins := by
    cases k with
    | zero => exact .inl rfl
    | succ k => exact hjoins.elim
  same _ _ := rfl
  cancelled h := by
    rcases h with h | h
    · exact absurd h (Nat.lt_irrefl 1)
    · rw [lastAbandoned_singleton, hcompleted] at h
      cases h

/-- The first call is given up. -/
theorem abandoned (habandoned : c.reply.isAbandoned = true)
    (hk : k = 1 ∨ k = 0 ∧ d.joins last c.request = true) {resource : String}
    (h : ends (.cancelled resource) x) :
    Cut d ends last k (c.request :: requests) result [c] x where
  starts := ⟨requests, rfl⟩
  length := by
    rcases hk with rfl | ⟨rfl, hjoins⟩
    · exact .inl (Nat.min_eq_left (Nat.le_add_left 1 _)).symm
    · exact .inr ⟨rfl, hjoins⟩
  joined _ := by
    rcases hk with rfl | ⟨rfl, -⟩
    · exact .inr ⟨rfl, habandoned⟩
    · exact .inl rfl
  same _ hcompleted := by
    rw [lastAbandoned_singleton, habandoned] at hcompleted
    cases hcompleted
  cancelled _ := ⟨resource, h⟩

/-- The first call completes, and the rest is cut short. -/
theorem cons (hcompleted : c.reply.isAbandoned = false)
    (h : Cut d ends (some c.request) k requests result cs x) :
    Cut d ends last (k + 1) (c.request :: requests) result (c :: cs) x where
  starts := List.cons_prefix_cons.mpr ⟨rfl, h.starts⟩
  length := by
    rw [List.length_cons, List.length_cons, Nat.succ_min_succ]
    exact h.length.imp (congrArg (· + 1)) fun ⟨hlength, hjoins⟩ => ⟨congrArg (· + 1) hlength, hjoins⟩
  joined hjoins := by
    rw [lastAbandoned_cons hcompleted]
    exact (h.joined hjoins).imp (congrArg (· + 1)) (And.imp_left (congrArg (· + 1)))
  same hlength hlast := by
    rw [lastAbandoned_cons hcompleted] at hlast
    exact h.same (Nat.succ.inj hlength) hlast
  cancelled hcut := by
    rw [lastAbandoned_cons hcompleted] at hcut
    exact h.cancelled (hcut.imp_left Nat.lt_of_succ_lt_succ)

/-- The first call belongs to the one before and completes, so it still counts; what follows it is
not made any more. -/
theorem cons_joined (hcompleted : c.reply.isAbandoned = false)
    (hjoins : d.joins last c.request = true)
    (h : Cut d ends (some c.request) 0 requests result cs x) :
    Cut d ends last 0 (c.request :: requests) result (c :: cs) x := by
  have hnone : cs.length = 0 := by
    rcases h.length with hlength | ⟨-, hjoins'⟩
    · rw [hlength, Nat.zero_min]
    · exact absurd hjoins' (Discipline.not_joinsAt_of_joins hjoins)
  have hrest : Cut d ends last 1 (c.request :: requests) result (c :: cs) x := h.cons hcompleted
  exact {
    starts := hrest.starts
    length := .inr ⟨congrArg (· + 1) hnone, hjoins⟩
    joined := fun _ => .inl (congrArg (· + 1) hnone)
    same := hrest.same
    cancelled := hrest.cancelled }

end Cut

/-! ## Cutting disciplined passes short -/

namespace Pass

/-- What is left of a run of a pass when it is cancelled, beside the run that is not. -/
abbrev CutShort (d : Discipline Q) (ends : Fault → α → Prop)
    (step : (q : Q) → σ → Except Fault (A q) × σ) (p : Pass Q A α) (last : Option Q) (k : Nat)
    (r : Run (σ × List Disturbance)) : Prop :=
  Cut d ends last k ((p.calls (.ofStep step) ⟨false, r.state.1⟩).map (·.request))
    (p.run (.ofStep step) ⟨false, r.state.1⟩).1 (p.calls (.cancellable step) r)
    (p.run (.cancellable step) r).1

namespace Follows

variable {d : Discipline Q} {ends : Fault → α → Prop} {closes : List (Exchange Q A) → α → Prop}
  {step : (q : Q) → σ → Except Fault (A q) × σ} {guarded : Bool} {resource : String} {q : Q}
  {next : Except Fault (A q) → Pass Q A α} {last : Option Q} {k : Nat} {s : σ}
  {ds : List Disturbance}

/-- A call that completes ends both runs alike, or the rest is cut short. -/
theorem cutShort_of_completed {r : Run (σ × List Disturbance)} {arrived : Bool}
    (hmade : (guarded && r.cancelled) = false)
    (hserved : Provider.cancellable step q r.state =
      (.completed (step q r.state.1).1 arrived, (step q r.state.1).2, ds))
    (hk : 0 < k ∨ d.joins last q = true)
    (stops : ∀ f, d.tolerates q f = false → ∃ x, next (.error f) = .done x ∧ ends f x)
    (rest : d.Allows q (step q r.state.1).1 →
      CutShort d ends step (next (step q r.state.1).1) (some q) (k - 1)
        ⟨r.cancelled || arrived, (step q r.state.1).2, ds⟩) :
    CutShort d ends step (.call guarded resource q next) last k r := by
  have hcompleted : (callOn (.cancellable step) resource q r.state).reply.isAbandoned = false := by
    rw [callOn, hserved]
    rfl
  rw [CutShort, run_call_ofStep rfl, calls_call_ofStep rfl, run_call_made _ _ _ _ hmade,
    calls_call_made _ _ _ _ hmade, List.map_cons, made, hserved, Reply.answer_completed]
  rcases d.allows_or q (step q r.state.1).1 with hallows | ⟨f, hf, hnot⟩
  · cases k with
    | zero =>
      have hjoins := hk.resolve_left (Nat.lt_irrefl 0)
      exact (rest hallows).cons_joined (c := callOn _ resource q r.state) hcompleted hjoins
    | succ k => exact (rest hallows).cons (c := callOn _ resource q r.state) hcompleted
  · obtain ⟨x, hx, -⟩ := stops f hnot
    rw [hf, hx]
    exact .ended (c := callOn _ resource q r.state) hcompleted hk

/-- The call during which the cancellation arrives, or that belongs to it, is the last one. -/
theorem cutShort_of_made {r : Run (σ × List Disturbance)}
    (hmade : (guarded && r.cancelled) = false)
    (hcancelled : (made (.cancellable step) q r).cancelled = true)
    (hk : k = 1 ∨ k = 0 ∧ d.joins last q = true)
    (stops : ∀ f, d.tolerates q f = false → ∃ x, next (.error f) = .done x ∧ ends f x)
    (rest : ∀ answer, d.Allows q answer → ∀ s ds,
      CutShort d ends step (next answer) (some q) 0 ⟨true, s, ds⟩) :
    CutShort d ends step (.call guarded resource q next) last k r := by
  obtain ⟨cancelled, s, ds⟩ := r
  rcases Provider.cancellable_completes_or step q s ds with ⟨arrived, ds', hserved⟩ | habandoned
  · refine cutShort_of_completed hmade hserved (hk.imp (by omega) And.right) stops fun hallows => ?_
    have hk' : k - 1 = 0 := by omega
    have harrived : (cancelled || arrived) = true := by
      rw [← hcancelled, made, hserved, Reply.cancels_completed]
    rw [hk', harrived]
    exact rest _ hallows _ _
  · obtain ⟨x, hx, hend⟩ := stops _ (d.cancelled q resource)
    rw [CutShort, calls_call_ofStep rfl, run_call_made _ _ _ _ hmade, calls_call_made _ _ _ _ hmade,
      habandoned, Reply.answer_abandoned, hx]
    exact .abandoned (c := callOn _ resource q (s, ds)) (congrArg Reply.isAbandoned habandoned) hk
      hend

variable {p : Pass Q A α} {es : List (Exchange Q A)}

/-- A cancelled pass makes one more call at most, that belongs to the one before. -/
theorem cutShort_of_cancelled (h : Follows d ends closes p es) :
    ∀ s ds, CutShort d ends step p (lastRequest? es) 0 ⟨true, s, ds⟩ := by
  induction h with
  | done => exact fun s ds => .nil
  | @call guarded resource q next es guards stops rest ih =>
    intro s ds
    cases hjoins : d.joins (lastRequest? es) q with
    | false =>
      have hguarded : (guarded && true) = true := by rw [guards, hjoins]; rfl
      obtain ⟨x, hrun, hcalls, hend⟩ :=
        skipped (r := ⟨true, s, ds⟩) stops (.cancellable step) hguarded
      rw [CutShort, hrun, hcalls, calls_call_ofStep rfl]
      exact .skipped hjoins hend
    | true =>
      have hmade : (guarded && true) = false := by rw [guards, hjoins]; rfl
      refine cutShort_of_made (r := ⟨true, s, ds⟩) hmade rfl (.inr ⟨rfl, hjoins⟩) stops ?_
      intro answer hallows
      have hrest := ih answer hallows
      rwa [lastRequest?_append] at hrest

/-- Wherever a cancellation arrives, it cuts a disciplined pass short. -/
theorem cutShort (h : Follows d ends closes p es) :
    ∀ {k : Nat} {cancelled : Bool} {ds : List Disturbance}, Fires k cancelled ds → ∀ s,
      CutShort d ends step p (lastRequest? es) k ⟨cancelled, s, ds⟩ := by
  induction h with
  | done => exact fun _ _ => .nil
  | @call guarded resource q next es guards stops rest ih =>
    intro k cancelled ds hfires s
    cases hfires with
    | before => exact cutShort_of_cancelled (.call guards stops rest) s ds
    | @during d' ds hcancels =>
      refine cutShort_of_made (r := ⟨false, s, d' :: ds⟩) (Bool.and_false guarded) ?_ (.inl rfl)
        stops fun answer hallows => ?_
      · rw [made_cancelled _ _ rfl]
        rcases Provider.cancellable_cases step q s d' ds with hserved | ⟨-, habandoned⟩
        · rw [hserved, Reply.cancels_completed, hcancels]
        · rw [habandoned, Reply.cancels_abandoned]
      · have hrest : ∀ s ds, CutShort d ends step (next answer) _ 0 ⟨true, s, ds⟩ :=
          cutShort_of_cancelled (rest answer hallows)
        rwa [lastRequest?_append] at hrest
    | @later k d' ds hquiet hrest =>
      rcases Provider.cancellable_cases step q s d' ds with hserved | ⟨hcancels, -⟩
      · rw [hquiet] at hserved
        refine cutShort_of_completed (Bool.and_false guarded) hserved (.inl (Nat.succ_pos _)) stops
          fun hallows => ?_
        have hcut := ih _ hallows hrest (step q s).2
        rwa [lastRequest?_append] at hcut
      · rw [hquiet] at hcancels
        cases hcancels

end Follows

end Pass

end IamConvergence
