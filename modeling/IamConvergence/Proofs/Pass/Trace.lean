/-
What a pass did: the calls that a run makes, in order, each with what became of it and with the
provider's state before and after it. A series is one pass after another against one provider,
each with a cancellation of its own. In a chain what one pass did makes the input of the next.

A run leaves the state that its last call leaves, so what every call keeps, a run keeps, and what
every pass keeps, a series and a chain keep.
-/
import IamConvergence.Pass

namespace IamConvergence

/-! ## Replies -/

namespace Reply

variable {α : Type}

/-- What the pass goes on with. An abandoned call is a cancellation. -/
def answer (resource : String) : Reply α → Except Fault α
  | .completed result _ => result
  | .abandoned => .error (.cancelled resource)

/-- Whether a cancellation arrived during the call. -/
def cancels : Reply α → Bool
  | .completed _ cancelled => cancelled
  | .abandoned => true

/-- Whether the call was given up. -/
def isAbandoned : Reply α → Bool
  | .completed _ _ => false
  | .abandoned => true

/-- Changes what is answered with success. -/
def map {β : Type} (g : α → β) : Reply α → Reply β
  | .completed result cancelled => .completed (result.map g) cancelled
  | .abandoned => .abandoned

theorem map_id (reply : Reply α) : reply.map id = reply := by
  rcases reply with ⟨_ | _, _⟩ | _ <;> rfl

@[simp] theorem isAbandoned_map {β : Type} (g : α → β) (reply : Reply α) :
    (reply.map g).isAbandoned = reply.isAbandoned := by
  cases reply <;> rfl

@[simp] theorem answer_completed (resource : String) (result : Except Fault α) (cancelled : Bool) :
    (completed result cancelled).answer resource = result := rfl

theorem answer_map {β : Type} (g : α → β) (resource : String) (reply : Reply α) :
    (reply.map g).answer resource = (reply.answer resource).map g := by
  cases reply <;> rfl

@[simp] theorem cancels_map {β : Type} (g : α → β) (reply : Reply α) :
    (reply.map g).cancels = reply.cancels := by
  cases reply <;> rfl

@[simp] theorem answer_abandoned (resource : String) :
    (abandoned : Reply α).answer resource = .error (.cancelled resource) := rfl

@[simp] theorem cancels_completed (result : Except Fault α) (cancelled : Bool) :
    (completed result cancelled).cancels = cancelled := rfl

@[simp] theorem cancels_abandoned : (abandoned : Reply α).cancels = true := rfl

end Reply

/-! ## Calls -/

/-- A call that was made. -/
structure Call (Q : Type) (A : Q → Type) (σ : Type) where
  resource : String
  request : Q
  reply : Reply (A request)
  before : σ
  after : σ

namespace Call

variable {Q : Type} {A : Q → Type} {σ : Type}

/-- What the pass went on with. -/
def answer (c : Call Q A σ) : Except Fault (A c.request) := c.reply.answer c.resource

/-- A request was made in some calls and answered in a way. -/
def Answered (cs : List (Call Q A σ)) (q : Q) (answer : Except Fault (A q)) : Prop :=
  ∃ resource reply s s', ⟨resource, q, reply, s, s'⟩ ∈ cs ∧ reply.answer resource = answer

theorem toOption_eq_some_iff {ε α : Type} {x : Except ε α} {a : α} :
    x.toOption = some a ↔ x = .ok a := by
  cases x <;> simp [Except.toOption]

instance [DecidableEq Q] (cs : List (Call Q A σ)) (q : Q) [DecidableEq (A q)] (a : A q) :
    Decidable (Answered cs q (.ok a)) :=
  decidable_of_iff (∃ c ∈ cs, ∃ h : c.request = q, (h ▸ c.answer).toOption = some a) <| by
    constructor
    · rintro ⟨⟨resource, q', reply, s, s'⟩, hmem, rfl, hanswer⟩
      exact ⟨resource, reply, s, s', hmem, toOption_eq_some_iff.mp hanswer⟩
    · rintro ⟨resource, reply, s, s', hmem, hanswer⟩
      exact ⟨_, hmem, rfl, toOption_eq_some_iff.mpr hanswer⟩

theorem answered_append {cs ds : List (Call Q A σ)} {q : Q} {answer : Except Fault (A q)} :
    Answered (cs ++ ds) q answer ↔ Answered cs q answer ∨ Answered ds q answer := by
  constructor
  · rintro ⟨resource, reply, s, s', hmem, hanswer⟩
    rcases List.mem_append.mp hmem with hmem | hmem
    · exact .inl ⟨resource, reply, s, s', hmem, hanswer⟩
    · exact .inr ⟨resource, reply, s, s', hmem, hanswer⟩
  · rintro (⟨resource, reply, s, s', hmem, hanswer⟩ | ⟨resource, reply, s, s', hmem, hanswer⟩)
    · exact ⟨resource, reply, s, s', List.mem_append_left _ hmem, hanswer⟩
    · exact ⟨resource, reply, s, s', List.mem_append_right _ hmem, hanswer⟩

theorem not_answered_append {cs ds : List (Call Q A σ)} {q : Q} {answer : Except Fault (A q)}
    (hcs : ¬Answered cs q answer) (hds : ¬Answered ds q answer) : ¬Answered (cs ++ ds) q answer := by
  rw [answered_append, not_or]
  exact ⟨hcs, hds⟩

/-- Calls that lead from one state to another, each from where the one before it ended. -/
def Lead : σ → List (Call Q A σ) → σ → Prop
  | s, [], s' => s' = s
  | s, c :: cs, s' => c.before = s ∧ Lead c.after cs s'

theorem Lead.append {s s' s'' : σ} :
    ∀ {cs ds : List (Call Q A σ)}, Lead s cs s' → Lead s' ds s'' → Lead s (cs ++ ds) s''
  | [], _, h, h' => by cases h; exact h'
  | _ :: _, _, ⟨hc, h⟩, h' => ⟨hc, h.append h'⟩

theorem Lead.split {s s' : σ} :
    ∀ {cs ds : List (Call Q A σ)}, Lead s (cs ++ ds) s' → ∃ m, Lead s cs m ∧ Lead m ds s'
  | [], _, h => ⟨s, rfl, h⟩
  | _ :: _, _, ⟨hc, h⟩ =>
    let ⟨m, hcs, hds⟩ := h.split
    ⟨m, ⟨hc, hcs⟩, hds⟩

/-- What every call keeps, all of them keep. -/
theorem Lead.invariant {I : σ → Prop} {s s' : σ} :
    ∀ {cs : List (Call Q A σ)}, Lead s cs s' → (∀ c ∈ cs, I c.before → I c.after) → I s → I s'
  | [], h, _, hs => by cases h; exact hs
  | c :: cs, ⟨hc, h⟩, keep, hs =>
    h.invariant (fun d hd => keep d (List.mem_cons_of_mem _ hd))
      (keep c List.mem_cons_self (hc ▸ hs))

/-- What every call keeps, holds before and after each of them. -/
theorem Lead.through {I : σ → Prop} {s s' : σ} :
    ∀ {cs : List (Call Q A σ)}, Lead s cs s' → (∀ c ∈ cs, I c.before → I c.after) → I s →
      ∀ c ∈ cs, I c.before ∧ I c.after
  | [], _, _, _, _, hc => nomatch hc
  | c :: cs, ⟨hbefore, h⟩, keep, hs, d, hd => by
    have hafter : I c.after := keep c List.mem_cons_self (hbefore ▸ hs)
    rcases List.mem_cons.mp hd with rfl | hd
    · exact ⟨hbefore ▸ hs, hafter⟩
    · exact h.through (fun e he => keep e (List.mem_cons_of_mem _ he)) hafter d hd

/-- From each call on, the calls that follow lead to the end. -/
theorem Lead.rest {s s' : σ} {c : Call Q A σ} :
    ∀ {cs : List (Call Q A σ)}, Lead s cs s' → c ∈ cs →
      ∃ ds, (∀ d ∈ ds, d ∈ cs) ∧ Lead c.after ds s'
  | d :: cs, ⟨_, h⟩, hc => by
    rcases List.mem_cons.mp hc with rfl | hc
    · exact ⟨cs, fun e he => List.mem_cons_of_mem _ he, h⟩
    · obtain ⟨ds, hsub, hrest⟩ := h.rest hc
      exact ⟨ds, fun e he => List.mem_cons_of_mem _ (hsub e he), hrest⟩

theorem Lead.eq_after {s s' : σ} {c : Call Q A σ} :
    ∀ {cs : List (Call Q A σ)}, Lead s cs s' → cs.getLast? = some c → s' = c.after
  | [d], ⟨_, h⟩, hc => by cases hc; exact h
  | _ :: d :: cs, ⟨_, h⟩, hc => by
    rw [List.getLast?_cons_cons] at hc
    exact h.eq_after hc

/-- What relates the states before and after every call relates earlier moments to later ones. -/
theorem Lead.pairwise {R : σ → σ → Prop} (trans : ∀ a b c, R a b → R b c → R a c) {s s' : σ} :
    ∀ {cs : List (Call Q A σ)}, Lead s cs s' → (∀ c ∈ cs, R c.before c.after) →
      (s :: cs.map (·.after)).Pairwise R
  | [], _, _ => List.pairwise_singleton R s
  | c :: cs, ⟨hc, h⟩, step => by
    have hfirst : R s c.after := hc ▸ step c List.mem_cons_self
    have hrest : ((c :: cs).map (·.after)).Pairwise R :=
      h.pairwise trans fun d hd => step d (List.mem_cons_of_mem _ hd)
    refine .cons (fun m hm => ?_) hrest
    rcases List.mem_cons.mp hm with rfl | hm
    · exact hfirst
    · exact trans s c.after m hfirst ((List.pairwise_cons.mp hrest).1 m hm)

/-- If each counted call uses up some of a potential and no call adds to it, the potential bounds
their number. -/
theorem Lead.countP_add_le {p : Call Q A σ → Bool} (potential : σ → Nat) {s s' : σ} :
    ∀ {cs : List (Call Q A σ)}, Lead s cs s' →
      (∀ c ∈ cs, (p c).toNat + potential c.after ≤ potential c.before) →
      cs.countP p + potential s' ≤ potential s
  | [], h, _ => by cases h; simp
  | c :: cs, ⟨hc, h⟩, step => by
    have hstep := step c List.mem_cons_self
    have hrest := h.countP_add_le potential fun d hd => step d (List.mem_cons_of_mem _ hd)
    rw [hc] at hstep
    rw [List.countP_cons]
    cases hp : p c with
    | true =>
      rw [hp, Bool.toNat_true] at hstep
      rw [if_pos rfl]
      omega
    | false =>
      rw [hp, Bool.toNat_false] at hstep
      rw [if_neg Bool.false_ne_true]
      omega

end Call

/-! ## The calls of a run -/

namespace Pass

variable {Q : Type} {A : Q → Type} {α β σ ι : Type}

/-- The calls that a run of a pass makes, in order. -/
def calls (provider : Provider Q A σ) : Pass Q A α → Run σ → List (Call Q A σ)
  | .done _, _ => []
  | .call guarded resource request next, r =>
    let (answer, r') := attempt provider guarded resource request r
    let rest := (next answer).calls provider r'
    if guarded && r.cancelled then rest
    else
      ⟨resource, request, (provider request r.state).1, r.state, (provider request r.state).2⟩ ::
        rest

section

variable (provider : Provider Q A σ) (resource : String) (q : Q)
  (next : Except Fault (A q) → Pass Q A α)

/-- A call that is made in a state. -/
abbrev callOn (s : σ) : Call Q A σ :=
  ⟨resource, q, (provider q s).1, s, (provider q s).2⟩

/-- The state of a run after a call that was made. -/
def made (r : Run σ) : Run σ :=
  ⟨r.cancelled || (provider q r.state).1.cancels, (provider q r.state).2⟩

@[simp] theorem made_state (r : Run σ) : (made provider q r).state = (provider q r.state).2 := rfl

theorem made_cancelled {r : Run σ} (h : r.cancelled = false) :
    (made provider q r).cancelled = (provider q r.state).1.cancels := by
  simp only [made, h, Bool.false_or]

theorem attempt_made {guarded : Bool} {r : Run σ} (h : (guarded && r.cancelled) = false) :
    attempt provider guarded resource q r =
      ((provider q r.state).1.answer resource, made provider q r) := by
  unfold attempt made
  rw [if_neg (by simp [h])]
  rcases provider q r.state with ⟨_ | _, s⟩ <;> simp

@[simp] theorem calls_done (a : α) (r : Run σ) : (done a : Pass Q A α).calls provider r = [] := rfl

theorem run_call_made {guarded : Bool} {r : Run σ} (h : (guarded && r.cancelled) = false) :
    (call guarded resource q next).run provider r =
      (next ((provider q r.state).1.answer resource)).run provider (made provider q r) := by
  simp only [run, attempt_made provider resource q h]

theorem calls_call_made {guarded : Bool} {r : Run σ} (h : (guarded && r.cancelled) = false) :
    (call guarded resource q next).calls provider r =
      callOn provider resource q r.state ::
        (next ((provider q r.state).1.answer resource)).calls provider (made provider q r) := by
  simp only [calls, attempt_made provider resource q h, h, Bool.false_eq_true, if_false]

theorem run_ask_made {r : Run σ} (h : r.cancelled = false) :
    (ask resource q next).run provider r =
      (next ((provider q r.state).1.answer resource)).run provider (made provider q r) :=
  run_call_made provider resource q next h

theorem calls_ask_made {r : Run σ} (h : r.cancelled = false) :
    (ask resource q next).calls provider r =
      callOn provider resource q r.state ::
        (next ((provider q r.state).1.answer resource)).calls provider (made provider q r) :=
  calls_call_made provider resource q next h

theorem run_ask_cancelled {r : Run σ} (h : r.cancelled = true) :
    (ask resource q next).run provider r =
      (next (.error (.cancelled resource))).run provider r := by
  simp only [run, attempt, h, Bool.and_self, if_true]

theorem calls_ask_cancelled {r : Run σ} (h : r.cancelled = true) :
    (ask resource q next).calls provider r =
      (next (.error (.cancelled resource))).calls provider r := by
  simp only [calls, attempt, h, Bool.and_self, if_true]

end

/-- What a provider makes of every call, holds of every call of a run. -/
theorem forall_calls {provider : Provider Q A σ} {P : Call Q A σ → Prop}
    (h : ∀ resource q s, P (callOn provider resource q s)) (p : Pass Q A α) (r : Run σ) :
    ∀ c ∈ p.calls provider r, P c := by
  induction p generalizing r with
  | done a => intro c hc; cases hc
  | call guarded resource request next ih =>
    intro c hc
    cases hmade : guarded && r.cancelled with
    | true =>
      -- nothing is called, and the pass goes on from the same state
      simp only [calls, attempt, hmade, if_true] at hc
      exact ih _ r c hc
    | false =>
      rw [calls_call_made provider resource request next hmade] at hc
      rcases List.mem_cons.mp hc with rfl | hc
      · exact h resource request r.state
      · exact ih _ _ c hc

theorem calls_bind (provider : Provider Q A σ) (p : Pass Q A α) (f : α → Pass Q A β) (r : Run σ) :
    (p.bind f).calls provider r =
      p.calls provider r ++ (f (p.run provider r).1).calls provider (p.run provider r).2 := by
  induction p generalizing r with
  | done a => rfl
  | call guarded resource request next ih =>
    simp only [bind, calls, run, ih]
    split
    · rfl
    · exact (List.cons_append ..).symm

theorem calls_map (provider : Provider Q A σ) (f : α → β) (p : Pass Q A α) (r : Run σ) :
    (p.map f).calls provider r = p.calls provider r := by
  unfold map
  rw [calls_bind, calls_done, List.append_nil]

/-- A run leaves the state to which its calls lead. -/
theorem lead_calls (provider : Provider Q A σ) (p : Pass Q A α) (r : Run σ) :
    Call.Lead r.state (p.calls provider r) (p.run provider r).2.state := by
  induction p generalizing r with
  | done a => rfl
  | call guarded resource request next ih =>
    cases h : guarded && r.cancelled with
    | true =>
      simp only [calls, run, attempt, h, if_true]
      exact ih _ r
    | false =>
      rw [calls_call_made provider resource request next h,
        run_call_made provider resource request next h]
      exact ⟨rfl, ih _ (made provider request r)⟩

/-! ## Undisturbed calls -/

section

variable {step : (q : Q) → σ → Except Fault (A q) × σ} {guarded : Bool} {resource : String} {q : Q}
  {next : Except Fault (A q) → Pass Q A α} {answer : Except Fault (A q)} {s s' : σ}

theorem run_call_ofStep (h : step q s = (answer, s')) :
    (call guarded resource q next).run (.ofStep step) ⟨false, s⟩ =
      (next answer).run (.ofStep step) ⟨false, s'⟩ := by
  rw [run_call_made _ _ _ _ (Bool.and_false guarded)]
  simp only [made, Provider.ofStep, h]
  rfl

theorem calls_call_ofStep (h : step q s = (answer, s')) :
    (call guarded resource q next).calls (.ofStep step) ⟨false, s⟩ =
      ⟨resource, q, .completed answer false, s, s'⟩ ::
        (next answer).calls (.ofStep step) ⟨false, s'⟩ := by
  rw [calls_call_made _ _ _ _ (Bool.and_false guarded)]
  simp only [made, callOn, Provider.ofStep, h]
  rfl

end

/-! ## Guarded calls -/

/-- How a guarded call may go: whether a cancellation has arrived, the calls that are made, the
answer, and whether a cancellation has arrived by then. -/
inductive Asked (resource : String) (q : Q) :
    Bool → List (Call Q A σ) → Except Fault (A q) → Bool → Prop where
  | skipped : Asked resource q true [] (.error (.cancelled resource)) true
  | made (reply : Reply (A q)) (s s' : σ) :
    Asked resource q false [⟨resource, q, reply, s, s'⟩] (reply.answer resource) reply.cancels

/-- A pass that begins with a guarded call goes on with its answer. -/
theorem exists_asked (provider : Provider Q A σ) (resource : String) (q : Q)
    (next : Except Fault (A q) → Pass Q A α) (r : Run σ) :
    ∃ cs answer r', Asked resource q r.cancelled cs answer r'.cancelled ∧
      Call.Lead r.state cs r'.state ∧
      (ask resource q next).run provider r = (next answer).run provider r' ∧
      (ask resource q next).calls provider r = cs ++ (next answer).calls provider r' := by
  cases h : r.cancelled with
  | true =>
    refine ⟨[], _, r, ?_, rfl, run_ask_cancelled provider resource q next h,
      calls_ask_cancelled provider resource q next h⟩
    rw [h]
    exact .skipped
  | false =>
    refine ⟨[callOn provider resource q r.state], _, made provider q r, ?_, ⟨rfl, rfl⟩,
      run_ask_made provider resource q next h, calls_ask_made provider resource q next h⟩
    rw [made_cancelled provider q h]
    exact .made _ _ _

namespace Asked

variable {resource : String} {q : Q} {cancelled cancelled' : Bool} {cs : List (Call Q A σ)}
  {answer : Except Fault (A q)}

theorem request_eq (h : Asked resource q cancelled cs answer cancelled') :
    ∀ c ∈ cs, c.request = q := by
  intro c hc
  cases h with
  | skipped => cases hc
  | made =>
    obtain rfl := List.mem_singleton.mp hc
    rfl

theorem before_eq {s s' : σ} (h : Asked resource q cancelled cs answer cancelled')
    (hlead : Call.Lead s cs s') : ∀ c ∈ cs, c.before = s := by
  intro c hc
  cases h with
  | skipped => cases hc
  | made =>
    obtain rfl := List.mem_singleton.mp hc
    exact hlead.1

/-- A call that was answered with success was made. -/
theorem of_ok {a : A q} (h : Asked resource q cancelled cs (.ok a) cancelled') :
    ∃ reply s s', cs = [⟨resource, q, reply, s, s'⟩] ∧ reply.answer resource = .ok a := by
  generalize hanswer : (.ok a : Except Fault (A q)) = answer at h
  cases h with
  | skipped => cases hanswer
  | made reply s s' => exact ⟨reply, s, s', rfl, rfl⟩

theorem answered {a : A q} (h : Asked resource q cancelled cs (.ok a) cancelled') :
    Call.Answered cs q (.ok a) := by
  obtain ⟨reply, s, s', rfl, hanswer⟩ := h.of_ok
  exact ⟨resource, reply, s, s', List.mem_cons_self, hanswer⟩

theorem not_answered {q' : Q} (h : Asked resource q cancelled cs answer cancelled') (hne : q' ≠ q)
    (answer' : Except Fault (A q')) : ¬Call.Answered cs q' answer' := by
  rintro ⟨resource', reply', s, s', hmem, -⟩
  exact hne (h.request_eq _ hmem)

theorem answer_eq (h : Asked resource q cancelled cs answer cancelled')
    {answer' : Except Fault (A q)} (h' : Call.Answered cs q answer') : answer' = answer := by
  obtain ⟨resource', reply', s, s', hmem, rfl⟩ := h'
  cases h with
  | skipped => cases hmem
  | made reply =>
    cases List.mem_singleton.mp hmem
    rfl

end Asked

end Pass

/-! ## Series of passes -/

/-- What one pass of a series did. -/
structure Episode (ι : Type) (Q : Type) (A : Q → Type) (α σ : Type) where
  input : ι
  calls : List (Call Q A σ)
  result : α
  before : σ
  after : σ

namespace Pass

variable {Q : Type} {A : Q → Type} {α σ ι : Type}

/-- Runs the pass for an input, the cancellation having arrived before it or not. -/
def episode (provider : Provider Q A σ) (pass : ι → Pass Q A α) (input : ι) (cancelled : Bool)
    (s : σ) : Episode ι Q A α σ where
  input := input
  calls := (pass input).calls provider ⟨cancelled, s⟩
  result := ((pass input).run provider ⟨cancelled, s⟩).1
  before := s
  after := ((pass input).run provider ⟨cancelled, s⟩).2.state

/-- Runs the passes for a list of inputs, each from the state that the one before it left. -/
def series (provider : Provider Q A σ) (pass : ι → Pass Q A α) :
    List (ι × Bool) → σ → List (Episode ι Q A α σ)
  | [], _ => []
  | (input, cancelled) :: inputs, s =>
    let e := episode provider pass input cancelled s
    e :: series provider pass inputs e.after

/-- Runs the same pass again and again, a cancellation having arrived before each or not. -/
abbrev retries (provider : Provider Q A σ) (pass : Pass Q A α) (cancellations : List Bool) (s : σ) :
    List (Episode Unit Q A α σ) :=
  series provider (fun _ => pass) (cancellations.map fun cancelled => ((), cancelled)) s

theorem lead_episode (provider : Provider Q A σ) (pass : ι → Pass Q A α) (input : ι)
    (cancelled : Bool) (s : σ) :
    Call.Lead s (episode provider pass input cancelled s).calls
      (episode provider pass input cancelled s).after :=
  lead_calls provider (pass input) ⟨cancelled, s⟩

/-- The calls of a series lead on from its first state. -/
theorem lead_series (provider : Provider Q A σ) (pass : ι → Pass Q A α) :
    ∀ (inputs : List (ι × Bool)) (s : σ),
      ∃ s', Call.Lead s ((series provider pass inputs s).flatMap (·.calls)) s'
  | [], s => ⟨s, rfl⟩
  | (input, cancelled) :: inputs, s => by
    obtain ⟨s', hrest⟩ :=
      lead_series provider pass inputs (episode provider pass input cancelled s).after
    exact ⟨s', (lead_episode provider pass input cancelled s).append hrest⟩

/-- What every pass keeps and shows, a whole series shows. -/
theorem series_forall {provider : Provider Q A σ} {pass : ι → Pass Q A α} {I : σ → Prop}
    {R : Episode ι Q A α σ → Prop}
    (step : ∀ input cancelled s, I s → I (episode provider pass input cancelled s).after ∧
      R (episode provider pass input cancelled s)) :
    ∀ (inputs : List (ι × Bool)) (s : σ), I s → ∀ e ∈ series provider pass inputs s, R e
  | [], _, _, _, he => nomatch he
  | (input, cancelled) :: inputs, s, hs, e, he => by
    obtain ⟨hkeep, hshow⟩ := step input cancelled s hs
    rcases List.mem_cons.mp he with rfl | he
    · exact hshow
    · exact series_forall step inputs _ hkeep e he

/-- What a pass brings about and every pass keeps shows in all passes that follow. -/
theorem series_pairwise {provider : Provider Q A σ} {pass : ι → Pass Q A α} {I : σ → Prop}
    {T R : Episode ι Q A α σ → Prop}
    (reach : ∀ input cancelled s, T (episode provider pass input cancelled s) →
      I (episode provider pass input cancelled s).after)
    (step : ∀ input cancelled s, I s → I (episode provider pass input cancelled s).after ∧
      R (episode provider pass input cancelled s)) :
    ∀ (inputs : List (ι × Bool)) (s : σ),
      (series provider pass inputs s).Pairwise fun e e' => T e → R e'
  | [], _ => .nil
  | (input, cancelled) :: inputs, s =>
    .cons (fun e he ht => series_forall step inputs _ (reach input cancelled s ht) e he)
      (series_pairwise reach step inputs _)

end Pass

/-! ## Chains of passes -/

/-- What the passes of a chain did, and the input and the state that are left for the next one. -/
structure Chain (ι : Type) (Q : Type) (A : Q → Type) (α σ : Type) where
  episodes : List (Episode ι Q A α σ)
  input : ι
  state : σ

/-- All calls of a chain. -/
def Chain.calls {Q : Type} {A : Q → Type} {α σ ι : Type} (c : Chain ι Q A α σ) :
    List (Call Q A σ) :=
  c.episodes.flatMap (·.calls)

namespace Pass

variable {Q : Type} {A : Q → Type} {α σ ι : Type}

/-- Runs a pass again and again, a cancellation having arrived before each run or not, each from the
state that the one before it left and for the input that what it did makes. -/
def chain (provider : Provider Q A σ) (pass : ι → Pass Q A α) (next : Episode ι Q A α σ → ι) :
    List Bool → ι → σ → Chain ι Q A α σ
  | [], input, s => ⟨[], input, s⟩
  | cancelled :: cancellations, input, s =>
    let e := episode provider pass input cancelled s
    let rest := chain provider pass next cancellations (next e) e.after
    { rest with episodes := e :: rest.episodes }

/-- What every pass keeps true of its input, its state and the calls so far, a chain keeps. -/
theorem chain_invariant {provider : Provider Q A σ} {pass : ι → Pass Q A α}
    {next : Episode ι Q A α σ → ι} {I : ι → σ → List (Call Q A σ) → Prop}
    (step : ∀ input cancelled s cs, I input s cs →
      let e := episode provider pass input cancelled s
      I (next e) e.after (cs ++ e.calls)) :
    ∀ (cancellations : List Bool) (input : ι) (s : σ) (cs : List (Call Q A σ)), I input s cs →
      I (chain provider pass next cancellations input s).input
        (chain provider pass next cancellations input s).state
        (cs ++ (chain provider pass next cancellations input s).calls)
  | [], _, _, cs, h => by
    show I _ _ (cs ++ [])
    rwa [List.append_nil]
  | cancelled :: cancellations, input, s, cs, h => by
    have hrest := chain_invariant step cancellations _ _ _ (step input cancelled s cs h)
    rw [List.append_assoc] at hrest
    exact hrest

end Pass

end IamConvergence
