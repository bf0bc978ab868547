/-
Services that are disturbed. A service says what a request may be answered and what becomes of the
state. On the way a call may fail without effect, or be given up before or after its effect, and a
cancellation may arrive at any time. An unreliable provider offers a service under such
disturbances, whatever decides about them; a schedule, told in advance, is the plainest way.
-/
import IamConvergence.Proofs.Pass.Trace

namespace IamConvergence

variable {Q : Type} {A : Q → Type} {σ τ : Type}

/-! ## Disturbed calls -/

/-- Which answers a service may give in a state, and which states it may leave. -/
abbrev Service (Q : Type) (A : Q → Type) (σ : Type) : Type :=
  (q : Q) → σ → Except Fault (A q) → σ → Prop

/-- What may become of a call on a service. Only faults that `admits` allows are made up. -/
inductive Disturbed (serves : Service Q A σ) (admits : Q → σ → Fault → Prop) (q : Q) (s : σ) :
    Reply (A q) → σ → Prop where
  | served {answer : Except Fault (A q)} {s' : σ} (cancelled : Bool) (h : serves q s answer s') :
    Disturbed serves admits q s (.completed answer cancelled) s'
  | failed {f : Fault} (cancelled : Bool) (h : admits q s f) :
    Disturbed serves admits q s (.completed (.error f) cancelled) s
  /-- Given up before it took effect. -/
  | lost : Disturbed serves admits q s .abandoned s
  /-- Given up after it took effect. -/
  | unacknowledged {answer : Except Fault (A q)} {s' : σ} (h : serves q s answer s') :
    Disturbed serves admits q s .abandoned s'

/-- A call leaves the state, or it is served. -/
theorem Disturbed.eq_or_served {serves : Service Q A σ} {admits : Q → σ → Fault → Prop} {q : Q}
    {s s' : σ} {reply : Reply (A q)} (h : Disturbed serves admits q s reply s') :
    s' = s ∨ ∃ answer, serves q s answer s' := by
  cases h with
  | served cancelled hs => exact .inr ⟨_, hs⟩
  | failed | lost => exact .inl rfl
  | unacknowledged hs => exact .inr ⟨_, hs⟩

/-- The service of requests that are refused, which changes nothing, or take effect. -/
def Service.ofEffect (effect : (q : Q) → σ → Except Fault (A q × σ)) : Service Q A σ
  | q, s, .ok a, s' => effect q s = .ok (a, s')
  | q, s, .error f, s' => effect q s = .error f ∧ s' = s

/-- A request has one answer and leaves one state. -/
theorem Service.ofEffect_unique {effect : (q : Q) → σ → Except Fault (A q × σ)} {q : Q}
    {s s' s'' : σ} : ∀ {answer answer' : Except Fault (A q)}, ofEffect effect q s answer s' →
      ofEffect effect q s answer' s'' → answer = answer' ∧ s' = s''
  | .ok a, .ok a', h, h' => by
    cases Eq.trans (Eq.symm h) h'
    exact ⟨rfl, rfl⟩
  | .ok a, .error f, h, h' => nomatch Eq.trans (Eq.symm h) h'.1
  | .error f, .ok a, h, h' => nomatch Eq.trans (Eq.symm h.1) h'
  | .error f, .error f', h, h' => by
    cases Eq.trans (Eq.symm h.1) h'.1
    exact ⟨rfl, h.2.trans h'.2.symm⟩

/-- A request that does what another one does, under another name and with its answer changed, is
served in the same way. -/
theorem Service.ofEffect_map {Q' : Type} {A' : Q' → Type}
    {effect : (q : Q) → σ → Except Fault (A q × σ)}
    {effect' : (q : Q') → σ → Except Fault (A' q × σ)} {q : Q} {q' : Q'} {s s' : σ}
    (g : A q → A' q') (hok : ∀ a s', effect q s = .ok (a, s') → effect' q' s = .ok (g a, s'))
    (herror : ∀ f, effect q s = .error f → effect' q' s = .error f) :
    ∀ {answer : Except Fault (A q)}, ofEffect effect q s answer s' →
      ofEffect effect' q' s (answer.map g) s'
  | .ok a, h => hok a s' h
  | .error f, h => ⟨herror f h.1, h.2⟩

namespace Disturbed

variable {effect : (q : Q) → σ → Except Fault (A q × σ)} {admits : Q → σ → Fault → Prop} {q : Q}
  {s s' : σ} {reply : Reply (A q)} {resource : String}

/-- A call that is answered with success took effect. -/
theorem effect_of_ok (h : Disturbed (.ofEffect effect) admits q s reply s') {a : A q}
    (hok : reply.answer resource = .ok a) : effect q s = .ok (a, s') := by
  cases h with
  | served cancelled hs => obtain rfl := hok; exact hs
  | failed => cases hok
  | lost => cases hok
  | unacknowledged => cases hok

/-- A call takes effect or leaves the state. -/
theorem eq_or_effect (h : Disturbed (.ofEffect effect) admits q s reply s') :
    s' = s ∨ ∃ a, effect q s = .ok (a, s') := by
  have hserved : ∀ {answer : Except Fault (A q)}, Service.ofEffect effect q s answer s' →
      s' = s ∨ ∃ a, effect q s = .ok (a, s')
    | .ok a, hs => .inr ⟨a, hs⟩
    | .error _, hs => .inl hs.2
  cases h with
  | served cancelled hs => exact hserved hs
  | failed => exact .inl rfl
  | lost => exact .inl rfl
  | unacknowledged hs => exact hserved hs

/-- A fault that is answered is the service's own, or it was made up, or the call was given up. -/
theorem cause_of_error (h : Disturbed (.ofEffect effect) admits q s reply s') {f : Fault}
    (herror : reply.answer resource = .error f) :
    (effect q s = .error f ∧ s' = s) ∨ (admits q s f ∧ s' = s) ∨
      (f = .cancelled resource ∧ reply.isAbandoned = true) := by
  cases h with
  | served cancelled hs => obtain rfl := herror; exact .inl hs
  | failed cancelled hf => cases herror; exact .inr (.inl ⟨hf, rfl⟩)
  | lost => cases herror; exact .inr (.inr ⟨rfl, rfl⟩)
  | unacknowledged => cases herror; exact .inr (.inr ⟨rfl, rfl⟩)

end Disturbed

/-- A request that does what another one does, under another name and with its answer changed, is
disturbed in the same ways. -/
theorem Disturbed.map {Q' : Type} {A' : Q' → Type} {effect : (q : Q) → σ → Except Fault (A q × σ)}
    {effect' : (q : Q') → σ → Except Fault (A' q × σ)} {admits : Q → σ → Fault → Prop}
    {admits' : Q' → σ → Fault → Prop} {q : Q} {q' : Q'} {s s' : σ} {reply : Reply (A q)}
    {reply' : Reply (A' q')} (h : Disturbed (.ofEffect effect) admits q s reply s') (g : A q → A' q')
    (hok : ∀ a s', effect q s = .ok (a, s') → effect' q' s = .ok (g a, s'))
    (herror : ∀ f, effect q s = .error f → effect' q' s = .error f)
    (hadmits : ∀ f, admits q s f → admits' q' s f) (hreply : reply' = reply.map g) :
    Disturbed (.ofEffect effect') admits' q' s reply' s' := by
  rw [hreply]
  cases h with
  | served cancelled hs => exact .served cancelled (Service.ofEffect_map g hok herror hs)
  | failed cancelled hf => exact .failed cancelled (hadmits _ hf)
  | lost => exact .lost
  | unacknowledged hs => exact .unacknowledged (Service.ofEffect_map g hok herror hs)

/-- A provider that offers a service under disturbances. -/
structure Unreliable (serves : Service Q A σ) (admits : Q → σ → Fault → Prop) (τ : Type) where
  provider : Provider Q A τ
  /-- The state of the service. -/
  live : τ → σ
  disturbed : ∀ q t,
    Disturbed serves admits q (live t) (provider q t).1 (live (provider q t).2)

namespace Unreliable

variable {serves : Service Q A σ} {admits : Q → σ → Fault → Prop} {α ι : Type}

/-- What may have become of a call. -/
def Explains (u : Unreliable serves admits τ) (c : Call Q A τ) : Prop :=
  Disturbed serves admits c.request (u.live c.before) c.reply (u.live c.after)

/-- Whether a call took effect. -/
def Effective (u : Unreliable serves admits τ) (c : Call Q A τ) : Prop :=
  u.live c.after ≠ u.live c.before

instance [DecidableEq σ] (u : Unreliable serves admits τ) (c : Call Q A τ) :
    Decidable (u.Effective c) :=
  inferInstanceAs (Decidable (u.live c.after ≠ u.live c.before))

/-- How many calls with requests of a kind took effect. -/
def effects [DecidableEq σ] (u : Unreliable serves admits τ) (kind : Q → Prop) [DecidablePred kind]
    (cs : List (Call Q A τ)) : Nat :=
  cs.countP fun c => kind c.request ∧ u.Effective c

/-- If each call of a kind that takes effect uses up some of a potential and no call adds to it, the
potential bounds their number. -/
theorem effects_add_le [DecidableEq σ] {u : Unreliable serves admits τ} {kind : Q → Prop}
    [DecidablePred kind] {cs : List (Call Q A τ)} {t t' : τ} (potential : σ → Nat)
    (hlead : Call.Lead t cs t')
    (keep : ∀ c ∈ cs, potential (u.live c.after) ≤ potential (u.live c.before))
    (use : ∀ c ∈ cs, kind c.request → u.Effective c →
      potential (u.live c.after) < potential (u.live c.before)) :
    u.effects kind cs + potential (u.live t') ≤ potential (u.live t) := by
  refine hlead.countP_add_le (fun s => potential (u.live s)) fun c hc => ?_
  by_cases hcounted : kind c.request ∧ u.Effective c
  · have := use c hc hcounted.1 hcounted.2
    simp only [hcounted, and_self, decide_true, Bool.toNat_true]
    omega
  · simpa [hcounted] using keep c hc

theorem explains_calls (u : Unreliable serves admits τ) (p : Pass Q A α) (r : Run τ) :
    ∀ c ∈ p.calls u.provider r, u.Explains c :=
  Pass.forall_calls (fun _ q t => u.disturbed q t) p r

/-- Calls that lead from one state to another, each of which may have become what it did. -/
structure Course (u : Unreliable serves admits τ) (t : τ) (cs : List (Call Q A τ)) (t' : τ) :
    Prop where
  lead : Call.Lead t cs t'
  explained : ∀ c ∈ cs, u.Explains c

theorem Course.split {u : Unreliable serves admits τ} {t t' : τ} {cs ds : List (Call Q A τ)}
    (h : u.Course t (cs ++ ds) t') : ∃ m, u.Course t cs m ∧ u.Course m ds t' := by
  obtain ⟨m, hcs, hds⟩ := h.lead.split
  exact ⟨m, ⟨hcs, fun c hc => h.explained c (List.mem_append_left _ hc)⟩,
    ⟨hds, fun c hc => h.explained c (List.mem_append_right _ hc)⟩⟩

theorem Course.uncons {u : Unreliable serves admits τ} {t t' : τ} {c : Call Q A τ}
    {cs : List (Call Q A τ)} (h : u.Course t (c :: cs) t') :
    c.before = t ∧ u.Explains c ∧ u.Course c.after cs t' :=
  ⟨h.lead.1, h.explained c List.mem_cons_self,
    h.lead.2, fun d hd => h.explained d (List.mem_cons_of_mem _ hd)⟩

theorem Course.append {u : Unreliable serves admits τ} {t m t' : τ} {cs ds : List (Call Q A τ)}
    (h : u.Course t cs m) (h' : u.Course m ds t') : u.Course t (cs ++ ds) t' :=
  ⟨h.lead.append h'.lead, fun c hc =>
    (List.mem_append.mp hc).elim (h.explained c) (h'.explained c)⟩

/-- A pass that begins with a guarded call goes on with its answer. -/
theorem exists_asked (u : Unreliable serves admits τ) (resource : String) (q : Q)
    (next : Except Fault (A q) → Pass Q A α) (r : Run τ) :
    ∃ cs answer r', Pass.Asked resource q r.cancelled cs answer r'.cancelled ∧
      u.Course r.state cs r'.state ∧
      (Pass.ask resource q next).run u.provider r = (next answer).run u.provider r' ∧
      (Pass.ask resource q next).calls u.provider r = cs ++ (next answer).calls u.provider r' := by
  obtain ⟨cs, answer, r', hasked, hlead, hrun, hcalls⟩ :=
    Pass.exists_asked u.provider resource q next r
  refine ⟨cs, answer, r', hasked, ⟨hlead, fun c hc => ?_⟩, hrun, hcalls⟩
  refine u.explains_calls (Pass.ask resource q next) r c ?_
  rw [hcalls]
  exact List.mem_append_left _ hc

/-- A guarded call, made or not, goes on with the answer to a call that may have been lost. -/
theorem Course.exists_disturbed {u : Unreliable serves admits τ} {t t' : τ} {resource : String}
    {q : Q} {cancelled cancelled' : Bool} {cs : List (Call Q A τ)} {answer : Except Fault (A q)}
    (h : u.Course t cs t') (hasked : Pass.Asked resource q cancelled cs answer cancelled') :
    ∃ reply, Disturbed serves admits q (u.live t) reply (u.live t') ∧
      reply.answer resource = answer := by
  cases hasked with
  | skipped =>
    obtain rfl := h.lead
    exact ⟨.abandoned, .lost, rfl⟩
  | made reply s s' =>
    obtain ⟨rfl, rfl⟩ := h.lead
    exact ⟨reply, h.explained _ List.mem_cons_self, rfl⟩

section

variable {effect : (q : Q) → σ → Except Fault (A q × σ)} {u : Unreliable (.ofEffect effect) admits τ}

/-- A call that is answered with a fault leaves the state, unless it was given up after its
effect. -/
theorem Explains.live_eq_of_error {c : Call Q A τ} {f : Fault} (h : u.Explains c)
    (herror : c.answer = .error f) (hkept : c.reply.isAbandoned = true → ¬u.Effective c) :
    u.live c.after = u.live c.before := by
  rcases h.cause_of_error herror with ⟨-, hsame⟩ | ⟨-, hsame⟩ | ⟨-, habandoned⟩
  · exact hsame
  · exact hsame
  · exact Classical.not_not.mp (hkept habandoned)

theorem Course.live_eq_of_error {t t' : τ} {resource : String} {q : Q}
    {cancelled cancelled' : Bool} {cs : List (Call Q A τ)} {f : Fault} (h : u.Course t cs t')
    (hasked : Pass.Asked resource q cancelled cs (.error f) cancelled')
    (hkept : ∀ c ∈ cs, c.reply.isAbandoned = true → ¬u.Effective c) : u.live t' = u.live t := by
  generalize hanswer : (.error f : Except Fault (A q)) = answer at hasked
  cases hasked with
  | skipped =>
    obtain rfl := h.lead
    rfl
  | made reply s s' =>
    obtain ⟨rfl, rfl⟩ := h.lead
    exact (h.explained _ List.mem_cons_self).live_eq_of_error hanswer.symm
      (hkept _ List.mem_cons_self)

end

/-- The course of a run. -/
theorem course_calls (u : Unreliable serves admits τ) (p : Pass Q A α) (r : Run τ) :
    u.Course r.state (p.calls u.provider r) (p.run u.provider r).2.state :=
  ⟨Pass.lead_calls u.provider p r, u.explains_calls p r⟩

end Unreliable

/-! ## Schedules -/

/-- What a schedule says about a call. -/
inductive Disturbance where
  | none (cancelled : Bool)
  | fault (f : Fault) (cancelled : Bool)
  | lost
  | unacknowledged
  deriving DecidableEq

/-- A provider that follows a schedule, and is undisturbed after its end. A fault that may not be
made up is passed over. -/
def Provider.scheduled (step : (q : Q) → σ → Except Fault (A q) × σ)
    (admits : Q → σ → Fault → Prop) [∀ q s f, Decidable (admits q s f)] :
    Provider Q A (σ × List Disturbance)
  | q, (s, []) => (.completed (step q s).1 false, (step q s).2, [])
  | q, (s, .none cancelled :: ds) => (.completed (step q s).1 cancelled, (step q s).2, ds)
  | q, (s, .fault f cancelled :: ds) =>
    if admits q s f then (.completed (.error f) cancelled, s, ds)
    else (.completed (step q s).1 cancelled, (step q s).2, ds)
  | _, (s, .lost :: ds) => (.abandoned, s, ds)
  | q, (s, .unacknowledged :: ds) => (.abandoned, (step q s).2, ds)

/-- A schedule over a step of a service makes an unreliable provider. -/
def Unreliable.ofSchedule (serves : Service Q A σ) (admits : Q → σ → Fault → Prop)
    [∀ q s f, Decidable (admits q s f)] (step : (q : Q) → σ → Except Fault (A q) × σ)
    (h : ∀ q s, serves q s (step q s).1 (step q s).2) :
    Unreliable serves admits (σ × List Disturbance) where
  provider := .scheduled step admits
  live := Prod.fst
  disturbed := by
    rintro q ⟨s, _ | ⟨d | ⟨f, cancelled⟩ | _ | _, ds⟩⟩
    · exact .served false (h q s)
    · exact .served d (h q s)
    · by_cases hf : admits q s f
      · simp only [Provider.scheduled, if_pos hf]
        exact .failed cancelled hf
      · simp only [Provider.scheduled, if_neg hf]
        exact .served cancelled (h q s)
    · exact .lost
    · exact .unacknowledged (h q s)

end IamConvergence
