/-
Disciplined passes. Such a pass ends with the first fault that it is told, carrying it, unless the
request tolerates the fault; and every call is guarded but those of requests that belong to the one
before. So against any provider no fault is lost, and what a pass carries is a fault that it was
told, or how its exchanges allow it to close.
-/
import IamConvergence.Proofs.Pass.Trace

namespace IamConvergence

variable {Q : Type} {A : Q → Type} {α β σ : Type}

/-! ## Exchanges -/

/-- A request with its answer. -/
abbrev Exchange (Q : Type) (A : Q → Type) : Type := (q : Q) × Except Fault (A q)

/-- What a call exchanged. -/
def Call.exchange (c : Call Q A σ) : Exchange Q A := ⟨c.request, c.answer⟩

/-- The last request of some exchanges. -/
def lastRequest? (es : List (Exchange Q A)) : Option Q := es.getLast?.map (·.1)

@[simp] theorem lastRequest?_append (es : List (Exchange Q A)) (e : Exchange Q A) :
    lastRequest? (es ++ [e]) = some e.1 := by
  rw [lastRequest?, List.getLast?_concat]
  rfl

/-! ## Disciplines -/

/-- After which faults a pass may go on, and which requests belong to the one before. -/
structure Discipline (Q : Type) where
  tolerates : Q → Fault → Bool
  joins : Option Q → Q → Bool
  /-- To be cancelled is never tolerated. -/
  cancelled : ∀ q resource, tolerates q (.cancelled resource) = false
  first : ∀ q, joins none q = false
  /-- What belongs to the request before has nothing that belongs to it. -/
  apart : ∀ last q q', joins last q = true → joins (some q) q' = false

namespace Discipline

variable (d : Discipline Q)

/-- An answer after which a pass goes on. -/
def Allows (q : Q) (answer : Except Fault (A q)) : Prop :=
  ∀ f, answer = .error f → d.tolerates q f = true

theorem allows_or (q : Q) (answer : Except Fault (A q)) :
    d.Allows q answer ∨ ∃ f, answer = .error f ∧ d.tolerates q f = false := by
  cases answer with
  | ok a => exact .inl nofun
  | error f =>
    cases hf : d.tolerates q f with
    | true => exact .inl fun g hg => by cases hg; exact hf
    | false => exact .inr ⟨f, rfl, hf⟩

end Discipline

namespace Pass

variable {d : Discipline Q} {ends : Fault → α → Prop} {closes : List (Exchange Q A) → α → Prop}

/-- After some exchanges a pass goes on with discipline: with a fault that is not tolerated it ends
as `ends` says, and otherwise as `closes` says of all the exchanges. -/
inductive Follows (d : Discipline Q) (ends : Fault → α → Prop)
    (closes : List (Exchange Q A) → α → Prop) : Pass Q A α → List (Exchange Q A) → Prop where
  | done {x : α} {es : List (Exchange Q A)} (h : closes es x) : Follows d ends closes (.done x) es
  | call {guarded : Bool} {resource : String} {q : Q} {next : Except Fault (A q) → Pass Q A α}
    {es : List (Exchange Q A)} (guards : guarded = !d.joins (lastRequest? es) q)
    (stops : ∀ f, d.tolerates q f = false → ∃ x, next (.error f) = .done x ∧ ends f x)
    (rest : ∀ answer, d.Allows q answer → Follows d ends closes (next answer) (es ++ [⟨q, answer⟩])) :
    Follows d ends closes (.call guarded resource q next) es

namespace Follows

variable {p : Pass Q A α} {es : List (Exchange Q A)} {resource : String} {q : Q}

/-- A pass that goes on with the result of another one. -/
theorem bind {ends' : Fault → β → Prop} {closes' : List (Exchange Q A) → β → Prop}
    {f : α → Pass Q A β} (h : Follows d ends closes p es)
    (hends : ∀ g x, ends g x → ∃ y, f x = .done y ∧ ends' g y)
    (hcloses : ∀ es x, closes es x → Follows d ends' closes' (f x) es) :
    Follows d ends' closes' (p.bind f) es := by
  induction h with
  | done h => exact hcloses _ _ h
  | call guards stops _ ih =>
    refine .call guards (fun g hg => ?_) ih
    obtain ⟨x, hx, hend⟩ := stops g hg
    obtain ⟨y, hy, hend'⟩ := hends g x hend
    refine ⟨y, ?_, hend'⟩
    rw [hx]
    exact hy

theorem map {ends' : Fault → β → Prop} {closes' : List (Exchange Q A) → β → Prop} (f : α → β)
    (h : Follows d ends closes p es) (hends : ∀ g x, ends g x → ends' g (f x))
    (hcloses : ∀ es x, closes es x → closes' es (f x)) : Follows d ends' closes' (p.map f) es :=
  h.bind (fun g x hx => ⟨f x, rfl, hends g x hx⟩) fun es x hx => .done (hcloses es x hx)

theorem weaken {closes' : List (Exchange Q A) → α → Prop} (h : Follows d ends closes p es)
    (hcloses : ∀ es x, closes es x → closes' es x) : Follows d ends closes' p es := by
  induction h with
  | done h => exact .done (hcloses _ _ h)
  | call guards stops _ ih => exact .call guards stops ih

/-- What was exchanged before stays exchanged. -/
theorem keeps {es₀ : List (Exchange Q A)} (h : Follows d ends closes p es) (hes : es₀ <+: es) :
    Follows d ends (fun es x => closes es x ∧ es₀ <+: es) p es := by
  induction h with
  | done h => exact .done ⟨h, hes⟩
  | call guards stops _ ih =>
    exact .call guards stops fun answer hallows =>
      ih answer hallows (hes.trans (List.prefix_append _ _))

/-- A request that tolerates no fault. -/
theorem ask {next : Except Fault (A q) → Pass Q A α}
    (guards : d.joins (lastRequest? es) q = false) (hnone : ∀ f, d.tolerates q f = false)
    (stops : ∀ f, ∃ x, next (.error f) = .done x ∧ ends f x)
    (rest : ∀ a, Follows d ends closes (next (.ok a)) (es ++ [⟨q, .ok a⟩])) :
    Follows d ends closes (.ask resource q next) es := by
  refine .call (by rw [guards]; rfl) (fun f _ => stops f) fun answer hallows => ?_
  cases answer with
  | ok a => exact rest a
  | error f =>
    have htolerates := hallows f rfl
    rw [hnone f] at htolerates
    cases htolerates

/-- A request that tolerates that its target is not found. -/
theorem removal {next : Except Fault (A q) → Pass Q A α}
    (guards : d.joins (lastRequest? es) q = false) (hgone : ∀ f, d.tolerates q f = f.isNotFound)
    (stops : ∀ f, f.isNotFound = false → ∃ x, next (.error f) = .done x ∧ ends f x)
    (rest : ∀ answer, removalFault? answer = none →
      Follows d ends closes (next answer) (es ++ [⟨q, answer⟩])) :
    Follows d ends closes (.ask resource q next) es := by
  refine .call (by rw [guards]; rfl) (fun f hf => stops f ((hgone f).symm.trans hf)) ?_
  intro answer hallows
  refine rest answer ?_
  cases answer with
  | ok a => rfl
  | error f =>
    have htolerates := hallows f rfl
    rw [hgone] at htolerates
    simp only [removalFault?, htolerates, if_true]

/-! ## Runs -/

section

variable {next : Except Fault (A q) → Pass Q A α} {guarded : Bool} {r : Run σ}

/-- A call that a cancellation keeps from being made is the end of the pass. -/
theorem skipped (stops : ∀ f, d.tolerates q f = false → ∃ x, next (.error f) = .done x ∧ ends f x)
    (provider : Provider Q A σ) (hskipped : (guarded && r.cancelled) = true) :
    ∃ x, (Pass.call guarded resource q next).run provider r = (x, r) ∧
      (Pass.call guarded resource q next).calls provider r = [] ∧ ends (.cancelled resource) x := by
  obtain ⟨x, hx, hend⟩ := stops _ (d.cancelled q resource)
  refine ⟨x, ?_, ?_, hend⟩
  · simp only [run, attempt, hskipped, if_true, hx]
  · simp only [calls, attempt, hskipped, if_true, hx]

/-- A call that is answered with a fault that is not tolerated is the last one. -/
theorem stopped (stops : ∀ f, d.tolerates q f = false → ∃ x, next (.error f) = .done x ∧ ends f x)
    (provider : Provider Q A σ) (hmade : (guarded && r.cancelled) = false) {f : Fault}
    (hanswer : (provider q r.state).1.answer resource = .error f) (hnot : d.tolerates q f = false) :
    ∃ x, (Pass.call guarded resource q next).run provider r = (x, made provider q r) ∧
      (Pass.call guarded resource q next).calls provider r =
        [callOn provider resource q r.state] ∧ ends f x := by
  obtain ⟨x, hx, hend⟩ := stops f hnot
  refine ⟨x, ?_, ?_, hend⟩
  · rw [run_call_made provider _ _ _ hmade, hanswer, hx, run_done]
  · rw [calls_call_made provider _ _ _ hmade, hanswer, hx, calls_done]

end

/-- Against any provider, a fault that is not tolerated is the last thing that a pass is told, and the
pass ends with it. -/
theorem ends_of_error (h : Follows d ends closes p es) (provider : Provider Q A σ) :
    ∀ (r : Run σ) {cs ds : List (Call Q A σ)} {c : Call Q A σ} {f : Fault},
      p.calls provider r = cs ++ c :: ds → c.answer = .error f →
      d.tolerates c.request f = false → ds = [] ∧ ends f (p.run provider r).1 := by
  induction h with
  | done => exact fun r cs ds c f hcalls _ _ => absurd hcalls.symm (by simp)
  | @call guarded resource q next es guards stops _ ih =>
    intro r cs ds c f hcalls hanswer hnot
    cases hmade : guarded && r.cancelled with
    | true =>
      obtain ⟨x, -, hnone, -⟩ := skipped stops provider hmade
      rw [hnone] at hcalls
      exact absurd hcalls.symm (by simp)
    | false =>
      rcases d.allows_or q ((provider q r.state).1.answer resource) with hallows | ⟨g, hg, hnot'⟩
      · rw [run_call_made provider _ _ _ hmade]
        rw [calls_call_made provider _ _ _ hmade] at hcalls
        cases cs with
        | nil =>
          obtain ⟨rfl, -⟩ := List.cons.inj hcalls
          have htolerates := hallows f hanswer
          rw [hnot] at htolerates
          cases htolerates
        | cons c' cs =>
          obtain ⟨-, hrest⟩ := List.cons.inj hcalls
          exact ih _ hallows _ hrest hanswer hnot
      · obtain ⟨x, hrun, hlast, hend⟩ := stopped stops provider hmade hg hnot'
        rw [hlast] at hcalls
        rw [hrun]
        cases cs with
        | nil =>
          obtain ⟨rfl, rfl⟩ := List.cons.inj hcalls
          cases hg.symm.trans hanswer
          exact ⟨rfl, hend⟩
        | cons c' cs =>
          obtain ⟨-, hrest⟩ := List.cons.inj hcalls
          exact absurd hrest.symm (by simp)

/-- An uncancelled pass that is told only what it may go on after closes with what it exchanged. -/
theorem closes_of_allows (h : Follows d ends closes p es) (provider : Provider Q A σ) :
    ∀ (r : Run σ), r.cancelled = false → (∀ c ∈ p.calls provider r, c.reply.cancels = false) →
      (∀ c ∈ p.calls provider r, d.Allows c.request c.answer) →
      closes (es ++ (p.calls provider r).map Call.exchange) (p.run provider r).1 := by
  induction h with
  | @done x es hclose =>
    intro r _ _ _
    rw [calls_done, List.map_nil, List.append_nil, run_done]
    exact hclose
  | @call guarded resource q next es guards stops _ ih =>
    intro r hr hquiet hallows
    have hmade : (guarded && r.cancelled) = false := by rw [hr, Bool.and_false]
    rw [calls_call_made provider _ _ _ hmade] at hquiet hallows ⊢
    rw [run_call_made provider _ _ _ hmade, List.map_cons, List.append_cons]
    refine ih _ (hallows _ List.mem_cons_self) _ ?_
      (fun c hc => hquiet c (List.mem_cons_of_mem _ hc))
      fun c hc => hallows c (List.mem_cons_of_mem _ hc)
    rw [made_cancelled provider q hr]
    exact hquiet _ List.mem_cons_self

end Follows

end Pass

end IamConvergence
