/-
Passes as data: a pass is finished, or it asks a provider for something and goes on with the answer.
A provider is any state that answers requests, so the same pass runs against a remote service, a
store in memory or a script of answers.

A pass may be cancelled. A guarded call is not made once the pass is cancelled; a call that
completes counts even if the cancellation arrived meanwhile; a call that never completes is given up
when the cancellation arrives.
-/
import IamConvergence.Fault

namespace IamConvergence

/-! ## Passes -/

/-- A pass over requests `Q`, of which a request `q` is answered by an `A q`. Only a guarded call is
subject to a cancellation that has already arrived. -/
inductive Pass (Q : Type) (A : Q → Type) (α : Type) where
  | done (result : α)
  | call (guarded : Bool) (resource : String) (request : Q)
      (next : Except Fault (A request) → Pass Q A α)

namespace Pass

variable {Q Q' : Type} {A : Q → Type} {A' : Q' → Type} {α β : Type}

/-- A guarded call on a resource. -/
abbrev ask (resource : String) (request : Q) (next : Except Fault (A request) → Pass Q A α) :
    Pass Q A α :=
  .call true resource request next

/-- Goes on with the result of a pass. -/
def bind (p : Pass Q A α) (f : α → Pass Q A β) : Pass Q A β :=
  match p with
  | .done a => f a
  | .call guarded resource request next =>
    .call guarded resource request fun answer => (next answer).bind f

/-- Changes the result of a pass. -/
def map (f : α → β) (p : Pass Q A α) : Pass Q A β := p.bind fun a => .done (f a)

/-- How one kind of request is answered by passes over another. -/
abbrev Adapter (Q : Type) (A : Q → Type) (Q' : Type) (A' : Q' → Type) : Type :=
  (guarded : Bool) → (resource : String) → (q : Q) → Pass Q' A' (Except Fault (A q))

/-- Replaces every call of a pass by what an adapter makes of it. -/
def adapt (adapter : Adapter Q A Q' A') : Pass Q A α → Pass Q' A' α
  | .done a => .done a
  | .call guarded resource request next =>
    (adapter guarded resource request).bind fun answer => (next answer).adapt adapter

end Pass

/-- The fault of a removal that did not leave its target gone. A target that is already gone is no
fault. -/
def removalFault? {α : Type} : Except Fault α → Option Fault
  | .ok _ => none
  | .error f => if f.isNotFound then none else some f

/-! ## Providers -/

/-- What becomes of a call. -/
inductive Reply (α : Type) where
  /-- It completes; `cancelled` tells whether a cancellation arrived meanwhile. -/
  | completed (result : Except Fault α) (cancelled : Bool)
  /-- It never completes, and the cancellation ends it. -/
  | abandoned

/-- A provider with state `σ`. -/
abbrev Provider (Q : Type) (A : Q → Type) (σ : Type) : Type := (q : Q) → σ → Reply (A q) × σ

/-- The state of a run: whether a cancellation has arrived, and the provider's state. -/
structure Run (σ : Type) where
  cancelled : Bool
  state : σ

namespace Pass

variable {Q : Type} {A : Q → Type} {α β σ : Type}

/-- Makes a call, unless it is guarded and the pass is cancelled. -/
def attempt (provider : Provider Q A σ) (guarded : Bool) (resource : String) (request : Q)
    (r : Run σ) : Except Fault (A request) × Run σ :=
  if guarded && r.cancelled then (.error (.cancelled resource), r)
  else
    match provider request r.state with
    | (.completed result cancelled, s) => (result, ⟨r.cancelled || cancelled, s⟩)
    | (.abandoned, s) => (.error (.cancelled resource), ⟨true, s⟩)

/-- Runs a pass against a provider. -/
def run (provider : Provider Q A σ) : Pass Q A α → Run σ → α × Run σ
  | .done a, r => (a, r)
  | .call guarded resource request next, r =>
    let (answer, r) := attempt provider guarded resource request r
    (next answer).run provider r

@[simp] theorem run_done (provider : Provider Q A σ) (a : α) (r : Run σ) :
    (done a : Pass Q A α).run provider r = (a, r) := rfl

/-- A pass that goes on runs on from the state that its first part leaves. -/
theorem run_bind (provider : Provider Q A σ) (p : Pass Q A α) (f : α → Pass Q A β) (r : Run σ) :
    (p.bind f).run provider r = (f (p.run provider r).1).run provider (p.run provider r).2 := by
  induction p generalizing r with
  | done a => rfl
  | call guarded resource request next ih => exact ih _ _

theorem run_map (provider : Provider Q A σ) (f : α → β) (p : Pass Q A α) (r : Run σ) :
    (p.map f).run provider r = (f (p.run provider r).1, (p.run provider r).2) :=
  run_bind provider p (fun a => done (f a)) r

end Pass

/-- A provider whose calls all complete, undisturbed. -/
def Provider.ofStep {Q : Type} {A : Q → Type} {σ : Type}
    (step : (q : Q) → σ → Except Fault (A q) × σ) : Provider Q A σ :=
  fun q s => ((.completed (step q s).1 false), (step q s).2)

end IamConvergence
