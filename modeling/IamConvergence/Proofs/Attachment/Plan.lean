/-
The changes of a membership as one plan: the detaching and the attaching requests in the order in
which they are made. A pass over a membership carries out its plan request by request, up to the
first answer that is not tolerated or the first request that a cancellation precedes.
-/
import IamConvergence.Attachment.Reconcile
import IamConvergence.Proofs.Pass.Trace

namespace IamConvergence

/-! ## Requests and their answers -/

namespace AttachmentRequest

/-- The member that a request attaches or detaches. -/
def id? : AttachmentRequest → Option String
  | .list => none
  | .attach id | .detach id => some id

/-- The member that a request attaches. -/
def attached? : AttachmentRequest → Option String
  | .attach id => some id
  | .list | .detach _ => none

/-- The member that a request detaches. -/
def detached? : AttachmentRequest → Option String
  | .detach id => some id
  | .list | .attach _ => none

/-- Whether a pass goes on after an answer. To detach what is not attached is no failure. -/
def tolerates : (q : AttachmentRequest) → Except Fault q.Answer → Bool
  | _, .ok _ => true
  | .detach _, .error f => f.isNotFound
  | .list, .error _ | .attach _, .error _ => false

theorem error_of_not_tolerates {q : AttachmentRequest} {answer : Except Fault q.Answer}
    (h : q.tolerates answer = false) : ∃ f, answer = .error f := by
  rcases answer with f | a
  · exact ⟨f, rfl⟩
  · cases q <;> cases h

theorem not_tolerates_cancelled (q : AttachmentRequest) (resource : String) :
    q.tolerates (.error (.cancelled resource)) = false := by cases q <;> rfl

end AttachmentRequest

/-- A call about a membership. -/
abbrev AttachmentCall (σ : Type) : Type := Call AttachmentRequest AttachmentRequest.Answer σ

namespace AttachmentCall

variable {σ : Type}

/-- Whether the pass goes on after a call. -/
def tolerated (c : AttachmentCall σ) : Bool := c.request.tolerates c.answer

/-- The members whose detaching was answered with success or as not attached. -/
def detached (cs : List (AttachmentCall σ)) : List String :=
  cs.filterMap fun c => if tolerated c then c.request.detached? else none

/-- The members whose attaching was answered with success. -/
def attached (cs : List (AttachmentCall σ)) : List String :=
  cs.filterMap fun c => if tolerated c then c.request.attached? else none

end AttachmentCall

open AttachmentCall (tolerated detached attached)

/-! ## Plans -/

namespace AttachmentOutcome

/-- Counts a request as done. -/
def settle (o : AttachmentOutcome) : AttachmentRequest → AttachmentOutcome
  | .list => o
  | .attach id => o.attach id
  | .detach id => o.detach id

/-- Ends with a fault or without one. -/
def ending (o : AttachmentOutcome) (fault : Option Fault) : AttachmentOutcome :=
  { o with fault := fault }

/-- Ends with the fault of an answer. -/
def stop {α : Type} (o : AttachmentOutcome) : Except Fault α → AttachmentOutcome
  | .ok _ => o
  | .error f => o.failed f

@[simp] theorem settle_attach (o : AttachmentOutcome) (id : String) :
    o.settle (.attach id) = o.attach id := rfl

@[simp] theorem settle_detach (o : AttachmentOutcome) (id : String) :
    o.settle (.detach id) = o.detach id := rfl

@[simp] theorem settle_fault (o : AttachmentOutcome) (q : AttachmentRequest) :
    (o.settle q).fault = o.fault := by cases q <;> rfl

@[simp] theorem foldl_settle_fault (qs : List AttachmentRequest) (o : AttachmentOutcome) :
    (qs.foldl .settle o).fault = o.fault := by
  induction qs generalizing o with
  | nil => rfl
  | cons q qs ih => rw [List.foldl_cons, ih, settle_fault]

theorem mem_settle (o : AttachmentOutcome) (q : AttachmentRequest) (x : String) :
    x ∈ (o.settle q).attached ↔
      (x ∈ o.attached ∧ q.detached? ≠ some x) ∨ q.attached? = some x := by
  cases q with
  | list => simp [settle, AttachmentRequest.detached?, AttachmentRequest.attached?]
  | attach id =>
    rw [settle_attach]
    simp only [attach, IdSet.mem_insert, AttachmentRequest.detached?, AttachmentRequest.attached?]
    grind
  | detach id =>
    rw [settle_detach]
    simp only [detach, IdSet.mem_erase, AttachmentRequest.detached?, AttachmentRequest.attached?]
    grind

@[simp] theorem stop_error {α : Type} (o : AttachmentOutcome) (f : Fault) :
    o.stop (.error f : Except Fault α) = o.failed f := rfl

end AttachmentOutcome

namespace Attachment

/-- The requests that detach some members, then attach others. -/
def moves (gone new : List String) : List AttachmentRequest :=
  gone.map .detach ++ new.map .attach

/-- The requests that turn the current membership into the desired one. -/
def plan (desired current : IdSet) : List AttachmentRequest :=
  moves (current.diff desired).toList (desired.diff current).toList

/-- Nothing has to change of what is desired. -/
theorem plan_self (s : IdSet) : plan s s = [] := by
  simp [plan, moves, IdSet.diff]

/-- Carries out requests one by one, up to the first answer that is not tolerated. -/
def carryOut (parent : String) : List AttachmentRequest → AttachmentOutcome →
    AttachmentPass AttachmentOutcome
  | [], o => .done o
  | q :: qs, o =>
    .ask parent q fun answer =>
      if q.tolerates answer then carryOut parent qs (o.settle q) else .done (o.stop answer)

theorem attachAll_eq_carryOut (parent : String) :
    ∀ (ids : List String) (o : AttachmentOutcome),
      attachAll parent ids o = carryOut parent (ids.map .attach) o
  | [], o => rfl
  | id :: ids, o => by
    simp only [attachAll, List.map_cons, carryOut, Pass.ask]
    congr 1
    funext answer
    cases answer with
    | error f => rfl
    | ok a => exact attachAll_eq_carryOut parent ids (o.attach id)

theorem detachAll_eq_carryOut (parent : String) (toAttach : List String) :
    ∀ (ids : List String) (o : AttachmentOutcome),
      detachAll parent toAttach ids o = carryOut parent (moves ids toAttach) o
  | [], o => attachAll_eq_carryOut parent toAttach o
  | id :: ids, o => by
    simp only [detachAll, moves, List.map_cons, List.cons_append, carryOut, Pass.ask,
      detachAll_eq_carryOut parent toAttach ids]
    congr 1
    funext answer
    cases answer with
    | ok a => rfl
    | error f => cases hf : f.isNotFound <;> simp [removalFault?, AttachmentRequest.tolerates, hf]

/-- A listed membership is brought to the desired one by carrying out the plan. -/
theorem reconcile_eq (parent : String) (desired lastKnown : List String) :
    reconcile parent desired lastKnown = .ask parent .list fun
      | .error f => .done (.unchanged (.ofList lastKnown) (some f))
      | .ok listed =>
        carryOut parent (plan (.ofList desired) (.ofList listed)) (.unchanged (.ofList listed) none) := by
  unfold reconcile
  congr 1
  funext answer
  cases answer with
  | error f => rfl
  | ok listed => exact detachAll_eq_carryOut parent _ _ _

/-! ## Carrying out a plan -/

/-- How a plan may go: whether a cancellation has arrived, the plan, the calls that are made and the
fault that ends it. -/
inductive Carried {σ : Type} (parent : String) :
    Bool → List AttachmentRequest → List (AttachmentCall σ) → Option Fault → Prop where
  | finished (cancelled : Bool) : Carried parent cancelled [] [] none
  | cancelled (q : AttachmentRequest) (qs : List AttachmentRequest) :
    Carried parent true (q :: qs) [] (some (.cancelled parent))
  | refused (c : AttachmentCall σ) (qs : List AttachmentRequest) (f : Fault)
    (answer : c.answer = .error f) (h : tolerated c = false) :
    Carried parent false (c.request :: qs) [c] (some f)
  | settled (c : AttachmentCall σ) {qs : List AttachmentRequest} {cs : List (AttachmentCall σ)}
    {fault : Option Fault} (h : tolerated c = true)
    (rest : Carried parent c.reply.cancels qs cs fault) :
    Carried parent false (c.request :: qs) (c :: cs) fault

/-- A plan goes as the rules say, and what is counted is what was tolerated. -/
theorem carried_carryOut {σ : Type} (provider : Provider AttachmentRequest AttachmentRequest.Answer σ)
    (parent : String) :
    ∀ (qs : List AttachmentRequest) (o : AttachmentOutcome) (r : Run σ), o.fault = none →
      let cs := (carryOut parent qs o).calls provider r
      let o' := ((carryOut parent qs o).run provider r).1
      Carried parent r.cancelled qs cs o'.fault ∧
        o' = (((cs.filter tolerated).map (·.request)).foldl .settle o).ending o'.fault
  | [], o, r, ho => by
    refine ⟨?_, rfl⟩
    simp only [carryOut, Pass.calls_done, Pass.run_done, ho]
    exact .finished r.cancelled
  | q :: qs, o, r, ho => by
    simp only [carryOut]
    cases hr : r.cancelled with
    | true =>
      -- a call that is not made counts as one that is not tolerated
      rw [Pass.calls_ask_cancelled _ _ _ _ hr, Pass.run_ask_cancelled _ _ _ _ hr]
      simp only [AttachmentRequest.not_tolerates_cancelled, Bool.false_eq_true, if_false]
      exact ⟨.cancelled q qs, rfl⟩
    | false =>
      rw [Pass.calls_ask_made _ _ _ _ hr, Pass.run_ask_made _ _ _ _ hr]
      have hc := Pass.made_cancelled provider q hr
      cases ht : q.tolerates ((provider q r.state).1.answer parent) with
      | true =>
        obtain ⟨hrest, ho'⟩ := carried_carryOut provider parent qs (o.settle q)
          (Pass.made provider q r) ((o.settle_fault q).trans ho)
        rw [hc] at hrest
        simp only [if_true]
        refine ⟨.settled (Pass.callOn provider parent q r.state) ht hrest, ?_⟩
        have ht' : tolerated (Pass.callOn provider parent q r.state) = true := ht
        rw [List.filter_cons_of_pos ht', List.map_cons, List.foldl_cons]
        exact ho'
      | false =>
        obtain ⟨f, hf⟩ := AttachmentRequest.error_of_not_tolerates ht
        simp only [hf, Bool.false_eq_true, if_false]
        refine ⟨.refused (Pass.callOn provider parent q r.state) qs f hf ht, ?_⟩
        have ht' : tolerated (Pass.callOn provider parent q r.state) = false := ht
        rw [Pass.calls_done, List.filter_cons_of_neg (by simp [ht'])]
        rfl

/-- If every call that counts does to the members of a state what it asks for, and no other call does
anything to them, then the counted members are those of the last state. -/
theorem Carried.members {σ : Type} {parent : String} {cancelled : Bool}
    {qs : List AttachmentRequest} {cs : List (AttachmentCall σ)} {fault : Option Fault}
    (h : Carried parent cancelled qs cs fault) {P : σ → String → Prop} :
    ∀ {o : AttachmentOutcome} {s s' : σ}, Call.Lead s cs s' →
      (∀ c ∈ cs, tolerated c = true → ∀ x, P c.after x ↔
        (P c.before x ∧ c.request.detached? ≠ some x) ∨ c.request.attached? = some x) →
      (∀ c ∈ cs, tolerated c = false → ∀ x, P c.after x ↔ P c.before x) →
      (∀ x, x ∈ o.attached ↔ P s x) →
      ∀ x, x ∈ (((cs.filter tolerated).map (·.request)).foldl .settle o).attached ↔ P s' x := by
  induction h with
  | finished =>
    rintro o s s' hlead - - ho
    cases hlead
    exact ho
  | cancelled =>
    rintro o s s' hlead - - ho
    cases hlead
    exact ho
  | refused c qs f answer hc =>
    rintro o s s' ⟨rfl, rfl⟩ - hkept ho x
    rw [List.filter_cons_of_neg (by simp [hc])]
    exact (ho x).trans (hkept c List.mem_cons_self hc x).symm
  | settled c hc rest ih =>
    rintro o s s' ⟨rfl, hlead⟩ hdone hkept ho
    rw [List.filter_cons_of_pos hc, List.map_cons, List.foldl_cons]
    refine ih hlead (fun d hd => hdone d (List.mem_cons_of_mem _ hd))
      (fun d hd => hkept d (List.mem_cons_of_mem _ hd)) fun x => ?_
    rw [o.mem_settle, ho x]
    exact (hdone c List.mem_cons_self hc x).symm

/-! ## The whole pass -/

/-- How a pass may go: whether a cancellation has arrived, the calls that are made and the
outcome. -/
inductive Reconciled {σ : Type} (parent : String) (desired lastKnown : List String) :
    Bool → List (AttachmentCall σ) → AttachmentOutcome → Prop where
  | unlisted {cancelled cancelled' : Bool} {cs : List (AttachmentCall σ)} {f : Fault}
    (list : Pass.Asked parent .list cancelled cs (.error f) cancelled') :
    Reconciled parent desired lastKnown cancelled cs (.unchanged (.ofList lastKnown) (some f))
  | listed {cancelled cancelled' : Bool} {cs ds : List (AttachmentCall σ)} {listed : List String}
    {o : AttachmentOutcome} (list : Pass.Asked parent .list cancelled cs (.ok listed) cancelled')
    (carried : Carried parent cancelled' (plan (.ofList desired) (.ofList listed)) ds o.fault)
    (counted : o = (((ds.filter tolerated).map Call.request).foldl AttachmentOutcome.settle
      (AttachmentOutcome.unchanged (.ofList listed) none)).ending o.fault) :
    Reconciled parent desired lastKnown cancelled (cs ++ ds) o

/-- A pass goes as the rules say. -/
theorem reconciled {σ : Type} (provider : Provider AttachmentRequest AttachmentRequest.Answer σ)
    (parent : String) (desired lastKnown : List String) (r : Run σ) :
    Reconciled parent desired lastKnown r.cancelled
      ((reconcile parent desired lastKnown).calls provider r)
      ((reconcile parent desired lastKnown).run provider r).1 := by
  rw [reconcile_eq]
  obtain ⟨cs, answer, r', hlist, -, hrun, hcalls⟩ := Pass.exists_asked provider parent .list (fun
    | .error f => .done (.unchanged (.ofList lastKnown) (some f))
    | .ok listed => carryOut parent (plan (.ofList desired) (.ofList listed))
        (.unchanged (.ofList listed) none)) r
  rw [hrun, hcalls]
  cases answer with
  | error f =>
    rw [Pass.calls_done, List.append_nil]
    exact .unlisted hlist
  | ok listed =>
    obtain ⟨hcarried, hcounted⟩ := carried_carryOut provider parent
      (plan (.ofList desired) (.ofList listed)) (.unchanged (.ofList listed) none) r' rfl
    exact .listed hlist hcarried hcounted

end Attachment

end IamConvergence
