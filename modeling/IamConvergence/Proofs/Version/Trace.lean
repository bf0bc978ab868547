/-
How a pass over a document's versions may go, against any provider: the rules tell the calls that
are made, in order, and the outcome that they leave. The versions in hand while room is made are the
listed ones without the deleted ones, so each rule names them.
-/
import IamConvergence.Proofs.Pass.Trace
import IamConvergence.Version.Reconcile

namespace IamConvergence

/-- A call about the versions of a document. -/
abbrev VersionCall (σ : Type) : Type := Call VersionRequest VersionRequest.Answer σ

namespace Version

variable {σ : Type} {parent desired current : String} {bound : Nat}

/-! ## Making room -/

/-- What is left by the answer to a creation. -/
def creation (current : String) (evicted : List String) : Except Fault String → VersionOutcome
  | .ok id => ⟨some id, true, evicted, none⟩
  | .error f => .failed (some current) evicted f

/-- How versions may be deleted and a new one created: whether a cancellation has arrived, the
versions in hand, those deleted so far, the calls that are made and the outcome. -/
inductive Evicting (parent desired current : String) (bound : Nat) :
    Bool → List DocumentVersion → List String → List (VersionCall σ) → VersionOutcome → Prop where
  | stopped {history : List DocumentVersion} (evicted : List String)
    (h : history.length < bound ∨ (evictionCandidate? history bound).isSome) :
    Evicting parent desired current bound true history evicted []
      (.failed (some current) evicted (.cancelled parent))
  | crowded (cancelled : Bool) {history : List DocumentVersion} (evicted : List String)
    (h : bound ≤ history.length) (none : evictionCandidate? history bound = none) :
    Evicting parent desired current bound cancelled history evicted []
      (.failed (some current) evicted (Version.crowded parent history.length bound))
  | created {history : List DocumentVersion} (evicted : List String) (reply : Reply String)
    (s s' : σ) (h : history.length < bound) :
    Evicting parent desired current bound false history evicted
      [⟨parent, .create desired, reply, s, s'⟩] (creation current evicted (reply.answer parent))
  | kept {history : List DocumentVersion} (evicted : List String) {v : DocumentVersion}
    (reply : Reply Unit) (s s' : σ) {f : Fault} (h : bound ≤ history.length)
    (candidate : evictionCandidate? history bound = some v)
    (answer : removalFault? (reply.answer parent) = some f) :
    Evicting parent desired current bound false history evicted
      [⟨parent, .delete v.id, reply, s, s'⟩] (.failed (some current) evicted f)
  | deleted {history : List DocumentVersion} {evicted : List String} {v : DocumentVersion}
    (reply : Reply Unit) (s s' : σ) {cs : List (VersionCall σ)} {o : VersionOutcome}
    (h : bound ≤ history.length) (candidate : evictionCandidate? history bound = some v)
    (answer : removalFault? (reply.answer parent) = none)
    (rest : Evicting parent desired current bound reply.cancels (without v.id history)
      (evicted ++ [v.id]) cs o) :
    Evicting parent desired current bound false history evicted
      (⟨parent, .delete v.id, reply, s, s'⟩ :: cs) o

theorem create_eq (parent desired current : String) (evicted : List String) :
    create parent desired current evicted =
      .ask parent (.create desired) fun answer => .done (creation current evicted answer) := by
  unfold create
  congr 1
  funext answer
  cases answer <;> rfl

/-- The versions that have none of some ids. -/
def withoutAll (ids : List String) (history : List DocumentVersion) : List DocumentVersion :=
  history.filter (·.id ∉ ids)

theorem withoutAll_nil (history : List DocumentVersion) : withoutAll [] history = history := by
  simp [withoutAll]

theorem without_withoutAll (id : String) (ids : List String) (history : List DocumentVersion) :
    without id (withoutAll ids history) = withoutAll (ids ++ [id]) history := by
  rw [without, withoutAll, List.filter_filter, withoutAll]
  refine List.filter_congr fun v _ => ?_
  rw [Bool.eq_iff_iff]
  simp [and_comm]

theorem withoutAll_without (id : String) (ids : List String) (history : List DocumentVersion) :
    withoutAll ids (without id history) = withoutAll (id :: ids) history := by
  rw [without, withoutAll, List.filter_filter, withoutAll]
  refine List.filter_congr fun v _ => ?_
  rw [Bool.eq_iff_iff]
  simp [and_comm]

/-- Where there is no room and no candidate, only the default is left. -/
theorem isDefault_of_no_candidate {history : List DocumentVersion}
    (hfull : bound ≤ history.length) (hnone : evictionCandidate? history bound = none) :
    ∀ v ∈ history, v.isDefault = true := by
  rw [evictionCandidate?, if_neg (Nat.not_lt.mpr hfull)] at hnone
  intro v hv
  cases hothers : history.filter (!·.isDefault) with
  | nil => simpa using List.filter_eq_nil_iff.mp hothers v hv
  | cons w ws =>
    rw [hothers] at hnone
    cases hnone

section

variable {history : List DocumentVersion} (evicted : List String)

theorem evict_of_room (hroom : history.length < bound) :
    evict parent desired current bound history evicted =
      create parent desired current evicted := by
  rw [evict, if_pos hroom]

theorem evict_of_candidate {v : DocumentVersion} (hfull : bound ≤ history.length)
    (hv : evictionCandidate? history bound = some v) :
    evict parent desired current bound history evicted =
      .ask parent (.delete v.id) fun answer =>
        match removalFault? answer with
        | none => evict parent desired current bound (without v.id history) (evicted ++ [v.id])
        | some f => .done (.failed (some current) evicted f) := by
  rw [evict, if_neg (Nat.not_lt.mpr hfull)]
  split
  · rename_i hnone
    cases hv.symm.trans hnone
  · rename_i w hw
    cases hv.symm.trans hw
    rfl

theorem evict_of_crowded (hfull : bound ≤ history.length)
    (hnone : evictionCandidate? history bound = none) :
    evict parent desired current bound history evicted =
      .done (.failed (some current) evicted (crowded parent history.length bound)) := by
  rw [evict, if_neg (Nat.not_lt.mpr hfull)]
  split
  · rfl
  · rename_i w hw
    cases hnone.symm.trans hw

end

/-- Room is made as the rules say. -/
theorem evicting_evict (provider : Provider VersionRequest VersionRequest.Answer σ)
    (parent desired current : String) (bound : Nat) (history : List DocumentVersion)
    (evicted : List String) (r : Run σ) :
    Evicting parent desired current bound r.cancelled history evicted
      ((evict parent desired current bound history evicted).calls provider r)
      ((evict parent desired current bound history evicted).run provider r).1 := by
  -- by the number of versions in hand, of which each deletion leaves fewer
  rw [evict]
  by_cases hroom : history.length < bound
  · rw [if_pos hroom, create_eq]
    cases hr : r.cancelled with
    | true =>
      rw [Pass.calls_ask_cancelled _ _ _ _ hr, Pass.run_ask_cancelled _ _ _ _ hr]
      exact .stopped evicted (.inl hroom)
    | false =>
      rw [Pass.calls_ask_made _ _ _ _ hr, Pass.run_ask_made _ _ _ _ hr]
      exact .created evicted _ _ _ hroom
  · rw [if_neg hroom]
    have hfull : bound ≤ history.length := Nat.le_of_not_lt hroom
    split
    · rename_i hnone
      exact .crowded r.cancelled evicted hfull hnone
    · rename_i v hv
      cases hr : r.cancelled with
      | true =>
        rw [Pass.calls_ask_cancelled _ _ _ _ hr, Pass.run_ask_cancelled _ _ _ _ hr]
        exact .stopped evicted (.inr (by rw [hv]; rfl))
      | false =>
        rw [Pass.calls_ask_made _ _ _ _ hr, Pass.run_ask_made _ _ _ _ hr]
        cases hanswer : removalFault? ((provider (.delete v.id) r.state).1.answer parent) with
        | some f => exact .kept evicted _ _ _ hfull hv hanswer
        | none =>
          have rest := evicting_evict provider parent desired current bound (without v.id history)
            (evicted ++ [v.id]) (Pass.made provider (.delete v.id) r)
          rw [Pass.made_cancelled provider _ hr] at rest
          exact .deleted _ _ _ hfull hv hanswer rest
termination_by history.length
decreasing_by exact length_without_lt (mem_of_evictionCandidate? ‹_›).1

/-! ## The whole pass -/

/-- How a pass may go: whether a cancellation has arrived, the calls that are made and the
outcome. -/
inductive Reconciled (parent desired : String) (bound : Nat) :
    Bool → List (VersionCall σ) → VersionOutcome → Prop where
  | skipped : Reconciled parent desired bound true [] (.failed none [] (.cancelled parent))
  | unread (get : Reply DocumentVersion) (s s' : σ) {f : Fault}
    (answer : get.answer parent = .error f) :
    Reconciled parent desired bound false [⟨parent, .getDefault, get, s, s'⟩] (.failed none [] f)
  | unchanged (get : Reply DocumentVersion) (s s' : σ) {v : DocumentVersion}
    (answer : get.answer parent = .ok v) (h : documentsEqual (v.content.getD "") desired = true) :
    Reconciled parent desired bound false [⟨parent, .getDefault, get, s, s'⟩]
      ⟨some v.id, false, [], none⟩
  | stopped (get : Reply DocumentVersion) (s s' : σ) {v : DocumentVersion}
    (answer : get.answer parent = .ok v) (h : documentsEqual (v.content.getD "") desired = false)
    (cancels : get.cancels = true) :
    Reconciled parent desired bound false [⟨parent, .getDefault, get, s, s'⟩]
      (.failed (some v.id) [] (.cancelled parent))
  | unlisted (get : Reply DocumentVersion) (s s' : σ) {v : DocumentVersion}
    (answer : get.answer parent = .ok v) (h : documentsEqual (v.content.getD "") desired = false)
    (cancels : get.cancels = false) (list : Reply (List DocumentVersion)) (l l' : σ) {f : Fault}
    (listed : list.answer parent = .error f) :
    Reconciled parent desired bound false
      [⟨parent, .getDefault, get, s, s'⟩, ⟨parent, .list, list, l, l'⟩] (.failed (some v.id) [] f)
  | listed (get : Reply DocumentVersion) (s s' : σ) {v : DocumentVersion}
    (answer : get.answer parent = .ok v) (h : documentsEqual (v.content.getD "") desired = false)
    (cancels : get.cancels = false) (list : Reply (List DocumentVersion)) (l l' : σ)
    {history : List DocumentVersion} (listed : list.answer parent = .ok history)
    {cs : List (VersionCall σ)} {o : VersionOutcome}
    (rest : Evicting parent desired v.id bound list.cancels history [] cs o) :
    Reconciled parent desired bound false
      (⟨parent, .getDefault, get, s, s'⟩ :: ⟨parent, .list, list, l, l'⟩ :: cs) o

/-- A pass goes as the rules say. -/
theorem reconciled (provider : Provider VersionRequest VersionRequest.Answer σ)
    (parent desired : String) (bound : Nat) (r : Run σ) :
    Reconciled parent desired bound r.cancelled ((reconcile parent desired bound).calls provider r)
      ((reconcile parent desired bound).run provider r).1 := by
  unfold reconcile
  cases hr : r.cancelled with
  | true =>
    rw [Pass.calls_ask_cancelled _ _ _ _ hr, Pass.run_ask_cancelled _ _ _ _ hr]
    exact .skipped
  | false =>
    rw [Pass.calls_ask_made _ _ _ _ hr, Pass.run_ask_made _ _ _ _ hr]
    have hget := Pass.made_cancelled provider .getDefault hr
    cases hanswer : (provider .getDefault r.state).1.answer parent with
    | error f => exact .unread _ _ _ hanswer
    | ok v =>
      cases heq : documentsEqual (v.content.getD "") desired with
      | true =>
        simp only [heq, if_true]
        exact .unchanged _ _ _ hanswer heq
      | false =>
        simp only [heq, Bool.false_eq_true, if_false]
        cases hr' : (Pass.made provider .getDefault r).cancelled with
        | true =>
          rw [Pass.calls_ask_cancelled _ _ _ _ hr', Pass.run_ask_cancelled _ _ _ _ hr']
          exact .stopped _ _ _ hanswer heq (hget.symm.trans hr')
        | false =>
          rw [Pass.calls_ask_made _ _ _ _ hr', Pass.run_ask_made _ _ _ _ hr']
          cases hlist : (provider .list (Pass.made provider .getDefault r).state).1.answer parent with
          | error f => exact .unlisted _ _ _ hanswer heq (hget.symm.trans hr') _ _ _ hlist
          | ok history =>
            have rest := evicting_evict provider parent desired v.id bound history []
              (Pass.made provider .list (Pass.made provider .getDefault r))
            rw [Pass.made_cancelled provider _ hr'] at rest
            exact .listed _ _ _ hanswer heq (hget.symm.trans hr') _ _ _ hlist rest

/-! ## Passes that created -/

/-- The last call of some calls created a version with the desired content. -/
def CreatedLast (parent desired : String) (cs : List (VersionCall σ)) (id : String) : Prop :=
  ∃ reply s s', cs.getLast? = some ⟨parent, .create desired, reply, s, s'⟩ ∧
    reply.answer parent = .ok id

theorem CreatedLast.cons {cs : List (VersionCall σ)} {id : String}
    (h : CreatedLast parent desired cs id) (c : VersionCall σ) :
    CreatedLast parent desired (c :: cs) id := by
  obtain ⟨reply, s, s', hlast, hanswer⟩ := h
  cases cs with
  | nil => cases hlast
  | cons d cs => exact ⟨reply, s, s', by rw [List.getLast?_cons_cons]; exact hlast, hanswer⟩

theorem Evicting.created_of_changed {cancelled : Bool} {history : List DocumentVersion}
    {evicted : List String} {cs : List (VersionCall σ)} {o : VersionOutcome}
    (h : Evicting parent desired current bound cancelled history evicted cs o)
    (hchanged : o.changed = true) :
    ∃ id, o.versionId = some id ∧ CreatedLast parent desired cs id := by
  induction h with
  | stopped => cases hchanged
  | crowded => cases hchanged
  | kept => cases hchanged
  | created evicted reply s s' hroom =>
    cases hanswer : reply.answer parent with
    | error f => rw [hanswer] at hchanged; cases hchanged
    | ok id => exact ⟨id, rfl, reply, s, s', rfl, hanswer⟩
  | deleted reply s s' hfull candidate answer rest ih =>
    obtain ⟨id, hid, hlast⟩ := ih hchanged
    exact ⟨id, hid, hlast.cons _⟩

/-- A pass that changed the document ended with the creation that it reports. -/
theorem Reconciled.created_of_changed {cancelled : Bool} {cs : List (VersionCall σ)}
    {o : VersionOutcome} (h : Reconciled parent desired bound cancelled cs o)
    (hchanged : o.changed = true) :
    ∃ id, o.versionId = some id ∧ CreatedLast parent desired cs id := by
  cases h with
  | skipped => cases hchanged
  | unread => cases hchanged
  | unchanged => cases hchanged
  | stopped => cases hchanged
  | unlisted => cases hchanged
  | listed get s s' answer heq cancels list l l' listed rest =>
    obtain ⟨id, hid, hlast⟩ := rest.created_of_changed hchanged
    exact ⟨id, hid, (hlast.cons _).cons _⟩

/-- Once room has to be made, a pass without a fault creates. -/
theorem Evicting.changed_of_fault_eq_none {cancelled : Bool} {history : List DocumentVersion}
    {evicted : List String} {cs : List (VersionCall σ)} {o : VersionOutcome}
    (h : Evicting parent desired current bound cancelled history evicted cs o)
    (hnone : o.fault = none) : o.changed = true := by
  induction h with
  | stopped => cases hnone
  | crowded => cases hnone
  | kept => cases hnone
  | created evicted reply s s' hroom =>
    cases hanswer : reply.answer parent with
    | error f => rw [hanswer] at hnone; cases hnone
    | ok id => rfl
  | deleted reply s s' hfull candidate answer rest ih => exact ih hnone

/-- A pass without a fault found the desired content, or it ended with its creation. -/
theorem Reconciled.of_fault_eq_none {cancelled : Bool} {cs : List (VersionCall σ)}
    {o : VersionOutcome} (h : Reconciled parent desired bound cancelled cs o)
    (hnone : o.fault = none) :
    (∃ get s s' v, cs = [⟨parent, .getDefault, get, s, s'⟩] ∧ get.answer parent = .ok v ∧
        documentsEqual (v.content.getD "") desired = true ∧ o.versionId = some v.id) ∨
      ∃ id, o.versionId = some id ∧ CreatedLast parent desired cs id := by
  cases h with
  | skipped => cases hnone
  | unread => cases hnone
  | stopped => cases hnone
  | unlisted => cases hnone
  | unchanged get s s' answer heq => exact .inl ⟨get, s, s', _, rfl, answer, heq, rfl⟩
  | listed get s s' answer heq cancels list l l' listed rest =>
    obtain ⟨id, hid, hlast⟩ := rest.created_of_changed (rest.changed_of_fault_eq_none hnone)
    exact .inr ⟨id, hid, (hlast.cons _).cons _⟩

end Version

end IamConvergence
