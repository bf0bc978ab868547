/-
Passes against a store of one membership whose calls may fail without effect, or be given up before
or after their effect. The reported membership is the live one after every pass that could list it;
only the member of a call that was given up after its effect may be missed.

What carries over a plan, call by call, is that the counted members are the live ones.
-/
import IamConvergence.Proofs.Attachment.Plan
import IamConvergence.Proofs.Ordered.IdSet
import IamConvergence.Proofs.Pass.Service

namespace IamConvergence

/-! ## The store -/

namespace Membership

/-- What a store of a membership answers, and what becomes of its live list. -/
def serves : Service AttachmentRequest AttachmentRequest.Answer (List String)
  | .list, live, answer, live' => answer = .ok live ∧ live' = live
  | .attach id, live, answer, live' =>
    answer = .ok () ∧ live' = if id ∈ live then live else live ++ [id]
  | .detach id, live, answer, live' =>
    if id ∈ live then answer = .ok () ∧ live' = live.filter (· != id)
    else live' = live ∧ ∃ f, f.isNotFound = true ∧ answer = .error f

/-- Any fault may be made up, but a member that is attached is never said not to be. -/
def admits : AttachmentRequest → List String → Fault → Prop
  | .detach id, live, f => id ∈ live → f.isNotFound = false
  | .list, _, _ | .attach _, _, _ => True

instance : ∀ q live f, Decidable (admits q live f)
  | .detach id, live, f => inferInstanceAs (Decidable (id ∈ live → f.isNotFound = false))
  | .list, _, _ | .attach _, _, _ => isTrue trivial

/-- The plain effect of a request. -/
def step : (q : AttachmentRequest) → List String → Except Fault q.Answer × List String
  | .list, live => (.ok live, live)
  | .attach id, live => (.ok (), if id ∈ live then live else live ++ [id])
  | .detach id, live =>
    if id ∈ live then (.ok (), live.filter (· != id))
    else (.error (.notFound id "not attached"), live)

theorem serves_step (q : AttachmentRequest) (live : List String) :
    serves q live (step q live).1 (step q live).2 := by
  cases q with
  | list => exact ⟨rfl, rfl⟩
  | attach id => exact ⟨rfl, rfl⟩
  | detach id =>
    by_cases hid : id ∈ live
    · simp [serves, step, hid]
    · simp [serves, step, hid, Fault.isNotFound]

/-- A membership store that follows a schedule. -/
abbrev scheduled : Unreliable serves admits (List String × List Disturbance) :=
  .ofSchedule serves admits step serves_step

variable {q : AttachmentRequest} {live live' : List String} {answer : Except Fault q.Answer}

theorem mem_of_serves (h : serves q live answer live') (x : String) :
    x ∈ live' ↔ (x ∈ live ∧ q.detached? ≠ some x) ∨ q.attached? = some x := by
  cases q with
  | list =>
    obtain ⟨-, rfl⟩ := h
    simp [AttachmentRequest.detached?, AttachmentRequest.attached?]
  | attach id =>
    obtain ⟨-, rfl⟩ := h
    by_cases hid : id ∈ live
    · simp only [if_pos hid, AttachmentRequest.detached?, AttachmentRequest.attached?]
      grind
    · simp only [if_neg hid, AttachmentRequest.detached?, AttachmentRequest.attached?]
      grind
  | detach id =>
    by_cases hid : id ∈ live
    · simp only [serves, if_pos hid] at h
      obtain ⟨-, rfl⟩ := h
      simp only [AttachmentRequest.detached?, AttachmentRequest.attached?]
      grind
    · simp only [serves, if_neg hid] at h
      obtain ⟨rfl, -⟩ := h
      simp only [AttachmentRequest.detached?, AttachmentRequest.attached?]
      grind

/-- The effect of a request is on its own member. -/
theorem changed_iff (h : serves q live answer live') (hne : live' ≠ live) :
    ∃ id, q.id? = some id ∧ ∀ x, (x ∈ live ↔ x ∈ live') ↔ x ≠ id := by
  cases q with
  | list => exact absurd h.2 hne
  | attach id =>
    refine ⟨id, rfl, fun x => ?_⟩
    obtain ⟨-, rfl⟩ := h
    by_cases hid : id ∈ live
    · exact absurd (if_pos hid) hne
    · simp only [if_neg hid]
      grind
  | detach id =>
    refine ⟨id, rfl, fun x => ?_⟩
    by_cases hid : id ∈ live
    · simp only [serves, if_pos hid] at h
      obtain ⟨-, rfl⟩ := h
      grind
    · simp only [serves, if_neg hid] at h
      exact absurd h.1 hne

/-! ## One call -/

variable {τ : Type}

/-- After a call that was tolerated the counted members are the live ones. -/
theorem mem_settle_iff {resource : String} {reply : Reply q.Answer} {o : AttachmentOutcome}
    (h : Disturbed serves admits q live reply live')
    (ht : q.tolerates (reply.answer resource) = true) (ho : ∀ x, x ∈ o.attached ↔ x ∈ live) :
    ∀ x, x ∈ (o.settle q).attached ↔ x ∈ live' := by
  intro x
  rw [o.mem_settle q x, ho x]
  cases h with
  | served cancelled hs => exact (mem_of_serves hs x).symm
  | @failed f cancelled hf =>
    cases q with
    | list => cases ht
    | attach id => cases ht
    | detach id =>
      -- what is said not to be attached is not
      have hid : id ∉ live := fun hid => by
        have hnot : f.isNotFound = true := ht
        rw [hf hid] at hnot
        cases hnot
      simp only [AttachmentRequest.detached?, AttachmentRequest.attached?]
      grind
  | lost => rw [Reply.answer_abandoned, q.not_tolerates_cancelled] at ht; cases ht
  | unacknowledged => rw [Reply.answer_abandoned, q.not_tolerates_cancelled] at ht; cases ht

/-- A call that was not tolerated changed nothing, or it was given up after its effect. -/
theorem unchanged_or_abandoned {resource : String} {reply : Reply q.Answer}
    (h : Disturbed serves admits q live reply live')
    (ht : q.tolerates (reply.answer resource) = false) :
    live' = live ∨ reply = .abandoned ∧ ∃ answer, serves q live answer live' := by
  cases h with
  | @served answer _ cancelled hs =>
    left
    cases q with
    | list => exact hs.2
    | attach id => obtain ⟨rfl, -⟩ := hs; cases ht
    | detach id =>
      by_cases hid : id ∈ live
      · simp only [serves, if_pos hid] at hs
        obtain ⟨rfl, -⟩ := hs
        cases ht
      · simp only [serves, if_neg hid] at hs
        exact hs.1
  | failed => exact .inl rfl
  | lost => exact .inl rfl
  | unacknowledged hs => exact .inr ⟨rfl, _, hs⟩

/-! ## Reports -/

/-- The call that ended a pass was given up, and took effect. -/
def Unreported (u : Unreliable serves admits τ) (cs : List (AttachmentCall τ))
    (c : AttachmentCall τ) : Prop :=
  cs.getLast? = some c ∧ c.reply.isAbandoned = true ∧ u.Effective c

/-- An outcome reports the live members; of an unreported call it misses the member, and no other. -/
structure Reports (u : Unreliable serves admits τ) (cs : List (AttachmentCall τ))
    (o : AttachmentOutcome) (t : τ) : Prop where
  live : (¬∃ c, Unreported u cs c) → o.attached = .ofList (u.live t)
  missed : ∀ c, Unreported u cs c →
    ∃ id, c.request.id? = some id ∧ ∀ x, (x ∈ o.attached ↔ x ∈ u.live t) ↔ x ≠ id

variable {u : Unreliable serves admits τ} {cs : List (AttachmentCall τ)} {o : AttachmentOutcome}
  {t : τ}

theorem reports_nil (h : ∀ x, x ∈ o.attached ↔ x ∈ u.live t) : Reports u [] o t :=
  ⟨fun _ => IdSet.ext_mem fun x => (h x).trans IdSet.mem_ofList.symm, fun _ hc => nomatch hc.1⟩

/-- The last call of a pass. -/
theorem reports_last {c : AttachmentCall τ} (h : ∀ x, x ∈ o.attached ↔ x ∈ u.live c.before)
    (hc : u.live c.after = u.live c.before ∨ c.reply.isAbandoned = true ∧
      ∃ answer, serves c.request (u.live c.before) answer (u.live c.after)) :
    Reports u [c] o c.after := by
  constructor
  · intro hnone
    have hkept : u.live c.after = u.live c.before := by
      rcases hc with hc | ⟨habandoned, -⟩
      · exact hc
      · by_cases heffect : u.Effective c
        · exact absurd ⟨c, rfl, habandoned, heffect⟩ hnone
        · exact Decidable.not_not.mp heffect
    rw [hkept]
    exact IdSet.ext_mem fun x => (h x).trans IdSet.mem_ofList.symm
  · rintro d ⟨hd, -, heffect⟩
    obtain rfl : c = d := by simpa using hd
    rcases hc with hc | ⟨-, answer, hserves⟩
    · exact absurd hc heffect
    · obtain ⟨id, hid, hdiff⟩ := changed_iff hserves heffect
      exact ⟨id, hid, fun x => by rw [h x]; exact hdiff x⟩

theorem Reports.cons {c : AttachmentCall τ} (h : Reports u cs o t)
    (hc : c.reply.isAbandoned = false) : Reports u (c :: cs) o t := by
  have hiff : ∀ d, Unreported u (c :: cs) d ↔ Unreported u cs d := by
    intro d
    unfold Unreported
    cases cs with
    | nil =>
      constructor
      · rintro ⟨hd, habandoned, -⟩
        obtain rfl : c = d := by simpa using hd
        rw [hc] at habandoned; cases habandoned
      · rintro ⟨hd, -⟩; cases hd
    | cons c' cs => rw [List.getLast?_cons_cons]
  exact ⟨fun hnone => h.live fun ⟨d, hd⟩ => hnone ⟨d, (hiff d).mpr hd⟩,
    fun d hd => h.missed d ((hiff d).mp hd)⟩

theorem not_abandoned_of_tolerates {resource : String} {reply : Reply q.Answer}
    (ht : q.tolerates (reply.answer resource) = true) : reply.isAbandoned = false := by
  cases reply with
  | completed => rfl
  | abandoned => rw [Reply.answer_abandoned, q.not_tolerates_cancelled] at ht; cases ht

theorem Reports.ending (h : Reports u cs o t) (fault : Option Fault) :
    Reports u cs (o.ending fault) t :=
  ⟨h.live, h.missed⟩

/-- Carrying out a plan from a reported membership reports. -/
theorem reports_of_carried {parent : String} {cancelled : Bool} {qs : List AttachmentRequest}
    {fault : Option Fault} (h : Attachment.Carried parent cancelled qs cs fault) :
    ∀ {o : AttachmentOutcome} {t t' : τ}, Call.Lead t cs t' → (∀ c ∈ cs, u.Explains c) →
      (∀ x, x ∈ o.attached ↔ x ∈ u.live t) →
      Reports u cs (((cs.filter AttachmentCall.tolerated).map (·.request)).foldl .settle o) t' := by
  induction h with
  | finished =>
    rintro o t t' hlead - ho
    cases hlead
    exact reports_nil ho
  | cancelled =>
    rintro o t t' hlead - ho
    cases hlead
    exact reports_nil ho
  | refused c qs f answer hc =>
    rintro o t t' ⟨rfl, rfl⟩ hexplains ho
    rw [List.filter_cons_of_neg (by simp [hc])]
    -- the only call that may have gone unreported
    refine reports_last ho ?_
    rcases unchanged_or_abandoned (hexplains c List.mem_cons_self) hc with hkept | ⟨habandoned, hs⟩
    · exact .inl hkept
    · exact .inr ⟨congrArg Reply.isAbandoned habandoned, hs⟩
  | settled c hc rest ih =>
    rintro o t t' ⟨rfl, hlead⟩ hexplains ho
    rw [List.filter_cons_of_pos hc, List.map_cons, List.foldl_cons]
    have hlive := mem_settle_iff (hexplains c List.mem_cons_self) hc ho
    have hrest := ih hlead (fun d hd => hexplains d (List.mem_cons_of_mem _ hd)) hlive
    exact hrest.cons (not_abandoned_of_tolerates hc)

/-- The listing of a pass completed. -/
def Listed (cs : List (AttachmentCall τ)) : Prop :=
  ∃ c ∈ cs, c.request = .list ∧ ∃ listed, c.answer = .ok listed

theorem listed_of_answer {allows : AttachmentRequest → List String → Fault → Prop}
    {resource : String} {reply : Reply (AttachmentRequest.Answer .list)} {listed : List String}
    (h : Disturbed serves allows .list live reply live') (hok : reply.answer resource = .ok listed) :
    listed = live ∧ live' = live ∧ reply.isAbandoned = false := by
  cases h with
  | served cancelled hs =>
    obtain ⟨rfl, rfl⟩ := hs
    cases hok
    exact ⟨rfl, rfl, rfl⟩
  | failed => cases hok
  | lost => cases hok
  | unacknowledged => cases hok

/-- One pass from any state. -/
theorem reports_reconcile (u : Unreliable serves admits τ) (parent : String)
    (desired lastKnown : List String) (r : Run τ) :
    let p := Attachment.reconcile parent desired lastKnown
    Listed (p.calls u.provider r) →
      Reports u (p.calls u.provider r) (p.run u.provider r).1 (p.run u.provider r).2.state := by
  intro p hlisted
  simp only [p, Attachment.reconcile_eq] at hlisted ⊢
  cases hr : r.cancelled with
  | true =>
    rw [Pass.calls_ask_cancelled _ _ _ _ hr] at hlisted
    obtain ⟨c, hc, -⟩ := hlisted
    cases hc
  | false =>
    rw [Pass.calls_ask_made _ _ _ _ hr] at hlisted ⊢
    rw [Pass.run_ask_made _ _ _ _ hr]
    have hcall := u.disturbed .list r.state
    cases hanswer : (u.provider .list r.state).1.answer parent with
    | error f =>
      rw [hanswer] at hlisted
      obtain ⟨c, hc, -, listed, hok⟩ := hlisted
      obtain rfl := List.mem_singleton.mp hc
      cases hanswer.symm.trans hok
    | ok listed =>
      obtain ⟨hlisted, hkept, hcompleted⟩ := listed_of_answer hcall hanswer
      refine Reports.cons ?_ hcompleted
      obtain ⟨hcarried, ho⟩ := Attachment.carried_carryOut u.provider parent
        (Attachment.plan (.ofList desired) (.ofList listed)) (.unchanged (.ofList listed) none)
        (Pass.made u.provider .list r) rfl
      rw [ho]
      refine Reports.ending ?_ _
      refine reports_of_carried hcarried (Pass.lead_calls ..) (u.explains_calls _ _) fun x => ?_
      rw [Pass.made_state, hkept, ← hlisted]
      exact IdSet.mem_ofList

/-- After every pass of a series whose listing completed, the outcome tells the live members; only
when the last call was given up after its effect does it miss the member of that call. -/
theorem series_reports (u : Unreliable serves admits τ) (parent : String)
    (inputs : List ((List String × List String) × Bool)) (t : τ) :
    ∀ e ∈ Pass.series u.provider (fun i => Attachment.reconcile parent i.1 i.2) inputs t,
      Listed e.calls → Reports u e.calls e.result e.after :=
  Pass.series_forall (I := fun _ => True)
    (fun input cancelled s _ => ⟨trivial, reports_reconcile u parent input.1 input.2 ⟨cancelled, s⟩⟩)
    inputs t trivial

/-- The attaching of `a` takes effect without being acknowledged, and is missed. -/
theorem series_reports_unacknowledged :
    let e := Pass.episode scheduled.provider (fun i => Attachment.reconcile "role" i.1 i.2)
      (["a", "b"], []) false (["b", "c"], [.none false, .none false, .unacknowledged])
    Listed e.calls ∧ e.result.attached.toList = ["b"] ∧ e.after.1 = ["b", "a"] ∧
      Reports scheduled e.calls e.result e.after := by
  intro e
  have hlisted : Listed e.calls := ⟨_, List.mem_cons_self, rfl, _, rfl⟩
  exact ⟨hlisted, by decide, by decide,
    series_reports scheduled "role" [((["a", "b"], []), false)] _ e List.mem_cons_self hlisted⟩

end Membership

end IamConvergence
