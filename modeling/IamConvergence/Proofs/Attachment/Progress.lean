/-
Passes over a membership only make progress. A call attaches what is desired or detaches what is not,
so whatever becomes of it, where the live members agree with the desired ones they keep agreeing.
That carries over to every moment of a series of passes, wherever they are cut off: nothing strange
appears, nothing desired goes, and no member is moved twice.

A pass without a fault to which no attached member was denied has reached what is desired, and the
passes after it only list.
-/
import Mathlib.Data.Finset.Card
import Mathlib.Data.Finset.SymmDiff
import IamConvergence.Proofs.Attachment.Accounting
import IamConvergence.Proofs.Attachment.Membership

namespace IamConvergence.Membership

open AttachmentCall (tolerated)
open Attachment (Carried Reconciled)

variable {desired live live' live'' : List String} {id parent : String} {q : AttachmentRequest}
  {allows : AttachmentRequest → List String → Fault → Prop} {τ : Type}

/-! ## Closer to what is desired -/

/-- The requests of passes towards some members: they attach no other and detach none of them. -/
def Apt (desired : List String) : AttachmentRequest → Prop
  | .list => True
  | .attach id => id ∈ desired
  | .detach id => id ∉ desired

/-- Where live members agreed with the desired ones, they still do. -/
def Closer (desired live live' : List String) : Prop :=
  ∀ id, (id ∈ live ↔ id ∈ desired) → (id ∈ live' ↔ id ∈ desired)

theorem Closer.trans (h : Closer desired live live') (h' : Closer desired live' live'') :
    Closer desired live live'' :=
  fun id hid => h' id (h id hid)

theorem closer_of_serves {answer : Except Fault q.Answer} (h : serves q live answer live')
    (hq : Apt desired q) : Closer desired live live' := by
  intro id hid
  rw [mem_of_serves h id, hid]
  cases q with
  | list => simp [AttachmentRequest.detached?, AttachmentRequest.attached?]
  | attach x =>
    have hx : x ∈ desired := hq
    simp only [AttachmentRequest.detached?, AttachmentRequest.attached?]
    grind
  | detach x =>
    have hx : x ∉ desired := hq
    simp only [AttachmentRequest.detached?, AttachmentRequest.attached?]
    grind

theorem closer_of_disturbed {reply : Reply q.Answer} (h : Disturbed serves allows q live reply live')
    (hq : Apt desired q) : Closer desired live live' := by
  rcases h.eq_or_served with rfl | ⟨answer, hs⟩
  · exact fun _ hid => hid
  · exact closer_of_serves hs hq

/-- The ids on which the live and the desired members differ. -/
def differing (desired live : List String) : Finset String :=
  symmDiff live.toFinset desired.toFinset

theorem mem_differing : id ∈ differing desired live ↔ ¬(id ∈ live ↔ id ∈ desired) := by
  rw [differing, Finset.mem_symmDiff, List.mem_toFinset, List.mem_toFinset]
  tauto

theorem Closer.differing_subset (h : Closer desired live live') :
    differing desired live' ⊆ differing desired live := by
  intro id hid
  rw [mem_differing] at hid ⊢
  exact fun hagreed => hid (h id hagreed)

/-! ## Moves -/

/-- Whether an id is still to be moved. -/
def due (desired : List String) (id : String) (live : List String) : Nat :=
  if id ∈ differing desired live then 1 else 0

section

variable {u : Unreliable serves allows τ} {cs : List (AttachmentCall τ)} {c : AttachmentCall τ}
  {t t' : τ}

theorem effects_attach_add_detach (id : String) (cs : List (AttachmentCall τ)) :
    u.effects (· = .attach id) cs + u.effects (· = .detach id) cs =
      u.effects (·.id? = some id) cs := by
  induction cs with
  | nil => rfl
  | cons c cs ih =>
    unfold Unreliable.effects at ih ⊢
    simp only [List.countP_cons]
    rw [← ih]
    by_cases heffective : u.Effective c
    · cases c.request <;> simp [AttachmentRequest.id?, heffective] <;> omega
    · simp [heffective]

theorem due_le (h : Closer desired live live') (id : String) :
    due desired id live' ≤ due desired id live := by
  have hsub : id ∈ differing desired live' → id ∈ differing desired live :=
    fun hid => h.differing_subset hid
  unfold due
  grind

/-- A call that moves an id uses up that it was due. -/
theorem due_lt (hcall : u.Explains c) (hapt : Apt desired c.request)
    (hid : c.request.id? = some id) (heffective : u.Effective c) :
    due desired id (u.live c.after) < due desired id (u.live c.before) := by
  obtain ⟨answer, hs⟩ := hcall.eq_or_served.resolve_left heffective
  obtain ⟨x, hx, hchanged⟩ := changed_iff hs heffective
  obtain rfl : x = id := Option.some_inj.mp (hx.symm.trans hid)
  -- its membership changes, so it did not agree before and agrees now
  have hflip : ¬(x ∈ u.live c.before ↔ x ∈ u.live c.after) := fun h => (hchanged x).mp h rfl
  have hafter := closer_of_serves hs hapt x
  simp only [due, mem_differing]
  grind

/-- Calls that are apt move an id once at most. -/
theorem effects_le_one (hlead : Call.Lead t cs t') (hcalls : ∀ c ∈ cs, u.Explains c)
    (hapt : ∀ c ∈ cs, Apt desired c.request) (id : String) :
    u.effects (· = .attach id) cs + u.effects (· = .detach id) cs ≤ 1 := by
  have hbound : u.effects (·.id? = some id) cs + due desired id (u.live t') ≤
      due desired id (u.live t) :=
    Unreliable.effects_add_le (due desired id) hlead
      (fun c hc => due_le (closer_of_disturbed (hcalls c hc) (hapt c hc)) id)
      fun c hc => due_lt (hcalls c hc) (hapt c hc)
  have hdue : due desired id (u.live t) ≤ 1 := by
    unfold due
    split <;> omega
  rw [effects_attach_add_detach]
  omega

end

/-! ## Passes -/

section

variable {u : Unreliable serves allows τ} {cs : List (AttachmentCall τ)} {t t' : τ}

theorem apt_of_mem_plan {current : IdSet} (h : q ∈ Attachment.plan (.ofList desired) current) :
    Apt desired q := by
  rcases List.mem_append.mp h with h | h
  · obtain ⟨id, hid, rfl⟩ := List.mem_map.mp h
    exact fun hdesired => (IdSet.mem_diff.mp hid).2 (IdSet.mem_ofList.mpr hdesired)
  · obtain ⟨id, hid, rfl⟩ := List.mem_map.mp h
    exact IdSet.mem_ofList.mp (IdSet.mem_diff.mp hid).1

theorem apt_of_reconciled {lastKnown : List String} {cancelled : Bool} {o : AttachmentOutcome}
    (h : Reconciled parent desired lastKnown cancelled cs o) : ∀ c ∈ cs, Apt desired c.request := by
  have hlist : ∀ c : AttachmentCall τ, c.request = .list → Apt desired c.request := by
    intro c hc
    rw [hc]
    trivial
  intro c hc
  cases h with
  | unlisted list => exact hlist c (list.request_eq c hc)
  | listed list carried =>
    rcases List.mem_append.mp hc with hc | hc
    · exact hlist c (list.request_eq c hc)
    · exact apt_of_mem_plan (carried.planned.subset (List.mem_map_of_mem hc))

/-- The members that a pass goes on from are the live ones. -/
theorem listed_eq {cancelled cancelled' : Bool} {listed : List String}
    (hasked : Pass.Asked parent .list cancelled cs (.ok listed) cancelled')
    (hcourse : u.Course t cs t') : listed = u.live t ∧ u.live t' = u.live t := by
  obtain ⟨reply, s, s', rfl, hanswer⟩ := hasked.of_ok
  obtain ⟨rfl, rfl⟩ := hcourse.lead
  obtain ⟨hlisted, hkept, -⟩ :=
    listed_of_answer (hcourse.explained _ List.mem_cons_self) hanswer
  exact ⟨hlisted, hkept⟩

/-- A pass towards the members that are attached only lists. -/
theorem list_of_reconciled {lastKnown : List String} {cancelled : Bool} {o : AttachmentOutcome}
    (h : Reconciled parent desired lastKnown cancelled cs o) (hcourse : u.Course t cs t')
    (hlive : ∀ id, id ∈ u.live t ↔ id ∈ desired) : ∀ c ∈ cs, c.request = .list := by
  cases h with
  | unlisted list => exact list.request_eq
  | @listed _ cs ds listed _ list carried =>
    obtain ⟨m, hlisting, -⟩ := hcourse.split
    obtain ⟨rfl, -⟩ := listed_eq list hlisting
    have hsame : IdSet.ofList (u.live t) = .ofList desired :=
      IdSet.ext_mem fun id => by rw [IdSet.mem_ofList, IdSet.mem_ofList, hlive]
    have hplanned := carried.planned
    rw [hsame, Attachment.plan_self, List.prefix_nil, List.map_eq_nil_iff] at hplanned
    rw [hplanned, List.append_nil]
    exact list.request_eq

/-! ## Passes that reach what is desired -/

/-- It is denied that an attached member is attached. -/
def Denied (u : Unreliable serves allows τ) (c : AttachmentCall τ) : Prop :=
  ∃ id, c.request = .detach id ∧ id ∈ u.live c.before ∧ ∃ f, c.answer = .error f ∧
    f.isNotFound = true

/-- A call that does not deny what is attached is disturbed only as the store admits. -/
theorem admits_of_not_denied {c : AttachmentCall τ} (h : u.Explains c) (hnot : ¬Denied u c) :
    Disturbed serves admits c.request (u.live c.before) c.reply (u.live c.after) := by
  obtain ⟨resource, q, reply, s, s'⟩ := c
  have h : Disturbed serves allows q (u.live s) reply (u.live s') := h
  show Disturbed serves admits q (u.live s) reply (u.live s')
  generalize hlive : u.live s' = live' at h ⊢
  cases h with
  | served cancelled hs => exact .served cancelled hs
  | @failed f cancelled _ =>
    refine .failed cancelled ?_
    cases q with
    | list | attach => trivial
    | detach id =>
      intro hid
      rw [Bool.eq_false_iff]
      exact fun hnotFound => hnot ⟨id, rfl, hid, f, rfl, hnotFound⟩
  | lost => exact .lost
  | unacknowledged hs => exact .unacknowledged hs

theorem mem_of_tolerated {c : AttachmentCall τ} (h : u.Explains c) (hnot : ¬Denied u c)
    (ht : tolerated c = true) (id : String) :
    id ∈ u.live c.after ↔ (id ∈ u.live c.before ∧ c.request.detached? ≠ some id) ∨
      c.request.attached? = some id := by
  rw [← mem_settle_iff (o := .unchanged (.ofList (u.live c.before)) none)
    (admits_of_not_denied h hnot) ht (fun _ => IdSet.mem_ofList) id, AttachmentOutcome.mem_settle,
    AttachmentOutcome.unchanged, IdSet.mem_ofList]

theorem live_of_reconciled {lastKnown : List String} {cancelled : Bool} {o : AttachmentOutcome}
    (h : Reconciled parent desired lastKnown cancelled cs o) (hcourse : u.Course t cs t')
    (hnone : o.fault = none) (hnot : ∀ c ∈ cs, ¬Denied u c) (id : String) :
    id ∈ u.live t' ↔ id ∈ desired := by
  have hdesired : id ∈ IdSet.ofList desired ↔ id ∈ desired := IdSet.mem_ofList
  rw [← hdesired, ← h.reached hnone]
  cases h with
  | unlisted => cases hnone
  | @listed _ cs ds listed _ list carried counted =>
    obtain ⟨m, hlisting, hchanging⟩ := hcourse.split
    obtain ⟨rfl, hkept⟩ := listed_eq list hlisting
    have hall := (carried.fault_eq_none_iff.mp hnone).2
    rw [counted]
    refine (carried.members (P := fun s x => x ∈ u.live s) hchanging.lead (fun c hc ht => ?_)
      (fun c hc ht => ?_) (fun x => ?_) id).symm
    · exact mem_of_tolerated (hchanging.explained c hc) (hnot c (List.mem_append_right _ hc)) ht
    · rw [hall c hc] at ht
      cases ht
    · rw [hkept]
      exact IdSet.mem_ofList

end

/-! ## Series of passes -/

/-- A pass reports no fault, and no attached member was denied to it. -/
def Completed {ι : Type} (u : Unreliable serves allows τ)
    (e : Episode ι AttachmentRequest AttachmentRequest.Answer AttachmentOutcome τ) : Prop :=
  e.result.fault = none ∧ ∀ c ∈ e.calls, ¬Denied u c

/-- One pass from any state: its calls are apt, a completed one has reached what is desired, and one
that finds what is desired leaves it and only lists. -/
theorem episode_progress (u : Unreliable serves allows τ) (parent : String)
    (desired lastKnown : List String) (cancelled : Bool) (t : τ) :
    let e := Pass.episode u.provider (Attachment.reconcile parent desired) lastKnown cancelled t
    (∀ c ∈ e.calls, u.Explains c ∧ Apt desired c.request) ∧
      (Completed u e → ∀ id, id ∈ u.live e.after ↔ id ∈ desired) ∧
      ((∀ id, id ∈ u.live t ↔ id ∈ desired) →
        (∀ id, id ∈ u.live e.after ↔ id ∈ desired) ∧ ∀ c ∈ e.calls, c.request = .list) := by
  intro e
  have hpass : Reconciled parent desired lastKnown cancelled e.calls e.result :=
    Attachment.reconciled u.provider parent desired lastKnown ⟨cancelled, t⟩
  have hcourse : u.Course t e.calls e.after := u.course_calls _ ⟨cancelled, t⟩
  have hapt := apt_of_reconciled hpass
  refine ⟨fun c hc => ⟨hcourse.explained c hc, hapt c hc⟩,
    fun hcompleted => live_of_reconciled hpass hcourse hcompleted.1 hcompleted.2,
    fun hlive => ⟨?_, list_of_reconciled hpass hcourse hlive⟩⟩
  exact hcourse.lead.invariant (I := fun s => ∀ id, id ∈ u.live s ↔ id ∈ desired)
    (fun c hc hbefore id =>
      closer_of_disturbed (hcourse.explained c hc) (hapt c hc) id (hbefore id)) hlive

/-- Whatever faults are made up, wherever the passes are cancelled and whichever calls are given up:
at every moment what was attached and is desired is attached, and nothing is that was not and is not
desired; the ids on which the live and the desired members differ never become more; and every id is
attached or detached once at most. After a completed pass the desired members are attached, and all
passes that follow only list. -/
theorem series_progress (u : Unreliable serves allows τ) (parent : String) (desired : List String)
    (inputs : List (List String × Bool)) (t : τ) :
    let es := Pass.series u.provider (Attachment.reconcile parent desired) inputs t
    let cs := es.flatMap (·.calls)
    let moments := t :: cs.map (·.after)
    (∀ s ∈ moments, (∀ id ∈ u.live t, id ∈ desired → id ∈ u.live s) ∧
      ∀ id ∈ u.live s, id ∈ u.live t ∨ id ∈ desired) ∧
    moments.Pairwise (fun s s' =>
      (differing desired (u.live s')).card ≤ (differing desired (u.live s)).card) ∧
    (∀ id, u.effects (· = .attach id) cs + u.effects (· = .detach id) cs ≤ 1) ∧
    (∀ e ∈ es, Completed u e → ∀ id, id ∈ u.live e.after ↔ id ∈ desired) ∧
    es.Pairwise fun e e' => Completed u e → ∀ c ∈ e'.calls, c.request = .list := by
  intro es cs moments
  have hepisodes : ∀ e ∈ es, (∀ c ∈ e.calls, u.Explains c ∧ Apt desired c.request) ∧
      (Completed u e → ∀ id, id ∈ u.live e.after ↔ id ∈ desired) :=
    Pass.series_forall (I := fun _ => True) (fun lastKnown cancelled s _ =>
      have h := episode_progress u parent desired lastKnown cancelled s
      ⟨trivial, h.1, h.2.1⟩) inputs t trivial
  have hcalls : ∀ c ∈ cs, u.Explains c ∧ Apt desired c.request := by
    intro c hc
    obtain ⟨e, he, hc⟩ := List.mem_flatMap.mp hc
    exact (hepisodes e he).1 c hc
  obtain ⟨t', hlead⟩ : ∃ t', Call.Lead t cs t' := Pass.lead_series u.provider _ inputs t
  have hcloser : moments.Pairwise fun s s' => Closer desired (u.live s) (u.live s') :=
    hlead.pairwise (fun _ _ _ h h' => h.trans h') fun c hc =>
      closer_of_disturbed (hcalls c hc).1 (hcalls c hc).2
  have hstart : ∀ s ∈ moments, Closer desired (u.live t) (u.live s) := by
    intro s hs
    rcases List.mem_cons.mp hs with rfl | hs
    · exact fun _ hid => hid
    · exact (List.pairwise_cons.mp hcloser).1 s hs
  refine ⟨fun s hs => ⟨fun id hid hdesired => ?_, fun id hid => ?_⟩,
    hcloser.imp fun h => Finset.card_le_card h.differing_subset,
    effects_le_one hlead (fun c hc => (hcalls c hc).1) fun c hc => (hcalls c hc).2,
    fun e he => (hepisodes e he).2, ?_⟩
  · exact (hstart s hs id (iff_of_true hid hdesired)).mpr hdesired
  · by_contra hstrange
    obtain ⟨hnot, hundesired⟩ := not_or.mp hstrange
    exact hundesired ((hstart s hs id (iff_of_false hnot hundesired)).mp hid)
  · exact Pass.series_pairwise (I := fun s => ∀ id, id ∈ u.live s ↔ id ∈ desired)
      (fun lastKnown cancelled s => (episode_progress u parent desired lastKnown cancelled s).2.1)
      (fun lastKnown cancelled s => (episode_progress u parent desired lastKnown cancelled s).2.2)
      inputs t

/-- Detaching `c` is not acknowledged, and attaching `a` fails once. The third pass completes, and the
fourth one only lists. -/
theorem series_progress_interrupted :
    let u : Unreliable serves (fun _ _ _ => True) (List String × List Disturbance) :=
      .ofSchedule serves (fun _ _ _ => True) step serves_step
    let throttled : Fault := .provider "role" "AttachRolePolicy" "Throttling" true
    let t := (["b", "c", "b"], [.none false, .unacknowledged, .none false, .fault throttled false])
    let es := Pass.series u.provider (Attachment.reconcile "role" ["a", "b"])
      [([], false), ([], false), ([], false), ([], false)] t
    es.map (·.result.fault) = [some (.cancelled "role"), some throttled, none, none] ∧
      es.map (·.after.1) = [["b", "b"], ["b", "b"], ["b", "b", "a"], ["b", "b", "a"]] ∧
      (∃ e ∈ es, Completed u e ∧ ∀ id, id ∈ u.live e.after ↔ id ∈ ["a", "b"]) ∧
      es.Pairwise fun e e' => Completed u e → ∀ c ∈ e'.calls, c.request = .list := by
  intro u throttled t es
  obtain ⟨-, -, -, hreached, hlater⟩ := series_progress u "role" ["a", "b"]
    [([], false), ([], false), ([], false), ([], false)] t
  let e := es.get ⟨2, by decide⟩
  have he : e ∈ es := List.get_mem es ⟨2, by decide⟩
  have hcompleted : Completed u e := by
    refine ⟨by decide, fun c hc ⟨id, hid, _⟩ => ?_⟩
    have hattaches : ∀ c ∈ e.calls, c.request.detached? = none := by decide
    have hnone := hattaches c hc
    rw [hid] at hnone
    cases hnone
  exact ⟨by decide, by decide, ⟨e, he, hcompleted, hreached e he hcompleted⟩, hlater⟩

end IamConvergence.Membership
