/-
The exact account of one pass over a membership, against any provider: whatever it answers and
whenever a cancellation arrives, the calls after the listing are the beginning of the plan, and the
outcome is the listed membership without what was detached and with what was attached.

The account is read off `Carried`: each of its parts is an induction over how the plan went.
-/
import IamConvergence.Proofs.Attachment.Plan
import IamConvergence.Proofs.Ordered.IdSet

namespace IamConvergence

open AttachmentCall (tolerated detached attached)

variable {σ : Type}

/-! ## How a plan may go -/

namespace Attachment.Carried

variable {parent : String} {cancelled : Bool} {qs : List AttachmentRequest}
  {cs : List (AttachmentCall σ)} {fault : Option Fault}

theorem planned (h : Carried parent cancelled qs cs fault) : cs.map (·.request) <+: qs := by
  induction h with
  | finished => exact List.prefix_refl _
  | cancelled q qs => exact List.nil_prefix
  | refused c qs => exact (List.prefix_cons_inj _).mpr List.nil_prefix
  | settled c _ _ ih => exact (List.prefix_cons_inj _).mpr ih

/-- What was tolerated is the beginning of the plan too: only the last call is not. -/
theorem settled_planned (h : Carried parent cancelled qs cs fault) :
    (cs.filter tolerated).map (·.request) <+: qs := by
  induction h with
  | finished => exact List.prefix_refl _
  | cancelled q qs => exact List.nil_prefix
  | refused c qs f _ hc => rw [List.filter_cons_of_neg (by simp [hc])]; exact List.nil_prefix
  | settled c hc _ ih =>
    rw [List.filter_cons_of_pos hc, List.map_cons]
    exact (List.prefix_cons_inj _).mpr ih

theorem calls_eq_nil (h : Carried parent cancelled qs cs fault) (hc : cancelled = true) : cs = [] := by
  cases h with
  | finished => rfl
  | cancelled => rfl
  | refused => cases hc
  | settled => cases hc

/-- The pass goes on only after a call that was tolerated and during which no cancellation
arrived. -/
theorem orderly (h : Carried parent cancelled qs cs fault) :
    ∀ c ∈ cs.dropLast, tolerated c = true ∧ c.reply.cancels = false := by
  induction h with
  | finished => simp
  | cancelled => simp
  | refused => simp
  | @settled c qs cs _ hc rest ih =>
    intro d hd
    cases cs with
    | nil => simp at hd
    | cons c' cs =>
      rw [List.dropLast_cons_cons] at hd
      rcases List.mem_cons.mp hd with rfl | hd
      · refine ⟨hc, ?_⟩
        cases hcancel : d.reply.cancels with
        | false => rfl
        | true => exact absurd (rest.calls_eq_nil hcancel) (List.cons_ne_nil _ _)
      · exact ih d hd

theorem fault_eq_none_iff (h : Carried parent cancelled qs cs fault) :
    fault = none ↔ cs.map (·.request) = qs ∧ ∀ c ∈ cs, tolerated c = true := by
  induction h with
  | finished => simp
  | cancelled => simp
  | refused c qs f _ hc => simp [hc]
  | settled c hc _ ih => rw [ih]; simp [hc]

/-- A fault is that of the last call, which was not tolerated, or it is a cancellation that arrived
before the next call of the plan. -/
theorem cause (h : Carried parent cancelled qs cs fault) {f : Fault} (hf : fault = some f) :
    (∃ c, cs.getLast? = some c ∧ tolerated c = false ∧ c.answer = .error f) ∨
      f = .cancelled parent ∧ cs.length < qs.length ∧ (∀ c ∈ cs, tolerated c = true) ∧
        (cancelled = true ∨ ∃ c, cs.getLast? = some c ∧ c.reply.cancels = true) := by
  induction h with
  | finished => cases hf
  | cancelled q qs => cases hf; exact .inr ⟨rfl, by simp, by simp, .inl rfl⟩
  | refused c qs f' answer hc => cases hf; exact .inl ⟨c, rfl, hc, answer⟩
  | @settled c qs cs fault hc rest ih =>
    rcases ih hf with ⟨d, hd, hnot, hans⟩ | ⟨rfl, hlen, hall, hwhen⟩
    · exact .inl ⟨d, by rw [List.getLast?_cons, hd]; rfl, hnot, hans⟩
    · refine .inr ⟨rfl, by simpa using hlen, by simpa [hc] using hall, .inr ?_⟩
      rcases hwhen with hcancel | ⟨d, hd, hcancel⟩
      · -- nothing is called after the cancellation, so this call is the last
        exact ⟨c, by rw [rest.calls_eq_nil hcancel]; rfl, hcancel⟩
      · exact ⟨d, by rw [List.getLast?_cons, hd]; rfl, hcancel⟩

end Attachment.Carried

/-! ## Parts of a plan -/

namespace Attachment

/-- The beginning of a plan: nothing is attached before everything to detach was. -/
theorem prefix_moves :
    ∀ {gone new : List String} {rs : List AttachmentRequest}, rs <+: moves gone new →
      ∃ gone' new', gone' <+: gone ∧ new' <+: new ∧ (new' ≠ [] → gone' = gone) ∧
        rs = moves gone' new'
  | [], new, rs, h => by
    obtain ⟨new', hnew, rfl⟩ := List.prefix_map_iff.mp h
    exact ⟨[], new', List.nil_prefix, hnew, fun _ => rfl, rfl⟩
  | id :: gone, new, [], _ => ⟨[], [], List.nil_prefix, List.nil_prefix, by simp, rfl⟩
  | id :: gone, new, r :: rs, h => by
    obtain ⟨rfl, hrs⟩ := List.cons_prefix_cons.mp h
    obtain ⟨gone', new', hgone, hnew, hall, rfl⟩ := prefix_moves hrs
    exact ⟨id :: gone', new', (List.prefix_cons_inj id).mpr hgone, hnew,
      fun hne => by rw [hall hne], rfl⟩

/-- What is read off a plan is read off what it detaches, then off what it attaches. -/
theorem filterMap_moves {α : Type} (f : AttachmentRequest → Option α) (gone new : List String) :
    (moves gone new).filterMap f =
      gone.filterMap (fun id => f (.detach id)) ++ new.filterMap (fun id => f (.attach id)) := by
  rw [moves, List.filterMap_append, List.filterMap_map, List.filterMap_map]
  rfl

theorem detached?_moves (gone new : List String) :
    (moves gone new).filterMap (·.detached?) = gone := by
  simp [filterMap_moves, AttachmentRequest.detached?]

theorem attached?_moves (gone new : List String) :
    (moves gone new).filterMap (·.attached?) = new := by
  simp [filterMap_moves, AttachmentRequest.attached?]

theorem id?_moves (gone new : List String) :
    (moves gone new).filterMap (·.id?) = gone ++ new := by
  simp [filterMap_moves, AttachmentRequest.id?]

/-- What detaching members counts. -/
theorem foldl_settle_detach :
    ∀ (ids : List String) (o : AttachmentOutcome),
      let o' := (ids.map AttachmentRequest.detach).foldl .settle o
      (∀ x, x ∈ o'.attached ↔ x ∈ o.attached ∧ x ∉ ids) ∧
        o'.detachedCount = o.detachedCount + ids.length ∧ o'.attachedCount = o.attachedCount
  | [], o => by simp
  | id :: ids, o => by
    obtain ⟨hmem, hgone, hnew⟩ := foldl_settle_detach ids (o.detach id)
    refine ⟨fun x => ?_, ?_, hnew⟩
    · rw [List.map_cons, List.foldl_cons, AttachmentOutcome.settle_detach, hmem x]
      simp only [AttachmentOutcome.detach, IdSet.mem_erase, List.mem_cons, not_or, and_assoc]
    · rw [List.map_cons, List.foldl_cons, AttachmentOutcome.settle_detach, hgone, List.length_cons]
      simp only [AttachmentOutcome.detach]
      omega

/-- What attaching members counts. -/
theorem foldl_settle_attach :
    ∀ (ids : List String) (o : AttachmentOutcome),
      let o' := (ids.map AttachmentRequest.attach).foldl .settle o
      (∀ x, x ∈ o'.attached ↔ x ∈ o.attached ∨ x ∈ ids) ∧
        o'.attachedCount = o.attachedCount + ids.length ∧ o'.detachedCount = o.detachedCount
  | [], o => by simp
  | id :: ids, o => by
    obtain ⟨hmem, hnew, hgone⟩ := foldl_settle_attach ids (o.attach id)
    refine ⟨fun x => ?_, ?_, hgone⟩
    · rw [List.map_cons, List.foldl_cons, AttachmentOutcome.settle_attach, hmem x]
      simp only [AttachmentOutcome.attach, IdSet.mem_insert, List.mem_cons, or_assoc, or_left_comm]
    · rw [List.map_cons, List.foldl_cons, AttachmentOutcome.settle_attach, hnew, List.length_cons]
      simp only [AttachmentOutcome.attach]
      omega

/-- What carrying out a plan counts. -/
theorem foldl_settle_moves (gone new : List String) (o : AttachmentOutcome) :
    let o' := (moves gone new).foldl .settle o
    (∀ x, x ∈ o'.attached ↔ (x ∈ o.attached ∧ x ∉ gone) ∨ x ∈ new) ∧
      o'.detachedCount = o.detachedCount + gone.length ∧
      o'.attachedCount = o.attachedCount + new.length := by
  obtain ⟨hmem, hgone, hkept⟩ := foldl_settle_detach gone o
  obtain ⟨hmem', hnew, hkept'⟩ :=
    foldl_settle_attach new ((gone.map AttachmentRequest.detach).foldl .settle o)
  simp only [moves, List.foldl_append]
  exact ⟨fun x => by rw [hmem' x, hmem x], by rw [hkept', hgone], by rw [hnew, hkept]⟩

/-! ## The account of a pass -/

/-- What a pass made of a membership that was listed: the calls after the listing, and the outcome.
`cancelled` tells whether a cancellation had arrived by the end of the listing. -/
structure Accounting (parent : String) (desired current : IdSet) (cancelled : Bool)
    (cs : List (AttachmentCall σ)) (o : AttachmentOutcome) : Prop where
  planned : cs.map (·.request) <+: plan desired current
  once : (cs.filterMap (·.request.id?)).Nodup
  /-- Nothing is attached unless everything to detach was. -/
  detachedFirst : ∀ c ∈ cs, ∀ id, c.request = .attach id →
    detached cs = (current.diff desired).toList
  members : ∀ x, x ∈ o.attached ↔ (x ∈ current ∧ x ∉ detached cs) ∨ x ∈ attached cs
  detachedCount : o.detachedCount = (detached cs).length
  attachedCount : o.attachedCount = (attached cs).length
  size : o.attached.size + o.detachedCount = current.size + o.attachedCount
  converged : o.fault = none ↔
    cs.map (·.request) = plan desired current ∧ ∀ c ∈ cs, tolerated c = true
  reached : o.fault = none → o.attached = desired ∧
    o.detachedCount = (current.diff desired).size ∧ o.attachedCount = (desired.diff current).size
  /-- A fault is that of the last call, or a cancellation that kept the next call from being made. -/
  cause : ∀ f, o.fault = some f →
    (∃ c, cs.getLast? = some c ∧ tolerated c = false ∧ c.answer = .error f) ∨
      f = .cancelled parent ∧ cs.length < (plan desired current).length ∧
        (∀ c ∈ cs, tolerated c = true) ∧
        (cancelled = true ∨ ∃ c, cs.getLast? = some c ∧ c.reply.cancels = true)
  /-- No call follows a cancellation or an answer that is not tolerated. -/
  halted : (cancelled = true → cs = []) ∧
    ∀ c ∈ cs.dropLast, tolerated c = true ∧ c.reply.cancels = false

theorem detached_eq (cs : List (AttachmentCall σ)) :
    detached cs = ((cs.filter tolerated).map (·.request)).filterMap (·.detached?) := by
  rw [List.filterMap_map, List.filterMap_filter]
  rfl

theorem attached_eq (cs : List (AttachmentCall σ)) :
    attached cs = ((cs.filter tolerated).map (·.request)).filterMap (·.attached?) := by
  rw [List.filterMap_map, List.filterMap_filter]
  rfl

/-- Once an attaching call is made, everything to detach was detached. -/
theorem Carried.detached_of_attach {parent : String} {new : List String} {fault : Option Fault} :
    ∀ {gone : List String} {cancelled : Bool} {cs : List (AttachmentCall σ)},
      Carried parent cancelled (moves gone new) cs fault →
      ∀ c ∈ cs, ∀ id, c.request = .attach id → detached cs = gone
  | [], _, _, h, _, _, _, _ => by
    obtain ⟨gone', new', hgone, -, -, hsettled⟩ := prefix_moves h.settled_planned
    rw [detached_eq, hsettled, detached?_moves, List.prefix_nil.mp hgone]
  | x :: gone, _, _, h, c, hc, id, hid => by
    generalize hqs : moves (x :: gone) new = qs at h
    cases h with
    | finished => cases hc
    | cancelled => cases hc
    | refused d _ f answer hd =>
      -- the only call is the first of the plan, which detaches
      obtain rfl := List.mem_singleton.mp hc
      rw [hid] at hqs
      exact nomatch (List.cons_eq_cons.mp hqs).1
    | @settled d qs cs _ hd rest =>
      obtain ⟨hreq, rfl⟩ := List.cons_eq_cons.mp hqs
      rcases List.mem_cons.mp hc with rfl | hc
      · exact nomatch hreq.trans hid
      · have ih := Carried.detached_of_attach rest c hc id hid
        simp only [detached, List.filterMap_cons, hd, if_true, ← hreq]
        exact congrArg (x :: ·) ih

section

variable {parent : String} {desired current : IdSet} {cancelled : Bool}
  {cs : List (AttachmentCall σ)} {fault : Option Fault}

/-- No member is named twice: what is detached is not desired, and what is attached is. -/
theorem Carried.once (h : Carried parent cancelled (plan desired current) cs fault) :
    (cs.filterMap (·.request.id?)).Nodup := by
  obtain ⟨gone, new, hgone, hnew, -, hplanned⟩ := prefix_moves h.planned
  have hids : cs.filterMap (·.request.id?) = gone ++ new := by
    rw [← id?_moves, ← hplanned, List.filterMap_map]; rfl
  rw [hids]
  refine List.nodup_append.mpr ⟨hgone.sublist.nodup (current.diff desired).nodup,
    hnew.sublist.nodup (desired.diff current).nodup, ?_⟩
  rintro x hx _ hx' rfl
  exact (IdSet.mem_diff.mp (hnew.subset hx')).2 (IdSet.mem_diff.mp (hgone.subset hx)).1

/-- A pass without a fault did everything that was planned. -/
theorem Carried.all_of_fault_eq_none (h : Carried parent cancelled (plan desired current) cs fault)
    (hnone : fault = none) :
    detached cs = (current.diff desired).toList ∧ attached cs = (desired.diff current).toList := by
  obtain ⟨hall, htol⟩ := h.fault_eq_none_iff.mp hnone
  have hfilter : cs.filter tolerated = cs := List.filter_eq_self.mpr htol
  constructor
  · rw [detached_eq, hfilter, hall, plan, detached?_moves]
  · rw [attached_eq, hfilter, hall, plan, attached?_moves]

theorem Carried.accounting {o : AttachmentOutcome}
    (h : Carried parent cancelled (plan desired current) cs o.fault)
    (ho : o = (((cs.filter tolerated).map Call.request).foldl AttachmentOutcome.settle
      (AttachmentOutcome.unchanged current none)).ending o.fault) :
    Accounting parent desired current cancelled cs o := by
  obtain ⟨gone, new, hgone, hnew, -, hsettled⟩ := prefix_moves h.settled_planned
  have hd : detached cs = gone := by rw [detached_eq, hsettled, detached?_moves]
  have ha : attached cs = new := by rw [attached_eq, hsettled, attached?_moves]
  obtain ⟨hmem, hdcount, hacount⟩ :=
    foldl_settle_moves gone new (.unchanged current none)
  rw [← hsettled] at hmem hdcount hacount
  have hmembers : ∀ x, x ∈ o.attached ↔ (x ∈ current ∧ x ∉ gone) ∨ x ∈ new := by
    rw [ho]; exact hmem
  have hdetached : o.detachedCount = gone.length := by
    rw [ho]; exact hdcount.trans (Nat.zero_add _)
  have hattached : o.attachedCount = new.length := by
    rw [ho]; exact hacount.trans (Nat.zero_add _)
  refine {
    planned := h.planned
    once := h.once
    detachedFirst := h.detached_of_attach
    members := by rw [hd, ha]; exact hmembers
    detachedCount := by rw [hd]; exact hdetached
    attachedCount := by rw [ha]; exact hattached
    size := ?_
    converged := h.fault_eq_none_iff
    reached := ?_
    cause := fun f hf => h.cause hf
    halted := ⟨h.calls_eq_nil, h.orderly⟩ }
  · rw [hdetached, hattached]
    exact IdSet.size_of_mem_iff (hgone.sublist.nodup (current.diff desired).nodup)
      (hnew.sublist.nodup (desired.diff current).nodup)
      (fun x hx => (IdSet.mem_diff.mp (hgone.subset hx)).1)
      (fun x hx => (IdSet.mem_diff.mp (hnew.subset hx)).2) hmembers
  · intro hnone
    obtain ⟨hg, hn⟩ := h.all_of_fault_eq_none hnone
    rw [hd] at hg
    rw [ha] at hn
    refine ⟨IdSet.ext_mem fun x => ?_, by rw [hdetached, hg]; rfl, by rw [hattached, hn]; rfl⟩
    rw [hmembers x, hg, hn, IdSet.mem_toList, IdSet.mem_toList, IdSet.mem_diff, IdSet.mem_diff]
    by_cases hx : x ∈ current <;> by_cases hx' : x ∈ desired <;> simp [hx, hx']

end

/-- A pass without a fault could list the members, and every call counted. -/
theorem Reconciled.of_fault_eq_none {parent : String} {desired lastKnown : List String}
    {cancelled : Bool} {cs : List (AttachmentCall σ)} {o : AttachmentOutcome}
    (h : Reconciled parent desired lastKnown cancelled cs o) (hnone : o.fault = none) :
    (∃ listed, Call.Answered cs .list (.ok listed)) ∧ ∀ c ∈ cs, tolerated c = true := by
  cases h with
  | unlisted => cases hnone
  | @listed _ cs ds listed _ list carried counted =>
    obtain ⟨reply, s, s', rfl, hanswer⟩ := list.of_ok
    refine ⟨⟨listed, parent, reply, s, s', List.mem_append_left _ List.mem_cons_self, hanswer⟩, ?_⟩
    intro c hc
    rcases List.mem_append.mp hc with hc | hc
    · obtain rfl := List.mem_singleton.mp hc
      show AttachmentRequest.tolerates .list (reply.answer parent) = true
      rw [hanswer]
      rfl
    · exact (carried.fault_eq_none_iff.mp hnone).2 c hc

/-- A pass without a fault reached what is desired. -/
theorem Reconciled.reached {parent : String} {desired lastKnown : List String} {cancelled : Bool}
    {cs : List (AttachmentCall σ)} {o : AttachmentOutcome}
    (h : Reconciled parent desired lastKnown cancelled cs o) (hnone : o.fault = none) :
    o.attached = .ofList desired := by
  cases h with
  | unlisted => cases hnone
  | listed list carried counted => exact ((carried.accounting counted).reached hnone).1

/-- The account of a pass against any provider. Unless the listing completes, nothing else is called
and the last known membership is given back. -/
theorem reconcile_accounting (provider : Provider AttachmentRequest AttachmentRequest.Answer σ)
    (parent : String) (desired lastKnown : List String) (r : Run σ) :
    let cs := (reconcile parent desired lastKnown).calls provider r
    let o := ((reconcile parent desired lastKnown).run provider r).1
    match r.cancelled, provider .list r.state with
    | true, _ => cs = [] ∧ o = ⟨.ofList lastKnown, 0, 0, some (.cancelled parent)⟩
    | false, (.abandoned, _) =>
      cs = [Pass.callOn provider parent .list r.state] ∧
        o = ⟨.ofList lastKnown, 0, 0, some (.cancelled parent)⟩
    | false, (.completed (.error f) _, _) =>
      cs = [Pass.callOn provider parent .list r.state] ∧
        o = ⟨.ofList lastKnown, 0, 0, some f⟩
    | false, (.completed (.ok listed) cancelled, _) =>
      ∃ rest, cs = Pass.callOn provider parent .list r.state :: rest ∧
        Accounting parent (.ofList desired) (.ofList listed) cancelled rest o := by
  rw [reconcile_eq]
  cases hr : r.cancelled with
  | true =>
    rw [Pass.calls_ask_cancelled _ _ _ _ hr, Pass.run_ask_cancelled _ _ _ _ hr]
    exact ⟨rfl, rfl⟩
  | false =>
    rw [Pass.calls_ask_made _ _ _ _ hr, Pass.run_ask_made _ _ _ _ hr]
    have hc := Pass.made_cancelled provider .list hr
    rcases hp : provider .list r.state with ⟨⟨f | listed, cancelled⟩ | _, s⟩
    · exact ⟨rfl, rfl⟩
    · obtain ⟨hcarried, ho⟩ := carried_carryOut provider parent
        (plan (.ofList desired) (.ofList listed)) (.unchanged (.ofList listed) none)
        (Pass.made provider .list r) rfl
      rw [hc, hp] at hcarried
      exact ⟨_, rfl, hcarried.accounting ho⟩
    · exact ⟨rfl, rfl⟩

end Attachment

end IamConvergence
