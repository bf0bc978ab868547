/-
What a pass over versions deletes, what it reports as evicted and whether it creates a version,
against any provider. To make room is to delete the first versions of the sorted history one by one,
and each of these is read off the deletions that were made. None of it depends on the order in which
the history was listed.
-/
import IamConvergence.Proofs.Pass.Adapter
import IamConvergence.Proofs.Version.Queue

namespace IamConvergence

/-! ## What calls ask for -/

/-- The version that a request asks to delete. -/
def VersionRequest.deleted? : VersionRequest → Option String
  | .delete id => some id
  | .getDefault | .list | .create _ => none

/-- The content that a request asks to create a version of. -/
def VersionRequest.created? : VersionRequest → Option String
  | .create content => some content
  | .getDefault | .list | .delete _ => none

namespace VersionCall

variable {σ : Type} {cs ds : List (VersionCall σ)}

/-- Whether a call was answered with success or as not finding its target. -/
def tolerated (c : VersionCall σ) : Bool :=
  match c.answer with
  | .ok _ => true
  | .error f => f.isNotFound

/-- The versions that some calls ask to delete, in order. -/
def deletedIds (cs : List (VersionCall σ)) : List String := cs.filterMap (·.request.deleted?)

/-- The contents of which some calls ask to create versions, in order. -/
def createdContents (cs : List (VersionCall σ)) : List String := cs.filterMap (·.request.created?)

/-- No cancellation arrives during the calls that do not create. -/
def Uncancelled (cs : List (VersionCall σ)) : Prop :=
  ∀ c ∈ cs, c.request.created? = none → c.reply.cancels = false

theorem tolerated_iff {c : VersionCall σ} : tolerated c = true ↔ removalFault? c.answer = none := by
  unfold tolerated removalFault?
  cases c.answer with
  | ok a => simp
  | error f => cases f.isNotFound <;> simp

theorem deletedIds_append : deletedIds (cs ++ ds) = deletedIds cs ++ deletedIds ds :=
  List.filterMap_append

theorem createdContents_append :
    createdContents (cs ++ ds) = createdContents cs ++ createdContents ds :=
  List.filterMap_append

end VersionCall

namespace Version

open DocumentVersion (others sorted)
open VersionCall (tolerated deletedIds createdContents Uncancelled tolerated_iff)

/-! ## How versions are deleted -/

variable {σ : Type} {parent : String}

/-- How versions may be deleted one by one: whether a cancellation has arrived, the versions to
delete, the calls that are made, the versions that are gone, the fault that kept the next one, and
whether a cancellation has arrived by then. -/
inductive Deleting (parent : String) :
    Bool → List String → List (VersionCall σ) → List String → Option Fault → Bool → Prop where
  | finished (cancelled : Bool) : Deleting parent cancelled [] [] [] none cancelled
  | stopped (id : String) (ids : List String) :
    Deleting parent true (id :: ids) [] [] (some (.cancelled parent)) true
  | kept (id : String) (ids : List String) (reply : Reply Unit) (s s' : σ) {f : Fault}
    (answer : removalFault? (reply.answer parent) = some f) :
    Deleting parent false (id :: ids) [⟨parent, .delete id, reply, s, s'⟩] [] (some f) reply.cancels
  | deleted (id : String) {ids gone : List String} (reply : Reply Unit) (s s' : σ)
    {cs : List (VersionCall σ)} {fault : Option Fault} {cancelled : Bool}
    (answer : removalFault? (reply.answer parent) = none)
    (rest : Deleting parent reply.cancels ids cs gone fault cancelled) :
    Deleting parent false (id :: ids) (⟨parent, .delete id, reply, s, s'⟩ :: cs) (id :: gone) fault
      cancelled

/-- Versions are deleted one by one as the rules say. -/
theorem exists_deleting (provider : Provider VersionRequest VersionRequest.Answer σ)
    (parent : String) : ∀ (ids gone : List String) (r : Run σ),
      ∃ cs gone' fault r', Deleting parent r.cancelled ids cs gone' fault r'.cancelled ∧
        (deleteAll parent ids gone).run provider r = ((gone ++ gone', fault), r') ∧
        (deleteAll parent ids gone).calls provider r = cs
  | [], gone, r =>
    ⟨[], [], none, r, .finished r.cancelled, by rw [List.append_nil]; rfl, rfl⟩
  | id :: ids, gone, r => by
    unfold deleteAll
    cases hr : r.cancelled with
    | true =>
      rw [Pass.calls_ask_cancelled _ _ _ _ hr, Pass.run_ask_cancelled _ _ _ _ hr]
      refine ⟨[], [], some (.cancelled parent), r, ?_, by rw [List.append_nil]; rfl, rfl⟩
      rw [hr]
      exact .stopped id ids
    | false =>
      rw [Pass.calls_ask_made _ _ _ _ hr, Pass.run_ask_made _ _ _ _ hr]
      have hcancelled := Pass.made_cancelled provider (.delete id) hr
      cases hanswer : removalFault? ((provider (.delete id) r.state).1.answer parent) with
      | some f =>
        refine ⟨_, [], some f, Pass.made provider (.delete id) r, ?_,
          by rw [List.append_nil]; rfl, rfl⟩
        rw [hcancelled]
        exact .kept id ids _ _ _ hanswer
      | none =>
        obtain ⟨cs, gone', fault, r', hrest, hrun, hcalls⟩ :=
          exists_deleting provider parent ids (gone ++ [id]) (Pass.made provider (.delete id) r)
        rw [hcancelled] at hrest
        refine ⟨Pass.callOn provider parent (.delete id) r.state :: cs, id :: gone', fault, r',
          .deleted id _ _ _ hanswer hrest, ?_, ?_⟩
        · rw [hrun, List.append_assoc, List.singleton_append]
        · rw [hcalls]

namespace Deleting

variable {cancelled cancelled' : Bool} {ids gone : List String} {cs : List (VersionCall σ)}
  {fault : Option Fault}

theorem created?_eq_none (h : Deleting parent cancelled ids cs gone fault cancelled') :
    ∀ c ∈ cs, c.request.created? = none := by
  induction h with
  | finished | stopped => exact List.forall_mem_nil _
  | kept => exact fun c hc => List.mem_singleton.mp hc ▸ rfl
  | deleted id reply s s' answer rest ih => exact List.forall_mem_cons.mpr ⟨rfl, ih⟩

theorem planned (h : Deleting parent cancelled ids cs gone fault cancelled') :
    deletedIds cs <+: ids := by
  induction h with
  | finished | stopped => exact List.nil_prefix
  | kept id => exact (List.prefix_cons_inj id).mpr List.nil_prefix
  | deleted id reply s s' answer rest ih => exact (List.prefix_cons_inj id).mpr ih

theorem gone_eq (h : Deleting parent cancelled ids cs gone fault cancelled') :
    gone = deletedIds (cs.filter tolerated) := by
  induction h with
  | finished | stopped => rfl
  | kept id ids reply s s' answer =>
    have hc : ¬tolerated (⟨parent, .delete id, reply, s, s'⟩ : VersionCall σ) = true := by
      rw [tolerated_iff]
      exact fun hnone => nomatch hnone.symm.trans answer
    rw [List.filter_cons_of_neg hc]
    rfl
  | deleted id reply s s' answer rest ih =>
    have hc : tolerated (⟨parent, .delete id, reply, s, s'⟩ : VersionCall σ) = true :=
      tolerated_iff.mpr answer
    rw [List.filter_cons_of_pos hc, ih]
    rfl

theorem eq_nil_of_cancelled (h : Deleting parent true ids cs gone fault cancelled') : cs = [] := by
  cases h <;> rfl

/-- Nothing is called after a version was kept or a cancellation has arrived. -/
theorem halted (h : Deleting parent cancelled ids cs gone fault cancelled') :
    ∀ c ∈ cs.dropLast, tolerated c = true ∧ c.reply.cancels = false := by
  induction h with
  | finished | stopped | kept => exact List.forall_mem_nil _
  | deleted id reply s s' answer rest ih =>
    rename_i cs' _ _
    cases cs' with
    | nil => exact List.forall_mem_nil _
    | cons d ds =>
      rw [List.dropLast_cons_cons]
      have hcancels : reply.cancels = false := by
        refine Bool.eq_false_iff.mpr fun hcancels => ?_
        rw [hcancels] at rest
        cases rest.eq_nil_of_cancelled
      exact List.forall_mem_cons.mpr ⟨⟨tolerated_iff.mpr answer, hcancels⟩, ih⟩

/-- All versions are gone unless there was a fault. -/
theorem fault_eq_none_iff (h : Deleting parent cancelled ids cs gone fault cancelled') :
    fault = none ↔ gone = ids := by
  induction h with
  | finished | stopped | kept => simp
  | deleted id reply s s' answer rest ih => simp [ih]

/-- Without a fault every version was asked to go and did. -/
theorem of_fault_eq_none (h : Deleting parent cancelled ids cs gone none cancelled') :
    deletedIds cs = ids ∧ ∀ c ∈ cs, tolerated c = true := by
  generalize hfault : (none : Option Fault) = fault at h
  induction h with
  | finished => exact ⟨rfl, List.forall_mem_nil _⟩
  | stopped | kept => cases hfault
  | deleted id reply s s' answer rest ih =>
    obtain ⟨hids, htolerated⟩ := ih hfault
    exact ⟨congrArg (id :: ·) hids, List.forall_mem_cons.mpr ⟨tolerated_iff.mpr answer, htolerated⟩⟩

/-- Without a fault, whether a cancellation has arrived by the end. -/
theorem cancelled_iff (h : Deleting parent cancelled ids cs gone none cancelled') :
    cancelled' = false ↔ cancelled = false ∧ ∀ c ∈ cs, c.reply.cancels = false := by
  generalize hfault : (none : Option Fault) = fault at h
  induction h with
  | finished => simp
  | stopped | kept => cases hfault
  | deleted id reply s s' answer rest ih =>
    rw [ih hfault, List.forall_mem_cons]
    simp

/-- There is a fault only if a version was kept or a cancellation has arrived. -/
theorem fault_eq_none (h : Deleting parent false ids cs gone fault cancelled')
    (htolerated : ∀ c ∈ cs, tolerated c = true ∧ c.reply.cancels = false) : fault = none := by
  generalize hcancelled : false = cancelled at h
  induction h with
  | finished => rfl
  | stopped => cases hcancelled
  | kept id ids reply s s' answer =>
    have hanswer := tolerated_iff.mp (htolerated _ List.mem_cons_self).1
    cases hanswer.symm.trans answer
  | deleted id reply s s' answer rest ih =>
    exact ih (fun c hc => htolerated c (List.mem_cons_of_mem _ hc))
      (htolerated _ List.mem_cons_self).2.symm

end Deleting

/-! ## How room is made -/

/-- What has to be true for a version to be created: the versions that have to go can go and are
gone, and no cancellation has arrived. -/
def CanCreate (bound : Nat) (history : List DocumentVersion) (cancelled : Bool)
    (cs : List (VersionCall σ)) : Prop :=
  due bound history ≤ (others history).length ∧
    deletedIds (cs.filter tolerated) = plan bound history ∧ cancelled = false ∧ Uncancelled cs

/-- What calls do that make room in a history for a desired version, where a cancellation may have
arrived before them, and the outcome that they leave. -/
structure MakesRoom (parent desired : String) (bound : Nat) (history : List DocumentVersion)
    (cancelled : Bool) (cs : List (VersionCall σ)) (o : VersionOutcome) : Prop where
  /-- The oldest versions are deleted, in order of age and no more than have to go. -/
  planned : deletedIds cs <+: plan bound history
  skipped : cancelled = true → cs = []
  /-- Nothing is called after a call that failed or was cancelled. -/
  halted : ∀ c ∈ cs.dropLast, tolerated c = true ∧ c.reply.cancels = false
  /-- For no other reason is a version spared that has to go. -/
  finished : cancelled = false →
    (∀ c ∈ cs, c.request.created? = none → tolerated c = true ∧ c.reply.cancels = false) →
      deletedIds cs = plan bound history
  evicted : o.evicted = deletedIds (cs.filter tolerated)
  created : CanCreate bound history cancelled cs → createdContents cs = [desired]
  not_created : ¬CanCreate bound history cancelled cs → createdContents cs = []
  /-- Where more has to go than may, the bound is not valid for the history. -/
  crowded : (others history).length < due bound history →
    deletedIds (cs.filter tolerated) = plan bound history →
      o.fault = some (Version.crowded parent (history.length - (others history).length) bound)

variable {desired current : String} {bound : Nat} {history : List DocumentVersion}

namespace Deleting

variable {cancelled cancelled' : Bool} {gone : List String} {cs : List (VersionCall σ)}
  {fault : Option Fault} {o : VersionOutcome}

theorem uncancelled_iff
    (h : Deleting parent cancelled (plan bound history) cs gone none cancelled') :
    cancelled' = false ↔ cancelled = false ∧ Uncancelled cs := by
  rw [h.cancelled_iff]
  refine and_congr_right fun _ => ⟨fun hcs c hc _ => hcs c hc, fun hcs c hc => ?_⟩
  exact hcs c hc (h.created?_eq_none c hc)

theorem canCreate_iff
    (h : Deleting parent cancelled (plan bound history) cs gone fault cancelled') :
    CanCreate bound history cancelled cs ↔
      due bound history ≤ (others history).length ∧ fault = none ∧ cancelled' = false := by
  unfold CanCreate
  rw [← h.gone_eq, ← h.fault_eq_none_iff]
  refine and_congr_right fun _ => and_congr_right fun hnone => ?_
  rw [hnone] at h
  exact h.uncancelled_iff.symm

/-- A pass that deleted versions and then stopped. -/
theorem makesRoom (h : Deleting parent cancelled (plan bound history) cs gone fault cancelled')
    (hevicted : o.evicted = gone)
    (hnot : ¬(due bound history ≤ (others history).length ∧ fault = none ∧ cancelled' = false))
    (hcrowded : (others history).length < due bound history → fault = none →
      o.fault = some (Version.crowded parent (history.length - (others history).length) bound)) :
    MakesRoom parent desired bound history cancelled cs o where
  planned := h.planned
  skipped := by
    rintro rfl
    exact h.eq_nil_of_cancelled
  halted := h.halted
  finished := by
    rintro rfl hcs
    have hnone := h.fault_eq_none fun c hc => hcs c hc (h.created?_eq_none c hc)
    rw [hnone] at h
    exact h.of_fault_eq_none.1
  evicted := hevicted.trans h.gone_eq
  created hcan := absurd (h.canCreate_iff.mp hcan) hnot
  not_created _ := List.filterMap_eq_nil_iff.mpr h.created?_eq_none
  crowded hfew hall := hcrowded hfew (h.fault_eq_none_iff.mpr (h.gone_eq.trans hall))

/-- A pass that deleted all versions that have to go, and then asked for the desired one. -/
theorem makesRoom_create {c : VersionCall σ}
    (h : Deleting parent cancelled (plan bound history) cs gone none false)
    (hroom : due bound history ≤ (others history).length) (hc : c.request = .create desired)
    (hevicted : o.evicted = gone) :
    MakesRoom parent desired bound history cancelled (cs ++ [c]) o := by
  obtain ⟨hids, htolerated⟩ := h.of_fault_eq_none
  obtain ⟨hcancelled, hcancels⟩ := h.cancelled_iff.mp rfl
  have hdeleted : c.request.deleted? = none := by rw [hc]; rfl
  have hcreated : c.request.created? = some desired := by rw [hc]; rfl
  have hdeletedIds : deletedIds (cs ++ [c]) = plan bound history := by
    rw [VersionCall.deletedIds_append, hids]
    simp [deletedIds, hdeleted]
  have hfiltered : deletedIds ((cs ++ [c]).filter tolerated) =
      deletedIds (cs.filter tolerated) := by
    rw [List.filter_append, VersionCall.deletedIds_append]
    cases hc' : tolerated c <;> simp [deletedIds, hc', hdeleted]
  have hcontents : createdContents (cs ++ [c]) = [desired] := by
    rw [VersionCall.createdContents_append, createdContents,
      List.filterMap_eq_nil_iff.mpr h.created?_eq_none]
    simp [createdContents, hcreated]
  have hcan : CanCreate bound history cancelled (cs ++ [c]) := by
    obtain ⟨-, hall, -⟩ : CanCreate bound history cancelled cs :=
      h.canCreate_iff.mpr ⟨hroom, rfl, rfl⟩
    refine ⟨hroom, hfiltered.trans hall, hcancelled, fun d hd hnot => ?_⟩
    rcases List.mem_append.mp hd with hd | hd
    · exact hcancels d hd
    · rw [List.mem_singleton.mp hd, hcreated] at hnot
      cases hnot
  exact {
    planned := hdeletedIds ▸ List.prefix_rfl
    skipped := fun hskipped => nomatch hcancelled.symm.trans hskipped
    halted := by
      rw [List.dropLast_concat]
      exact fun d hd => ⟨htolerated d hd, hcancels d hd⟩
    finished := fun _ _ => hdeletedIds
    evicted := hevicted.trans (h.gone_eq.trans hfiltered.symm)
    created := fun _ => hcontents
    not_created := fun hnot => absurd hcan hnot
    crowded := fun hfew => absurd hroom (Nat.not_le.mpr hfew) }

end Deleting

/-- To make room is to delete what the sorted history says, and then to create if there is room. -/
theorem makesRoom_evict (provider : Provider VersionRequest VersionRequest.Answer σ)
    (parent desired current : String) (bound : Nat) (hdistinct : (history.map (·.id)).Nodup)
    (r : Run σ) :
    MakesRoom parent desired bound history r.cancelled
      ((evict parent desired current bound history []).calls provider r)
      ((evict parent desired current bound history []).run provider r).1 := by
  have hqueued := queued_sorted hdistinct
  obtain ⟨ds, gone, fault, r', hdel, hrun, hcalls⟩ :=
    exists_deleting provider parent (plan bound history) [] r
  rw [List.nil_append] at hrun
  rw [evict_eq_deleteAll parent desired current bound hdistinct hqueued, ← plan, Pass.calls_bind,
    Pass.run_bind, hcalls, hrun, hqueued.perm.length_eq]
  cases fault with
  | some f =>
    rw [conclude, Pass.calls_done, List.append_nil]
    refine hdel.makesRoom rfl ?_ ?_
    · rintro ⟨-, hnone, -⟩
      cases hnone
    · intro _ hnone
      cases hnone
  | none =>
    by_cases hroom : due bound history ≤ (others history).length
    · rw [conclude, if_pos (decide_eq_true hroom), create_eq]
      cases hr : r'.cancelled with
      | true =>
        rw [Pass.calls_ask_cancelled _ _ _ _ hr, Pass.run_ask_cancelled _ _ _ _ hr,
          Pass.calls_done, List.append_nil]
        rw [hr] at hdel
        refine hdel.makesRoom rfl ?_ fun hfew => absurd hroom (Nat.not_le.mpr hfew)
        rintro ⟨-, -, huncancelled⟩
        cases huncancelled
      | false =>
        rw [Pass.calls_ask_made _ _ _ _ hr, Pass.run_ask_made _ _ _ _ hr]
        rw [hr] at hdel
        refine hdel.makesRoom_create hroom rfl ?_
        cases (provider (.create desired) r'.state).1.answer parent <;> rfl
    · rw [conclude, if_neg (by simpa using hroom), Pass.calls_done, List.append_nil]
      exact hdel.makesRoom rfl (fun h => hroom h.1) fun _ _ => rfl

/-! ## Listings -/

/-- A provider that gives every listing in an order of its own. -/
def relisted (order : List DocumentVersion → List DocumentVersion)
    (provider : Provider VersionRequest VersionRequest.Answer σ) :
    Provider VersionRequest VersionRequest.Answer σ
  | .list, s => ((provider .list s).1.map order, (provider .list s).2)
  | .getDefault, s => provider .getDefault s
  | .create content, s => provider (.create content) s
  | .delete id, s => provider (.delete id) s

/-- A pass reads a default version that does not say what is desired, and then a history. -/
structure Listed (provider : Provider VersionRequest VersionRequest.Answer σ)
    (parent desired : String) (history : List DocumentVersion) (current : DocumentVersion)
    (r : Run σ) : Prop where
  begun : r.cancelled = false
  read : (provider .getDefault r.state).1.answer parent = .ok current
  differs : documentsEqual (current.content.getD "") desired = false
  continued : (provider .getDefault r.state).1.cancels = false
  listed : (provider .list (provider .getDefault r.state).2).1.answer parent = .ok history

namespace Listed

variable {provider : Provider VersionRequest VersionRequest.Answer σ} {current : DocumentVersion}
  {r : Run σ}

/-- Such a pass makes room in the history. -/
theorem run_eq (h : Listed provider parent desired history current r) (bound : Nat) :
    (reconcile parent desired bound).run provider r =
      (evict parent desired current.id bound history []).run provider
        (Pass.made provider .list (Pass.made provider .getDefault r)) := by
  have hr := (Pass.made_cancelled provider .getDefault h.begun).trans h.continued
  unfold reconcile
  rw [Pass.run_ask_made _ _ _ _ h.begun]
  simp only [h.read, h.differs, Bool.false_eq_true, if_false]
  rw [Pass.run_ask_made _ _ _ _ hr]
  simp only [Pass.made_state, h.listed]

theorem calls_eq (h : Listed provider parent desired history current r) (bound : Nat) :
    (reconcile parent desired bound).calls provider r =
      Pass.callOn provider parent .getDefault r.state ::
        Pass.callOn provider parent .list (provider .getDefault r.state).2 ::
          (evict parent desired current.id bound history []).calls provider
            (Pass.made provider .list (Pass.made provider .getDefault r)) := by
  have hr := (Pass.made_cancelled provider .getDefault h.begun).trans h.continued
  unfold reconcile
  rw [Pass.calls_ask_made _ _ _ _ h.begun]
  simp only [h.read, h.differs, Bool.false_eq_true, if_false]
  rw [Pass.calls_ask_made _ _ _ _ hr]
  simp only [Pass.made_state, h.listed]

end Listed

/-- While room is made nothing is listed. -/
theorem Evicting.request_ne_list {cancelled : Bool} {evicted : List String}
    {cs : List (VersionCall σ)} {o : VersionOutcome}
    (h : Evicting parent desired current bound cancelled history evicted cs o) :
    ∀ c ∈ cs, c.request ≠ .list := by
  induction h with
  | stopped | crowded => exact List.forall_mem_nil _
  | created | kept => exact List.forall_mem_singleton.mpr nofun
  | deleted _ _ _ _ _ _ rest ih => exact List.forall_mem_cons.mpr ⟨nofun, ih⟩

/-- A pass whose listing was answered is of this kind. -/
theorem exists_listed (provider : Provider VersionRequest VersionRequest.Answer σ)
    (parent desired : String) (bound : Nat) {r : Run σ}
    (hlisted : Call.Answered ((reconcile parent desired bound).calls provider r) .list
      (.ok history)) :
    ∃ current, Listed provider parent desired history current r := by
  have hlead := Pass.lead_calls provider (reconcile parent desired bound) r
  have hmade : ∀ c ∈ (reconcile parent desired bound).calls provider r,
      c.reply = (provider c.request c.before).1 ∧ c.after = (provider c.request c.before).2 :=
    Pass.forall_calls (fun _ _ _ => ⟨rfl, rfl⟩) _ _
  have h := reconciled provider parent desired bound r
  generalize (reconcile parent desired bound).calls provider r = cs at *
  generalize ((reconcile parent desired bound).run provider r).1 = o at h
  generalize hr : r.cancelled = cancelled at h
  obtain ⟨_, _, _, _, hmem, hanswer⟩ := id hlisted
  cases h with
  | skipped => cases hmem
  | unread | unchanged | stopped => cases List.mem_singleton.mp hmem
  | unlisted get s s' answer differs cancels list l l' listed =>
    rcases List.mem_cons.mp hmem with heq | hmem
    · cases heq
    · cases List.mem_singleton.mp hmem
      cases listed.symm.trans hanswer
  | listed get s s' answer differs cancels list l l' listed rest =>
    have hbefore : s = r.state := hlead.1
    have hbefore' : l = s' := hlead.2.1
    obtain ⟨hget, hafter⟩ : get = (provider .getDefault s).1 ∧ s' = (provider .getDefault s).2 :=
      hmade _ List.mem_cons_self
    obtain ⟨hlist, -⟩ : list = (provider .list l).1 ∧ l' = (provider .list l).2 :=
      hmade _ (List.mem_cons_of_mem _ List.mem_cons_self)
    subst hbefore hbefore' hget hafter hlist
    refine ⟨_, hr, answer, differs, cancels, ?_⟩
    rcases List.mem_cons.mp hmem with heq | hmem
    · cases heq
    · rcases List.mem_cons.mp hmem with heq | hmem
      · cases heq
        exact hanswer
      · exact absurd rfl (rest.request_ne_list _ hmem)

theorem MakesRoom.cons {c : VersionCall σ} {cs : List (VersionCall σ)} {o : VersionOutcome}
    (h : MakesRoom parent desired bound history c.reply.cancels cs o) (hc : tolerated c = true)
    (hdeleted : c.request.deleted? = none) (hcreated : c.request.created? = none) :
    MakesRoom parent desired bound history false (c :: cs) o := by
  have hids : deletedIds (c :: cs) = deletedIds cs := List.filterMap_cons_none hdeleted
  have hgone : deletedIds ((c :: cs).filter tolerated) = deletedIds (cs.filter tolerated) := by
    rw [List.filter_cons_of_pos hc]
    exact List.filterMap_cons_none hdeleted
  have hcontents : createdContents (c :: cs) = createdContents cs :=
    List.filterMap_cons_none hcreated
  have hcan : CanCreate bound history false (c :: cs) ↔
      CanCreate bound history c.reply.cancels cs := by
    simp [CanCreate, hgone, Uncancelled, hcreated]
  constructor
  case planned => exact hids ▸ h.planned
  case skipped => exact nofun
  case halted =>
    cases hcs : cs with
    | nil => exact List.forall_mem_nil _
    | cons d ds =>
      rw [List.dropLast_cons_cons, ← hcs]
      refine List.forall_mem_cons.mpr ⟨⟨hc, Bool.eq_false_iff.mpr fun hcancels => ?_⟩, h.halted⟩
      cases hcs.symm.trans (h.skipped hcancels)
  case finished =>
    intro _ hall
    rw [hids]
    exact h.finished (hall c List.mem_cons_self hcreated).2
      fun d hd => hall d (List.mem_cons_of_mem _ hd)
  case evicted => exact h.evicted.trans hgone.symm
  case created => exact fun h' => hcontents.trans (h.created (hcan.mp h'))
  case not_created => exact fun h' => hcontents.trans (h.not_created (mt hcan.mpr h'))
  case crowded => exact fun hfew hall => h.crowded hfew (hgone.symm.trans hall)

section

variable {provider : Provider VersionRequest VersionRequest.Answer σ} {current : DocumentVersion}
  {r : Run σ} {order : List DocumentVersion → List DocumentVersion}

theorem Listed.makesRoom (h : Listed provider parent desired history current r) (bound : Nat)
    (hdistinct : (history.map (·.id)).Nodup) :
    MakesRoom parent desired bound history r.cancelled
      ((reconcile parent desired bound).calls provider r)
      ((reconcile parent desired bound).run provider r).1 := by
  have hcontinued := (Pass.made_cancelled provider .getDefault h.begun).trans h.continued
  have hroom := makesRoom_evict provider parent desired current.id bound hdistinct
    (Pass.made provider .list (Pass.made provider .getDefault r))
  rw [Pass.made_cancelled provider .list hcontinued] at hroom
  have hlist : tolerated (Pass.callOn provider parent .list (provider .getDefault r.state).2) =
      true := by
    simp only [tolerated, Call.answer, h.listed]
  have hget : tolerated (Pass.callOn provider parent .getDefault r.state) = true := by
    simp only [tolerated, Call.answer, h.read]
  have hlisted := hroom.cons (c := Pass.callOn provider parent .list _) hlist rfl rfl
  rw [← h.continued] at hlisted
  rw [h.begun, h.run_eq bound, h.calls_eq bound]
  exact hlisted.cons (c := Pass.callOn provider parent .getDefault _) hget rfl rfl

theorem Listed.relisted (h : Listed provider parent desired history current r) :
    Listed (relisted order provider) parent desired (order history) current r where
  begun := h.begun
  read := h.read
  differs := h.differs
  continued := h.continued
  listed := (Reply.answer_map order parent _).trans (congrArg (Except.map order) h.listed)

/-- In whatever order the history is listed, the same is asked for and the same is left. -/
theorem Listed.run_relisted (h : Listed provider parent desired history current r) (bound : Nat)
    (hdistinct : (history.map (·.id)).Nodup) (hperm : (order history).Perm history) :
    (reconcile parent desired bound).run (Version.relisted order provider) r =
        (reconcile parent desired bound).run provider r ∧
      ((reconcile parent desired bound).calls (Version.relisted order provider) r).map (·.request) =
        ((reconcile parent desired bound).calls provider r).map (·.request) := by
  have hr : Pass.made (Version.relisted order provider) .list
      (Pass.made (Version.relisted order provider) .getDefault r) =
        Pass.made provider .list (Pass.made provider .getDefault r) := by
    simp [Pass.made, Version.relisted]
  rw [h.relisted.run_eq, h.relisted.calls_eq, h.run_eq, h.calls_eq,
    evict_eq_of_perm parent desired current.id bound hdistinct hperm, hr]
  have hother : ∀ c ∈ (evict parent desired current.id bound history []).calls provider
      (Pass.made provider .list (Pass.made provider .getDefault r)),
      ∀ s, Version.relisted order provider c.request s = provider c.request s := by
    intro c hc s
    have hne := (evicting_evict ..).request_ne_list c hc
    cases hq : c.request with
    | list => exact absurd hq hne
    | getDefault | create | delete => rfl
  obtain ⟨hrun, hcalls⟩ := Pass.run_congr _ _ hother
  rw [hrun, hcalls]
  exact ⟨rfl, rfl⟩

end

end Version

open Version in
/-- **To make room is to sort and to take**. -/
theorem eviction_sorts_and_takes {σ : Type}
    (provider : Provider VersionRequest VersionRequest.Answer σ) (parent desired : String)
    (bound : Nat) {history : List DocumentVersion} (r : Run σ)
    (hlisted : Call.Answered ((reconcile parent desired bound).calls provider r) .list
      (.ok history))
    (hdistinct : (history.map (·.id)).Nodup) :
    MakesRoom parent desired bound history r.cancelled
        ((reconcile parent desired bound).calls provider r)
        ((reconcile parent desired bound).run provider r).1 ∧
      ∀ order : List DocumentVersion → List DocumentVersion, (∀ vs, (order vs).Perm vs) →
        (reconcile parent desired bound).run (relisted order provider) r =
            (reconcile parent desired bound).run provider r ∧
          ((reconcile parent desired bound).calls (relisted order provider) r).map (·.request) =
            ((reconcile parent desired bound).calls provider r).map (·.request) := by
  obtain ⟨current, h⟩ := exists_listed provider parent desired bound hlisted
  exact ⟨h.makesRoom bound hdistinct,
    fun order hperm => h.run_relisted bound hdistinct (hperm history)⟩

open Version in
/-- Of two versions created at once `a` goes first, and that it is already gone does no harm. -/
theorem eviction_sorts_and_takes_by_id :
    let history : List DocumentVersion :=
      [⟨"c", none, false, .ofSecond 2⟩, ⟨"b", none, false, .ofSecond 1⟩,
        ⟨"d", none, true, .ofSecond 0⟩, ⟨"a", none, false, .ofSecond 1⟩]
    let provider : Provider VersionRequest VersionRequest.Answer Unit := .ofStep fun
      | .getDefault, s => (.ok ⟨"d", some "1", true, .ofSecond 0⟩, s)
      | .list, s => (.ok history, s)
      | .create _, s => (.ok "e", s)
      | .delete id, s => (if id = "a" then .error (.notFound "policy" "gone") else .ok (), s)
    let calls := (reconcile "policy" "2" 3).calls provider ⟨false, ()⟩
    Call.Answered calls .list (.ok history) ∧ (history.map (·.id)).Nodup ∧
      plan 3 history = ["a", "b"] ∧ VersionCall.deletedIds calls = ["a", "b"] ∧
      VersionCall.createdContents calls = ["2"] ∧
      (reconcile "policy" "2" 3).run (relisted List.reverse provider) ⟨false, ()⟩ =
        (reconcile "policy" "2" 3).run provider ⟨false, ()⟩ := by
  intro history provider calls
  have hlisted : Call.Answered calls .list (.ok history) := by decide +kernel
  have hdistinct : (history.map (·.id)).Nodup := by decide
  obtain ⟨hroom, horder⟩ := eviction_sorts_and_takes provider "policy" "2" 3 _ hlisted hdistinct
  have hqueued : Queued [⟨"a", none, false, .ofSecond 1⟩, ⟨"b", none, false, .ofSecond 1⟩,
      ⟨"c", none, false, .ofSecond 2⟩] history := ⟨by decide, by decide⟩
  have hplan : plan 3 history = ["a", "b"] := by
    rw [plan, ← hqueued.eq_sorted hdistinct]
    rfl
  have hcan : CanCreate 3 history false calls := by
    refine ⟨by decide, ?_, rfl, ?_⟩
    · rw [hplan]
      decide +kernel
    · unfold VersionCall.Uncancelled
      decide +kernel
  exact ⟨hlisted, hdistinct, hplan, by decide +kernel, hroom.created hcan,
    (horder List.reverse List.reverse_perm).1⟩

end IamConvergence
