/-
Passes with one desired document, again and again, against a version store whose calls may fail
without effect, or be given up before or after their effect. However misleading the outcomes are,
retrying creates one version at most, deletes no more than make room for it, and once it is created
only reads it back.

What is still due shrinks with each effect: a creation until the default says what is desired, and
as many deletions as the history is over its bound then.
-/
import IamConvergence.Proofs.Document.Equality
import IamConvergence.Proofs.Version.Safety

namespace IamConvergence

namespace VersionRequest

/-- Whether a request creates a version. -/
def isCreation : VersionRequest → Bool
  | .create _ => true
  | .getDefault | .list | .delete _ => false

/-- Whether a request deletes a version. -/
def isDeletion : VersionRequest → Bool
  | .delete _ => true
  | .getDefault | .list | .create _ => false

end VersionRequest

namespace VersionStore

open Version (without Evicting Reconciled)

variable {live live' : List DocumentVersion} {parent desired : String} {bound : Nat}
  {q : VersionRequest} {τ : Type} {u : Unreliable serves admits τ}

/-! ## What is due -/

instance (desired : String) (live : List DocumentVersion) : Decidable (Converged desired live) :=
  inferInstanceAs (Decidable
    (∀ v ∈ live, v.isDefault = true → documentsEqual (v.content.getD "") desired = true))

/-- The creations that a store still needs. -/
def creationsDue (desired : String) (live : List DocumentVersion) : Nat :=
  if Converged desired live then 0 else 1

/-- The deletions that a store still needs. -/
def deletionsDue (desired : String) (bound : Nat) (live : List DocumentVersion) : Nat :=
  if Converged desired live then 0 else live.length + 1 - bound

theorem converged_created {id : String} {createdAt : Instant}
    (hdesired : documentsEqual desired desired = true) :
    Converged desired (created desired id createdAt live) := by
  intro v hv hdefault
  rcases List.mem_append.mp hv with hv | hv
  · obtain ⟨w, -, rfl⟩ := List.mem_map.mp hv
    cases hdefault
  · obtain rfl := List.mem_singleton.mp hv
    exact hdesired

/-- Nothing that is warranted changes a converged store. -/
theorem eq_of_effect (he : Effect q live live') (hw : Warranted desired bound q live)
    (h : Converged desired live) : live' = live := by
  cases he with
  | unchanged => rfl
  | created => exact absurd h hw.2.2
  | removed => exact absurd h hw.2.2

theorem creationsDue_of_effect (hdesired : documentsEqual desired desired = true)
    (hsound : Sound live) (he : Effect q live live') (hw : Warranted desired bound q live) :
    (q.isCreation && decide (live' ≠ live)).toNat + creationsDue desired live' ≤
      creationsDue desired live := by
  cases he with
  | unchanged => simp
  | created fresh =>
    obtain ⟨rfl, -, hnot⟩ := hw
    rw [creationsDue, creationsDue, if_pos (converged_created hdesired), if_neg hnot]
    exact Bool.toNat_le _
  | @removed id live retained =>
    have hiff : Converged desired (without id live) ↔ Converged desired live :=
      converged_without_iff (hsound.spared hw.1)
    simp only [creationsDue, hiff, VersionRequest.isCreation, Bool.false_and, Bool.toNat_false,
      Nat.zero_add, Nat.le_refl]

theorem deletionsDue_of_effect (hdesired : documentsEqual desired desired = true)
    (hsound : Sound live) (he : Effect q live live') (hw : Warranted desired bound q live) :
    (q.isDeletion && decide (live' ≠ live)).toNat + deletionsDue desired bound live' ≤
      deletionsDue desired bound live := by
  cases he with
  | unchanged => simp
  | created fresh =>
    obtain ⟨rfl, -, hnot⟩ := hw
    rw [deletionsDue, if_pos (converged_created hdesired)]
    exact Nat.zero_le _
  | @removed id live retained =>
    obtain ⟨hother, hfull, hnot⟩ := hw
    -- the default stays, so that a creation is still due
    have hnot' : ¬Converged desired (without id live) :=
      fun h => hnot ((converged_without_iff (hsound.spared hother)).mp h)
    obtain ⟨v, hv, rfl, -⟩ := hother
    have hlength := length_without hsound.distinct hv
    have hone : (VersionRequest.isDeletion (.delete v.id) &&
        decide (without v.id live ≠ live)).toNat ≤ 1 := Bool.toNat_le _
    rw [deletionsDue, deletionsDue, if_neg hnot, if_neg hnot']
    omega

/-! ## What takes effect -/

/-- The creations among some calls that took effect. -/
def creations (u : Unreliable serves admits τ) (cs : List (VersionCall τ)) : Nat :=
  cs.countP fun c => c.request.isCreation && decide (u.Effective c)

/-- The deletions among some calls that took effect. -/
def deletions (u : Unreliable serves admits τ) (cs : List (VersionCall τ)) : Nat :=
  cs.countP fun c => c.request.isDeletion && decide (u.Effective c)

/-- A warranted call on a sound store. -/
structure Proper (u : Unreliable serves admits τ) (desired : String) (bound : Nat)
    (c : VersionCall τ) : Prop where
  effect : Effect c.request (u.live c.before) (u.live c.after)
  warranted : Warranted desired bound c.request (u.live c.before)
  sound : Sound (u.live c.before)

variable {cs : List (VersionCall τ)} {t t' : τ}

theorem creations_add_due_le (hdesired : documentsEqual desired desired = true)
    (hlead : Call.Lead t cs t') (h : ∀ c ∈ cs, Proper u desired bound c) :
    creations u cs + creationsDue desired (u.live t') ≤ creationsDue desired (u.live t) :=
  hlead.countP_add_le (fun s => creationsDue desired (u.live s)) fun c hc =>
    creationsDue_of_effect hdesired (h c hc).sound (h c hc).effect (h c hc).warranted

theorem deletions_add_due_le (hdesired : documentsEqual desired desired = true)
    (hlead : Call.Lead t cs t') (h : ∀ c ∈ cs, Proper u desired bound c) :
    deletions u cs + deletionsDue desired bound (u.live t') ≤
      deletionsDue desired bound (u.live t) :=
  hlead.countP_add_le (fun s => deletionsDue desired bound (u.live s)) fun c hc =>
    deletionsDue_of_effect hdesired (h c hc).sound (h c hc).effect (h c hc).warranted

/-! ## Quiet passes -/

/-- The default version was read. -/
def DefaultRead (cs : List (VersionCall τ)) : Prop :=
  ∃ c ∈ cs, c.request = .getDefault ∧ ∃ v, c.answer = .ok v

/-- A pass that only read the default version and found it as desired. -/
structure Quiet (cs : List (VersionCall τ)) (o : VersionOutcome) (v : DocumentVersion) : Prop where
  requests : cs.map (·.request) = [.getDefault]
  outcome : o = ⟨some v.id, false, [], none⟩

/-- A pass over a converged store that could read the default is quiet. -/
theorem quiet_of_reconciled {cancelled : Bool} {o : VersionOutcome}
    (h : Reconciled parent desired bound cancelled cs o) (hlead : Call.Lead t cs t')
    (hexplains : ∀ c ∈ cs, u.Explains c) (hconverged : Converged desired (u.live t))
    (hread : DefaultRead cs) : ∃ v ∈ u.live t, v.isDefault = true ∧ Quiet cs o v := by
  have hequal : ∀ {get : Reply DocumentVersion} {s' : τ} {v : DocumentVersion},
      u.Explains ⟨parent, .getDefault, get, t, s'⟩ → get.answer parent = .ok v →
      (v ∈ u.live t ∧ v.isDefault = true) ∧ documentsEqual (v.content.getD "") desired = true := by
    intro get s' v hget hanswer
    obtain ⟨hv, hdefault, -⟩ := default_of_ok hget hanswer
    exact ⟨⟨hv, hdefault⟩, hconverged v hv hdefault⟩
  cases h with
  | skipped => obtain ⟨c, hc, -⟩ := hread; cases hc
  | unread get s s' answer =>
    obtain ⟨c, hc, -, v, hv⟩ := hread
    obtain rfl := List.mem_singleton.mp hc
    cases answer.symm.trans hv
  | @unchanged get s s' v answer heq =>
    obtain ⟨rfl, -⟩ := hlead
    obtain ⟨⟨hv, hdefault⟩, -⟩ := hequal (hexplains _ List.mem_cons_self) answer
    exact ⟨v, hv, hdefault, rfl, rfl⟩
  -- whatever else is done after reading, the default was found different
  | stopped get s s' answer hne =>
    obtain ⟨rfl, -⟩ := hlead
    rw [(hequal (hexplains _ List.mem_cons_self) answer).2] at hne
    cases hne
  | unlisted get s s' answer hne =>
    obtain ⟨rfl, -⟩ := hlead
    rw [(hequal (hexplains _ List.mem_cons_self) answer).2] at hne
    cases hne
  | listed get s s' answer hne =>
    obtain ⟨rfl, -⟩ := hlead
    rw [(hequal (hexplains _ List.mem_cons_self) answer).2] at hne
    cases hne

/-- The version that a call created. -/
structure CreatedBy (u : Unreliable serves admits τ) (desired : String) (c : VersionCall τ)
    (v : DocumentVersion) : Prop where
  mem : v ∈ u.live c.after
  default : v.isDefault = true
  fresh : Fresh v.id (u.live c.before)
  content : v.content = some desired

theorem created_of_effect {content : String} (he : Effect (.create content) live live')
    (hne : live' ≠ live) :
    ∃ id createdAt, Fresh id live ∧ live' = created content id createdAt live := by
  cases he with
  | unchanged => exact absurd rfl hne
  | created fresh => exact ⟨_, _, fresh, rfl⟩

theorem createdBy_of_effective {c : VersionCall τ} (h : Proper u desired bound c)
    (hcreation : c.request.isCreation = true) (heffective : u.Effective c) :
    ∃ v, CreatedBy u desired c v := by
  obtain ⟨resource, request, reply, s, s'⟩ := c
  obtain ⟨he, hw, -⟩ := h
  cases request with
  | getDefault => cases hcreation
  | list => cases hcreation
  | delete => cases hcreation
  | create content =>
    obtain ⟨rfl, -, -⟩ := hw
    obtain ⟨id, createdAt, fresh, hlive⟩ := created_of_effect he heffective
    refine ⟨⟨id, some content, true, createdAt⟩, ?_, rfl, fresh, rfl⟩
    show _ ∈ u.live s'
    rw [hlive]
    exact List.mem_append_right _ List.mem_cons_self

namespace CreatedBy

variable {c : VersionCall τ} {v : DocumentVersion}

/-- The created version is the only default. -/
theorem eq_default (h : CreatedBy u desired c v) (hsound : Sound (u.live c.after))
    {w : DocumentVersion} (hw : w ∈ u.live c.after) (hdefault : w.isDefault = true) : w = v :=
  hsound.default_unique hw h.mem hdefault h.default

theorem converged (h : CreatedBy u desired c v) (hsound : Sound (u.live c.after))
    (hdesired : documentsEqual desired desired = true) : Converged desired (u.live c.after) := by
  intro w hw hdefault
  rw [h.eq_default hsound hw hdefault, h.content]
  exact hdesired

end CreatedBy

/-! ## Retries -/

section

variable {ι : Type} {e : Episode ι VersionRequest VersionRequest.Answer VersionOutcome τ}

/-- Throughout a pass over a sound store the store stays sound. -/
theorem Passed.sound (h : Passed u parent desired bound e) (hsound : Sound (u.live e.before)) :
    (∀ c ∈ e.calls, Sound (u.live c.before) ∧ Sound (u.live c.after)) ∧ Sound (u.live e.after) :=
  h.keeps (I := Sound) (fun he hw hs => hs.of_effect he hw) hsound

theorem Passed.proper (h : Passed u parent desired bound e) (hsound : Sound (u.live e.before)) :
    ∀ c ∈ e.calls, Proper u desired bound c := fun c hc =>
  ⟨effect (h.explains c hc), h.warranted c hc, ((h.sound hsound).1 c hc).1⟩

/-- From where a pass finds the store converged, it leaves it as it is. -/
theorem Passed.live_after_eq (h : Passed u parent desired bound e) {c : VersionCall τ}
    (hc : c ∈ e.calls) (hconverged : Converged desired (u.live c.after)) :
    u.live e.after = u.live c.after := by
  obtain ⟨ds, hsub, hlead⟩ := h.lead.rest hc
  refine hlead.invariant (I := fun s => u.live s = u.live c.after) ?_ rfl
  intro d hd hbefore
  have hkept : u.live d.after = u.live d.before :=
    eq_of_effect (effect (h.explains d (hsub d hd))) (h.warranted d (hsub d hd))
      (by rw [hbefore]; exact hconverged)
  exact hkept.trans hbefore

/-- A pass over a converged store keeps it. -/
theorem Passed.live_eq (h : Passed u parent desired bound e)
    (hconverged : Converged desired (u.live e.before)) : u.live e.after = u.live e.before :=
  (h.keeps (I := fun live => live = u.live e.before)
    (fun he hw hlive => (eq_of_effect he hw (hlive ▸ hconverged)).trans hlive) rfl).2

end

theorem proper_retries (u : Unreliable serves admits τ) (parent : String) (bound : Nat)
    (cancellations : List Bool) (t : τ) (hsound : Sound (u.live t)) :
    ∀ e ∈ Pass.retries u.provider (Version.reconcile parent desired bound) cancellations t,
      ∀ c ∈ e.calls, Proper u desired bound c := by
  refine Pass.series_forall (I := fun s => Sound (u.live s)) ?_ _ t hsound
  intro input cancelled s hs
  have hpassed := passed_episode u (fun _ : Unit => Version.reconcile parent desired bound) input
    rfl cancelled hs
  exact ⟨(hpassed.sound hs).2, hpassed.proper hs⟩

/-- After the creation every later pass is quiet. -/
theorem pairwise_quiet (u : Unreliable serves admits τ) (parent : String) (bound : Nat)
    (hdesired : documentsEqual desired desired = true) :
    ∀ (cancellations : List Bool) (t : τ), Sound (u.live t) →
      (Pass.retries u.provider (Version.reconcile parent desired bound) cancellations t).Pairwise
        fun e e' => ∀ c ∈ e.calls, c.request.isCreation = true → u.Effective c →
          DefaultRead e'.calls → ∃ v, CreatedBy u desired c v ∧ Quiet e'.calls e'.result v
  | [], _, _ => .nil
  | cancelled :: cancellations, t, hsound => by
    have hpassed := passed_episode u (fun _ : Unit => Version.reconcile parent desired bound) () rfl
      cancelled hsound
    obtain ⟨hcalls, hafter⟩ := hpassed.sound hsound
    refine .cons ?_ (pairwise_quiet u parent bound hdesired cancellations _ hafter)
    intro e' he' c hc hcreation heffective
    obtain ⟨v, hv⟩ := createdBy_of_effective (hpassed.proper hsound c hc) hcreation heffective
    have hsound' : Sound (u.live c.after) := (hcalls c hc).2
    have hconverged := hv.converged hsound' hdesired
    -- from the creation on the store stays as it is
    refine Pass.series_forall (I := fun s => u.live s = u.live c.after)
      (R := fun e => DefaultRead e.calls → ∃ v, CreatedBy u desired c v ∧ Quiet e.calls e.result v)
      ?_ _ _ (hpassed.live_after_eq hc hconverged) e' he'
    intro input cancelled' s hs
    have hsound_s : Sound (u.live s) := by rw [hs]; exact hsound'
    have hconverged_s : Converged desired (u.live s) := by rw [hs]; exact hconverged
    have hpassed' := passed_episode u (fun _ : Unit => Version.reconcile parent desired bound) input
      rfl cancelled' hsound_s
    refine ⟨(hpassed'.live_eq hconverged_s).trans hs, fun hread => ?_⟩
    obtain ⟨_, hreconciled⟩ := hpassed'.reconciled
    obtain ⟨w, hw, hdefault, hquiet⟩ :=
      quiet_of_reconciled hreconciled hpassed'.lead hpassed'.explains hconverged_s hread
    have hw' : w ∈ u.live c.after := by rw [← hs]; exact hw
    obtain rfl : w = v := hv.eq_default hsound' hw' hdefault
    exact ⟨w, hv, hquiet⟩

/-- Retrying with a desired document that can be read creates it at most once, and not at all where
the default already says it; it deletes no more than makes room; and after the creation, reported or
not, every pass that can read the default gives the new version and does nothing else. -/
theorem retries_create_once (u : Unreliable serves admits τ) (parent desired : String) (bound : Nat)
    (cancellations : List Bool) (t : τ) (hsound : Sound (u.live t))
    (hdesired : (Document.parse? desired).isSome = true) :
    let es := Pass.retries u.provider (Version.reconcile parent desired bound) cancellations t
    let cs := es.flatMap (·.calls)
    creations u cs ≤ 1 ∧
      (Converged desired (u.live t) → creations u cs = 0) ∧
      deletions u cs ≤ (u.live t).length + 1 - bound ∧
      es.Pairwise fun e e' => ∀ c ∈ e.calls, c.request.isCreation = true → u.Effective c →
        DefaultRead e'.calls → ∃ v, CreatedBy u desired c v ∧ Quiet e'.calls e'.result v := by
  intro es cs
  have hself := documentsEqual_self hdesired
  obtain ⟨t', hlead⟩ : ∃ t', Call.Lead t cs t' :=
    Pass.lead_series u.provider (fun _ : Unit => Version.reconcile parent desired bound) _ t
  have hproper : ∀ c ∈ cs, Proper u desired bound c := by
    intro c hc
    obtain ⟨e, he, hc⟩ := List.mem_flatMap.mp hc
    exact proper_retries u parent bound cancellations t hsound e he c hc
  have hcreations := creations_add_due_le hself hlead hproper
  have hdeletions := deletions_add_due_le hself hlead hproper
  refine ⟨?_, ?_, ?_, pairwise_quiet u parent bound hself cancellations t hsound⟩
  · have hdue : creationsDue desired (u.live t) ≤ 1 := by unfold creationsDue; split <;> omega
    omega
  · intro hconverged
    have hdue : creationsDue desired (u.live t) = 0 := if_pos hconverged
    omega
  · have hdue : deletionsDue desired bound (u.live t) ≤ (u.live t).length + 1 - bound := by
      unfold deletionsDue; split <;> omega
    omega

/-- Neither the deletion of `a` nor the creation of `bv` is acknowledged, so that two passes report a
cancellation and the old version. The third one finds the new one. -/
theorem retries_create_once_unacknowledged :
    let live : List DocumentVersion :=
      [⟨"a", some "1", false, .ofSecond 1⟩, ⟨"b", some "2", true, .ofSecond 2⟩]
    let t := (live, [.none false, .none false, .unacknowledged, .none false, .none false,
      .unacknowledged])
    let es := Pass.retries scheduled.provider (Version.reconcile "policy" "3" 2)
      [false, false, false] t
    let cs := es.flatMap (·.calls)
    Sound live ∧ (Document.parse? "3").isSome = true ∧
      es.map (·.result) = [⟨some "b", false, [], some (.cancelled "policy")⟩,
        ⟨some "b", false, [], some (.cancelled "policy")⟩, ⟨some "bv", false, [], none⟩] ∧
      creations scheduled cs = 1 ∧ deletions scheduled cs = 1 ∧
      es.Pairwise fun e e' => ∀ c ∈ e.calls, c.request.isCreation = true → scheduled.Effective c →
        DefaultRead e'.calls → ∃ v, CreatedBy scheduled "3" c v ∧ Quiet e'.calls e'.result v := by
  intro live t es cs
  have hsound : Sound live := ⟨by decide, by decide⟩
  have hdesired : (Document.parse? "3").isSome = true := by decide
  obtain ⟨-, -, -, hquiet⟩ :=
    retries_create_once scheduled "policy" "3" 2 [false, false, false] t hsound hdesired
  exact ⟨hsound, hdesired, by decide +kernel, by decide +kernel, by decide +kernel, hquiet⟩

end VersionStore

end IamConvergence
