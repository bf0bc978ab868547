/-
Passes against a version store whose calls may fail without effect, or be given up before or after
their effect. Every deletion and creation is warranted by the live store: the default is spared, a
deletion has to make room, a creation has room, and the default does not yet say what is desired. So
the store stays sound, and outgrows its bound no further than it already did.

What carries over the deletions of a pass is that the versions in hand are the live ones.
-/
import IamConvergence.Proofs.Version.Store
import IamConvergence.Proofs.Version.Trace

namespace IamConvergence

namespace VersionStore

open Version (without Evicting Reconciled)

variable {live live' history : List DocumentVersion} {parent desired current : String} {bound : Nat}
  {q : VersionRequest}

/-! ## Warranted requests -/

/-- The default version says what is desired. -/
def Converged (desired : String) (live : List DocumentVersion) : Prop :=
  ∀ v ∈ live, v.isDefault = true → documentsEqual (v.content.getD "") desired = true

/-- What a request needs of the store before it is made. -/
def Warranted (desired : String) (bound : Nat) : VersionRequest → List DocumentVersion → Prop
  | .getDefault, _ | .list, _ => True
  | .create content, live =>
    content = desired ∧ live.length < bound ∧ ¬Converged desired live
  | .delete id, live =>
    (∃ v ∈ live, v.id = id ∧ v.isDefault = false) ∧ bound ≤ live.length ∧ ¬Converged desired live

theorem Sound.spared (h : Sound live) {id : String}
    (hother : ∃ v ∈ live, v.id = id ∧ v.isDefault = false) :
    ∀ v ∈ live, v.isDefault = true → v.id ≠ id := by
  rintro v hv hdefault hid
  obtain ⟨w, hw, rfl, hnot⟩ := hother
  rw [h.eq_of_id hv hw hid, hnot] at hdefault
  cases hdefault

/-- A warranted request keeps the store sound. -/
theorem Sound.of_effect (h : Sound live) (he : Effect q live live')
    (hw : Warranted desired bound q live) : Sound live' := by
  cases he with
  | unchanged => exact h
  | created fresh => exact h.created fresh
  | removed retained => exact h.without (h.spared hw.1)

/-- A warranted request lets the store grow up to its bound only. -/
theorem length_le_of_effect (he : Effect q live live') (hw : Warranted desired bound q live) :
    live'.length ≤ max bound live.length := by
  cases he with
  | unchanged => exact Nat.le_max_right _ _
  | created fresh =>
    rw [length_created]
    have hroom : live.length < bound := hw.2.1
    omega
  | removed retained => exact Nat.le_trans (List.length_filter_le _ _) (Nat.le_max_right _ _)

/-- While versions other than the default are removed, what the default says stays. -/
theorem converged_without_iff {id : String} (hspared : ∀ v ∈ live, v.isDefault = true → v.id ≠ id) :
    Converged desired (without id live) ↔ Converged desired live := by
  constructor
  · intro h v hv hdefault
    exact h v (mem_without.mpr ⟨hv, hspared v hv hdefault⟩) hdefault
  · intro h v hv hdefault
    exact h v (mem_without.mp hv).1 hdefault

/-- What is chosen among the versions in hand is a live version other than the default. -/
theorem Mirrors.candidate (h : Mirrors history live) {v : DocumentVersion}
    (candidate : evictionCandidate? history bound = some v) :
    ∃ w ∈ live, w.id = v.id ∧ w.isDefault = false := by
  obtain ⟨hv, hnot⟩ := mem_of_evictionCandidate? candidate
  obtain ⟨w, hw, hbare⟩ := h.exists_bare_eq hv
  have hid : w.bare.id = v.bare.id := congrArg DocumentVersion.id hbare
  have hdefault : w.bare.isDefault = v.bare.isDefault := congrArg DocumentVersion.isDefault hbare
  exact ⟨w, hw, hid, hdefault.trans hnot⟩

/-! ## The calls of a pass -/

variable {τ : Type} {u : Unreliable serves admits τ} {cancelled : Bool} {evicted : List String}
  {cs : List (VersionCall τ)} {o : VersionOutcome}

/-- While room is made, every request is warranted. -/
theorem warranted_of_evicting
    (h : Evicting parent desired current bound cancelled history evicted cs o) :
    ∀ {t t' : τ}, Call.Lead t cs t' → (∀ c ∈ cs, u.Explains c) → Sound (u.live t) →
      Mirrors history (u.live t) → ¬Converged desired (u.live t) →
      ∀ c ∈ cs, Warranted desired bound c.request (u.live c.before) := by
  induction h with
  | stopped => intro t t' _ _ _ _ _ c hc; cases hc
  | crowded => intro t t' _ _ _ _ _ c hc; cases hc
  | created evicted reply s s' hroom =>
    rintro t t' ⟨rfl, -⟩ - - hmirrors hnot c hc
    obtain rfl := List.mem_singleton.mp hc
    exact ⟨rfl, hmirrors.length_eq ▸ hroom, hnot⟩
  | kept evicted reply s s' hfull candidate answer =>
    rintro t t' ⟨rfl, -⟩ - - hmirrors hnot c hc
    obtain rfl := List.mem_singleton.mp hc
    exact ⟨hmirrors.candidate candidate, hmirrors.length_eq ▸ hfull, hnot⟩
  | @deleted history evicted v reply s s' cs o hfull candidate answer rest ih =>
    rintro t t' ⟨rfl, hlead⟩ hexplains hsound hmirrors hnot c hc
    have hother := hmirrors.candidate candidate
    rcases List.mem_cons.mp hc with rfl | hc
    · exact ⟨hother, hmirrors.length_eq ▸ hfull, hnot⟩
    · have hspared := hsound.spared hother
      have hretained : ¬Fresh v.id (u.live s) := by
        obtain ⟨w, hw, hid, -⟩ := hother
        exact fun hfresh => hfresh w hw hid
      -- the store loses what the versions in hand lose
      have hlive : u.live s' = without v.id (u.live s) :=
        removed_of_answer (hexplains _ List.mem_cons_self) hretained answer
      refine ih hlead (fun d hd => hexplains d (List.mem_cons_of_mem _ hd)) ?_ ?_ ?_ c hc
      · rw [hlive]
        exact hsound.without hspared
      · rw [hlive]
        exact hmirrors.without v.id
      · rw [hlive, converged_without_iff hspared]
        exact hnot

/-- Every request of a pass over a sound store is warranted. -/
theorem warranted_of_reconciled (h : Reconciled parent desired bound cancelled cs o) {t t' : τ}
    (hlead : Call.Lead t cs t') (hexplains : ∀ c ∈ cs, u.Explains c) (hsound : Sound (u.live t)) :
    ∀ c ∈ cs, Warranted desired bound c.request (u.live c.before) := by
  intro c hc
  cases h with
  | skipped => cases hc
  | unread => obtain rfl := List.mem_singleton.mp hc; trivial
  | unchanged => obtain rfl := List.mem_singleton.mp hc; trivial
  | stopped => obtain rfl := List.mem_singleton.mp hc; trivial
  | unlisted =>
    rcases List.mem_cons.mp hc with rfl | hc
    · trivial
    · obtain rfl := List.mem_singleton.mp hc; trivial
  | listed get s s' answer hne cancels list l l' listed rest =>
    obtain ⟨rfl, rfl, hrest⟩ := hlead
    rcases List.mem_cons.mp hc with rfl | hc
    · trivial
    rcases List.mem_cons.mp hc with rfl | hc
    · trivial
    obtain ⟨hv, hdefault, hget⟩ := default_of_ok (hexplains _ List.mem_cons_self) answer
    obtain ⟨hmirrors, hlist⟩ :=
      mirrors_of_ok (hexplains _ (List.mem_cons_of_mem _ List.mem_cons_self)) listed
    -- neither reading nor listing changed the store
    have hlive := hlist.trans hget
    refine warranted_of_evicting rest hrest
      (fun d hd => hexplains d (List.mem_cons_of_mem _ (List.mem_cons_of_mem _ hd))) ?_ ?_ ?_ c hc
    · rw [hlive]
      exact hsound
    · rw [hlist]
      exact hmirrors
    · intro hconverged
      rw [hlive] at hconverged
      rw [hconverged _ hv hdefault] at hne
      cases hne

/-! ## Whole passes -/

/-- What a pass did to a sound store. -/
structure Passed {ι : Type} (u : Unreliable serves admits τ) (parent desired : String) (bound : Nat)
    (e : Episode ι VersionRequest VersionRequest.Answer VersionOutcome τ) : Prop where
  lead : Call.Lead e.before e.calls e.after
  explains : ∀ c ∈ e.calls, u.Explains c
  reconciled : ∃ cancelled, Reconciled parent desired bound cancelled e.calls e.result
  warranted : ∀ c ∈ e.calls, Warranted desired bound c.request (u.live c.before)

section

variable {ι : Type} {e : Episode ι VersionRequest VersionRequest.Answer VersionOutcome τ}

theorem passed_episode (u : Unreliable serves admits τ) (pass : ι → VersionPass VersionOutcome)
    (input : ι) (hpass : pass input = Version.reconcile parent desired bound) (cancelled : Bool)
    {s : τ} (h : Sound (u.live s)) :
    Passed u parent desired bound (Pass.episode u.provider pass input cancelled s) := by
  have hlead := Pass.lead_episode u.provider pass input cancelled s
  have hexplains := u.explains_calls (pass input) ⟨cancelled, s⟩
  have hreconciled : Reconciled parent desired bound cancelled
      ((pass input).calls u.provider ⟨cancelled, s⟩)
      ((pass input).run u.provider ⟨cancelled, s⟩).1 := by
    rw [hpass]
    exact Version.reconciled u.provider parent desired bound ⟨cancelled, s⟩
  exact ⟨hlead, hexplains, ⟨cancelled, hreconciled⟩,
    warranted_of_reconciled hreconciled hlead hexplains h⟩

/-- What every warranted request keeps of the store holds throughout a pass. -/
theorem Passed.keeps {I : List DocumentVersion → Prop} (h : Passed u parent desired bound e)
    (step : ∀ {q : VersionRequest} {live live' : List DocumentVersion},
      Effect q live live' → Warranted desired bound q live → I live → I live')
    (hI : I (u.live e.before)) :
    (∀ c ∈ e.calls, I (u.live c.before) ∧ I (u.live c.after)) ∧ I (u.live e.after) := by
  have keep : ∀ c ∈ e.calls, I (u.live c.before) → I (u.live c.after) :=
    fun c hc => step (effect (h.explains c hc)) (h.warranted c hc)
  exact ⟨h.lead.through (I := fun s => I (u.live s)) keep hI,
    h.lead.invariant (I := fun s => I (u.live s)) keep hI⟩

end

/-! ## Safety -/

/-- What is safe about a call, the store having begun with so many versions. -/
structure Safe (u : Unreliable serves admits τ) (bound initial : Nat) (c : VersionCall τ) :
    Prop where
  before : Sound (u.live c.before)
  after : Sound (u.live c.after)
  spared : ∀ id, c.request = .delete id →
    ∀ v ∈ u.live c.before, v.isDefault = true → v.id ≠ id ∧ v ∈ u.live c.after
  room : ∀ content, c.request = .create content → (u.live c.before).length < bound
  bounded : (u.live c.after).length ≤ max bound initial

/-- The version that an outcome reports is in force: it is the default and has the desired
content. -/
structure InForce (desired : String) (bound : Nat) (o : VersionOutcome)
    (live : List DocumentVersion) : Prop where
  fits : live.length ≤ bound
  reported : ∃ v ∈ live, v.isDefault = true ∧ o.versionId = some v.id ∧ v.content = some desired

/-- Sound, and outgrown no further than it already was. -/
structure Within (bound initial : Nat) (live : List DocumentVersion) : Prop where
  sound : Sound live
  bounded : live.length ≤ max bound initial

variable {initial : Nat} {c : VersionCall τ}

theorem Within.of_effect (h : Within bound initial live) (he : Effect q live live')
    (hw : Warranted desired bound q live) : Within bound initial live' := by
  refine ⟨h.sound.of_effect he hw, ?_⟩
  have hlength := length_le_of_effect he hw
  have hbounded := h.bounded
  omega

/-- A deletion leaves every other version. -/
theorem mem_of_effect_delete {id : String} {v : DocumentVersion} (he : Effect (.delete id) live live')
    (hv : v ∈ live) (hid : v.id ≠ id) : v ∈ live' := by
  cases he with
  | unchanged => exact hv
  | removed => exact mem_without.mpr ⟨hv, hid⟩

theorem safe_of_warranted (hexplains : u.Explains c)
    (hw : Warranted desired bound c.request (u.live c.before))
    (h : Within bound initial (u.live c.before)) : Safe u bound initial c := by
  have he : Effect c.request (u.live c.before) (u.live c.after) := effect hexplains
  have hafter := h.of_effect he hw
  refine ⟨h.sound, hafter.sound, ?_, ?_, hafter.bounded⟩
  · intro id hid v hv hdefault
    rw [hid] at he hw
    have hne := h.sound.spared hw.1 v hv hdefault
    exact ⟨hne, mem_of_effect_delete he hv hne⟩
  · intro content hcontent
    rw [hcontent] at hw
    exact hw.2.1

/-- A creation that is reported is in force. -/
theorem inForce_of_created {id : String} {s s' : τ} {reply : Reply String}
    (hexplains : u.Explains ⟨parent, .create desired, reply, s, s'⟩)
    (hroom : (u.live s).length < bound) (hok : reply.answer parent = .ok id)
    (hid : o.versionId = some id) : InForce desired bound o (u.live s') := by
  obtain ⟨createdAt, -, hlive⟩ := created_of_ok hexplains hok
  have hlive : u.live s' = created desired id createdAt (u.live s) := hlive
  rw [hlive]
  constructor
  · rw [length_created]
    exact hroom
  · exact ⟨⟨id, some desired, true, createdAt⟩, List.mem_append_right _ List.mem_cons_self, rfl, hid,
      rfl⟩

/-- One pass over a sound store. -/
theorem Passed.safe {ι : Type} {e : Episode ι VersionRequest VersionRequest.Answer VersionOutcome τ}
    (h : Passed u parent desired bound e) (hwithin : Within bound initial (u.live e.before)) :
    Within bound initial (u.live e.after) ∧ (∀ c ∈ e.calls, Safe u bound initial c) ∧
      (e.result.changed = true → InForce desired bound e.result (u.live e.after)) := by
  obtain ⟨hcalls, hafter⟩ :=
    h.keeps (I := Within bound initial) (fun he hw hbefore => hbefore.of_effect he hw) hwithin
  refine ⟨hafter, fun c hc => ?_, fun hchanged => ?_⟩
  · exact safe_of_warranted (h.explains c hc) (h.warranted c hc) (hcalls c hc).1
  · obtain ⟨cancelled, hreconciled⟩ := h.reconciled
    obtain ⟨id, hid, reply, s, s', hlast, hok⟩ := hreconciled.created_of_changed hchanged
    have hmem := List.mem_of_getLast? hlast
    rw [h.lead.eq_after hlast]
    exact inForce_of_created (h.explains _ hmem) (h.warranted _ hmem).2.1 hok hid

/-- Whatever is desired and however calls fail, a series of passes over a sound store keeps it sound
and within its bound, never deletes the default and creates only where there is room; a version that
a pass reports as created is in force. -/
theorem series_safe (u : Unreliable serves admits τ) (parent : String) (bound : Nat)
    (inputs : List (String × Bool)) (t : τ) (h : Sound (u.live t)) :
    ∀ e ∈ Pass.series u.provider (fun desired => Version.reconcile parent desired bound) inputs t,
      (∀ c ∈ e.calls, Safe u bound (u.live t).length c) ∧ Sound (u.live e.after) ∧
        (u.live e.after).length ≤ max bound (u.live t).length ∧
        (e.result.changed = true → InForce e.input bound e.result (u.live e.after)) := by
  refine Pass.series_forall (I := fun s => Within bound (u.live t).length (u.live s)) ?_ inputs t
    ⟨h, Nat.le_max_right _ _⟩
  intro desired cancelled s hs
  have hpassed := passed_episode u (fun desired => Version.reconcile parent desired bound) desired
    rfl cancelled hs.sound
  obtain ⟨hafter, hsafe, hchanged⟩ := hpassed.safe hs
  exact ⟨hafter, hsafe, hafter.sound, hafter.bounded, hchanged⟩

/-- A history over its bound: the first pass does not learn that `a` is gone, the second one makes
room for `bv` by deleting `c`. -/
theorem series_safe_trimmed :
    let live : List DocumentVersion :=
      [⟨"a", some "1", false, .ofSecond 1⟩, ⟨"b", some "2", true, .ofSecond 2⟩,
        ⟨"c", some "3", false, .ofSecond 3⟩]
    let t := (live, [.none false, .none false, .unacknowledged])
    let es := Pass.series scheduled.provider
      (fun desired => Version.reconcile "policy" desired 2) [("4", false), ("5", false)] t
    Sound live ∧
      es.map (·.result) = [⟨some "b", false, [], some (.cancelled "policy")⟩,
        ⟨some "bv", true, ["c"], none⟩] ∧
      ∀ e ∈ es, Sound e.after.1 ∧
        (e.result.changed = true → InForce e.input 2 e.result e.after.1) := by
  intro live t es
  have hsound : Sound live := ⟨by decide, by decide⟩
  refine ⟨hsound, by decide +kernel, fun e he => ?_⟩
  obtain ⟨-, hafter, -, hchanged⟩ := series_safe scheduled "policy" 2 _ t hsound e he
  exact ⟨hafter, hchanged⟩

end VersionStore

end IamConvergence
