/-
The version histories of a reachable account. Versions are created at the time of the account's
clock, which only moves forward, so they are listed in the order of their age; and exactly one of
them is the default, which is the one that the policy names.
-/
import IamConvergence.Proofs.Account.WellFormed
import IamConvergence.Proofs.Version.Aging

namespace IamConvergence

open DocumentVersion (Aged demoted mem_others others)
open VersionStore (Fresh Orderly Sound)
open Version (without)

variable {e : PolicyEntry} {v : DocumentVersion} {now now' : Instant} {arn : String}

/-! ## Entries -/

/-- Where ids are distinct, the first version with an id is the only one. -/
theorem eraseP_eq_without {id : String} : ∀ {versions : List DocumentVersion},
    (versions.map (·.id)).Nodup → versions.eraseP (·.id == id) = without id versions
  | [], _ => rfl
  | v :: vs, h => by
    obtain ⟨hnot, hrest⟩ := List.nodup_cons.mp h
    by_cases hid : v.id = id
    · have hkept : ∀ w ∈ vs, (w.id != id) = true := fun w hw =>
        bne_iff_ne.mpr fun heq => hnot (List.mem_map.mpr ⟨w, hw, heq.trans hid.symm⟩)
      rw [List.eraseP_cons_of_pos (by simpa using hid), without,
        List.filter_cons_of_neg (by simpa using hid), List.filter_eq_self.mpr hkept]
    · rw [List.eraseP_cons_of_neg (by simpa using hid), eraseP_eq_without hrest, without, without,
        List.filter_cons_of_pos (by simpa using hid)]

namespace PolicyEntry

theorem Numbered.fresh (h : e.Numbered) : Fresh (versionId e.nextVersion) e.versions := by
  intro w hw heq
  obtain ⟨n, hn, hid⟩ := h w hw
  have := versionId_inj (hid.symm.trans heq)
  omega

/-- The versions of a policy are orderly and were created before some time, and their default is the
one that the policy names. -/
structure Dated (e : PolicyEntry) (now : Instant) : Prop where
  orderly : Orderly e.versions
  default : ∀ v ∈ e.versions, v.isDefault = true → v.id = e.policy.defaultVersionId
  past : ∀ v ∈ e.versions, v.createdAt.before now = true

namespace Dated

theorem later (h : e.Dated now)
    (hlater : ∀ t : Instant, t.before now = true → t.before now' = true) : e.Dated now' :=
  ⟨h.orderly, h.default, fun v hv => hlater _ (h.past v hv)⟩

/-- A version that is not the default is not the one that the policy names. -/
theorem ne_default (h : e.Dated now) (hv : v ∈ others e.versions) :
    v.id ≠ e.policy.defaultVersionId := by
  obtain ⟨d, hd⟩ := h.orderly.sound.exists_default
  have hmem : d ∈ e.versions.filter (·.isDefault) := by
    rw [hd]
    exact List.mem_cons_self
  obtain ⟨hmem, hdefault⟩ := List.mem_filter.mp hmem
  rw [← h.default d hmem hdefault]
  exact (h.orderly.spared hv d hmem hdefault).symm

theorem without (h : e.Dated now) (hv : v ∈ others e.versions) :
    ({ e with versions := Version.without v.id e.versions } : PolicyEntry).Dated now :=
  ⟨h.orderly.without hv, fun w hw => h.default w (VersionStore.mem_without.mp hw).1,
    fun w hw => h.past w (VersionStore.mem_without.mp hw).1⟩

/-- A version that is pushed now has a number of its own and is the latest. -/
theorem push (h : e.Dated now) (hnumbered : e.Numbered) (document : String) (asDefault : Bool)
    (hlater : now.before now' = true) :
    (e.push ⟨versionId e.nextVersion, some document, asDefault, now⟩).Dated now' := by
  have hfresh := hnumbered.fresh
  have hpast : ∀ w ∈ e.versions, w.createdAt.before now' = true := fun w hw =>
    Instant.before_trans (h.past w hw) hlater
  cases asDefault with
  | true =>
    have hold : ∀ w ∈ e.versions.map demoted, w.isDefault = false ∧ w.createdAt.before now = true := by
      intro w hw
      obtain ⟨w', hw', rfl⟩ := List.mem_map.mp hw
      exact ⟨rfl, h.past w' hw'⟩
    constructor
    · have haged : Aged (e.versions.map demoted) := List.pairwise_map.mpr h.orderly.aged
      exact ⟨h.orderly.sound.created hfresh, haged.append fun w hw => (hold w hw).2⟩
    · intro w hw hdefault
      rcases List.mem_append.mp hw with hw | hw
      · rw [(hold w hw).1] at hdefault
        cases hdefault
      · obtain rfl := List.mem_singleton.mp hw
        rfl
    · intro w hw
      rcases List.mem_append.mp hw with hw | hw
      · exact Instant.before_trans (hold w hw).2 hlater
      · obtain rfl := List.mem_singleton.mp hw
        exact hlater
  | false =>
    constructor
    · exact ⟨h.orderly.sound.append hfresh rfl, h.orderly.aged.append h.past⟩
    · intro w hw hdefault
      rcases List.mem_append.mp hw with hw | hw
      · exact h.default w hw hdefault
      · obtain rfl := List.mem_singleton.mp hw
        cases hdefault
    · intro w hw
      rcases List.mem_append.mp hw with hw | hw
      · exact hpast w hw
      · obtain rfl := List.mem_singleton.mp hw
        exact hlater

end Dated

end PolicyEntry

/-! ## Accounts -/

namespace Account

variable {a a' : Account}

theorem now_before_now {m n : Account} (h : m.tick < n.tick) : m.now.before n.now = true := by
  refine Instant.before_ofSecond ?_
  omega

/-- What was before now is so later on. -/
theorem before_now_of_tick_le (h : a.tick ≤ a'.tick) {t : Instant} (ht : t.before a.now = true) :
    t.before a'.now = true := by
  rcases Nat.eq_or_lt_of_le h with heq | hlt
  · have hnow : a'.now = a.now := by rw [now, now, heq]
    rw [hnow]
    exact ht
  · exact Instant.before_trans ht (now_before_now hlt)

/-- The versions of every policy are orderly and were created before now. -/
def Dated (a : Account) : Prop := ∀ arn e, a.policies.find? arn = some e → e.Dated a.now

namespace Dated

theorem of_subset (h : a.Dated) (htick : a.tick ≤ a'.tick)
    (hsub : ∀ arn e, a'.policies.find? arn = some e → a.policies.find? arn = some e) : a'.Dated :=
  fun arn e he => (h arn e (hsub arn e he)).later fun _ => before_now_of_tick_le htick

theorem putPolicy (h : a.Dated) (he : e.Dated a.now) : (a.putPolicy arn e).Dated := by
  intro arn' e' he'
  rcases Table.find?_insert_eq_some_iff.mp he' with ⟨-, rfl⟩ | ⟨-, he'⟩
  · exact he
  · exact h arn' e' he'

theorem of_effect {q : IamRequest} {answer : q.Answer} (h : a.Dated) (hwell : a.WellFormed)
    (heffect : Effect q a answer a') : a'.Dated := by
  cases q with
  | getRole | listAttached | findPolicy | getPolicy | getVersion | listVersions =>
    obtain ⟨-, rfl⟩ := heffect
    exact h
  | createRole =>
    obtain ⟨-, -, -, rfl⟩ := heffect
    exact h.of_subset (Nat.le_succ _) fun _ _ he => he
  | updateTrustPolicy | attach =>
    obtain ⟨-, e, -, rfl⟩ := heffect
    exact h.of_subset (Nat.le_refl _) fun _ _ he => he
  | deleteRole | detach =>
    obtain ⟨e, -, -, rfl⟩ := heffect
    exact h.of_subset (Nat.le_refl _) fun _ _ he => he
  | createPolicy d =>
    obtain ⟨-, -, rfl, rfl⟩ := heffect
    have hissued : a.issued.Dated := h.of_subset (Nat.le_succ _) fun _ _ he => he
    have hnow : a.now.before a.issued.now = true := now_before_now (Nat.lt_succ_self _)
    refine putPolicy hissued ⟨⟨⟨List.nodup_singleton _, rfl⟩, List.pairwise_singleton _ _⟩, ?_, ?_⟩
    · intro v hv _
      obtain rfl := List.mem_singleton.mp hv
      rfl
    · intro v hv
      obtain rfl := List.mem_singleton.mp hv
      exact hnow
  | deletePolicy arn =>
    obtain ⟨e, -, -, -, rfl⟩ := heffect
    exact h.of_subset (Nat.le_refl _) fun _ _ he => Table.find?_of_find?_erase he
  | createVersion arn document asDefault =>
    obtain ⟨e, he, -, -, rfl, rfl⟩ := heffect
    let later : Account := { a with tick := a.tick + 1 }
    have hlater : later.Dated := h.of_subset (Nat.le_succ _) fun _ _ he => he
    have hnow : a.now.before later.now = true := now_before_now (Nat.lt_succ_self _)
    exact hlater.putPolicy ((h arn e he).push (hwell arn e he).numbered document asDefault hnow)
  | deleteVersion arn version =>
    obtain ⟨e, he, v, hv, hnot, rfl⟩ := heffect
    have hdated := h arn e he
    have hid : v.id = version := by simpa using List.find?_some hv
    rw [eraseP_eq_without hdated.orderly.sound.distinct, ← hid]
    exact h.putPolicy (hdated.without (mem_others.mpr ⟨List.mem_of_find?_eq_some hv, hnot⟩))

end Dated

theorem Dated.of_quiet {b : Account} (hquiet : a.quiet = b.quiet) (h : a.Dated) : b.Dated := by
  have htick : b.quiet.tick = a.quiet.tick := by rw [hquiet]
  have hpolicies : b.quiet.policies = a.quiet.policies := by rw [hquiet]
  exact h.of_subset (Nat.le_of_eq htick.symm) fun arn e he => hpolicies ▸ he

theorem Reachable.dated (h : Reachable a) : a.Dated := by
  -- a new version is numbered apart because the account is well-formed
  have hboth : a.WellFormed ∧ a.Dated := by
    refine h.invariant (I := fun a => a.WellFormed ∧ a.Dated) ?_ ?_ ?_
    · exact fun versionLimit => ⟨wellFormed_empty versionLimit, fun _ _ he => nomatch he⟩
    · exact fun _ _ hquiet h => ⟨h.1.of_quiet hquiet, h.2.of_quiet hquiet⟩
    · exact fun heffect h => ⟨h.1.of_effect heffect, h.2.of_effect h.1 heffect⟩
  exact hboth.2

end Account

end IamConvergence
