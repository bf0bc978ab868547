/-
That making room comes to an end, whatever was listed: ids may be repeated, several versions or none
may be the default, and every deletion may find its target gone already. Each turn deletes a version
of those in hand and drops all that have its id, so there are fewer in hand after it. No id is asked
for twice, and there are at most as many deletions as versions have to go and as there are ids that
may go.
-/
import Mathlib.Data.List.Dedup
import Mathlib.Data.List.Perm.Subperm
import IamConvergence.Proofs.Version.Eviction

namespace IamConvergence.Version

open DocumentVersion (others mem_others)
open VersionCall (deletedIds createdContents)
open VersionStore (mem_without)

variable {σ : Type} {parent desired current : String} {bound : Nat}
  {history : List DocumentVersion} {evicted ids : List String}

/-! ## One turn -/

/-- How one turn of making room goes: it ends the pass, or it deletes a version and goes on with
fewer in hand if the version is gone. -/
inductive Turn (parent desired current : String) (bound : Nat) (history : List DocumentVersion)
    (evicted : List String) : VersionPass VersionOutcome → Prop where
  | fits (room : history.length < bound) :
    Turn parent desired current bound history evicted (create parent desired current evicted)
  | stuck (full : bound ≤ history.length) (defaults : ∀ v ∈ history, v.isDefault = true) :
    Turn parent desired current bound history evicted
      (.done (.failed (some current) evicted (crowded parent history.length bound)))
  | shortens {v : DocumentVersion} (full : bound ≤ history.length) (mem : v ∈ others history)
    (shorter : (without v.id history).length < history.length) :
    Turn parent desired current bound history evicted
      (.ask parent (.delete v.id) fun answer =>
        match removalFault? answer with
        | none => evict parent desired current bound (without v.id history) (evicted ++ [v.id])
        | some f => .done (.failed (some current) evicted f))

/-- Room is made turn by turn. -/
theorem turn_evict (parent desired current : String) (bound : Nat)
    (history : List DocumentVersion) (evicted : List String) :
    Turn parent desired current bound history evicted
      (evict parent desired current bound history evicted) := by
  by_cases hroom : history.length < bound
  · rw [evict_of_room evicted hroom]
    exact .fits hroom
  · have hfull : bound ≤ history.length := Nat.le_of_not_lt hroom
    cases hv : evictionCandidate? history bound with
    | none =>
      rw [evict_of_crowded evicted hfull hv]
      exact .stuck hfull (isDefault_of_no_candidate hfull hv)
    | some v =>
      have hmem := mem_of_evictionCandidate? hv
      rw [evict_of_candidate evicted hfull hv]
      exact .shortens hfull (mem_others.mpr hmem) (length_without_lt hmem.1)

/-! ## Turn after turn -/

/-- Ids that turns delete one after another: each while there is no room, and each of a version in
hand that is not flagged as the default. -/
inductive Drains (bound : Nat) : List DocumentVersion → List String → Prop where
  | ended (history : List DocumentVersion) : Drains bound history []
  | turn {history : List DocumentVersion} {v : DocumentVersion} {ids : List String}
    (full : bound ≤ history.length) (mem : v ∈ others history)
    (rest : Drains bound (without v.id history) ids) : Drains bound history (v.id :: ids)

namespace Drains

theorem exists_other (h : Drains bound history ids) :
    ∀ id ∈ ids, ∃ v ∈ others history, v.id = id := by
  induction h with
  | ended => exact List.forall_mem_nil _
  | @turn history v ids full mem rest ih =>
    refine List.forall_mem_cons.mpr ⟨⟨v, mem, rfl⟩, fun id hid => ?_⟩
    obtain ⟨w, hw, rfl⟩ := ih id hid
    obtain ⟨hmem, hother⟩ := mem_others.mp hw
    exact ⟨w, mem_others.mpr ⟨(mem_without.mp hmem).1, hother⟩, rfl⟩

/-- No id comes back: whatever has it goes with the first version that does. -/
theorem nodup (h : Drains bound history ids) : ids.Nodup := by
  induction h with
  | ended => exact List.nodup_nil
  | @turn history v ids full mem rest ih =>
    refine List.nodup_cons.mpr ⟨fun hagain => ?_, ih⟩
    obtain ⟨w, hw, hid⟩ := rest.exists_other v.id hagain
    exact (mem_without.mp (mem_others.mp hw).1).2 hid

theorem length_le_due (h : Drains bound history ids) : ids.length ≤ due bound history := by
  induction h with
  | ended => exact Nat.zero_le _
  | @turn history v ids full mem rest ih =>
    have hshorter := length_without_lt (mem_others.mp mem).1
    unfold due at ih ⊢
    rw [List.length_cons]
    omega

theorem length_le_distinct (h : Drains bound history ids) :
    ids.length ≤ ((others history).map (·.id)).dedup.length := by
  refine (List.subperm_of_subset h.nodup fun id hid => ?_).length_le
  obtain ⟨v, hv, rfl⟩ := h.exists_other id hid
  exact List.mem_dedup.mpr (List.mem_map_of_mem hv)

end Drains

/-! ## The calls -/

namespace Evicting

variable {cancelled : Bool} {cs : List (VersionCall σ)} {o : VersionOutcome}

theorem drains (h : Evicting parent desired current bound cancelled history evicted cs o) :
    Drains bound history (deletedIds cs) := by
  induction h with
  | stopped | crowded | created => exact .ended _
  | kept evicted reply s s' full candidate =>
    exact .turn full (mem_others.mpr (mem_of_evictionCandidate? candidate)) (.ended _)
  | deleted reply s s' full candidate answer rest ih =>
    exact .turn full (mem_others.mpr (mem_of_evictionCandidate? candidate)) ih

/-- When a version is created, there is room beside the versions whose ids were not deleted. -/
theorem fits (h : Evicting parent desired current bound cancelled history evicted cs o)
    (hcreated : createdContents cs ≠ []) :
    (withoutAll (deletedIds cs) history).length < bound := by
  induction h with
  | stopped | crowded | kept => exact absurd rfl hcreated
  | created evicted reply s s' room =>
    exact Nat.lt_of_le_of_lt (List.length_filter_le _ _) room
  | @deleted history evicted v reply s s' cs o full candidate answer rest ih =>
    have hleft := ih hcreated
    rwa [withoutAll_without] at hleft

/-- Apart from deletions there is at most one call. -/
theorem length_le (h : Evicting parent desired current bound cancelled history evicted cs o) :
    cs.length ≤ (deletedIds cs).length + 1 := by
  induction h with
  | stopped | crowded => exact Nat.zero_le _
  | created => exact Nat.le_refl 1
  | kept => exact Nat.le_succ 1
  | deleted reply s s' full candidate answer rest ih => exact Nat.succ_le_succ ih

end Evicting

/-- What a pass asks for that makes room in a history, of whatever kind. -/
structure Drained (bound : Nat) (history : List DocumentVersion) (cs : List (VersionCall σ)) :
    Prop where
  once : (deletedIds cs).Nodup
  /-- Each id that is deleted is that of a version that is not flagged as the default. -/
  other : ∀ id ∈ deletedIds cs, ∃ v ∈ history, v.id = id ∧ v.isDefault = false
  due : (deletedIds cs).length ≤ due bound history
  distinct : (deletedIds cs).length ≤ ((others history).map (·.id)).dedup.length
  /-- A version is created only where there is room for it among those that are left. -/
  fits : createdContents cs ≠ [] → (withoutAll (deletedIds cs) history).length < bound
  /-- The default version and the listing are read, and at most one version is created. -/
  ends : cs.length ≤ (deletedIds cs).length + 3

theorem Listed.drained {provider : Provider VersionRequest VersionRequest.Answer σ}
    {current : DocumentVersion} {r : Run σ}
    (h : Listed provider parent desired history current r) (bound : Nat) :
    Drained bound history ((reconcile parent desired bound).calls provider r) := by
  have hevicting := evicting_evict provider parent desired current.id bound history []
    (Pass.made provider .list (Pass.made provider .getDefault r))
  rw [h.calls_eq bound]
  generalize (evict parent desired current.id bound history []).calls provider _ = cs at hevicting
  have hdrains := hevicting.drains
  constructor
  case once => exact hdrains.nodup
  case other =>
    intro id hid
    obtain ⟨v, hv, rfl⟩ := hdrains.exists_other id hid
    obtain ⟨hmem, hother⟩ := mem_others.mp hv
    exact ⟨v, hmem, rfl, hother⟩
  case due => exact hdrains.length_le_due
  case distinct => exact hdrains.length_le_distinct
  case fits => exact hevicting.fits
  case ends => exact Nat.add_le_add_right hevicting.length_le 2

/-- **Making room comes to an end**, also where the listing is malformed. Each turn ends the pass or
leaves fewer versions in hand, and no id is asked for twice. -/
theorem eviction_drains (provider : Provider VersionRequest VersionRequest.Answer σ)
    (parent desired : String) (bound : Nat) {history : List DocumentVersion} (r : Run σ)
    (hlisted : Call.Answered ((reconcile parent desired bound).calls provider r) .list
      (.ok history)) :
    (∀ current history evicted, Turn parent desired current bound history evicted
      (evict parent desired current bound history evicted)) ∧
      Drained bound history ((reconcile parent desired bound).calls provider r) := by
  obtain ⟨current, h⟩ := exists_listed provider parent desired bound hlisted
  exact ⟨fun current => turn_evict parent desired current bound, h.drained bound⟩

/-- An id is listed three times, once for a default version, and every deletion finds nothing: two
ids are asked for, and the new version joins the other default. -/
theorem eviction_drains_repeated :
    let history : List DocumentVersion :=
      [⟨"b", none, false, .ofSecond 1⟩, ⟨"a", none, false, .ofSecond 1⟩,
        ⟨"a", none, true, .ofSecond 0⟩, ⟨"c", none, true, .ofSecond 0⟩,
        ⟨"a", none, false, .ofSecond 1⟩]
    let provider : Provider VersionRequest VersionRequest.Answer Unit := .ofStep fun
      | .getDefault, s => (.ok ⟨"c", some "1", true, .ofSecond 0⟩, s)
      | .list, s => (.ok history, s)
      | .create _, s => (.ok "d", s)
      | .delete _, s => (.error (.notFound "policy" "gone"), s)
    let calls := (reconcile "policy" "2" 2).calls provider ⟨false, ()⟩
    Call.Answered calls .list (.ok history) ∧ deletedIds calls = ["a", "b"] ∧
      createdContents calls = ["2"] ∧ Drained 2 history calls := by
  intro history provider calls
  have hlisted : Call.Answered calls .list (.ok history) := by decide +kernel
  exact ⟨hlisted, by decide +kernel, by decide +kernel,
    (eviction_drains provider "policy" "2" 2 _ hlisted).2⟩

end IamConvergence.Version
