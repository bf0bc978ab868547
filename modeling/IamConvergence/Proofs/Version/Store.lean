/-
A store of the versions of one document, as a service. It is sound when the ids are distinct and
exactly one version is the default. A creation appends a version under a fresh id, which becomes the
only default; a deletion removes a version, or says that there is none. A listing may leave out
contents and come in any order.

Only a deletion that names the default, which the store itself does not refuse, makes it unsound.
-/
import Mathlib.Data.List.Nodup
import IamConvergence.Proofs.Pass.Service
import IamConvergence.Version.Reconcile

namespace IamConvergence

namespace DocumentVersion

/-- What a listing tells of a version. -/
def bare (v : DocumentVersion) : DocumentVersion := { v with content := none }

/-- The version when another one has become the default. -/
def demoted (v : DocumentVersion) : DocumentVersion := { v with isDefault := false }

end DocumentVersion

open DocumentVersion (bare demoted)

namespace VersionStore

open Version (without)

/-! ## Sound stores -/

/-- The ids are distinct and exactly one version is the default. -/
structure Sound (live : List DocumentVersion) : Prop where
  distinct : (live.map (·.id)).Nodup
  default : live.countP (·.isDefault) = 1

/-- An id that no version has. -/
def Fresh (id : String) (live : List DocumentVersion) : Prop := ∀ v ∈ live, v.id ≠ id

/-- The store after a creation. -/
def created (content id : String) (createdAt : Instant) (live : List DocumentVersion) :
    List DocumentVersion :=
  live.map demoted ++ [⟨id, some content, true, createdAt⟩]

/-- Versions in hand that a listing of the store gave. -/
def Mirrors (history live : List DocumentVersion) : Prop :=
  (history.map bare).Perm (live.map bare)

variable {live live' history : List DocumentVersion} {v w : DocumentVersion}
  {id content : String} {createdAt : Instant}

namespace Sound

theorem eq_of_id (h : Sound live) (hv : v ∈ live) (hw : w ∈ live) (hid : v.id = w.id) : v = w :=
  List.inj_on_of_nodup_map h.distinct hv hw hid

theorem exists_default (h : Sound live) : ∃ d, live.filter (·.isDefault) = [d] := by
  have hone := h.default
  rw [List.countP_eq_length_filter] at hone
  exact List.length_eq_one_iff.mp hone

theorem default_unique (h : Sound live) (hv : v ∈ live) (hw : w ∈ live) (hdv : v.isDefault = true)
    (hdw : w.isDefault = true) : v = w := by
  obtain ⟨d, hd⟩ := h.exists_default
  have hv' : v ∈ live.filter (·.isDefault) := List.mem_filter.mpr ⟨hv, hdv⟩
  have hw' : w ∈ live.filter (·.isDefault) := List.mem_filter.mpr ⟨hw, hdw⟩
  rw [hd] at hv' hw'
  rw [List.mem_singleton.mp hv', List.mem_singleton.mp hw']

theorem created (h : Sound live) (fresh : Fresh id live) :
    Sound (created content id createdAt live) := by
  constructor
  · rw [VersionStore.created, List.map_append, List.map_map, List.nodup_append]
    refine ⟨h.distinct, List.nodup_singleton id, ?_⟩
    intro a ha b hb
    obtain ⟨v, hv, rfl⟩ := List.mem_map.mp ha
    obtain rfl : b = id := List.mem_singleton.mp hb
    exact fresh v hv
  · have hnone : (live.map demoted).countP (·.isDefault) = 0 := by
      rw [List.countP_eq_zero]
      intro a ha
      obtain ⟨v, -, rfl⟩ := List.mem_map.mp ha
      exact Bool.false_ne_true
    rw [VersionStore.created, List.countP_append, hnone]
    rfl

/-- A further version that does not become the default. -/
theorem append (h : Sound live) (fresh : Fresh v.id live) (hnot : v.isDefault = false) :
    Sound (live ++ [v]) := by
  constructor
  · rw [List.map_append, List.nodup_append]
    refine ⟨h.distinct, List.nodup_singleton v.id, ?_⟩
    intro a ha b hb
    obtain ⟨w, hw, rfl⟩ := List.mem_map.mp ha
    obtain rfl : b = v.id := List.mem_singleton.mp hb
    exact fresh w hw
  · rw [List.countP_append, h.default, List.countP_singleton, hnot]
    rfl

/-- What is removed must not be the default. -/
theorem without (h : Sound live) (spared : ∀ v ∈ live, v.isDefault = true → v.id ≠ id) :
    Sound (without id live) := by
  constructor
  · exact h.distinct.sublist (List.filter_sublist.map _)
  · rw [Version.without, List.countP_filter, ← h.default]
    refine List.countP_congr fun v hv => ?_
    constructor
    · intro hboth
      exact (Bool.and_eq_true_iff.mp hboth).1
    · intro hd
      exact Bool.and_eq_true_iff.mpr ⟨hd, bne_iff_ne.mpr (spared v hv hd)⟩

end Sound

theorem mem_without : v ∈ without id live ↔ v ∈ live ∧ v.id ≠ id := by
  simp [without]

/-- Of versions with distinct ids one is removed. -/
theorem length_without (h : (live.map (·.id)).Nodup) (hv : v ∈ live) :
    (without v.id live).length + 1 = live.length := by
  have hone : live.countP (fun w => w.id == v.id) = 1 := by
    have hcount := List.count_eq_one_of_mem h (List.mem_map_of_mem hv)
    rw [List.count, List.countP_map] at hcount
    exact hcount
  have hsplit := List.length_eq_countP_add_countP (fun w : DocumentVersion => w.id == v.id) (l := live)
  rw [without, ← List.countP_eq_length_filter, hsplit, hone, Nat.add_comm]
  congr 1
  exact List.countP_congr fun w _ => by simp

@[simp] theorem length_created :
    (created content id createdAt live).length = live.length + 1 := by
  simp [created]

/-! ## Versions in hand -/

namespace Mirrors

theorem length_eq (h : Mirrors history live) : history.length = live.length := by
  have hlen := List.Perm.length_eq h
  rwa [List.length_map, List.length_map] at hlen

/-- What is in hand is in the store, apart from its content. -/
theorem exists_bare_eq (h : Mirrors history live) (hv : v ∈ history) :
    ∃ w ∈ live, w.bare = v.bare :=
  List.mem_map.mp (h.mem_iff.mp (List.mem_map_of_mem hv))

theorem map_bare_without (id : String) (vs : List DocumentVersion) :
    (without id vs).map bare = (vs.map bare).filter (·.id != id) := by
  rw [List.filter_map]
  rfl

theorem without (h : Mirrors history live) (id : String) :
    Mirrors (without id history) (without id live) := by
  unfold Mirrors
  rw [map_bare_without, map_bare_without]
  exact List.Perm.filter _ h

end Mirrors

/-! ## The service -/

/-- What the store answers and becomes. -/
def serves : Service VersionRequest VersionRequest.Answer (List DocumentVersion)
  | .getDefault, live, answer, live' =>
    live' = live ∧ ((∃ v ∈ live, v.isDefault = true ∧ answer = .ok v) ∨
      (∀ v ∈ live, v.isDefault = false) ∧ ∃ f, answer = .error f)
  | .list, live, answer, live' =>
    live' = live ∧ ∃ listed, answer = .ok listed ∧ Mirrors listed live
  | .create content, live, answer, live' =>
    ∃ id createdAt, Fresh id live ∧ answer = .ok id ∧ live' = created content id createdAt live
  | .delete id, live, answer, live' =>
    (¬Fresh id live ∧ answer = .ok () ∧ live' = without id live) ∨
      (Fresh id live ∧ live' = live ∧ ∃ f, answer = .error f ∧ f.isNotFound = true)

/-- Any fault may be made up, but a retained version is never said not to be there. -/
def admits : VersionRequest → List DocumentVersion → Fault → Prop
  | .delete id, live, f => ¬Fresh id live → f.isNotFound = false
  | .getDefault, _, _ | .list, _, _ | .create _, _, _ => True

instance (id : String) (live : List DocumentVersion) : Decidable (Fresh id live) :=
  inferInstanceAs (Decidable (∀ v ∈ live, v.id ≠ id))

instance : ∀ q live f, Decidable (admits q live f)
  | .delete id, live, f => inferInstanceAs (Decidable (¬Fresh id live → f.isNotFound = false))
  | .getDefault, _, _ | .list, _, _ | .create _, _, _ => isTrue trivial

/-- All ids in one, and a letter more. -/
def freshId (live : List DocumentVersion) : String := live.foldr (fun v id => v.id ++ id) "v"

theorem length_lt_freshId : ∀ {live : List DocumentVersion},
    ∀ v ∈ live, v.id.length < (freshId live).length
  | w :: ws, v, hv => by
    have hlen : (freshId (w :: ws)).length = w.id.length + (freshId ws).length :=
      String.length_append ..
    rcases List.mem_cons.mp hv with rfl | hv
    · have hpos : 0 < (freshId ws).length := by
        cases ws with
        | nil => decide
        | cons u us => exact Nat.lt_of_le_of_lt (Nat.zero_le _) (length_lt_freshId u List.mem_cons_self)
      omega
    · have hv' := length_lt_freshId v hv
      omega

theorem fresh_freshId (live : List DocumentVersion) : Fresh (freshId live) live := by
  intro v hv heq
  have hlt := length_lt_freshId v hv
  rw [heq] at hlt
  exact Nat.lt_irrefl _ hlt

/-- A plain effect of a request. -/
def step : (q : VersionRequest) → List DocumentVersion →
    Except Fault q.Answer × List DocumentVersion
  | .getDefault, live =>
    match live.find? (·.isDefault) with
    | some v => (.ok v, live)
    | none => (.error (.notFound "default" "no default version"), live)
  | .list, live => (.ok (live.map bare), live)
  | .create content, live =>
    (.ok (freshId live), created content (freshId live) (.ofSecond live.length) live)
  | .delete id, live =>
    if Fresh id live then (.error (.notFound id "no such version"), live)
    else (.ok (), without id live)

theorem mirrors_map_bare (live : List DocumentVersion) : Mirrors (live.map bare) live := by
  have hidem : bare ∘ bare = bare := rfl
  rw [Mirrors, List.map_map, hidem]

theorem serves_step (q : VersionRequest) (live : List DocumentVersion) :
    serves q live (step q live).1 (step q live).2 := by
  cases q with
  | getDefault =>
    cases hfind : live.find? (·.isDefault) with
    | some v =>
      simp only [step, hfind]
      exact ⟨rfl, .inl ⟨v, List.mem_of_find?_eq_some hfind, List.find?_some hfind, rfl⟩⟩
    | none =>
      simp only [step, hfind]
      refine ⟨rfl, .inr ⟨fun v hv => ?_, _, rfl⟩⟩
      exact Bool.eq_false_iff.mpr (List.find?_eq_none.mp hfind v hv)
  | list => exact ⟨rfl, _, rfl, mirrors_map_bare live⟩
  | create content => exact ⟨_, _, fresh_freshId live, rfl, rfl⟩
  | delete id =>
    by_cases hid : Fresh id live
    · simp only [step, if_pos hid]
      exact .inr ⟨hid, rfl, _, rfl, rfl⟩
    · simp only [step, if_neg hid]
      exact .inl ⟨hid, rfl, rfl⟩

/-- A version store that follows a schedule. -/
abbrev scheduled : Unreliable serves admits (List DocumentVersion × List Disturbance) :=
  .ofSchedule serves admits step serves_step

/-! ## One call -/

section

variable {resource : String} {q : VersionRequest}

/-- What a call can have done to the store. -/
inductive Effect : VersionRequest → List DocumentVersion → List DocumentVersion → Prop where
  | unchanged {q : VersionRequest} {live : List DocumentVersion} : Effect q live live
  | created {content id : String} {createdAt : Instant} {live : List DocumentVersion}
    (fresh : Fresh id live) :
    Effect (.create content) live (created content id createdAt live)
  | removed {id : String} {live : List DocumentVersion} (retained : ¬Fresh id live) :
    Effect (.delete id) live (without id live)

theorem effect_of_serves {answer : Except Fault q.Answer} (h : serves q live answer live') :
    Effect q live live' := by
  cases q with
  | getDefault => obtain ⟨rfl, -⟩ := h; exact .unchanged
  | list => obtain ⟨rfl, -⟩ := h; exact .unchanged
  | create content => obtain ⟨id, createdAt, fresh, -, rfl⟩ := h; exact .created fresh
  | delete id =>
    rcases h with ⟨retained, -, rfl⟩ | ⟨-, rfl, -⟩
    · exact .removed retained
    · exact .unchanged

theorem effect {reply : Reply q.Answer} (h : Disturbed serves admits q live reply live') :
    Effect q live live' := by
  cases h with
  | served cancelled hs => exact effect_of_serves hs
  | failed => exact .unchanged
  | lost => exact .unchanged
  | unacknowledged hs => exact effect_of_serves hs

theorem serves_of_ok {reply : Reply q.Answer} {a : q.Answer}
    (h : Disturbed serves admits q live reply live') (hok : reply.answer resource = .ok a) :
    serves q live (.ok a) live' := by
  cases h with
  | served cancelled hs => obtain rfl := hok; exact hs
  | failed => cases hok
  | lost => cases hok
  | unacknowledged => cases hok

theorem default_of_ok {reply : Reply (VersionRequest.Answer .getDefault)}
    (h : Disturbed serves admits .getDefault live reply live') (hok : reply.answer resource = .ok v) :
    v ∈ live ∧ v.isDefault = true ∧ live' = live := by
  obtain ⟨hkept, ⟨w, hw, hdefault, heq⟩ | ⟨-, f, hf⟩⟩ := serves_of_ok h hok
  · cases heq
    exact ⟨hw, hdefault, hkept⟩
  · cases hf

theorem mirrors_of_ok {reply : Reply (VersionRequest.Answer .list)}
    (h : Disturbed serves admits .list live reply live') (hok : reply.answer resource = .ok history) :
    Mirrors history live ∧ live' = live := by
  obtain ⟨hkept, listed, heq, hmirrors⟩ := serves_of_ok h hok
  cases heq
  exact ⟨hmirrors, hkept⟩

theorem created_of_ok {reply : Reply (VersionRequest.Answer (.create content))}
    (h : Disturbed serves admits (.create content) live reply live')
    (hok : reply.answer resource = .ok id) :
    ∃ createdAt, Fresh id live ∧ live' = created content id createdAt live := by
  obtain ⟨id', createdAt, fresh, heq, hlive⟩ := serves_of_ok h hok
  cases heq
  exact ⟨createdAt, fresh, hlive⟩

/-- Nothing says of a retained version that it is not there. -/
theorem isNotFound_of_error {reply : Reply (VersionRequest.Answer (.delete id))} {f : Fault}
    (h : Disturbed serves admits (.delete id) live reply live') (retained : ¬Fresh id live)
    (hanswer : reply.answer resource = .error f) : f.isNotFound = false := by
  cases h with
  | served cancelled hs =>
    obtain rfl := hanswer
    rcases hs with ⟨-, hok, -⟩ | ⟨hfresh, -⟩
    · cases hok
    · exact absurd hfresh retained
  | failed cancelled hf => cases hanswer; exact hf retained
  | lost => cases hanswer; rfl
  | unacknowledged => cases hanswer; rfl

/-- A retained version is gone once its deletion counts. -/
theorem removed_of_answer {reply : Reply (VersionRequest.Answer (.delete id))}
    (h : Disturbed serves admits (.delete id) live reply live') (retained : ¬Fresh id live)
    (hanswer : removalFault? (reply.answer resource) = none) : live' = without id live := by
  cases hreply : reply.answer resource with
  | ok a =>
    rcases serves_of_ok h hreply with ⟨-, -, hlive⟩ | ⟨hfresh, -⟩
    · exact hlive
    · exact absurd hfresh retained
  | error f =>
    have hnot := isNotFound_of_error h retained hreply
    rw [hreply, removalFault?, hnot] at hanswer
    cases hanswer

end

end VersionStore

end IamConvergence
