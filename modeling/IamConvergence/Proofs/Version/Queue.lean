/-
How room is made in a history. The oldest version is looked for again after each deletion, among the
versions that are left; but where ids are distinct this is to sort the versions that are not the
default once, by creation time and then by id, and to delete the first of them one by one. The order
of ids is that of their code points, and so of their bytes in UTF-8.
-/
import IamConvergence.Proofs.Version.Aging
import IamConvergence.Proofs.Version.Trace

namespace IamConvergence

/-! ## Age -/

namespace DocumentVersion

variable {v w : DocumentVersion} {vs ws queue : List DocumentVersion}

/-- Whether a version may stand before another in a list sorted by creation time and then by id. -/
def upTo (v w : DocumentVersion) : Bool :=
  v.createdAt.before w.createdAt || (v.createdAt == w.createdAt && v.id ≤ w.id)

theorem upTo_iff : v.upTo w = true ↔ v.createdAt.before w.createdAt = true ∨
    v.createdAt = w.createdAt ∧ v.id ≤ w.id := by
  simp [upTo]

theorem upTo_trans (u v w : DocumentVersion) (h : u.upTo v = true) (h' : v.upTo w = true) :
    u.upTo w = true := by
  rw [upTo_iff] at *
  rcases h with h | ⟨heq, h⟩
  · rcases h' with h' | ⟨heq', -⟩
    · exact .inl (Instant.before_trans h h')
    · exact .inl (heq' ▸ h)
  · rcases h' with h' | ⟨heq', h'⟩
    · exact .inl (heq ▸ h')
    · exact .inr ⟨heq.trans heq', String.le_trans h h'⟩

theorem upTo_total (v w : DocumentVersion) : (v.upTo w || w.upTo v) = true := by
  rw [Bool.or_eq_true, upTo_iff, upTo_iff]
  rcases Instant.before_or_eq_or_before v.createdAt w.createdAt with h | heq | h
  · exact .inl (.inl h)
  · rcases String.le_total v.id w.id with h | h
    · exact .inl (.inr ⟨heq, h⟩)
    · exact .inr (.inr ⟨heq.symm, h⟩)
  · exact .inr (.inl h)

theorem older_of_upTo (h : v.upTo w = true) (hid : v.id ≠ w.id) : v.older w = true := by
  rw [older_iff]
  rcases upTo_iff.mp h with h | ⟨heq, h⟩
  · exact .inl h
  · exact .inr ⟨heq, String.not_le.mp fun h' => hid (String.le_antisymm h h')⟩

/-- Versions sorted by creation time, and those of one time by id. -/
def sorted (vs : List DocumentVersion) : List DocumentVersion := vs.mergeSort upTo

theorem sorted_perm (vs : List DocumentVersion) : (sorted vs).Perm vs := List.mergeSort_perm vs upTo

/-- Of versions with distinct ids each is older than those after it. -/
theorem pairwise_older_sorted (h : (vs.map (·.id)).Nodup) :
    (sorted vs).Pairwise fun v w => v.older w = true := by
  have hids : (sorted vs).Pairwise fun v w => v.id ≠ w.id :=
    List.pairwise_map.mp (((sorted_perm vs).map DocumentVersion.id).nodup_iff.mpr h)
  have hupTo := List.pairwise_mergeSort upTo_trans upTo_total vs
  exact hupTo.imp₂ (fun _ _ h hid => older_of_upTo h hid) hids

end DocumentVersion

/-! ## The queue -/

open DocumentVersion (others mem_others sorted)

namespace Version

variable {history history' queue rest : List DocumentVersion} {v : DocumentVersion} {bound : Nat}

/-- The versions of a history that may go, from the oldest to the newest. -/
structure Queued (queue history : List DocumentVersion) : Prop where
  perm : queue.Perm (others history)
  aged : queue.Pairwise fun v w => v.older w = true

theorem nodup_others (h : (history.map (·.id)).Nodup) : ((others history).map (·.id)).Nodup :=
  h.sublist (List.filter_sublist.map _)

theorem queued_sorted (h : (history.map (·.id)).Nodup) : Queued (sorted (others history)) history :=
  ⟨DocumentVersion.sorted_perm _, DocumentVersion.pairwise_older_sorted (nodup_others h)⟩

namespace Queued

/-- There is one queue only. -/
theorem eq_sorted (h : Queued queue history) (hdistinct : (history.map (·.id)).Nodup) :
    queue = sorted (others history) := by
  refine List.Perm.eq_of_pairwise (fun v w _ _ hvw hwv => ?_) h.aged (queued_sorted hdistinct).aged
    (h.perm.trans (queued_sorted hdistinct).perm.symm)
  rw [DocumentVersion.not_older_of_older hvw] at hwv
  cases hwv

theorem candidate (h : Queued (v :: rest) history) (hfull : bound ≤ history.length) :
    evictionCandidate? history bound = some v := by
  rw [evictionCandidate?, if_neg (Nat.not_lt.mpr hfull)]
  refine DocumentVersion.oldest?_eq_some (h.perm.mem_iff.mp List.mem_cons_self) fun w hw hne => ?_
  rcases List.mem_cons.mp (h.perm.mem_iff.mpr hw) with rfl | hw
  · exact absurd rfl hne
  · exact (List.pairwise_cons.mp h.aged).1 w hw

theorem no_candidate (h : Queued [] history) : evictionCandidate? history bound = none := by
  have hnone : history.filter (!·.isDefault) = [] := h.perm.nil_eq.symm
  rw [evictionCandidate?, hnone]
  split <;> rfl

/-- What is left of the queue when its first version is gone. -/
theorem without (h : Queued (v :: rest) history) (hdistinct : (history.map (·.id)).Nodup) :
    Queued rest (without v.id history) := by
  have hids : ((v :: rest).map (·.id)).Nodup :=
    (h.perm.map (·.id)).nodup_iff.mpr (nodup_others hdistinct)
  refine ⟨?_, (List.pairwise_cons.mp h.aged).2⟩
  have hperm := h.perm.filter (·.id != v.id)
  have hrest : (v :: rest).filter (·.id != v.id) = rest := DocumentVersion.without_cons hids
  rw [hrest] at hperm
  rwa [DocumentVersion.others_without]

end Queued

/-! ## Sorting and taking -/

/-- How many versions have to go before a new one fits. -/
def due (bound : Nat) (history : List DocumentVersion) : Nat := history.length + 1 - bound

/-- The ids of the versions to delete: of those that are not the default the oldest ones, as many as
have to go. -/
def plan (bound : Nat) (history : List DocumentVersion) : List String :=
  ((sorted (others history)).take (due bound history)).map (·.id)

/-- Deletes versions one by one. Gives those that are gone, and the fault that kept the next one. -/
def deleteAll (parent : String) :
    List String → List String → VersionPass (List String × Option Fault)
  | [], gone => .done (gone, none)
  | id :: ids, gone =>
    .ask parent (.delete id) fun answer =>
      match removalFault? answer with
      | none => deleteAll parent ids (gone ++ [id])
      | some f => .done (gone, some f)

/-- Goes on when versions were deleted. `fits` tells whether there were enough of them, and
`retained` how many are not in the queue. -/
def conclude (parent desired current : String) (bound retained : Nat) (fits : Bool) :
    List String × Option Fault → VersionPass VersionOutcome
  | (gone, some f) => .done (.failed (some current) gone f)
  | (gone, none) =>
    if fits then create parent desired current gone
    else .done (.failed (some current) gone (crowded parent retained bound))

/-- To delete the oldest version again and again is to delete the first ones of the queue. -/
theorem evict_eq_deleteAll (parent desired current : String) (bound : Nat)
    {queue history : List DocumentVersion} (hdistinct : (history.map (·.id)).Nodup)
    (hqueued : Queued queue history) (gone : List String) :
    evict parent desired current bound history gone =
      (deleteAll parent ((queue.take (due bound history)).map (·.id)) gone).bind
        (conclude parent desired current bound (history.length - queue.length)
          (due bound history ≤ queue.length)) := by
  induction queue generalizing history gone with
  | nil =>
    by_cases hroom : history.length < bound
    · have hdue : due bound history = 0 := by unfold due; omega
      rw [evict_of_room gone hroom, hdue]
      rfl
    · have hdue : ¬due bound history ≤ ([] : List DocumentVersion).length := by
        unfold due
        simp
        omega
      rw [evict_of_crowded gone (Nat.le_of_not_lt hroom) hqueued.no_candidate, decide_eq_false hdue]
      simp [deleteAll, Pass.bind, conclude]
  | cons v rest ih =>
    by_cases hroom : history.length < bound
    · have hdue : due bound history = 0 := by unfold due; omega
      rw [evict_of_room gone hroom, hdue]
      rfl
    · have hfull : bound ≤ history.length := Nat.le_of_not_lt hroom
      have hv : v ∈ history :=
        (mem_others.mp (hqueued.perm.mem_iff.mp List.mem_cons_self)).1
      have hlength := VersionStore.length_without hdistinct hv
      have hdue : due bound history = due bound (without v.id history) + 1 := by unfold due; omega
      have hfits : (due bound history ≤ (v :: rest).length) =
          (due bound (without v.id history) ≤ rest.length) := by
        rw [hdue, List.length_cons, Nat.add_le_add_iff_right]
      have hretained : history.length - (v :: rest).length =
          (without v.id history).length - rest.length := by
        rw [List.length_cons]
        omega
      have hdistinct' : ((without v.id history).map (·.id)).Nodup :=
        hdistinct.sublist (List.filter_sublist.map _)
      have hrest := fun gone => ih hdistinct' (hqueued.without hdistinct) gone
      simp only [hfits, hretained]
      rw [evict_of_candidate gone hfull (hqueued.candidate hfull), hdue, List.take_succ_cons,
        List.map_cons, deleteAll]
      simp only [Pass.ask, Pass.bind, hrest]
      congr 1
      funext answer
      cases removalFault? answer <;> rfl

/-- The order of the listing does not matter. -/
theorem evict_eq_of_perm (parent desired current : String) (bound : Nat)
    (hdistinct : (history.map (·.id)).Nodup) (hperm : history'.Perm history) (gone : List String) :
    evict parent desired current bound history' gone =
      evict parent desired current bound history gone := by
  have hdistinct' : (history'.map (·.id)).Nodup := (hperm.map (·.id)).nodup_iff.mpr hdistinct
  have hqueued := queued_sorted hdistinct
  have hqueued' : Queued (sorted (others history)) history' :=
    ⟨hqueued.perm.trans (hperm.symm.filter _), hqueued.aged⟩
  rw [evict_eq_deleteAll parent desired current bound hdistinct hqueued,
    evict_eq_deleteAll parent desired current bound hdistinct' hqueued', due, due, hperm.length_eq]

end Version

end IamConvergence
