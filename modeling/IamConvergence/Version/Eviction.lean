/-
The version that makes room in a bounded history.
-/
import IamConvergence.Version.Basic

namespace IamConvergence

/-- The oldest of a list of versions, and of equally old ones the first. -/
def DocumentVersion.oldest? : List DocumentVersion → Option DocumentVersion
  | [] => none
  | v :: vs => some (vs.foldl (fun best w => if w.older best then w else best) v)

/-- The version to delete before a new one is created: none while there is room, then the oldest one
that is not the default. -/
def evictionCandidate? (history : List DocumentVersion) (bound : Nat) : Option DocumentVersion :=
  if history.length < bound then none
  else DocumentVersion.oldest? (history.filter (!·.isDefault))

theorem DocumentVersion.mem_of_oldest? {vs : List DocumentVersion} {v : DocumentVersion}
    (h : oldest? vs = some v) : v ∈ vs := by
  have fold : ∀ (ws : List DocumentVersion) (best : DocumentVersion),
      ws.foldl (fun best w => if w.older best then w else best) best ∈ best :: ws := by
    intro ws
    induction ws with
    | nil => intro best; simp
    | cons w ws ih =>
      intro best
      rw [List.foldl_cons]
      rcases List.mem_cons.mp (ih (if w.older best then w else best)) with heq | hmem
      · rw [heq]; split <;> simp
      · exact List.mem_cons_of_mem _ (List.mem_cons_of_mem _ hmem)
  cases vs with
  | nil => simp [oldest?] at h
  | cons w ws => exact Option.some.inj h ▸ fold ws w

/-- A candidate is one of the versions and not the default. -/
theorem mem_of_evictionCandidate? {history : List DocumentVersion} {bound : Nat}
    {v : DocumentVersion} (h : evictionCandidate? history bound = some v) :
    v ∈ history ∧ v.isDefault = false := by
  unfold evictionCandidate? at h
  split at h
  · cases h
  · simpa using DocumentVersion.mem_of_oldest? h

end IamConvergence
