/-
Histories in which every version is later than those before it. The oldest version that may go is
then the first one, so what makes room for a new version drops the first of the versions that are
not the default, and what is left of them are the newest.
-/
import IamConvergence.Proofs.Version.Store

namespace IamConvergence

/-! ## Time -/

namespace Instant

variable {a b c : Instant}

theorem before_iff : a.before b = true ↔
    a.second < b.second ∨ a.second = b.second ∧ a.nano < b.nano := by
  simp [before]

theorem before_trans (h : a.before b = true) (h' : b.before c = true) : a.before c = true := by
  rw [before_iff] at *
  omega

theorem not_before_of_before (h : a.before b = true) : b.before a = false := by
  refine Bool.eq_false_iff.mpr fun h' => ?_
  rw [before_iff] at h h'
  omega

theorem ne_of_before (h : a.before b = true) : b ≠ a := by
  rintro rfl
  rw [not_before_of_before h] at h
  cases h

theorem before_or_eq_or_before (a b : Instant) :
    a.before b = true ∨ a = b ∨ b.before a = true := by
  have heq : a = b ↔ a.second = b.second ∧ a.nano = b.nano := by
    cases a
    cases b
    simp
  rw [before_iff, before_iff, heq]
  omega

theorem before_ofSecond {s t : Int} (h : s < t) : (ofSecond s).before (ofSecond t) = true :=
  before_iff.mpr (.inl h)

end Instant

namespace DocumentVersion

variable {v w : DocumentVersion} {vs : List DocumentVersion}

theorem older_iff : v.older w = true ↔ v.createdAt.before w.createdAt = true ∨
    v.createdAt = w.createdAt ∧ v.id < w.id := by
  simp [older]

theorem not_older_self (v : DocumentVersion) : v.older v = false := by
  refine Bool.eq_false_iff.mpr fun h => ?_
  rcases older_iff.mp h with h | ⟨-, h⟩
  · rw [Instant.not_before_of_before h] at h
    cases h
  · exact String.lt_irrefl _ h

theorem not_older_of_older (h : v.older w = true) : w.older v = false := by
  refine Bool.eq_false_iff.mpr fun h' => ?_
  rcases older_iff.mp h with h | ⟨heq, h⟩
  · rcases older_iff.mp h' with h' | ⟨heq, -⟩
    · rw [Instant.not_before_of_before h] at h'
      cases h'
    · exact Instant.ne_of_before h heq
  · rcases older_iff.mp h' with h' | ⟨-, h'⟩
    · exact Instant.ne_of_before h' heq
    · exact String.lt_irrefl _ (String.lt_trans h h')

theorem older_of_before (h : v.createdAt.before w.createdAt = true) : v.older w = true := by
  rw [older, h, Bool.true_or]

/-- Every version is later than those before it. -/
abbrev Aged (vs : List DocumentVersion) : Prop :=
  vs.Pairwise fun v w => v.createdAt.before w.createdAt = true

theorem Aged.append (h : Aged vs)
    (hlater : ∀ w ∈ vs, w.createdAt.before v.createdAt = true) : Aged (vs ++ [v]) :=
  List.pairwise_append.mpr ⟨h, List.pairwise_singleton _ v, fun w hw v' hv' => by
    obtain rfl := List.mem_singleton.mp hv'
    exact hlater w hw⟩

/-- The version that is older than all others is found. -/
theorem oldest?_eq_some (hmem : v ∈ vs) (hfirst : ∀ w ∈ vs, w ≠ v → v.older w = true) :
    oldest? vs = some v := by
  have hfold : ∀ (ws : List DocumentVersion) (best : DocumentVersion), v ∈ best :: ws →
      (∀ w ∈ best :: ws, w ≠ v → v.older w = true) →
      ws.foldl (fun best w => if w.older best then w else best) best = v := by
    intro ws
    induction ws with
    | nil =>
      intro best hmem _
      exact (List.mem_singleton.mp hmem).symm
    | cons w ws ih =>
      intro best hmem hfirst
      rw [List.foldl_cons]
      refine ih _ ?_ fun u hu => hfirst u ?_
      · -- the better of the first two is the version if one of them is
        rcases List.mem_cons.mp hmem with rfl | hmem
        · have hkept : w.older v = false := by
            by_cases hw : w = v
            · rw [hw]
              exact not_older_self v
            · exact not_older_of_older (hfirst w (by simp) hw)
          simp [hkept]
        · rcases List.mem_cons.mp hmem with rfl | hmem
          · by_cases hbest : best = v
            · simp [hbest]
            · simp [hfirst best (by simp) hbest]
          · exact List.mem_cons_of_mem _ hmem
      · split at hu <;> simp at hu ⊢ <;> tauto
  cases vs with
  | nil => cases hmem
  | cons w ws => rw [oldest?, hfold ws w hmem hfirst]

/-- The first version is the oldest. -/
theorem oldest?_of_aged (h : Aged (v :: vs)) : oldest? (v :: vs) = some v := by
  refine oldest?_eq_some List.mem_cons_self fun w hw hne => ?_
  rcases List.mem_cons.mp hw with rfl | hw
  · exact absurd rfl hne
  · exact older_of_before ((List.pairwise_cons.mp h).1 w hw)

/-- The versions that are not the default. -/
def others (vs : List DocumentVersion) : List DocumentVersion := vs.filter (!·.isDefault)

theorem mem_others : v ∈ others vs ↔ v ∈ vs ∧ v.isDefault = false := by
  simp [others]

theorem others_without (id : String) (vs : List DocumentVersion) :
    others (Version.without id vs) = Version.without id (others vs) :=
  List.filter_comm ..

/-- Of versions with distinct ids only the first has its id. -/
theorem without_cons (h : ((v :: vs).map (·.id)).Nodup) : Version.without v.id (v :: vs) = vs := by
  have hrest : ∀ w ∈ vs, (w.id != v.id) = true := fun w hw => by
    refine bne_iff_ne.mpr fun hid => (List.nodup_cons.mp h).1 ?_
    exact List.mem_map.mpr ⟨w, hw, hid⟩
  rw [Version.without, List.filter_cons_of_neg (by simp), List.filter_eq_self.mpr hrest]

theorem others_map_bare (vs : List DocumentVersion) : others (vs.map bare) = (others vs).map bare := by
  rw [others, List.filter_map]
  rfl

/-- A version that is not the default stays as it is when another becomes the default. -/
theorem demoted_eq_self (h : v.isDefault = false) : v.demoted = v := by
  rw [demoted, ← h]

theorem map_demoted_others (vs : List DocumentVersion) : (others vs).map demoted = others vs := by
  have hall : ∀ v ∈ others vs, v.demoted = v := fun v hv => demoted_eq_self (mem_others.mp hv).2
  exact (List.map_congr_left hall).trans (List.map_id' _)

end DocumentVersion

namespace VersionStore

open DocumentVersion (Aged bare demoted others mem_others)
open Version (without)

variable {live kept rest : List DocumentVersion} {v : DocumentVersion} {bound : Nat}

/-! ## Making room -/

/-- A sound store whose versions are listed in the order of their age. -/
structure Orderly (live : List DocumentVersion) : Prop where
  sound : Sound live
  aged : Aged live

namespace Orderly

theorem length_eq (h : Orderly live) : live.length = (others live).length + 1 := by
  obtain ⟨d, hd⟩ := h.sound.exists_default
  have hsplit := (List.filter_append_perm (fun v : DocumentVersion => v.isDefault) live).length_eq
  rw [hd, List.length_append, Nat.add_comm] at hsplit
  exact hsplit.symm

/-- The first version that is not the default goes first. -/
theorem candidate (h : Orderly live) (hothers : others live = v :: rest)
    (hfull : bound ≤ live.length) : evictionCandidate? (live.map bare) bound = some v.bare := by
  have haged : Aged ((v :: rest).map bare) := by
    rw [← hothers]
    exact List.pairwise_map.mpr (h.aged.sublist List.filter_sublist)
  have hfiltered : (live.map bare).filter (!·.isDefault) = (v :: rest).map bare := by
    rw [← hothers]
    exact DocumentVersion.others_map_bare live
  rw [evictionCandidate?, List.length_map, if_neg (Nat.not_lt.mpr hfull), hfiltered]
  exact DocumentVersion.oldest?_of_aged haged

theorem spared (h : Orderly live) (hv : v ∈ others live) :
    ∀ w ∈ live, w.isDefault = true → w.id ≠ v.id := by
  obtain ⟨hmem, hnot⟩ := mem_others.mp hv
  intro w hw hdefault hid
  rw [h.sound.eq_of_id hw hmem hid, hnot] at hdefault
  cases hdefault

theorem without (h : Orderly live) (hv : v ∈ others live) : Orderly (without v.id live) :=
  ⟨h.sound.without (h.spared hv), h.aged.sublist List.filter_sublist⟩

theorem default_without (h : Orderly live) (hv : v ∈ others live) :
    (Version.without v.id live).filter (·.isDefault) = live.filter (·.isDefault) := by
  rw [Version.without, List.filter_comm]
  refine List.filter_eq_self.mpr fun w hw => ?_
  obtain ⟨hmem, hdefault⟩ := List.mem_filter.mp hw
  exact bne_iff_ne.mpr (h.spared hv w hmem hdefault)

theorem others_without (h : Orderly live) (hothers : others live = v :: rest) :
    others (Version.without v.id live) = rest := by
  have hdistinct : ((v :: rest).map (·.id)).Nodup := by
    rw [← hothers]
    exact h.sound.distinct.sublist (List.filter_sublist.map _)
  rw [DocumentVersion.others_without, hothers, DocumentVersion.without_cons hdistinct]

end Orderly

/-- What is kept under a bound to make room for a new version: the default, and of the others the
last ones. -/
structure Trimmed (bound : Nat) (live kept : List DocumentVersion) : Prop where
  default_eq : kept.filter (·.isDefault) = live.filter (·.isDefault)
  others_eq : others kept = (others live).drop ((others live).length - (bound - 2))

theorem trimmed_self (h : Orderly live) (hroom : live.length < bound) : Trimmed bound live live := by
  refine ⟨rfl, ?_⟩
  have hfits : (others live).length - (bound - 2) = 0 := by
    have := h.length_eq
    omega
  rw [hfits, List.drop_zero]

/-- Room is made by removing the first version that is not the default. -/
theorem Trimmed.of_without (h : Orderly live) (hothers : others live = v :: rest)
    (hfull : bound ≤ live.length) (hleast : 2 ≤ bound)
    (htrimmed : Trimmed bound (Version.without v.id live) kept) : Trimmed bound live kept := by
  have hv : v ∈ others live := by
    rw [hothers]
    exact List.mem_cons_self
  constructor
  · rw [htrimmed.default_eq, h.default_without hv]
  · have hlength := h.length_eq
    rw [hothers, List.length_cons] at hlength
    have hone : (v :: rest).length - (bound - 2) = rest.length - (bound - 2) + 1 := by
      rw [List.length_cons]
      omega
    rw [htrimmed.others_eq, h.others_without hothers, hothers, hone, List.drop_succ_cons]

/-! ## Renewing -/

/-- A history after a version was added under a bound: besides the new version, which is the
default, the previous default is kept, and of the others as many as fit, the newest ones. -/
structure Renewed (bound : Nat) (document : String) (live live' : List DocumentVersion)
    (new default : DocumentVersion) (kept : List DocumentVersion) : Prop where
  versions : live'.Perm (new :: default.demoted :: kept)
  bounded : live'.length ≤ bound
  added : new.isDefault = true ∧ new.content = some document ∧ Fresh new.id live
  previous : default ∈ live ∧ default.isDefault = true
  retained : kept.Sublist (others live)
  count : kept.length = min (others live).length (bound - 2)
  newest : ∀ v ∈ others live, v ∉ kept → ∀ w ∈ kept, v.older w = true

theorem Trimmed.renewed {id document : String} {createdAt : Instant}
    (htrimmed : Trimmed bound live kept) (h : Orderly live) (hleast : 2 ≤ bound)
    (hfresh : Fresh id live) :
    ∃ default, Renewed bound document live (created document id createdAt kept)
      ⟨id, some document, true, createdAt⟩ default (others kept) := by
  obtain ⟨d, hd⟩ := h.sound.exists_default
  have hmem : d ∈ live.filter (·.isDefault) := by
    rw [hd]
    exact List.mem_cons_self
  have hcount : (others kept).length = min (others live).length (bound - 2) := by
    rw [htrimmed.others_eq, List.length_drop]
    omega
  have hperm : (created document id createdAt kept).Perm
      (⟨id, some document, true, createdAt⟩ :: d.demoted :: others kept) := by
    have hkept : (d :: others kept).Perm kept := by
      have hsplit := List.filter_append_perm (fun v : DocumentVersion => v.isDefault) kept
      rw [htrimmed.default_eq, hd] at hsplit
      exact hsplit
    have hdemoted := (hkept.map demoted).symm
    rw [List.map_cons, DocumentVersion.map_demoted_others] at hdemoted
    exact (List.perm_append_singleton _ _).trans (hdemoted.cons _)
  refine ⟨d, hperm, ?_, ⟨rfl, rfl, hfresh⟩, List.mem_filter.mp hmem, ?_, hcount, ?_⟩
  · rw [hperm.length_eq, List.length_cons, List.length_cons]
    omega
  · rw [htrimmed.others_eq]
    exact List.drop_sublist _ _
  · intro v hv hgone w hw
    have haged : Aged (others live) := h.aged.sublist List.filter_sublist
    rw [← List.take_append_drop ((others live).length - (bound - 2)) (others live),
      ← htrimmed.others_eq] at hv haged
    -- what is gone comes before what is kept
    have hbefore := (List.mem_append.mp hv).resolve_right hgone
    exact DocumentVersion.older_of_before ((List.pairwise_append.mp haged).2.2 v hbefore w hw)

end VersionStore

end IamConvergence
