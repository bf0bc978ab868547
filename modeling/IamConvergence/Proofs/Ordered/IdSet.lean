/-
Sets of identifiers by their members: two sets with the same members are equal, and what is taken
away and added counts in the size.
-/
import IamConvergence.Ordered.IdSet

namespace IamConvergence.IdSet

theorem ext_mem {s t : IdSet} (h : ∀ x, x ∈ s ↔ x ∈ t) : s = t := by
  have hperm : s.toList.Perm t.toList := (List.perm_ext_iff_of_nodup s.nodup t.nodup).mpr h
  have hlist : s.toList = t.toList :=
    hperm.eq_of_pairwise
      (fun _ _ _ _ hab hba => absurd (String.lt_trans hab hba) (String.lt_irrefl _))
      s.ordered t.ordered
  cases s; cases t; cases hlist; rfl

theorem ofList_toList (s : IdSet) : ofList s.toList = s :=
  ext_mem fun _ => mem_ofList

/-- What stands before a member of an increasing list is what is less. -/
theorem mem_before_iff {before after : List String} {x y : String}
    (h : (before ++ y :: after).Pairwise (· < ·)) :
    x ∈ before ↔ x ∈ before ++ y :: after ∧ x < y := by
  obtain ⟨-, hrest, hless⟩ := List.pairwise_append.mp h
  constructor
  · intro hx
    exact ⟨List.mem_append_left _ hx, hless x hx y List.mem_cons_self⟩
  · rintro ⟨hx, hlt⟩
    rcases List.mem_append.mp hx with hx | hx
    · exact hx
    · rcases List.mem_cons.mp hx with rfl | hx
      · exact absurd hlt (String.lt_irrefl x)
      · exact absurd (String.lt_trans hlt ((List.pairwise_cons.mp hrest).1 x hx))
          (String.lt_irrefl x)

/-- A set that lacks members of another and has new ones. -/
theorem size_of_mem_iff {s t : IdSet} {gone new : List String} (hgone : gone.Nodup)
    (hnew : new.Nodup) (hsub : ∀ x ∈ gone, x ∈ t) (hfresh : ∀ x ∈ new, x ∉ t)
    (h : ∀ x, x ∈ s ↔ (x ∈ t ∧ x ∉ gone) ∨ x ∈ new) :
    s.size + gone.length = t.size + new.length := by
  have hs : (s.toList ++ gone).Nodup := List.nodup_append.mpr ⟨s.nodup, hgone, by
    rintro x hx _ hg rfl
    rcases (h x).mp hx with ⟨-, hx⟩ | hx
    · exact hx hg
    · exact hfresh x hx (hsub x hg)⟩
  have ht : (t.toList ++ new).Nodup := List.nodup_append.mpr ⟨t.nodup, hnew, by
    rintro x hx _ hn rfl
    exact hfresh x hn hx⟩
  have hperm : (s.toList ++ gone).Perm (t.toList ++ new) := by
    refine (List.perm_ext_iff_of_nodup hs ht).mpr fun x => ?_
    rw [List.mem_append, List.mem_append, mem_toList, mem_toList, h x]
    by_cases hx : x ∈ gone
    · have := hsub x hx
      simp [hx, this]
    · simp [hx]
  simpa [size] using hperm.length_eq

end IamConvergence.IdSet
